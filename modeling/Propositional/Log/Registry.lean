import Propositional.Log.Event
import Propositional.Log.Severity

/-!
# Channels

Messages go through channels, which are known by name. A channel has a level,
the least severity that it lets through, and handlers, each with a level of its
own, that write what was let through. Opening a channel sets its level, gives it
exactly one handler of that level and cuts it off from any other channel,
whatever its state was; so whoever opens a channel again takes it over. Both the
empty name and the name `root` belong to the topmost channel.
-/

namespace Propositional.Log

/-- A named channel. -/
structure Channel where
  name : String
  level : Severity
  handlers : List Severity
  propagates : Bool
deriving DecidableEq

namespace Channel

/-- A channel that has just been opened. -/
def opened (name : String) (level : Severity) : Channel := ⟨name, level, [level], false⟩

/-- The channel with its own level and that of every handler set. -/
def setLevel (channel : Channel) (level : Severity) : Channel :=
  { channel with level := level, handlers := channel.handlers.map fun _ => level }

/-- Whether a severity is let through. -/
def isEnabled (channel : Channel) (severity : Severity) : Bool :=
  decide (channel.level ≤ severity)

/-- The text that a message adds to the output: a line for every handler that
takes its severity. -/
def write (channel : Channel) (severity : Severity) (message : String) : String :=
  if channel.isEnabled severity then
    String.join <| (channel.handlers.filter fun level => decide (level ≤ severity)).map
      fun _ => formatLine severity.value message ++ "\n"
  else ""

/-- The text that a sequence of events adds to the output. -/
def writeEvents (channel : Channel) (events : List Event) : String :=
  String.join (events.map fun event => channel.write .debug event.message)

end Channel

/-- The name that a channel is really known by. -/
def channelName (name : String) : String :=
  if name = "" then "root" else name

/-- All channels that have been opened, each once. -/
structure Registry where
  channels : List Channel
deriving DecidableEq

namespace Registry

/-- The registry without channels. -/
def empty : Registry := ⟨[]⟩

/-- The channel of a given name, if it has been opened. -/
def find? (registry : Registry) (name : String) : Option Channel :=
  registry.channels.find? (·.name == channelName name)

/-- Enters a channel in the place of the one with its name, or as a new one. -/
def put (registry : Registry) (channel : Channel) : Registry :=
  if registry.channels.any (·.name == channel.name) then
    ⟨registry.channels.map fun old => if old.name == channel.name then channel else old⟩
  else ⟨registry.channels ++ [channel]⟩

/-- Opens a channel, again if need be. -/
def openChannel (registry : Registry) (name : String) (level : Severity) : Registry :=
  registry.put (.opened (channelName name) level)

/-- Sets the levels of a channel that has been opened. -/
def setLevel (registry : Registry) (name : String) (level : Severity) : Registry :=
  match registry.find? name with
  | some channel => registry.put (channel.setLevel level)
  | none => registry

end Registry

end Propositional.Log
