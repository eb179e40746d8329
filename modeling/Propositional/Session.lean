import Propositional.Assembly.Builder
import Propositional.Log.Registry
import Propositional.Parse

/-!
# Sessions

A session is a sequence of commands that share channels: opening channels and
setting their levels, writing messages, and parsing with its events written to
the shared channel. The shared channel is opened when a command first needs it,
at the level of general progress; from then on it stays the same channel, under
whatever name it was first asked for.

Each command has a reply and adds some text to the output. What is parsed or
built does not depend on the channels, only the output does.
-/

namespace Propositional

open Log

/-- The channels of a session: all that are open, the names of those that were
opened by command, in order, and the name of the shared one once it is known. -/
structure Session where
  registry : Registry
  handles : List String
  shared? : Option String
deriving DecidableEq

/-- Which channel a command is about. -/
inductive Session.Target
  | shared
  /-- The channel of the command that opened one, counted from zero. -/
  | handle (index : Nat)
deriving DecidableEq

/-- What can be asked of a session. -/
inductive Session.Command
  /-- Sets the level of the shared channel by two flags. -/
  | configure (verbose debug : Bool)
  /-- Returns the shared channel, opening it under this name if need be. -/
  | acquire (name : String)
  /-- Opens a channel. -/
  | openChannel (name : String) (level : Severity)
  | inspect (target : Target)
  | setLevel (target : Target) (level : Severity)
  | say (target : Target) (severity : Severity) (message : String)
  | announce (target : Target) (event : Event)
  /-- Parses a source. -/
  | parse (source : String)
  /-- Reads a text by the grammar as it stands. -/
  | derive (text : String)
  /-- Builds the graph of a parse tree over a text. -/
  | build (text : String) (tree : ParseTree)

/-- What a command returns. -/
inductive Session.Reply
  | channel (channel : Channel)
  | silent
  | parsed (outcome : Except ParseError Rooted) (diagnostics : List Diagnostic)
  | derived (outcome : Except Rejection ParseTree)
  | built (outcome : Except BuildError Rooted) (diagnostics : List Diagnostic)
  | unknownChannel

namespace Session

/-- A session in which nothing has been opened. -/
def start : Session := ⟨.empty, [], none⟩

/-- The name of the shared channel unless another is asked for first. -/
def defaultName : String := "logic_parser"

/-- The level that the two flags stand for; the second one decides if set. -/
def flagLevel (verbose debug : Bool) : Severity :=
  if debug then .debug else if verbose then .info else .warning

/-- The session once it has a shared channel. -/
def acquire (session : Session) (name : String) : Session :=
  match session.shared? with
  | some _ => session
  | none =>
    { session with
      registry := session.registry.openChannel name .info
      shared? := some name }

/-- The name that a target is open under. -/
def targetName? (session : Session) : Target → Option String
  | .shared => session.shared?
  | .handle index => session.handles[index]?

/-- The channel that a target names. -/
def target? (session : Session) (target : Target) : Option Channel :=
  (session.targetName? target).bind session.registry.find?

/-- The session as a command about a target finds it. -/
def prepare (session : Session) : Target → Session
  | .shared => session.acquire defaultName
  | .handle _ => session

/-- A session after a command, with the reply and what was written. -/
structure Step where
  session : Session
  reply : Reply
  output : String

/-- The reply that shows a channel. -/
def inspect (session : Session) (target : Target) : Step :=
  match session.target? target with
  | some channel => ⟨session, .channel channel, ""⟩
  | none => ⟨session, .unknownChannel, ""⟩

/-- Sets the level of a channel and shows it. -/
def setLevel (session : Session) (target : Target) (level : Severity) : Step :=
  match session.targetName? target with
  | some name => { session with registry := session.registry.setLevel name level }.inspect target
  | none => ⟨session, .unknownChannel, ""⟩

/-- Writes one message. -/
def say (session : Session) (target : Target) (severity : Severity) (message : String) : Step :=
  match session.target? target with
  | some channel => ⟨session, .silent, channel.write severity message⟩
  | none => ⟨session, .unknownChannel, ""⟩

/-- What the shared channel writes about a sequence of events. -/
def transcript (session : Session) (events : List Event) : String :=
  match session.target? .shared with
  | some channel => channel.writeEvents events
  | none => ""

/-- Carries out one command. -/
def step (session : Session) : Command → Step
  | .configure verbose debug =>
    (session.prepare .shared).setLevel .shared (flagLevel verbose debug)
  | .acquire name => (session.acquire name).inspect .shared
  | .openChannel name level =>
    { session with
      registry := session.registry.openChannel name level
      handles := session.handles ++ [name] }.inspect (.handle session.handles.length)
  | .inspect target => (session.prepare target).inspect target
  | .setLevel target level => (session.prepare target).setLevel target level
  | .say target severity message => (session.prepare target).say target severity message
  | .announce target event => (session.prepare target).say target .debug event.message
  | .parse source =>
    let session := session.prepare .shared
    let result := Propositional.parse source
    ⟨session, .parsed result.outcome result.diagnostics, session.transcript result.events⟩
  | .derive text =>
    let session := session.prepare .shared
    let result := Propositional.derive text
    ⟨session, .derived result.outcome, session.transcript result.events⟩
  | .build text tree =>
    let session := session.prepare .shared
    let (builder, result) := (Builder.ofText text).build tree
    ⟨session, .built result.outcome builder.diagnostics, session.transcript result.events⟩

/-- The session after a sequence of commands. -/
def run (session : Session) (commands : List Command) : Session :=
  commands.foldl (fun session command => (session.step command).session) session

end Session

end Propositional
