import Propositional.Proofs.Log.Registry
import Propositional.Session

/-!
# Sessions by their history

Which channels are open in a session, and at which levels, can be read off the commands
alone. They give levels to channels, one after another, and names to targets: the shared
channel has the name under which it was asked for first, and it is opened by the command
that does so. No more is needed to know what a command writes.

> `run_eq`: a session is what its history says.
> `output_step`: a command writes each of its messages as one line, if its severity is
> at least the level given last to the channel, and not at all otherwise.
> `levels_given_last`: every channel has one handler and is cut off from the others, and
> it and its handler both have the level that was given last.
-/

namespace Propositional.Session

open Log

/-! ## What a history says -/

/-- The name under which a command about a target asks for the shared channel. -/
def Target.sharedName? : Target → Option String
  | .shared => some defaultName
  | .handle _ => none

namespace Command

/-- The name under which a command asks for the shared channel, if it needs one. -/
def sharedName? : Command → Option String
  | .acquire name => some name
  | .inspect target | .setLevel target _ | .say target _ _ | .announce target _ =>
    target.sharedName?
  | .configure _ _ | .parse _ | .derive _ | .build _ _ => some defaultName
  | .openChannel _ _ => none

/-- The name of the channel that a command opens for itself. -/
def openedName? : Command → Option String
  | .openChannel name _ => some name
  | _ => none

end Command

/-- The name of a target after some commands: that of the shared channel is the one under
which it was asked for first. -/
def Target.name? (commands : List Command) : Target → Option String
  | .shared => commands.findSome? Command.sharedName?
  | .handle index => (commands.filterMap Command.openedName?)[index]?

namespace Command

/-- The opening of the shared channel, by the first command that needs it. -/
def opening (before : List Command) (command : Command) : List Setting :=
  match Target.shared.name? before with
  | some _ => []
  | none => (command.sharedName?.map fun name => ⟨name, .info⟩).toList

/-- The level that a command is there to give, if any. -/
def given (commands : List Command) : Command → List Setting
  | .configure verbose debug =>
    ((Target.shared.name? commands).map fun name => ⟨name, flagLevel verbose debug⟩).toList
  | .openChannel name level => [⟨name, level⟩]
  | .setLevel target level => ((target.name? commands).map fun name => ⟨name, level⟩).toList
  | .acquire _ | .inspect _ | .say _ _ _ | .announce _ _ | .parse _ | .derive _ | .build _ _ => []

end Command

/-- The levels that are given by commands which follow others. -/
def settingsFrom (before : List Command) : List Command → List Setting
  | [] => []
  | command :: rest =>
    command.opening before ++ command.given (before ++ [command]) ++
      settingsFrom (before ++ [command]) rest

/-- The levels that are given by a sequence of commands, in order. -/
def settings (commands : List Command) : List Setting := settingsFrom [] commands

/-- The level given last to the channel of a target. -/
def Target.level? (commands : List Command) (target : Target) : Option Severity :=
  (target.name? commands).bind fun name => latest? (settings commands) (channelName name)

theorem settingsFrom_concat (before commands : List Command) (command : Command) :
    settingsFrom before (commands ++ [command]) =
      settingsFrom before commands ++ (command.opening (before ++ commands) ++
        command.given (before ++ commands ++ [command])) := by
  induction commands generalizing before with
  | nil => simp [settingsFrom]
  | cons first commands ih => simp [settingsFrom, ih]

theorem settings_concat (commands : List Command) (command : Command) :
    settings (commands ++ [command]) =
      settings commands ++ (command.opening commands ++
        command.given (commands ++ [command])) :=
  settingsFrom_concat [] commands command

/-! ## Names and levels -/

theorem Target.name?_shared_concat (commands : List Command) (command : Command) :
    Target.shared.name? (commands ++ [command]) =
      (Target.shared.name? commands).or command.sharedName? := by
  show List.findSome? Command.sharedName? (commands ++ [command]) = _
  rw [List.findSome?_append]
  cases h : command.sharedName? <;> simp [h, Target.name?]

/-- A target gets its name once, when its channel is opened. -/
theorem Target.name?_concat {commands : List Command} {command : Command} {target : Target}
    {name : String} (h : target.name? (commands ++ [command]) = some name) :
    target.name? commands = some name ∨
      (⟨name, .info⟩ : Setting) ∈ command.opening commands ∨
      command.openedName? = some name := by
  cases target with
  | shared =>
    rw [name?_shared_concat, Option.or_eq_some_iff] at h
    rcases h with hbefore | ⟨hnone, hnow⟩
    · exact .inl hbefore
    · refine .inr (.inl ?_)
      rw [Command.opening, hnone, hnow]
      exact List.mem_singleton_self _
  | handle index =>
    rw [name?, List.filterMap_append, List.getElem?_append] at h
    split at h
    next => exact .inl h
    next =>
      obtain ⟨_, hcommand, hopened⟩ := List.mem_filterMap.1 (List.mem_of_getElem? h)
      cases List.mem_singleton.1 hcommand
      exact .inr (.inr hopened)

/-- With its name a target was given a level. -/
theorem Target.exists_setting {commands : List Command} {target : Target} {name : String}
    (h : target.name? commands = some name) :
    ∃ level, (⟨name, level⟩ : Setting) ∈ settings commands := by
  induction commands using List.reverseRecOn with
  | nil => cases target <;> cases h
  | append_singleton commands command ih =>
    simp only [settings_concat, List.mem_append]
    rcases name?_concat h with hbefore | hopening | hopened
    · obtain ⟨level, hlevel⟩ := ih hbefore
      exact ⟨level, .inl hlevel⟩
    · exact ⟨.info, .inr (.inl hopening)⟩
    · cases command with
      | openChannel opened level =>
        cases hopened
        exact ⟨level, .inr (.inr (List.mem_singleton_self _))⟩
      | _ => cases hopened

/-! ## Sessions -/

/-- The session that a history describes. -/
def ofHistory (commands : List Command) : Session :=
  ⟨.ofSettings (settings commands), commands.filterMap Command.openedName?,
    Target.shared.name? commands⟩

/-- The same session once the shared channel is there, if the next command needs it. -/
def readied (commands : List Command) (command : Command) : Session :=
  ⟨.ofSettings (settings commands ++ command.opening commands),
    commands.filterMap Command.openedName?, Target.shared.name? (commands ++ [command])⟩

/-- Asking for the shared channel opens it when it is asked for first. -/
theorem acquire_ofHistory {commands : List Command} (command : Command) {name : String}
    (h : command.sharedName? = some name) :
    (ofHistory commands).acquire name = readied commands command := by
  unfold readied acquire Command.opening ofHistory
  rw [Target.name?_shared_concat, h]
  cases Target.shared.name? commands with
  | none =>
    dsimp only [Option.map_some, Option.toList_some, Option.or]
    rw [Registry.ofSettings_concat]
  | some shared =>
    dsimp only [Option.or]
    rw [List.append_nil]

theorem prepare_ofHistory {commands : List Command} (command : Command) {target : Target}
    (h : command.sharedName? = target.sharedName?) :
    (ofHistory commands).prepare target = readied commands command := by
  cases target with
  | shared => exact acquire_ofHistory command h
  | handle index =>
    unfold readied Command.opening
    rw [Target.name?_shared_concat, h]
    show ofHistory commands = _
    unfold ofHistory
    cases Target.shared.name? commands <;> simp [Target.sharedName?]

theorem inspect_session (session : Session) (target : Target) :
    (session.inspect target).session = session := by
  unfold inspect
  split <;> rfl

theorem say_session (session : Session) (target : Target) (severity : Severity)
    (message : String) : (session.say target severity message).session = session := by
  unfold say
  split <;> rfl

/-- A command that gives no level leaves the session as it has readied it. -/
theorem readied_eq_ofHistory {commands : List Command} {command : Command}
    (hopened : command.openedName? = none) (hgiven : command.given (commands ++ [command]) = []) :
    readied commands command = ofHistory (commands ++ [command]) := by
  rw [readied, ofHistory, settings_concat, hgiven, List.append_nil, List.filterMap_append]
  simp [hopened]

/-- The session as it is prepared for such a command stays as it is. -/
theorem prepare_eq_ofHistory {commands : List Command} (command : Command) (target : Target)
    (hshared : command.sharedName? = target.sharedName?) (hopened : command.openedName? = none)
    (hgiven : command.given (commands ++ [command]) = []) :
    (ofHistory commands).prepare target = ofHistory (commands ++ [command]) :=
  (prepare_ofHistory command hshared).trans (readied_eq_ofHistory hopened hgiven)

/-- Setting the level of a target that has a name gives the level to its channel. -/
theorem setLevel_readied {commands : List Command} {command : Command} {target : Target}
    {level : Severity} (hopened : command.openedName? = none)
    (hgiven : command.given (commands ++ [command]) =
      ((target.name? (commands ++ [command])).map fun name => ⟨name, level⟩).toList) :
    ((readied commands command).setLevel target level).session =
      ofHistory (commands ++ [command]) := by
  have htarget : (readied commands command).targetName? target =
      target.name? (commands ++ [command]) := by
    cases target with
    | shared => rfl
    | handle index =>
      show (commands.filterMap Command.openedName?)[index]? = _
      rw [Target.name?, List.filterMap_append]
      simp [hopened]
  unfold setLevel
  rw [htarget]
  cases hname : target.name? (commands ++ [command]) with
  | none =>
    rw [hname] at hgiven
    exact readied_eq_ofHistory hopened hgiven
  | some name =>
    rw [hname] at hgiven
    -- the channel was opened before the level is set, by this command at the latest
    obtain ⟨last, hlast⟩ : ∃ last, (⟨name, last⟩ : Setting) ∈
        settings commands ++ command.opening commands := by
      simp only [List.mem_append]
      rcases Target.name?_concat hname with hbefore | hopening | hnow
      · obtain ⟨last, hlast⟩ := Target.exists_setting hbefore
        exact ⟨last, .inl hlast⟩
      · exact ⟨.info, .inr hopening⟩
      · cases hopened.symm.trans hnow
    dsimp only
    rw [inspect_session, ofHistory, settings_concat, hgiven, Option.map_some,
      Option.toList_some, ← List.append_assoc, ← Registry.setLevel_ofSettings hlast,
      List.filterMap_append]
    simp [hopened, readied]

/-- One command takes the session of a history to that of the longer one. -/
theorem step_ofHistory (commands : List Command) (command : Command) :
    ((ofHistory commands).step command).session = ofHistory (commands ++ [command]) := by
  cases command with
  | configure verbose debug =>
    rw [step, prepare_ofHistory (.configure verbose debug) rfl]
    exact setLevel_readied rfl rfl
  | acquire name =>
    rw [step, inspect_session, acquire_ofHistory (.acquire name) rfl]
    exact readied_eq_ofHistory rfl rfl
  | openChannel name level =>
    have hopening : (Command.openChannel name level).opening commands = [] := by
      unfold Command.opening
      split <;> rfl
    have hgiven : (Command.openChannel name level).given
        (commands ++ [.openChannel name level]) = [⟨name, level⟩] := rfl
    rw [step, inspect_session, ofHistory, ofHistory, settings_concat, hopening, hgiven,
      List.nil_append, Registry.ofSettings_concat, Target.name?_shared_concat,
      List.filterMap_append]
    simp [Command.sharedName?, Command.openedName?]
  | inspect target =>
    rw [step, inspect_session]
    exact prepare_eq_ofHistory (.inspect target) target rfl rfl rfl
  | setLevel target level =>
    rw [step, prepare_ofHistory (.setLevel target level) rfl]
    exact setLevel_readied rfl rfl
  | say target severity message =>
    rw [step, say_session]
    exact prepare_eq_ofHistory (.say target severity message) target rfl rfl rfl
  | announce target event =>
    rw [step, say_session]
    exact prepare_eq_ofHistory (.announce target event) target rfl rfl rfl
  | parse source => exact prepare_eq_ofHistory (.parse source) .shared rfl rfl rfl
  | derive text => exact prepare_eq_ofHistory (.derive text) .shared rfl rfl rfl
  | build text tree => exact prepare_eq_ofHistory (.build text tree) .shared rfl rfl rfl

/-- A session is what its history says. -/
theorem run_eq (commands : List Command) : start.run commands = ofHistory commands := by
  induction commands using List.reverseRecOn with
  | nil => rfl
  | append_singleton commands command ih =>
    rw [← step_ofHistory, ← ih, run, List.foldl_append]
    rfl

/-! ## Messages -/

/-- A message to the channel of a target. -/
structure Call where
  target : Target
  severity : Severity
  message : String

/-- Events are messages of the least severity. -/
def Call.ofEvent (target : Target) (event : Event) : Call := ⟨target, .debug, event.message⟩

/-- The messages of a command, in order. -/
def Command.calls : Command → List Call
  | .say target severity message => [⟨target, severity, message⟩]
  | .announce target event => [.ofEvent target event]
  | .parse source => (Propositional.parse source).events.map (.ofEvent .shared)
  | .derive text => (Propositional.derive text).events.map (.ofEvent .shared)
  | .build text tree => ((Builder.ofText text).build tree).2.events.map (.ofEvent .shared)
  | .configure _ _ | .acquire _ | .openChannel _ _ | .inspect _ | .setLevel _ _ => []

/-- What is written of a message: one line, if its severity is at least the level given
last to the channel, and nothing otherwise. -/
def Call.written (commands : List Command) (call : Call) : String :=
  match call.target.level? commands with
  | some level => record level call.severity call.message
  | none => ""

theorem targetName?_ofHistory (commands : List Command) (target : Target) :
    (ofHistory commands).targetName? target = target.name? commands := by
  cases target <;> rfl

/-- The channel of a target is as it is when just opened at the level given last. -/
theorem target?_ofHistory {commands : List Command} {target : Target} {name : String}
    (h : target.name? commands = some name) :
    ∃ level, latest? (settings commands) (channelName name) = some level ∧
      target.level? commands = some level ∧
      (ofHistory commands).target? target = some (.opened (channelName name) level) := by
  obtain ⟨_, hsetting⟩ := Target.exists_setting h
  obtain ⟨level, hlevel⟩ := exists_latest hsetting
  refine ⟨level, hlevel, by rw [Target.level?, h, Option.bind_some, hlevel], ?_⟩
  rw [target?, targetName?_ofHistory, h, Option.bind_some, ofHistory, Registry.find?_ofSettings,
    hlevel, Option.map_some]

theorem output_say (commands : List Command) (call : Call) :
    ((ofHistory commands).say call.target call.severity call.message).output =
      call.written commands := by
  unfold say Call.written
  cases hname : call.target.name? commands with
  | none =>
    rw [target?, targetName?_ofHistory, Target.level?, hname]
    rfl
  | some name =>
    obtain ⟨level, -, hlevel, htarget⟩ := target?_ofHistory hname
    rw [htarget, hlevel]
    exact Channel.write_opened ..

theorem Call.written_ofEvent {commands : List Command} {target : Target} {level : Severity}
    (h : target.level? commands = some level) (event : Event) :
    (ofEvent target event).written commands = record level .debug event.message := by
  have htarget : (ofEvent target event).target.level? commands = some level := h
  rw [written, htarget]
  rfl

theorem transcript_ofHistory {commands : List Command} {name : String}
    (h : Target.shared.name? commands = some name) (events : List Event) :
    (ofHistory commands).transcript events =
      String.join ((events.map (Call.ofEvent .shared)).map (Call.written commands)) := by
  obtain ⟨level, -, hlevel, htarget⟩ := target?_ofHistory h
  have hwritten : Call.written commands ∘ Call.ofEvent .shared =
      fun event => record level .debug event.message := funext (Call.written_ofEvent hlevel)
  rw [transcript, htarget, List.map_map, hwritten]
  simp only [Channel.writeEvents, Channel.write_opened]

theorem inspect_output (session : Session) (target : Target) :
    (session.inspect target).output = "" := by
  unfold inspect
  split <;> rfl

theorem setLevel_output (session : Session) (target : Target) (level : Severity) :
    (session.setLevel target level).output = "" := by
  unfold setLevel
  split
  next => exact inspect_output ..
  next => rfl

/-- A command writes each of its messages as one line, if the severity is at least the
level given last to the channel, and not at all otherwise. -/
theorem output_step (commands : List Command) (command : Command) :
    ((ofHistory commands).step command).output =
      String.join (command.calls.map (Call.written (commands ++ [command]))) := by
  have hshared {name : String} (h : command.sharedName? = some name) :
      ∃ first, Target.shared.name? (commands ++ [command]) = some first := by
    rw [Target.name?_shared_concat, h]
    cases Target.shared.name? commands with
    | none => exact ⟨name, rfl⟩
    | some first => exact ⟨first, rfl⟩
  have hjoin (text : String) : String.join [text] = text := by simp [String.join]
  cases command with
  | configure verbose debug => exact setLevel_output ..
  | acquire name => exact inspect_output ..
  | openChannel name level => exact inspect_output ..
  | inspect target => exact inspect_output ..
  | setLevel target level => exact setLevel_output ..
  | say target severity message =>
    rw [step, prepare_eq_ofHistory (.say target severity message) target rfl rfl rfl]
    exact (output_say _ ⟨target, severity, message⟩).trans (hjoin _).symm
  | announce target event =>
    rw [step, prepare_eq_ofHistory (.announce target event) target rfl rfl rfl]
    exact (output_say _ (.ofEvent target event)).trans (hjoin _).symm
  | parse source =>
    obtain ⟨first, hfirst⟩ := hshared rfl
    rw [step, prepare_eq_ofHistory (.parse source) .shared rfl rfl rfl]
    exact transcript_ofHistory hfirst _
  | derive text =>
    obtain ⟨first, hfirst⟩ := hshared rfl
    rw [step, prepare_eq_ofHistory (.derive text) .shared rfl rfl rfl]
    exact transcript_ofHistory hfirst _
  | build text tree =>
    obtain ⟨first, hfirst⟩ := hshared rfl
    rw [step, prepare_eq_ofHistory (.build text tree) .shared rfl rfl rfl]
    exact transcript_ofHistory hfirst _

/-- **Every channel has the level that was given to it last.** After any commands the
channels have different names, and each has one handler, is cut off from the others, and
has the level given last, which is that of its handler, too. The channel of every target
is among them. So each message of the next command is written as one line, if its
severity is at least that level, and not at all otherwise. -/
theorem levels_given_last (commands : List Command) :
    ((start.run commands).registry.channels.map Channel.name).Nodup ∧
    (∀ channel ∈ (start.run commands).registry.channels,
      latest? (settings commands) channel.name = some channel.level ∧
      channel.handlers = [channel.level] ∧ channel.propagates = false) ∧
    (∀ target name, (start.run commands).targetName? target = some name →
      ∃ channel ∈ (start.run commands).registry.channels,
        (start.run commands).target? target = some channel ∧
        channel.name = channelName name ∧ target.level? commands = some channel.level) ∧
    ∀ command, ((start.run commands).step command).output =
      String.join (command.calls.map (Call.written (commands ++ [command]))) := by
  rw [run_eq]
  refine ⟨Registry.nodup_ofSettings _, fun channel hchannel => ?_, fun target name h => ?_,
    output_step commands⟩
  · obtain ⟨level, hlevel, hopened⟩ := Registry.mem_ofSettings.1 hchannel
    rw [hlevel, hopened]
    exact ⟨rfl, rfl, rfl⟩
  · rw [targetName?_ofHistory] at h
    obtain ⟨level, hlatest, hlevel, htarget⟩ := target?_ofHistory h
    exact ⟨_, Registry.mem_ofSettings.2 ⟨level, hlatest, rfl⟩, htarget, rfl, hlevel⟩

/-- The first command that needs the shared channel resets the level of a channel which
was opened under the same name before. -/
example : latest? (settings [.openChannel defaultName .error, .parse "p"]) defaultName =
    some .info := by decide

end Propositional.Session
