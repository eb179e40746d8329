import Propositional.Proofs.Parse.Recounting
import Propositional.Proofs.Session.History

/-!
# Following a parse

The shared channel lets one follow how a source is parsed, if its level is the least one.
Following changes nothing: neither what the source is parsed to nor any channel. And
what is written can be told from the source and the nodes it is parsed to.

> `level?_shared_parse`: parsing gives no level to a channel, except for the shared one if
> it opens it.
> `output_parse`: the report of a parse is written in full or not at all.
> `parse_transcribed`: neither the outcome nor the report depends on the channels, and the
> report is the one of `Reports`.
-/

namespace Propositional.Session

open Log

/-- The lines that events are written as. -/
def debugLines (events : List Event) : String :=
  String.join (events.map fun event => "[DEBUG] " ++ event.message ++ "\n")

/-- Whether events are written depends on the level alone, and not on the event. -/
theorem join_record_events (level : Severity) (events : List Event) :
    String.join (events.map fun event => record level .debug event.message) =
      if level = .debug then debugLines events else "" := by
  by_cases h : level = .debug
  · rw [if_pos h, h]
    rfl
  · have hrecord (message : String) : record level .debug message = "" := by
      cases level with
      | debug => exact absurd rfl h
      | info | warning | error => rfl
    rw [if_neg h]
    induction events with
    | nil => rfl
    | cons event events ih => rw [List.map_cons, String.join_cons, hrecord, ih, String.append_empty]

/-- The level of a channel that is open is the one given last. -/
theorem map_level_target? (commands : List Command) (target : Target) :
    ((ofHistory commands).target? target).map Channel.level = target.level? commands := by
  cases hname : target.name? commands with
  | none =>
    rw [target?, targetName?_ofHistory, Target.level?, hname]
    rfl
  | some name =>
    obtain ⟨level, -, hlevel, htarget⟩ := target?_ofHistory hname
    rw [htarget, hlevel]
    rfl

/-- Parsing gives no level to a channel, except for the shared one if it opens it. -/
theorem level?_shared_parse (commands : List Command) (source : String) :
    Target.shared.level? (commands ++ [.parse source]) =
      some ((Target.shared.level? commands).getD .info) := by
  have hgiven : (Command.parse source).given (commands ++ [.parse source]) = [] := rfl
  rw [Target.level?, Target.level?, settings_concat, Target.name?_shared_concat, hgiven,
    List.append_nil]
  cases hname : Target.shared.name? commands with
  | none =>
    have hopening : (Command.parse source).opening commands = [⟨defaultName, .info⟩] := by
      rw [Command.opening, hname]
      rfl
    rw [hopening, Option.none_or, Option.bind_none, Option.getD_none]
    show latest? _ (channelName defaultName) = some .info
    rw [latest?_concat, if_pos rfl]
  | some name =>
    have hopening : (Command.parse source).opening commands = [] := by
      rw [Command.opening, hname]
    obtain ⟨level, hlevel, -⟩ := target?_ofHistory hname
    rw [hopening, List.append_nil, Option.some_or, Option.bind_some, hlevel, Option.getD_some]

/-- The report of a parse is written in full or not at all. -/
theorem output_parse (commands : List Command) (source : String) :
    ((start.run commands).step (.parse source)).output =
      if ((start.run commands).target? .shared).map Channel.level = some .debug
      then debugLines (parse source).events else "" := by
  have hlevel := level?_shared_parse commands source
  have hwritten : Call.written (commands ++ [.parse source]) ∘ Call.ofEvent .shared =
      fun event => record ((Target.shared.level? commands).getD .info) .debug event.message :=
    funext (Call.written_ofEvent hlevel)
  rw [run_eq, output_step, map_level_target?, Command.calls, List.map_map, hwritten,
    join_record_events]
  cases Target.shared.level? commands <;> simp

/-- **Following a parse** changes nothing. Whatever the channels are like, the reply is
the same, and once there is a shared channel no channel is changed. The report of the
parse is the one that the source and its outcome settle. All of it is written if the
shared channel has the least level, and nothing if there is another level or no shared
channel yet. -/
theorem parse_transcribed (source : String) :
    ∃ events, (∀ other, Reports source other ↔ other = events) ∧
      (∀ session other : Session,
        (session.step (.parse source)).reply = (other.step (.parse source)).reply) ∧
      (∀ session : Session, session.shared?.isSome = true →
        (session.step (.parse source)).session = session) ∧
      ∀ commands : List Command,
        (∀ channel, (start.run commands).target? .shared = some channel →
          channel.level = .debug →
          ((start.run commands).step (.parse source)).output = debugLines events) ∧
        ((∀ channel, (start.run commands).target? .shared = some channel →
            channel.level ≠ .debug) →
          ((start.run commands).step (.parse source)).output = "") := by
  refine ⟨(parse source).events, fun other => reports_iff, fun _ _ => rfl,
    fun session hshared => ?_, fun commands => ⟨fun channel hchannel hlevel => ?_,
      fun hlevel => ?_⟩⟩
  · obtain ⟨name, hname⟩ := Option.isSome_iff_exists.1 hshared
    show session.acquire defaultName = session
    rw [acquire, hname]
  · rw [output_parse, hchannel, Option.map_some, hlevel, if_pos rfl]
  · rw [output_parse, if_neg]
    intro hdebug
    obtain ⟨channel, hchannel, hlevel'⟩ := Option.map_eq_some_iff.1 hdebug
    exact hlevel channel hchannel hlevel'

/-- What is written about `¬p` once the flags have asked for it: the negation is linked to
the root before its operand is read, and the letter is reported before its link. -/
theorem negated_letter_transcribed :
    ((start.run [.configure false true]).step (.parse "¬p")).output =
      "[DEBUG] Normalized formula '¬p' to '(¬p)'\n" ++
      "[DEBUG] Grammar derived a syntax tree for '(¬p)'\n" ++
      "[DEBUG]     Attached Negation as left child of Root\n" ++
      "[DEBUG] Lowercase atom 'p' at position 2 converted to 'P'; " ++
      "this might cause unintentional atom conflicts\n" ++
      "[DEBUG]     Attached Atomic as right child of Negation\n" ++
      "[DEBUG] Built logic tree with 3 nodes for '(¬p)'\n" := by
  have hspells : Spells (normalize "¬p").toList (.negation (.atom "P")) :=
    .group (.negation (.atom rfl))
  have hparsed : (parse "¬p").outcome = .ok ⟨Graph.empty.withFormula (.negation (.atom "P")), 0⟩ :=
    Graph.outcome_parse_eq_ok_iff.2 ⟨_, hspells, rfl⟩
  have hdescent := (consistent_of_parse hparsed).descent (Graph.empty.traversal_withFormula _)
  have hletters : letters (normalize "¬p").toList = [('p', 2)] := by decide
  have hrecounts : (Graph.empty.withFormula (.negation (.atom "P"))).Recounts [1, 2]
      (letters (normalize "¬p").toList)
      [linkEvent .root .left (.connective .negation), .lowercaseAtom "p" 2,
        linkEvent (.connective .negation) .right (.atom "P")] := by
    rw [hletters]
    exact .connective ⟨0, rfl, rfl, rfl, rfl⟩ (.atom ⟨1, rfl, rfl, rfl, rfl⟩ .nil)
  obtain ⟨events, hreports, -, -, hwritten⟩ := parse_transcribed "¬p"
  have hevents := (hreports _).1 (.parsed hparsed hdescent hrecounts)
  rw [(hwritten [.configure false true]).1 (.opened defaultName .debug) (by decide) rfl, ← hevents]
  decide +kernel

end Propositional.Session
