import Mathlib.Data.List.Induction
import Mathlib.Data.List.Nodup
import Propositional.Log.Registry

/-!
# What a registry keeps of its history

A channel is opened, or its level is set, and either way what it was like before plays
no part any more. So of all the levels that channels were ever given, a registry keeps
the last one for each of them.

> `mem_ofSettings`: the channels are those that were given a level, each as it is when
> it has just been opened at the level given last.
> `setLevel_ofSettings`: setting the level of such a channel is opening it once more.
> `write_opened`: a message to such a channel is one line or none.
-/

namespace Propositional.Log

/-- What one handler of a level makes of a message: a line if the severity is high
enough. -/
def record (level severity : Severity) (message : String) : String :=
  if level ≤ severity then formatLine severity.value message ++ "\n" else ""

/-- The one handler of an opened channel has the level of the channel, so that a message
is let through and written, or neither. -/
theorem Channel.write_opened (name : String) (level severity : Severity) (message : String) :
    (opened name level).write severity message = record level severity message := by
  unfold write record isEnabled opened
  by_cases h : level ≤ severity
  · simp [h, String.join]
  · simp [h]

/-! ## The last setting -/

/-- A level that was given to the channel of a name. -/
structure Setting where
  name : String
  level : Severity

/-- The level that was given last to the channel known by a name. -/
def latest? (settings : List Setting) (name : String) : Option Severity :=
  (settings.reverse.find? fun setting => channelName setting.name == name).map Setting.level

theorem latest?_concat (settings : List Setting) (setting : Setting) (name : String) :
    latest? (settings ++ [setting]) name =
      if channelName setting.name = name then some setting.level
      else latest? settings name := by
  rw [latest?, List.reverse_append, List.reverse_singleton, List.singleton_append,
    List.find?_cons]
  by_cases h : channelName setting.name = name
  · rw [if_pos h, beq_iff_eq.2 h]
    rfl
  · rw [if_neg h, beq_eq_false_iff_ne.2 h]
    rfl

theorem exists_latest {settings : List Setting} {setting : Setting} (h : setting ∈ settings) :
    ∃ level, latest? settings (channelName setting.name) = some level := by
  have hfound : (settings.reverse.find? fun other =>
      channelName other.name == channelName setting.name).isSome = true :=
    List.find?_isSome.2 ⟨setting, List.mem_reverse.2 h, beq_self_eq_true _⟩
  obtain ⟨last, hlast⟩ := Option.isSome_iff_exists.1 hfound
  exact ⟨last.level, by rw [latest?, hlast, Option.map_some]⟩

/-! ## Registries -/

namespace Registry

/-- A channel that is entered replaces the one of its name and no other. -/
theorem mem_put {registry : Registry} {channel other : Channel} :
    other ∈ (registry.put channel).channels ↔
      other = channel ∨ (other ∈ registry.channels ∧ other.name ≠ channel.name) := by
  unfold put
  split
  next h =>
    obtain ⟨old, hold, hname⟩ := List.any_eq_true.1 h
    rw [List.mem_map]
    constructor
    · intro hmem
      obtain ⟨kept, hkept, hother⟩ := hmem
      split at hother
      next => exact .inl hother.symm
      next hdistinct =>
        rw [beq_iff_eq] at hdistinct
        exact .inr (hother ▸ ⟨hkept, hdistinct⟩)
    · intro hmem
      rcases hmem with rfl | ⟨hother, hdistinct⟩
      · exact ⟨old, hold, if_pos hname⟩
      · exact ⟨other, hother, if_neg (by rwa [beq_iff_eq])⟩
  next h =>
    simp only [List.any_eq_true, beq_iff_eq, not_exists, not_and] at h
    rw [List.mem_append, List.mem_singleton, or_comm]
    exact or_congr_right ⟨fun hother => ⟨hother, h other hother⟩, And.left⟩

/-- No name comes up twice. -/
theorem nodup_put {registry : Registry} (h : (registry.channels.map Channel.name).Nodup)
    (channel : Channel) : ((registry.put channel).channels.map Channel.name).Nodup := by
  unfold put
  split
  next =>
    have hnames : (registry.channels.map fun old =>
        if old.name == channel.name then channel else old).map Channel.name =
        registry.channels.map Channel.name := by
      rw [List.map_map]
      refine List.map_congr_left fun old _ => ?_
      show (if old.name == channel.name then channel else old).name = old.name
      split
      next hname => exact (beq_iff_eq.1 hname).symm
      next => rfl
    rw [hnames]
    exact h
  next hnew =>
    simp only [List.any_eq_true, beq_iff_eq, not_exists, not_and] at hnew
    rw [List.map_append, List.map_singleton, List.nodup_append]
    refine ⟨h, List.nodup_singleton _, fun name hname other hother => ?_⟩
    obtain ⟨old, hold, rfl⟩ := List.mem_map.1 hname
    rw [List.mem_singleton.1 hother]
    exact hnew old hold

/-- The registry after a channel has been opened for each of the settings, in order. -/
def ofSettings (settings : List Setting) : Registry :=
  settings.foldl (fun registry setting => registry.openChannel setting.name setting.level) empty

theorem ofSettings_concat (settings : List Setting) (setting : Setting) :
    ofSettings (settings ++ [setting]) =
      (ofSettings settings).openChannel setting.name setting.level := by
  rw [ofSettings, List.foldl_append]
  rfl

/-- The channels are those that were given a level, each as it is when it has just been
opened at the level given last. -/
theorem mem_ofSettings {settings : List Setting} {channel : Channel} :
    channel ∈ (ofSettings settings).channels ↔
      ∃ level, latest? settings channel.name = some level ∧
        channel = .opened channel.name level := by
  induction settings using List.reverseRecOn with
  | nil =>
    constructor
    · intro h
      cases h
    · intro h
      obtain ⟨level, hlevel, -⟩ := h
      cases hlevel
  | append_singleton settings setting ih =>
    rw [ofSettings_concat, openChannel, mem_put, ih, latest?_concat]
    by_cases hname : channelName setting.name = channel.name
    · rw [if_pos hname]
      constructor
      · intro h
        rcases h with rfl | ⟨-, hdistinct⟩
        · exact ⟨setting.level, rfl, rfl⟩
        · exact absurd hname.symm hdistinct
      · intro h
        obtain ⟨level, hlevel, hchannel⟩ := h
        cases hlevel
        rw [hname]
        exact .inl hchannel
    · rw [if_neg hname]
      constructor
      · intro h
        rcases h with rfl | ⟨hold, -⟩
        · exact absurd rfl hname
        · exact hold
      · intro h
        exact .inr ⟨h, Ne.symm hname⟩

theorem nodup_ofSettings (settings : List Setting) :
    ((ofSettings settings).channels.map Channel.name).Nodup := by
  induction settings using List.reverseRecOn with
  | nil => exact List.nodup_nil
  | append_singleton settings setting ih =>
    rw [ofSettings_concat]
    exact nodup_put ih _

/-- A channel is found when it was given a level, under any of its names. -/
theorem find?_ofSettings (settings : List Setting) (name : String) :
    (ofSettings settings).find? name =
      (latest? settings (channelName name)).map (Channel.opened (channelName name)) := by
  unfold find?
  cases hfound : (ofSettings settings).channels.find? (·.name == channelName name) with
  | some channel =>
    have hname := List.find?_some hfound
    rw [beq_iff_eq] at hname
    obtain ⟨level, hlevel, hchannel⟩ := mem_ofSettings.1 (List.mem_of_find?_eq_some hfound)
    rw [hname] at hlevel hchannel
    rw [hlevel, hchannel, Option.map_some]
  | none =>
    cases hlevel : latest? settings (channelName name) with
    | none => rfl
    | some level =>
      have hmem : Channel.opened (channelName name) level ∈ (ofSettings settings).channels :=
        mem_ofSettings.2 ⟨level, hlevel, rfl⟩
      exact absurd (beq_self_eq_true _) (List.find?_eq_none.1 hfound _ hmem)

/-- Setting the level of a channel that was given one before is opening it once more. -/
theorem setLevel_ofSettings {settings : List Setting} {setting : Setting}
    (h : setting ∈ settings) (level : Severity) :
    (ofSettings settings).setLevel setting.name level =
      ofSettings (settings ++ [⟨setting.name, level⟩]) := by
  obtain ⟨last, hlast⟩ := exists_latest h
  rw [setLevel, find?_ofSettings, hlast, ofSettings_concat]
  rfl

end Registry

end Propositional.Log
