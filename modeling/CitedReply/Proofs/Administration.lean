import CitedReply.Bot.Startup
import CitedReply.Proofs.Settings

/-!
# CitedReply.Proofs.Administration

Who changes the settings of a bot. `change?` is the change that a command asks for, which has to come
from an administrator and name a parameter with a value for it.

* `run_state`: a command makes this change, if there is one, and leaves all else as it was. What
  becomes of its calls does not matter.
* `settings_of_commands`: after any commands the settings are those at the start with these changes
  made in order.
-/

namespace CitedReply
namespace Bot

open Settings

/-- The change that a command asks for. -/
def change? (admins : List Nat) (inv : Invocation) : Option Change :=
  match inv.command with
  | .config (some name) (some value) =>
    if admins.contains inv.user then Change.of? name value else none
  | _ => none

theorem change?_eq_some_iff {admins : List Nat} {inv : Invocation} {c : Change} :
    change? admins inv = some c ↔ inv.user ∈ admins ∧
      ∃ value, inv.command = .config (some c.parameter.name) (some value) ∧
        c.parameter.read? value = some c.value := by
  unfold change?
  split
  · rename_i name value hcommand
    rw [hcommand, Option.ite_none_right_eq_some, List.contains_iff_mem, Change.of?_eq_some_iff]
    constructor
    · rintro ⟨hadmin, rfl, hx⟩
      exact ⟨hadmin, value, rfl, hx⟩
    · rintro ⟨hadmin, v, hv, hx⟩
      cases hv
      exact ⟨hadmin, rfl, hx⟩
  · rename_i hno
    refine iff_of_false (fun h => by cases h) ?_
    rintro ⟨-, value, hcommand, -⟩
    exact hno _ _ hcommand

/-! ## Commands -/

theorem configure_settings (s : Settings) (name value : Text) :
    (configure s (some name) (some value)).2 =
      match s.assign name value with
      | .ok s' => s'
      | .error _ => s := by
  unfold configure
  dsimp only
  cases s.assign name value <;> rfl

theorem config_settings (st : State) (user : Nat) (name value : Option Text) :
    (config st user name value).2 =
      if st.admins.contains user then (configure st.settings name value).2 else st.settings := by
  unfold config
  split <;> rfl

theorem run_config {st : State} {inv : Invocation} {name value : Option Text}
    (h : inv.command = .config name value) :
    (st.run inv).2 = { st with settings := (config st inv.user name value).2 } := by
  simp only [State.run, h]

/-- A command changes nothing but the parameter that it asks for as one of an administrator. -/
theorem run_state (st : State) (inv : Invocation) :
    (st.run inv).2 = { st with settings := (change? st.admins inv).elim st.settings st.settings.put } := by
  cases hc : inv.command with
  | ask question => cases question <;> simp only [State.run, change?, hc, Option.elim_none]
  | preview text streaming => simp only [State.run, change?, hc, Option.elim_none]
  | group => simp only [State.run, change?, hc, Option.elim_none]
  | config name value =>
    rw [run_config hc, config_settings]
    cases name with
    | none =>
      simp only [change?, hc, Option.elim_none]
      split <;> rfl
    | some name =>
      cases value with
      | none =>
        simp only [change?, hc, Option.elim_none]
        split <;> rfl
      | some value =>
        simp only [change?, hc, configure_settings]
        split
        · cases hchange : Change.of? name value with
          | none =>
            obtain ⟨rejection, hr⟩ := assign_of_no_change hchange st.settings
            rw [hr, Option.elim_none]
          | some c => rw [assign_of_change hchange, Option.elim_some]
        · rfl

/-- The state after commands in a row. -/
def State.after (st : State) (invs : List Invocation) : State :=
  invs.foldl (fun st inv => (st.run inv).2) st

theorem after_state (st : State) (invs : List Invocation) :
    st.after invs =
      { st with settings := (invs.filterMap (change? st.admins)).foldl put st.settings } := by
  induction invs generalizing st with
  | nil => rfl
  | cons inv invs ih =>
    have hrun : st.after (inv :: invs) = (st.run inv).2.after invs := rfl
    rw [hrun, ih, run_state]
    cases hc : change? st.admins inv with
    | none => rw [List.filterMap_cons_none hc, Option.elim_none]
    | some c => rw [List.filterMap_cons_some hc, Option.elim_some, List.foldl_cons]

/-! ## The start -/

theorem mem_adminsOf_iff {t : Text} {user : Nat} :
    user ∈ adminsOf t ↔ ∃ f ∈ Text.fields ',' t, Text.word? (Text.trim f) = some user := by
  rw [adminsOf, List.mem_mergeSort, List.mem_eraseDups, List.mem_filterMap]

theorem state_of_start {lookup : Text → Option Text} {refusal : Option Text} {started : Started}
    (h : start lookup refusal = .ok started) :
    started.state.settings = ofLookup lookup ∧
      started.state.admins = adminsOf ((lookup "ADMIN_USER_IDS".toList).getD []) := by
  unfold start at h
  split at h
  · cases h
  · split at h
    · cases h
    · split at h
      · cases h
      · cases h
        exact ⟨rfl, rfl⟩

/-- After any commands the settings are those of the environment, with the changes made that
administrators have asked for. A change is accepted by the parameter's name and a text that the
environment might give for it, and writes the value that the environment would have given. -/
theorem settings_of_commands {lookup : Text → Option Text} {refusal : Option Text}
    {started : Started} (h : start lookup refusal = .ok started) (invs : List Invocation) :
    (started.state.after invs).settings =
        (invs.filterMap (change? started.state.admins)).foldl put (ofLookup lookup) ∧
      (∀ user, user ∈ started.state.admins ↔
        ∃ f ∈ Text.fields ',' ((lookup "ADMIN_USER_IDS".toList).getD []),
          Text.word? (Text.trim f) = some user) ∧
      (∀ inv c, change? started.state.admins inv = some c ↔ inv.user ∈ started.state.admins ∧
        ∃ value, inv.command = .config (some c.parameter.name) (some value) ∧
          c.parameter.read? value = some c.value) ∧
      (∀ (st : State) (inv : Invocation), (st.run inv).2 =
        { st with settings := (change? st.admins inv).elim st.settings st.settings.put }) ∧
      (∀ (s : Settings) (c : Change), (s.put c).get c.parameter = c.value ∧
        ∀ q, q ≠ c.parameter → (s.put c).get q = s.get q) ∧
      (∀ (s s' : Settings) (name value : Text), s.assign name value = .ok s' ↔
        ∃ c : Change, name = c.parameter.name ∧ c.parameter.read? value = some c.value ∧
          s' = s.put c) ∧
      ∀ (lookup : Text → Option Text) (p : Parameter), (ofLookup lookup).get p =
        ((lookup p.variableName).bind p.read?).getD (Settings.default.get p) := by
  obtain ⟨hsettings, hadmins⟩ := state_of_start h
  refine ⟨?_, ?_, fun _ _ => change?_eq_some_iff, run_state, ?_, fun _ _ _ _ => assign_eq_ok_iff,
    get_ofLookup⟩
  · rw [after_state, hsettings]
  · intro user
    rw [hadmins, mem_adminsOf_iff]
  · intro s c
    exact ⟨get_put s c, fun q hq => get_put_of_ne s hq⟩

def guardedEnvironment (name : Text) : Option Text :=
  ([("DISCORD_TOKEN", "t"), ("ADMIN_USER_IDS", " 7, x,+8"), ("RENDER_FRAME_MS", " +900 "),
    ("RENDER_SOURCES_FOOTER", "nope")].find? fun e => e.1.toList = name).map fun e => e.2.toList

def giving (user : Nat) (name value : Option String) (refusals : List Nat) : Invocation where
  command := .config (name.map String.toList) (value.map String.toList)
  user
  latency := 10
  refusals
  response := .unreachable
  frameFirst := fun _ => false

/-- Only the first and the last of these change anything: then come somebody else, a number that is
too large, a name that is none, and a value that is missing. The answer to the first is refused. -/
def mixedCommands : List Invocation :=
  [giving 7 "frame_interval_ms" " +18446744073709551615 " [0],
    giving 9 "sources_footer" "off" [],
    giving 7 "frame_interval_ms" "18446744073709551616" [],
    giving 8 "colour" "red" [],
    giving 8 "max_placeholder_titles" none [],
    giving 8 "sources_footer" "OFF" []]

def guarded : Started :=
  ⟨['t'], .everywhere, ⟨serviceOf guardedEnvironment, [7, 8], ofLookup guardedEnvironment⟩⟩

theorem start_guarded : start guardedEnvironment none = .ok guarded := by
  have hids : ((Text.fields ',' " 7, x,+8".toList).filterMap
      fun f => Text.word? (Text.trim f)).eraseDups = [7, 8] := by
    decide +kernel
  have hadmins : adminsOf " 7, x,+8".toList = [7, 8] := by
    rw [adminsOf, hids]
    exact List.mergeSort_of_pairwise (by decide)
  rw [guarded, ← hadmins]
  rfl

theorem settings_of_mixedCommands :
    start guardedEnvironment none = .ok guarded ∧
      guarded.state.settings = ⟨900, false, true, 8⟩ ∧
      (guarded.state.after mixedCommands).settings = ⟨18446744073709551615, false, false, 8⟩ ∧
      (guarded.state.after mixedCommands).settings =
        (mixedCommands.filterMap (change? guarded.state.admins)).foldl put
          (ofLookup guardedEnvironment) := by
  refine ⟨start_guarded, ?_, ?_, (settings_of_commands start_guarded mixedCommands).1⟩
  · decide +kernel
  · decide +kernel

end Bot
end CitedReply
