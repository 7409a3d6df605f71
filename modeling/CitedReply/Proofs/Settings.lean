import CitedReply.Frame.Settings
import CitedReply.Proofs.Text.Trimming

/-!
# CitedReply.Proofs.Settings

What a setting can be changed to, and how.

A parameter is a field of the settings: `get` reads it, and `put` makes a `Change` of it and of no
other one. `Parameter.read?` says which value a text denotes for a parameter.

* `get_ofLookup`: what a parameter is at the start.
* `assign_eq_ok_iff`: a change by name accepts the texts that are taken from the environment, with the
  same values, though it trims them once more before it reads them.
-/

namespace CitedReply
namespace Settings

/-! ## Parameters and their values -/

namespace Parameter

def Value : Parameter → Type
  | .frameInterval => Nat
  | .syntheticExternal => Bool
  | .sourcesFooter => Bool
  | .maxPlaceholderTitles => Nat

/-- The value that a text denotes, with or without white space around it. -/
def read? : (p : Parameter) → Text → Option p.Value
  | .frameInterval => number?
  | .syntheticExternal => flag?
  | .sourcesFooter => flag?
  | .maxPlaceholderTitles => number?

theorem ofName?_eq_some_iff {name : Text} {p : Parameter} : ofName? name = some p ↔ name = p.name := by
  constructor
  · intro h
    have hname := List.find?_some h
    exact (of_decide_eq_true hname).symm
  · rintro rfl
    cases p <;> decide

end Parameter

def get (s : Settings) : (p : Parameter) → p.Value
  | .frameInterval => s.frameInterval
  | .syntheticExternal => s.syntheticExternal
  | .sourcesFooter => s.sourcesFooter
  | .maxPlaceholderTitles => s.maxPlaceholderTitles

structure Change where
  parameter : Parameter
  value : parameter.Value

def put (s : Settings) : Change → Settings
  | ⟨.frameInterval, n⟩ => { s with frameInterval := n }
  | ⟨.syntheticExternal, b⟩ => { s with syntheticExternal := b }
  | ⟨.sourcesFooter, b⟩ => { s with sourcesFooter := b }
  | ⟨.maxPlaceholderTitles, n⟩ => { s with maxPlaceholderTitles := n }

@[simp] theorem get_put (s : Settings) (c : Change) : (s.put c).get c.parameter = c.value := by
  obtain ⟨p, x⟩ := c
  cases p <;> rfl

theorem get_put_of_ne (s : Settings) {c : Change} {q : Parameter} (h : q ≠ c.parameter) :
    (s.put c).get q = s.get q := by
  obtain ⟨p, x⟩ := c
  cases p <;> cases q <;> first | rfl | exact absurd rfl h

/-! ## Two ways to set a parameter -/

theorem get_ofLookup (lookup : Text → Option Text) (p : Parameter) :
    (ofLookup lookup).get p = ((lookup p.variableName).bind p.read?).getD (default.get p) := by
  cases p <;> rfl

theorem flag?_trim (t : Text) : flag? (Text.trim t) = flag? t := by
  rw [flag?, flag?, Text.trim_of_trimmed (Text.trimmed_trim t)]

theorem set?_trim (s : Settings) (p : Parameter) (t : Text) :
    s.set? p (Text.trim t) = (p.read? t).map fun x => s.put ⟨p, x⟩ := by
  cases p with
  | frameInterval => rfl
  | syntheticExternal =>
    simp only [set?, flag?_trim]
    rfl
  | sourcesFooter =>
    simp only [set?, flag?_trim]
    rfl
  | maxPlaceholderTitles => rfl

/-- The change that a name and a text ask for, if they are those of a parameter and a value for it. -/
def Change.of? (name value : Text) : Option Change :=
  (Parameter.ofName? name).bind fun p => (p.read? value).map fun x => ⟨p, x⟩

theorem Change.of?_eq_some_iff {name value : Text} {c : Change} :
    of? name value = some c ↔ name = c.parameter.name ∧ c.parameter.read? value = some c.value := by
  simp only [of?, Option.bind_eq_some_iff, Option.map_eq_some_iff, Parameter.ofName?_eq_some_iff]
  constructor
  · rintro ⟨p, hname, x, hx, rfl⟩
    exact ⟨hname, hx⟩
  · rintro ⟨hname, hx⟩
    exact ⟨c.parameter, hname, c.value, hx, rfl⟩

theorem assign_of_change {name value : Text} {c : Change} (h : Change.of? name value = some c)
    (s : Settings) : s.assign name value = .ok (s.put c) := by
  obtain ⟨hname, hx⟩ := Change.of?_eq_some_iff.1 h
  rw [assign, Parameter.ofName?_eq_some_iff.2 hname]
  simp only [set?_trim, hx, Option.map_some]

theorem assign_of_no_change {name value : Text} (h : Change.of? name value = none) (s : Settings) :
    ∃ rejection, s.assign name value = .error rejection := by
  rw [Change.of?] at h
  cases hp : Parameter.ofName? name with
  | none =>
    rw [assign, hp]
    exact ⟨_, rfl⟩
  | some p =>
    rw [hp, Option.bind_some, Option.map_eq_none_iff] at h
    rw [assign, hp]
    simp only [set?_trim, h, Option.map_none]
    exact ⟨_, rfl⟩

theorem assign_eq_ok_iff {s s' : Settings} {name value : Text} :
    s.assign name value = .ok s' ↔
      ∃ c : Change, name = c.parameter.name ∧ c.parameter.read? value = some c.value ∧
        s' = s.put c := by
  cases hc : Change.of? name value with
  | none =>
    obtain ⟨rejection, hr⟩ := assign_of_no_change hc s
    rw [hr]
    refine iff_of_false (fun h => by cases h) ?_
    rintro ⟨c, hname, hx, -⟩
    rw [Change.of?_eq_some_iff.2 ⟨hname, hx⟩] at hc
    cases hc
  | some c =>
    rw [assign_of_change hc]
    constructor
    · rintro ⟨⟩
      obtain ⟨hname, hx⟩ := Change.of?_eq_some_iff.1 hc
      exact ⟨c, hname, hx, rfl⟩
    · rintro ⟨d, hname, hx, rfl⟩
      rw [Change.of?_eq_some_iff.2 ⟨hname, hx⟩] at hc
      cases hc
      rfl

end Settings
end CitedReply
