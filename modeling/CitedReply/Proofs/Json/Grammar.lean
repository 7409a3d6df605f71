import CitedReply.Json.Reader
import CitedReply.Proofs.Json.Quoted
import Mathlib.Data.List.DropRight

/-!
# CitedReply.Proofs.Json.Grammar

JSON as a grammar, and the pass over values that nobody asks for.

`Begins` says what a text begins with and what follows it; it knows neither turns nor a stack. The
pass has both: `Turn` says what one turn does, and `Crosses` is a run of the pass between two places,
paid for with two turns for each character in between.

* `skipFrom_of_turn`: a turn, and what it leaves to the turns after it.
* `crosses_of_begins`: whatever the grammar derives is crossed.
* `skipValue_of_begins`: twice the length of the text is enough for a value of any depth.
-/

namespace CitedReply
namespace Json

/-! ## The grammar -/

namespace Bracket

def opener : Bracket → Char
  | .array => '['
  | .object => '{'

def closer : Bracket → Char
  | .array => ']'
  | .object => '}'

end Bracket

/-- A text starts with what stands before a value inside a bracket: nothing, or a key with its
colon. -/
inductive Labelled : Bracket → Text → Text → Prop
  | item {t : Text} : Labelled .array t t
  | member {t r : Text} : skipKey (skipSpace t) = .ok r → Labelled .object t r

/-- What a text can start with: a value, or the rest of a container that is not empty. -/
inductive Form where
  | value
  | inside (b : Bracket)

inductive Begins : Form → Text → Text → Prop
  | scalar {t r : Text} : skipScalar (skipSpace t) = .ok r → Begins .value t r
  | empty {b : Bracket} {t u r : Text} :
      skipSpace t = b.opener :: u → skipSpace u = b.closer :: r → Begins .value t r
  | container {b : Bracket} {t u r : Text} :
      skipSpace t = b.opener :: u → Begins (.inside b) u r → Begins .value t r
  | last {b : Bracket} {t u v r : Text} :
      Labelled b t u → Begins .value u v → skipSpace v = b.closer :: r → Begins (.inside b) t r
  | more {b : Bracket} {t u v w r : Text} :
      Labelled b t u → Begins .value u v → skipSpace v = ',' :: w → Begins (.inside b) w r →
      Begins (.inside b) t r

/-! ## Leaves -/

theorem length_skipSpace_le (t : Text) : (skipSpace t).length ≤ t.length :=
  (List.dropWhile_suffix isSpace).length_le

theorem length_lt_of_skipSpace {c : Char} {t r : Text} (h : skipSpace t = c :: r) :
    r.length < t.length := by
  have := length_skipSpace_le t
  rw [h] at this
  exact this

theorem skipSpace_skipSpace (t : Text) : skipSpace (skipSpace t) = skipSpace t :=
  List.dropWhile_idempotent _ t

theorem length_of_word {w t r : Text} (h : word w t = .ok r) : r.length ≤ t.length := by
  fun_induction word w t <;> simp_all
  omega

theorem ne_nil_of_wholePart {t ds r : Text} (h : wholePart t = .ok (ds, r)) : ds ≠ [] := by
  unfold wholePart at h
  split at h
  · split at h
    · cases h
    · cases h
      exact List.cons_ne_nil _ _
  · exact (eq_of_digits h).1

theorem whole_ne_nil_of_spelling {t r : Text} {s : Spelling} (h : spelling t = .ok (s, r)) :
    s.whole ≠ [] := by
  simp only [spelling] at h
  split at h
  · cases h
  · rename_i hw
    split at h
    · cases h
    · split at h
      · cases h
      · cases h
        exact ne_nil_of_wholePart hw

theorem length_lt_of_skipNumber {t r : Text} (h : skipNumber t = .ok r) : r.length < t.length := by
  unfold skipNumber at h
  split at h
  · rename_i s r' hs
    cases h
    have := List.length_pos_iff.2 (whole_ne_nil_of_spelling hs)
    rw [eq_of_spelling hs]
    simp only [Spelling.text, List.length_append]
    omega
  · cases h

theorem length_lt_of_skipScalar {t r : Text} (h : skipScalar t = .ok r) : r.length < t.length := by
  unfold skipScalar at h
  split at h
  · cases h
  · exact Nat.lt_succ_of_le (length_of_word h)
  · exact Nat.lt_succ_of_le (length_of_word h)
  · exact Nat.lt_succ_of_le (length_of_word h)
  · exact Nat.lt_succ_of_lt (length_lt_of_skipQuotedFrom h)
  · split at h
    · exact length_lt_of_skipNumber h
    · cases h

theorem length_lt_of_colon {t r : Text} (h : colon t = .ok r) : r.length < t.length := by
  unfold colon at h
  split at h
  · cases h
  · rename_i hs
    cases h
    exact length_lt_of_skipSpace hs
  · cases h

theorem length_lt_of_skipKey {t r : Text} (h : skipKey t = .ok r) : r.length < t.length := by
  unfold skipKey at h
  split at h
  · cases h
  · split at h
    · cases h
    · rename_i hq
      have := length_lt_of_skipQuotedFrom hq
      have := length_lt_of_colon h
      simp only [List.length_cons]
      omega
  · cases h

/-! ## Turns of the pass -/

/-- What is expected inside a bracket where something has to follow. -/
def Bracket.expected : Bracket → Expected
  | .array => .value
  | .object => .key

/-- A turn of the pass, from one place to another, that takes a part of the text. -/
inductive Turn : Expected → List Bracket → Text → Expected → List Bracket → Text → Prop
  | scalar {opened : List Bracket} {t r : Text} :
      skipScalar (skipSpace t) = .ok r → Turn .value opened t .next opened r
  | opening {b : Bracket} {opened : List Bracket} {t r : Text} :
      skipSpace t = b.opener :: r → Turn .value opened t .first (b :: opened) r
  | key {opened : List Bracket} {t r : Text} :
      skipKey (skipSpace t) = .ok r → Turn .key opened t .value opened r
  | comma {b : Bracket} {opened : List Bracket} {t r : Text} :
      skipSpace t = ',' :: r → Turn .next (b :: opened) t b.expected (b :: opened) r
  | closing {b : Bracket} {opened : List Bracket} {t r : Text} :
      skipSpace t = b.closer :: r → Turn .next (b :: opened) t .next opened r
  | firstClosing {b : Bracket} {opened : List Bracket} {t r : Text} :
      skipSpace t = b.closer :: r → Turn .first (b :: opened) t .next opened r

section Turn

variable {e e' : Expected} {opened opened' : List Bracket} {t r : Text}

theorem Turn.length_lt (h : Turn e opened t e' opened' r) : r.length < t.length := by
  cases h with
  | scalar h => exact (length_lt_of_skipScalar h).trans_le (length_skipSpace_le t)
  | key h => exact (length_lt_of_skipKey h).trans_le (length_skipSpace_le t)
  | opening h => exact length_lt_of_skipSpace h
  | comma h => exact length_lt_of_skipSpace h
  | closing h => exact length_lt_of_skipSpace h
  | firstClosing h => exact length_lt_of_skipSpace h

theorem skipFrom_of_turn (h : Turn e opened t e' opened' r) (turns : Nat) :
    skipFrom (turns + 1) e opened t = skipFrom turns e' opened' r := by
  cases h with
  | scalar h =>
    rw [skipFrom]
    -- a scalar does not begin with a bracket
    split
    · rename_i hs
      rw [hs] at h
      cases h
    · rename_i hs
      rw [hs] at h
      cases h
    · rw [h]
  | @opening b _ _ _ h => cases b <;> simp only [skipFrom, h, Bracket.opener]
  | key h => rw [skipFrom, h]
  | @comma b _ _ _ h => cases b <;> simp [skipFrom, h, Bracket.expected]
  | @closing b _ _ _ h => cases b <;> simp [skipFrom, h, Bracket.closer]
  | @firstClosing b _ _ _ h => cases b <;> simp [skipFrom, h, Bracket.closer]

end Turn

theorem skipFrom_skipSpace (turns : Nat) (b : Bracket) (opened : List Bracket) (t : Text) :
    skipFrom turns b.expected opened (skipSpace t) = skipFrom turns b.expected opened t := by
  cases turns with
  | zero => rfl
  | succ turns => cases b <;> simp only [Bracket.expected, skipFrom, skipSpace_skipSpace]

theorem skipFrom_first {b : Bracket} {c : Char} {t u : Text} (h : skipSpace t = c :: u)
    (hc : c ≠ b.closer) (turns : Nat) (opened : List Bracket) :
    skipFrom (turns + 1) .first (b :: opened) t = skipFrom turns b.expected (b :: opened) t := by
  rw [← skipFrom_skipSpace turns]
  cases b with
  | array =>
    have hc : c ≠ ']' := hc
    simp [skipFrom, h, hc, Bracket.expected]
  | object =>
    have hc : c ≠ '}' := hc
    simp [skipFrom, h, hc, Bracket.expected]

/-! ## Heads -/

theorem head_of_skipScalar {t r : Text} (h : skipScalar t = .ok r) :
    ∃ c u, t = c :: u ∧ ∀ b : Bracket, c ≠ b.closer := by
  cases t with
  | nil => cases h
  | cons c u =>
    refine ⟨c, u, rfl, ?_⟩
    rintro b rfl
    cases b <;> cases h

theorem head_of_skipKey {t r : Text} (h : skipKey t = .ok r) : ∃ u, t = '"' :: u := by
  unfold skipKey at h
  split at h
  · cases h
  · exact ⟨_, rfl⟩
  · cases h

theorem head_of_begins {form : Form} {t r : Text} (h : Begins form t r) :
    ∃ c u, skipSpace t = c :: u ∧ ∀ b : Bracket, c ≠ b.closer := by
  have label : ∀ {b : Bracket} {t u : Text}, Labelled b t u →
      (∃ c v, skipSpace u = c :: v ∧ ∀ b : Bracket, c ≠ b.closer) →
      ∃ c v, skipSpace t = c :: v ∧ ∀ b : Bracket, c ≠ b.closer := by
    intro b t u hl hu
    cases hl with
    | item => exact hu
    | member hk =>
      obtain ⟨v, hv⟩ := head_of_skipKey hk
      exact ⟨'"', v, hv, fun b => by cases b <;> decide⟩
  induction h with
  | scalar h => exact head_of_skipScalar h
  | @empty b _ _ _ h _ => exact ⟨_, _, h, fun b' => by cases b <;> cases b' <;> decide⟩
  | @container b _ _ _ h _ _ => exact ⟨_, _, h, fun b' => by cases b <;> cases b' <;> decide⟩
  | last hl _ _ ih => exact label hl ih
  | more hl _ _ _ ih _ => exact label hl ih

/-! ## Crossing -/

/-- A run of the pass from one place to another that takes at most two turns for each character. -/
def Crosses (e : Expected) (opened : List Bracket) (t : Text) (e' : Expected)
    (opened' : List Bracket) (r : Text) : Prop :=
  ∃ cost, cost + 2 * r.length ≤ 2 * t.length ∧
    ∀ turns, skipFrom (turns + cost) e opened t = skipFrom turns e' opened' r

namespace Crosses

variable {e e' e'' : Expected} {opened opened' opened'' : List Bracket} {t u r : Text}

theorem refl : Crosses e opened t e opened t := ⟨0, by omega, fun _ => rfl⟩

theorem trans (h : Crosses e opened t e' opened' u) (h' : Crosses e' opened' u e'' opened'' r) :
    Crosses e opened t e'' opened'' r := by
  obtain ⟨m, hm, hrun⟩ := h
  obtain ⟨n, hn, hrun'⟩ := h'
  refine ⟨n + m, by omega, fun turns => ?_⟩
  rw [← Nat.add_assoc, hrun, hrun']

theorem turn (h : Turn e opened t e' opened' r) : Crosses e opened t e' opened' r := by
  have hlen := h.length_lt
  exact ⟨1, by omega, skipFrom_of_turn h⟩

end Crosses

theorem crosses_label {b : Bracket} {t u : Text} (h : Labelled b t u) (opened : List Bracket) :
    Crosses b.expected opened t .value opened u := by
  cases h with
  | item => exact .refl
  | member hk => exact .turn (.key hk)

/-- A container that is opened and not empty: the second turn looks at its first element without
taking a character. -/
theorem crosses_open {b : Bracket} {t u r : Text} (h : skipSpace t = b.opener :: u)
    (hu : Begins (.inside b) u r) (opened : List Bracket) :
    Crosses .value opened t b.expected (b :: opened) u := by
  obtain ⟨c, v, hv, hc⟩ := head_of_begins hu
  have hlen := length_lt_of_skipSpace h
  refine ⟨2, by omega, fun turns => ?_⟩
  rw [skipFrom_of_turn (.opening h), skipFrom_first hv (hc b)]

/-- Where the pass stands at a form, and which brackets it is inside of. -/
def Form.expected : Form → Expected
  | .value => .value
  | .inside b => b.expected

def Form.opened : Form → List Bracket
  | .value => []
  | .inside b => [b]

theorem crosses_of_begins {form : Form} {t r : Text} (h : Begins form t r) (opened : List Bracket) :
    Crosses form.expected (form.opened ++ opened) t .next opened r := by
  induction h generalizing opened with
  | scalar h => exact .turn (.scalar h)
  | empty h hr => exact .trans (.turn (.opening h)) (.turn (.firstClosing hr))
  | container h hu ih => exact (crosses_open h hu opened).trans (ih opened)
  | @last b _ _ _ _ hl _ hr ih =>
    exact (crosses_label hl _).trans ((ih (b :: opened)).trans (.turn (.closing hr)))
  | @more b _ _ _ _ _ hl _ hw _ ih ihw =>
    refine (crosses_label hl _).trans ((ih (b :: opened)).trans (.trans ?_ (ihw opened)))
    exact .turn (.comma hw)

theorem skipValue_of_begins {t r : Text} (h : Begins .value t r) : skipValue t = .ok r := by
  obtain ⟨cost, hcost, hrun⟩ := crosses_of_begins h []
  obtain ⟨turns, hturns⟩ := Nat.exists_eq_add_of_le (show cost + 1 ≤ 2 * t.length + 2 by omega)
  have hrun := hrun (turns + 1)
  rw [show turns + 1 + cost = 2 * t.length + 2 by omega] at hrun
  exact hrun

theorem length_le_of_labelled {b : Bracket} {t u : Text} (h : Labelled b t u) :
    u.length ≤ t.length := by
  cases h with
  | item => exact Nat.le_refl _
  | member hk => exact ((length_lt_of_skipKey hk).trans_le (length_skipSpace_le t)).le

theorem length_lt_of_begins {form : Form} {t r : Text} (h : Begins form t r) :
    r.length < t.length := by
  induction h with
  | scalar h => exact (length_lt_of_skipScalar h).trans_le (length_skipSpace_le _)
  | empty h hr => exact (length_lt_of_skipSpace hr).trans (length_lt_of_skipSpace h)
  | container h _ ih => exact ih.trans (length_lt_of_skipSpace h)
  | last hl _ hr ih =>
    exact (length_lt_of_skipSpace hr).trans (ih.trans_le (length_le_of_labelled hl))
  | more hl _ hw _ ih ihw =>
    have hv := ih.trans_le (length_le_of_labelled hl)
    exact ihw.trans ((length_lt_of_skipSpace hw).trans hv)

end Json
end CitedReply
