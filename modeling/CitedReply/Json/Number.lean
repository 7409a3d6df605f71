import CitedReply.Json.Basic
import CitedReply.Text.Decimal

/-!
# CitedReply.Json.Number

JSON numbers. `number` reads one and refuses those beyond the range of a double; `skipNumber` only
looks at the form. The range is decided on exact integers: `round` gives the nearest integer with
53 significant bits.
-/

namespace CitedReply
namespace Json

/-- The parts of a number as spelled. `mark` is the letter of the exponent and the sign after it, as
far as there are any. -/
structure Spelling where
  negative : Bool
  whole : Text
  fraction : Text
  mark : Text
  exponent : Text

/-- The nearest integer that 53 significant bits can hold; of two, the one with an even last bit. -/
def round (n : Nat) : Nat :=
  let excess := Nat.log2 n - 52
  let unit := Nat.pow 2 excess
  let q := n / unit
  let r := n % unit
  if 2 * r < unit ∨ (2 * r = unit ∧ q % 2 = 0) then q * unit else (q + 1) * unit

/-- Takes digits into a significand as long as it fits 64 bits; what is left over comes second. -/
def absorb (significand : Nat) : Text → Nat × Text
  | [] => (significand, [])
  | c :: cs =>
    let next := 10 * significand + Text.digitValue c
    if next ≤ Text.maxWord then absorb next cs else (significand, c :: cs)

namespace Spelling

def text (s : Spelling) : Text :=
  (if s.negative then ['-'] else []) ++ s.whole ++
    (if s.fraction = [] then [] else '.' :: s.fraction) ++ s.mark ++ s.exponent

def exponentNegative (s : Spelling) : Bool := s.mark.any (· = '-')

/-- Digits that no longer fit the significand still count before the point, and are dropped after
it. -/
def significand (s : Spelling) : Nat × Int :=
  let (whole, extra) := absorb 0 s.whole
  let (all, dropped) := absorb whole s.fraction
  (all, (extra.length : Int) - ((s.fraction.length - dropped.length : Nat) : Int))

def maxExponent : Nat := Nat.pow 2 31 - 1

/-- A double can hold it, rounded. -/
def inRange (s : Spelling) : Bool :=
  let (n, shift) := s.significand
  let e := Text.natOfDigits s.exponent
  if n = 0 ∨ s.exponentNegative ∧ e > maxExponent then true
  else if e > maxExponent then false
  else
    let scale := shift + (if s.exponentNegative then -(e : Int) else e)
    if scale > 308 then false
    else round (round n * round (Nat.pow 10 scale.toNat)) < Nat.pow 2 1024

end Spelling

/-- A digit is asked for where there is none. -/
def digitMissing (t : Text) : Fault := if t = [] then .truncated else .malformed

def digits (t : Text) : Result Text :=
  if t.takeWhile Char.isDigit = [] then .error (digitMissing t)
  else .ok (t.takeWhile Char.isDigit, t.dropWhile Char.isDigit)

/-- The whole part, which has no leading zero. -/
def wholePart (t : Text) : Result Text :=
  match t with
  | '0' :: r => if r.head?.any Char.isDigit then .error .malformed else .ok (['0'], r)
  | _ => digits t

def fractionPart : Text → Result Text
  | '.' :: r => digits r
  | t => .ok ([], t)

/-- The letter of an exponent with its sign, and what follows them. -/
def exponentMark : Text → Text × Text
  | [] => ([], [])
  | c :: r =>
    if c = 'e' ∨ c = 'E' then
      match r with
      | '+' :: r => ([c, '+'], r)
      | '-' :: r => ([c, '-'], r)
      | _ => ([c], r)
    else ([], c :: r)

def exponentPart (t : Text) : Result (Text × Text) :=
  match exponentMark t with
  | ([], r) => .ok (([], []), r)
  | (mark, r) => (digits r).map fun s => ((mark, s.1), s.2)

def sign : Text → Bool × Text
  | '-' :: r => (true, r)
  | t => (false, t)

def spelling (t : Text) : Result Spelling :=
  match wholePart (sign t).2 with
  | .error f => .error f
  | .ok (whole, t₁) =>
    match fractionPart t₁ with
    | .error f => .error f
    | .ok (fraction, t₂) =>
      match exponentPart t₂ with
      | .error f => .error f
      | .ok ((mark, exponent), t₃) => .ok (⟨(sign t).1, whole, fraction, mark, exponent⟩, t₃)

theorem eq_of_digits {t ds r : Text} (h : digits t = .ok (ds, r)) : ds ≠ [] ∧ t = ds ++ r := by
  unfold digits at h
  split at h
  · cases h
  · rename_i hd
    cases h
    exact ⟨hd, List.takeWhile_append_dropWhile.symm⟩

theorem eq_of_wholePart {t ds r : Text} (h : wholePart t = .ok (ds, r)) : t = ds ++ r := by
  unfold wholePart at h
  split at h
  · split at h
    · cases h
    · cases h; rfl
  · exact (eq_of_digits h).2

theorem eq_of_fractionPart {t ds r : Text} (h : fractionPart t = .ok (ds, r)) :
    t = (if ds = [] then [] else '.' :: ds) ++ r := by
  unfold fractionPart at h
  split at h
  · obtain ⟨hd, rfl⟩ := eq_of_digits h
    simp [hd]
  · cases h; rfl

theorem exponentMark_append (t : Text) : (exponentMark t).1 ++ (exponentMark t).2 = t := by
  unfold exponentMark
  split
  · rfl
  · split
    · split <;> rfl
    · rfl

theorem eq_of_exponentPart {t mark ds r : Text} (h : exponentPart t = .ok ((mark, ds), r)) :
    t = mark ++ ds ++ r := by
  have ht := exponentMark_append t
  unfold exponentPart at h
  split at h
  · rename_i hm
    cases h
    rw [hm] at ht
    exact ht.symm
  · rename_i mark' r' _ hm
    rw [hm] at ht
    cases hd : digits r' with
    | error f => rw [hd] at h; cases h
    | ok s =>
      rw [hd] at h
      cases h
      rw [← ht, (eq_of_digits hd).2, List.append_assoc]

theorem sign_append (t : Text) : (if (sign t).1 then ['-'] else []) ++ (sign t).2 = t := by
  unfold sign
  split <;> rfl

theorem eq_of_spelling {t r : Text} {s : Spelling} (h : spelling t = .ok (s, r)) :
    t = s.text ++ r := by
  simp only [spelling] at h
  split at h
  · cases h
  · rename_i whole t₁ hw
    split at h
    · cases h
    · rename_i fraction t₂ hf
      split at h
      · cases h
      · rename_i mark exponent t₃ he
        cases h
        have ht := sign_append t
        rw [eq_of_wholePart hw, eq_of_fractionPart hf, eq_of_exponentPart he] at ht
        simpa [Spelling.text] using ht.symm

/-- Reads a number and gives its spelling. -/
def number (t : Text) : Result Text :=
  match spelling t with
  | .error f => .error f
  | .ok (s, r) => if s.inRange then .ok (s.text, r) else .error .malformed

/-- Passes over a number of any size. A digit that is missing is a flaw of form even at the end. -/
def skipNumber (t : Text) : Except Fault Text :=
  match spelling t with
  | .ok (_, r) => .ok r
  | .error _ => .error .malformed

end Json
end CitedReply
