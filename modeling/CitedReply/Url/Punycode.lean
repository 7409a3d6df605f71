import CitedReply.Text.Basic

/-!
# CitedReply.Url.Punycode

Labels of a host name in ASCII: the ASCII characters first, then, as numbers of variable length,
where the other characters go and which they are.
-/

namespace CitedReply
namespace Punycode

def base : Nat := 36
def skew : Nat := 38
def damp : Nat := 700
def firstBias : Nat := 72
def firstPoint : Nat := 128

def isAscii (c : Char) : Bool := c.toNat < 128

/-- Letters count from 0, figures from 26. -/
def digit (n : Nat) : Char := if n < 26 then Char.ofNat (97 + n) else Char.ofNat (22 + n)

def digitValue? (c : Char) : Option Nat :=
  let n := c.toNat
  if 97 ≤ n ∧ n ≤ 122 then some (n - 97)
  else if 65 ≤ n ∧ n ≤ 90 then some (n - 65)
  else if 48 ≤ n ∧ n ≤ 57 then some (n - 22)
  else none

/-- The last digit of a number is one below the threshold of its place. -/
def threshold (place bias : Nat) : Nat :=
  if place ≤ bias then 1 else if bias + 26 ≤ place then 26 else place - bias

theorem threshold_pos (place bias : Nat) : 1 ≤ threshold place bias := by
  unfold threshold
  split <;> try split
  all_goals omega

/-- Halves a step by 35s until it is small, and says how often. -/
def shrink (step place : Nat) : Nat × Nat :=
  if 455 < step then shrink (step / 35) (place + base) else (step, place)
termination_by step
decreasing_by exact Nat.div_lt_self (by omega) (by omega)

/-- The bias for the number after a step over `points` characters. -/
def adapt (step points : Nat) (first : Bool) : Nat :=
  let scaled := if first then step / damp else step / 2
  let (small, place) := shrink (scaled + scaled / points) 0
  place + base * small / (small + skew)

def digits (bias place n : Nat) : Text :=
  let t := threshold place bias
  if n < t then [digit n]
  else digit (t + (n - t) % (base - t)) :: digits bias (place + base) ((n - t) / (base - t))
termination_by n
decreasing_by
  have := threshold_pos place bias
  exact Nat.lt_of_le_of_lt (Nat.div_le_self _ _) (by omega)

/-- The writer: what is written, the step so far, the bias, and how many characters are handled. -/
structure Writing where
  written : Text
  step : Nat
  bias : Nat
  handled : Nat

namespace Writing

/-- Passes a character while the code point `point` is handled, in a label with `plain` ASCII
characters. -/
def pass (plain point : Nat) (s : Writing) (c : Char) : Writing :=
  if c.toNat < point then { s with step := s.step + 1 }
  else if c.toNat = point then
    ⟨s.written ++ digits s.bias base s.step, 0, adapt s.step (s.handled + 1) (s.handled = plain),
      s.handled + 1⟩
  else s

/-- Handles a code point; the one before it was `s.2 - 1`. -/
def handle (label : Text) (plain : Nat) (s : Writing × Nat) (point : Nat) : Writing × Nat :=
  let ready := { s.1 with step := s.1.step + (point - s.2) * (s.1.handled + 1) }
  let done := label.foldl (pass plain point) ready
  ({ done with step := done.step + 1 }, point + 1)

end Writing

def encode (label : Text) : Text :=
  let plain := label.filter isAscii
  let points := (((label.filter (!isAscii ·)).map Char.toNat).eraseDups).mergeSort
  let start : Writing := ⟨[], 0, firstBias, plain.length⟩
  let (done, _) := points.foldl (Writing.handle label plain.length) (start, firstPoint)
  plain ++ (if plain = [] then [] else ['-']) ++ done.written

/-- The reader: the label so far, the code point and the position of the last character, the bias,
and the number that is being read: its value, the weight of the next digit and its place. -/
structure Reading where
  label : Text
  point : Nat
  position : Nat
  bias : Nat
  number : Nat
  weight : Nat
  place : Nat

namespace Reading

/-- Reads a digit. One below the threshold ends the number and puts a character in. -/
def digit? (s : Reading) (c : Char) : Option Reading := do
  let d ← digitValue? c
  let t := threshold s.place s.bias
  let number := s.number + d * s.weight
  if t ≤ d then
    return { s with number, weight := s.weight * (base - t), place := s.place + base }
  let size := s.label.length + 1
  let total := s.position + number
  let point := s.point + total / size
  if 0x10FFFF < point ∨ Char.ofNat point = '\x00' then none
  else
    let index := total % size
    return ⟨s.label.take index ++ Char.ofNat point :: s.label.drop index, point, index + 1,
      adapt number size (s.position = 0), 0, 1, base⟩

end Reading

def decode? (t : Text) : Option Text := do
  let (plain, rest) := match Text.throughLast? '-' t with
    | some ['-'] => ([], t)
    | some p => (p.dropLast, t.drop p.length)
    | none => ([], t)
  if plain.all isAscii then
    let s ← rest.foldlM Reading.digit? ⟨plain, firstPoint, 0, firstBias, 0, 1, base⟩
    if s.weight = 1 ∧ s.place = base then some s.label else none
  else none

end Punycode
end CitedReply
