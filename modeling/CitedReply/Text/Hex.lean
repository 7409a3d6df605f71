import CitedReply.Text.Basic

/-!
# CitedReply.Text.Hex

Hexadecimal digits.
-/

namespace CitedReply
namespace Text

/-- The digit of a number below 16, in lower case. -/
def hexDigit (n : Nat) : Char := if n < 10 then Char.ofNat (48 + n) else Char.ofNat (87 + n)

def hexValue? (c : Char) : Option Nat :=
  let n := c.toNat
  if 48 ≤ n ∧ n ≤ 57 then some (n - 48)
  else if 97 ≤ n ∧ n ≤ 102 then some (n - 87)
  else if 65 ≤ n ∧ n ≤ 70 then some (n - 55)
  else none

theorem hexValue?_hexDigit {n : Nat} (h : n < 16) : hexValue? (hexDigit n) = some n := by
  have all : ∀ n < 16, hexValue? (hexDigit n) = some n := by decide
  exact all n h

/-- The number that a run of hexadecimal digits denotes; anything else counts as a zero. -/
def natOfHex (t : Text) : Nat := t.foldl (fun n c => 16 * n + (hexValue? c).getD 0) 0

end Text
end CitedReply
