import CitedReply.Text.Basic

/-!
# CitedReply.Text.Decimal

Decimal numerals: writing a natural number, and reading one that has to fit 64 bits.
-/

namespace CitedReply
namespace Text

def ofNat (n : Nat) : Text := Nat.toDigits 10 n

def digitValue (c : Char) : Nat := c.toNat - '0'.toNat

def natOfDigits (t : Text) : Nat := t.foldl (fun n c => 10 * n + digitValue c) 0

/-- Digits and nothing else, at least one of them. -/
def nat? (t : Text) : Option Nat :=
  if t ≠ [] ∧ t.all Char.isDigit then some (natOfDigits t) else none

def maxWord : Nat := Nat.pow 2 64 - 1

/-- An unsigned number of 64 bits, with or without a plus sign before it. -/
def word? (t : Text) : Option Nat :=
  let digits := match t with
    | '+' :: r => r
    | _ => t
  (nat? digits).filter (· ≤ maxWord)

end Text
end CitedReply
