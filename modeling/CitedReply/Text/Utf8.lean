import CitedReply.Text.Basic

/-!
# CitedReply.Text.Utf8

UTF-8, written from a text and read back from bytes that may be damaged. Reading is a machine that
takes one byte at a time; each maximal start of a sequence that cannot be completed becomes one
replacement character.
-/

namespace CitedReply

abbrev Bytes := List UInt8

namespace Utf8

def encode (t : Text) : Bytes := t.flatMap String.utf8EncodeChar

def replacement : Char := '\uFFFD'

/-- Where the reader stands: between characters, or inside one with `left` bytes still to come, the
next of them from `lo` to `hi`, and `value` read so far. -/
inductive Place where
  | between
  | inside (left : Nat) (lo hi : UInt8) (value : Nat)

/-- The place after a byte that starts a sequence of several. The bounds of the second byte keep out
overlong forms, surrogates and everything above U+10FFFF. -/
def lead? (b : UInt8) : Option Place :=
  if 0xC2 ≤ b ∧ b ≤ 0xDF then some (.inside 1 0x80 0xBF (b.toNat % 32))
  else if b = 0xE0 then some (.inside 2 0xA0 0xBF 0)
  else if b = 0xED then some (.inside 2 0x80 0x9F 13)
  else if 0xE1 ≤ b ∧ b ≤ 0xEF then some (.inside 2 0x80 0xBF (b.toNat % 16))
  else if b = 0xF0 then some (.inside 3 0x90 0xBF 0)
  else if 0xF1 ≤ b ∧ b ≤ 0xF3 then some (.inside 3 0x80 0xBF (b.toNat % 8))
  else if b = 0xF4 then some (.inside 3 0x80 0x8F 4)
  else none

/-- Reads a byte between characters. What is read is kept last character first. -/
def start (read : Text) (b : UInt8) : Text × Place :=
  if b < 0x80 then (Char.ofNat b.toNat :: read, .between)
  else
    match lead? b with
    | some p => (read, p)
    | none => (replacement :: read, .between)

/-- Reads a byte. One that cannot continue the sequence ends it and is read afresh. -/
def step : Text × Place → UInt8 → Text × Place
  | (read, .between), b => start read b
  | (read, .inside left lo hi value), b =>
    if lo ≤ b ∧ b ≤ hi then
      let value := 64 * value + b.toNat % 64
      if left ≤ 1 then (Char.ofNat value :: read, .between)
      else (read, .inside (left - 1) 0x80 0xBF value)
    else start (replacement :: read) b

def decodeLossy (bytes : Bytes) : Text :=
  match bytes.foldl step ([], .between) with
  | (read, .between) => read.reverse
  | (read, .inside ..) => (replacement :: read).reverse

end Utf8
end CitedReply
