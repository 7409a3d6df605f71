import CitedReply.Text.Decimal
import CitedReply.Text.Hex

/-!
# CitedReply.Url.Ipv6

IPv6 addresses: eight groups of 16 bits, with at most one run of zeros left out when reading and the
longest run left out when writing; the last two groups may be an IPv4 address.
-/

namespace CitedReply
namespace Ipv6

/-- One to three digits without a leading zero, at most 255. -/
def byte? (t : Text) : Option Nat :=
  if t.length > 1 ∧ t.head? = some '0' then none else (Text.nat? t).filter (· ≤ 255)

/-- The two groups of an IPv4 address. -/
def dotted? (t : Text) : Option (List Nat) :=
  match (Text.fields '.' t).mapM byte? with
  | some [a, b, c, d] => some [256 * a + b, 256 * c + d]
  | _ => none

/-- One to four hexadecimal digits. -/
def group? (t : Text) : Option Nat :=
  if t = [] ∨ t.length > 4 ∨ t.any (fun c => (Text.hexValue? c).isNone) then none
  else some (Text.natOfHex t)

/-- Groups between colons. The last field may be an IPv4 address. -/
def groups? : List Text → Option (List Nat)
  | [] => some []
  | [t] => if '.' ∈ t then dotted? t else (group? t).map fun g => [g]
  | t :: ts => do
    let g ← group? t
    let gs ← groups? ts
    return g :: gs

def side? (t : Text) : Option (List Nat) := if t = [] then some [] else groups? (Text.fields ':' t)

/-- A double colon stands for at least one group of zeros. -/
def address? (t : Text) : Option (List Nat) :=
  match Text.cut? [':', ':'] t with
  | none => (side? t).filter (·.length = 8)
  | some (before, after) => do
    if '.' ∈ before then none
    let head ← side? before
    let tail ← side? after
    if head.length + tail.length < 8 then
      some (head ++ List.replicate (8 - head.length - tail.length) 0 ++ tail)
    else none

def hex (n : Nat) : Text := Nat.toDigits 16 n

def zeros (gs : List Nat) : Nat := (gs.takeWhile (· = 0)).length

/-- Where the longest run of zeros starts, the first of several, and how long it is. -/
def longestRun (gs : List Nat) : Nat × Nat :=
  (List.range gs.length).foldl
    (fun best i => if zeros (gs.drop i) > best.2 then (i, zeros (gs.drop i)) else best) (0, 0)

def joined (gs : List Nat) : Text := ((gs.map hex).intersperse [':']).flatten

/-- A single zero is written out. -/
def text (gs : List Nat) : Text :=
  let (start, length) := longestRun gs
  if length < 2 then joined gs
  else joined (gs.take start) ++ ':' :: ':' :: joined (gs.drop (start + length))

end Ipv6
end CitedReply
