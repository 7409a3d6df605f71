import CitedReply.Text.Decimal
import CitedReply.Text.Hex

/-!
# CitedReply.Url.Ipv4

IPv4 addresses as they may stand in a URL: one to four numbers, each decimal, octal or hexadecimal,
the last of them filling the bytes that are left.
-/

namespace CitedReply
namespace Ipv4

/-- The digits of a number and the base they are written in. -/
def radix : Text → Text × Nat
  | '0' :: 'x' :: r => (r, 16)
  | '0' :: 'X' :: r => (r, 16)
  | '0' :: c :: r => (c :: r, 8)
  | t => (t, 10)

/-- A number of any size. No digits after a prefix mean zero. -/
def number? (t : Text) : Option Nat :=
  let (ds, b) := radix t
  if t = [] then none
  else
    ds.foldlM (fun n c => ((Text.hexValue? c).filter (· < b)).map (b * n + ·)) 0

/-- The parts between the points; a point at the end ends the last part. -/
def parts (t : Text) : List Text :=
  match (Text.fields '.' t).reverse with
  | [] :: p :: ps => (p :: ps).reverse
  | ps => ps.reverse

/-- A host that ends in a number is an address or nothing. -/
def endsInNumber (t : Text) : Bool :=
  match (parts t).getLast? with
  | some p => p ≠ [] ∧ p.all Char.isDigit ∨ (number? p).isSome
  | none => false

def address? (t : Text) : Option Nat := do
  let ps := parts t
  if ps.length > 4 then none
  let ns ← ps.mapM number?
  let last ← ns.getLast?
  let heads := ns.dropLast
  if heads.any (· > 255) ∨ last ≥ Nat.pow 256 (4 - heads.length) then none
  some (heads.foldl (fun n b => 256 * n + b) 0 * Nat.pow 256 (4 - heads.length) + last)

def text (address : Nat) : Text :=
  let byte (i : Nat) := Text.ofNat (address / Nat.pow 256 i % 256)
  byte 3 ++ '.' :: byte 2 ++ '.' :: byte 1 ++ '.' :: byte 0

end Ipv4
end CitedReply
