import CitedReply.Text.Hex

/-!
# CitedReply.Unicode.Table

Tables of character properties, kept as text: rows of the form `first-last/step:entry`, numbers in
hexadecimal, where `-last`, `/step` and `:entry` may be missing.
-/

namespace CitedReply
namespace Unicode

/-- Every `step`-th code point from `first` to `last`, and what the table says of them. -/
structure Row where
  first : Nat
  last : Nat
  step : Nat
  entry : Text

namespace Row

def splitAtSign (sign : Char) (t : Text) : Text × Text :=
  (Text.cut? [sign] t).getD (t, [])

def ofText (t : Text) : Row :=
  let (range, entry) := splitAtSign ':' t
  let (ends, step) := splitAtSign '/' range
  let (first, last) := splitAtSign '-' ends
  ⟨Text.natOfHex first, if last = [] then Text.natOfHex first else Text.natOfHex last,
    if step = [] then 1 else Text.natOfHex step, entry⟩

def ofSource (source : String) : List Row :=
  ((Text.lines source.toList).flatMap (Text.fields ' ')).filterMap fun t =>
    if t = [] then none else some (ofText t)

def covers (row : Row) (c : Char) : Bool :=
  row.first ≤ c.toNat && c.toNat ≤ row.last && (c.toNat - row.first) % row.step == 0

def list (row : Row) : Text :=
  (Text.fields ',' row.entry).map fun t => Char.ofNat (Text.natOfHex t)

/-- What an entry lists for `c`. A list of one is for the first code point of the row and moves
along with the others. -/
def target (row : Row) (c : Char) : Text :=
  match row.list with
  | [d] => [Char.ofNat (d.toNat + (c.toNat - row.first))]
  | ds => ds

end Row

def find? (rows : List Row) (c : Char) : Option Row := rows.find? (·.covers c)

end Unicode
end CitedReply
