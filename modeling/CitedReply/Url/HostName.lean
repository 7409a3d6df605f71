import CitedReply.Unicode.Direction
import CitedReply.Unicode.HostMapping
import CitedReply.Unicode.Joining
import CitedReply.Unicode.Normal
import CitedReply.Url.Punycode

/-!
# CitedReply.Url.HostName

Host names in ASCII. A name in other characters is mapped and composed, its labels are checked, and
each label that is not ASCII is written in Punycode behind `xn--`. A label that comes with `xn--`
has to decode to one that mapping and composing would have left alone.
-/

namespace CitedReply
namespace HostName

/-- ASCII that no host name may hold. -/
def isForbidden (c : Char) : Bool :=
  c.toNat ≤ 0x20 || c.toNat = 0x7F || "%#/:<>?@[\\]^|".toList.contains c

/-- What becomes of a character, or `none` where it is refused. -/
def mapChar? (c : Char) : Option Text :=
  if Punycode.isAscii c then if isForbidden c then none else some [c.toLower]
  else (Unicode.hostForm? c).filter fun t => !t.any isForbidden

def mapped? (name : Text) : Option Text := do
  let parts ← name.mapM mapChar?
  return Unicode.normalize parts.flatten

/-- What a label that is not ASCII has to satisfy on its own. -/
def isSound (label : Text) : Bool :=
  !label.head?.any Unicode.isMark && Unicode.joinersAllowed [] label

/-- A label as it reads, and as it is written in ASCII. -/
structure Label where
  read : Text
  written : Text

def encodedMark : Text := "xn--".toList

/-- The longest labels, in characters, that are encoded and decoded. -/
def maxEncoded : Nat := 1000
def maxDecoded : Nat := 2000

def label? (t : Text) : Option Label :=
  match Text.dropPrefix? encodedMark t with
  | some code => do
    if code.length > maxDecoded then none
    let read ← Punycode.decode? code
    if read.all Punycode.isAscii ∨ mapped? read ≠ some read ∨ !isSound read then none
    else some ⟨read, t⟩
  | none =>
    if t.all Punycode.isAscii then some ⟨t, t⟩
    else if isSound t ∧ t.length ≤ maxEncoded then
      some ⟨t, encodedMark ++ Punycode.encode t⟩
    else none

/-- Where a label runs from right to left, all labels have to run one way. -/
def directionsAgree (labels : List Label) : Bool :=
  !labels.any (fun l => l.read.any Unicode.isRightToLeft) ||
    labels.all (fun l => Unicode.runsOneWay l.read)

/-- ASCII, and no label is encoded: such a name only has to be put in lower case. -/
def isPlain (name : Text) : Bool :=
  name.all Punycode.isAscii &&
    (Text.fields '.' name).all fun l => !Text.startsWith encodedMark (l.map Char.toLower)

/-- The name in ASCII, or `none` where it is no host name. -/
def toAscii? (name : Text) : Option Text :=
  if isPlain name then (name.mapM mapChar?).map List.flatten
  else do
    let name ← mapped? name
    let labels ← (Text.fields '.' name).mapM label?
    if directionsAgree labels then
      some ((labels.map (·.written)).intersperse ['.']).flatten
    else none

end HostName
end CitedReply
