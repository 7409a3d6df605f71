import CitedReply.Citation.Block
import CitedReply.Citation.Marker
import CitedReply.Text.Blank

/-!
# CitedReply.Frame.HoldBack

Half-arrived syntax at the end of a growing reply is not shown: what may become an opening tag, and
then what may become a marker.
-/

namespace CitedReply
namespace HoldBack

/-- Without the longest end that an opening tag starts with. A whole tag is not held back. -/
def withoutTag (t : Text) : Text :=
  let lengths := (List.range Block.openTag.length).reverse.filter (0 < ·)
  (lengths.findSome? fun n => Text.dropSuffix? (Block.openTag.take n) t).getD t

/-- The start of a marker: of its opener, or the opener and digits. -/
def isPartialMarker (t : Text) : Bool :=
  Text.startsWith t Marker.opener || (Text.dropPrefix? Marker.opener t).any (·.all Char.isDigit)

/-- The text before the last bracket, and the text from it on. -/
def atLastBracket? (t : Text) : Option (Text × Text) :=
  (Text.throughLast? '[' t).map fun p => (p.dropLast, t.drop (p.length - 1))

def withoutMarker (t : Text) : Text :=
  match atLastBracket? t with
  | some (before, tail) => if isPartialMarker tail then before else t
  | none => t

def holdBack (t : Text) : Text := Text.trimEnd (withoutMarker (withoutTag t))

end HoldBack
end CitedReply
