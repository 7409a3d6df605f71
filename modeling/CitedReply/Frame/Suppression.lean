import CitedReply.Citation.Block
import CitedReply.Citation.Marker

/-!
# CitedReply.Frame.Suppression

When a reply must not be shown yet: while a marker is unresolved, and, as long as the reply is still
growing, once a citations block has begun.
-/

namespace CitedReply
namespace Suppression

def hasBlock (raw : Text) : Bool := Text.contains Block.openTag raw

/-- A block has begun and none has ended. -/
def isIncomplete (raw : Text) : Bool := hasBlock raw && !Text.contains Block.closeTag raw

def isUnresolved (clean : Text) : Bool := !(Marker.ids clean).isEmpty

def applies (raw clean : Text) (streaming : Bool) : Bool :=
  isUnresolved clean || (streaming && hasBlock raw)

end Suppression
end CitedReply
