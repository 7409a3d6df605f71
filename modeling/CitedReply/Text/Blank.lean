import CitedReply.Text.Basic

/-!
# CitedReply.Text.Blank

White space as Unicode's `White_Space` property has it, and trimming by it.
-/

namespace CitedReply
namespace Text

def isSpace (c : Char) : Bool :=
  let n := c.toNat
  (0x09 ≤ n && n ≤ 0x0D) || n == 0x20 || n == 0x85 || n == 0xA0 || n == 0x1680 ||
    (0x2000 ≤ n && n ≤ 0x200A) || n == 0x2028 || n == 0x2029 || n == 0x202F || n == 0x205F ||
    n == 0x3000

def trimStart (t : Text) : Text := t.dropWhile isSpace

def trimEnd (t : Text) : Text := (t.reverse.dropWhile isSpace).reverse

def trim (t : Text) : Text := trimEnd (trimStart t)

def isBlank (t : Text) : Bool := t.all isSpace

end Text
end CitedReply
