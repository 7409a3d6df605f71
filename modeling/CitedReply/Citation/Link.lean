import CitedReply.Citation.Basic
import CitedReply.Link.Text

/-!
# CitedReply.Citation.Link

A citation written as a markdown link.
-/

namespace CitedReply
namespace Citation

/-- A parenthesis or white space would end a bare target early. -/
def needsAngles (url : Text) : Bool := url.any fun c => c = '(' || c = ')' || Text.isSpace c

def target (url : Text) : Text := if needsAngles url then '<' :: (url ++ ['>']) else url

def link (c : Citation) : Text :=
  '[' :: (Link.escape c.label ++ ']' :: '(' :: (target c.url ++ [')']))

end Citation
end CitedReply
