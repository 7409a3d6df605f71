import CitedReply.Text.Basic

/-!
# CitedReply.Link.Text

The text of a markdown link: brackets and backslashes stand for themselves behind a backslash.
-/

namespace CitedReply
namespace Link

def needsEscape (c : Char) : Bool := c = '[' || c = ']' || c = '\\'

def escape (t : Text) : Text := t.flatMap fun c => if needsEscape c then ['\\', c] else [c]

theorem escape_cons (c : Char) (t : Text) :
    escape (c :: t) = (if needsEscape c then ['\\', c] else [c]) ++ escape t := rfl

/-- What link text says. A backslash at its end stands for itself. -/
def unescape : Text → Text
  | '\\' :: c :: r => c :: unescape r
  | c :: r => c :: unescape r
  | [] => []

theorem unescape_escape (t : Text) : unescape (escape t) = t := by
  induction t with
  | nil => rfl
  | cons c t ih =>
    rw [escape_cons]
    by_cases h : needsEscape c = true
    · simp [h, unescape, ih]
    · have hc : c ≠ '\\' := by
        rintro rfl
        exact h rfl
      simp [h, unescape, hc, ih]

end Link
end CitedReply
