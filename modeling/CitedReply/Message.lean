import CitedReply.Text.Basic

/-!
# CitedReply.Message

Long texts and the limit on the length of a message: a finished reply is split over several
messages, a growing one is cut short. Lengths count bytes, and no character is ever split.
-/

namespace CitedReply
namespace Message

def limit : Nat := 1990

/-- The longest start of at most `max` bytes, and the rest. -/
def window (max : Nat) : Text → Text × Text
  | [] => ([], [])
  | c :: r =>
    if c.utf8Size ≤ max then
      let (w, rest) := window (max - c.utf8Size) r
      (c :: w, rest)
    else ([], c :: r)

theorem window_append (max : Nat) (t : Text) : (window max t).1 ++ (window max t).2 = t := by
  induction t generalizing max with
  | nil => rfl
  | cons c r ih =>
    simp only [window]
    split
    · simp [ih]
    · rfl

/-- The part of a window that makes a message: up to the last line feed, else up to the last space,
else all of it. -/
def atBreak (w : Text) : Text :=
  (Text.throughLast? '\n' w).getD ((Text.throughLast? ' ' w).getD w)

/-- The first message of a text that is too long. A character wider than `max` goes alone. -/
def first (max : Nat) (c : Char) (r : Text) : Text :=
  match atBreak (window max (c :: r)).1 with
  | [] => [c]
  | piece => piece

theorem first_ne_nil (max : Nat) (c : Char) (r : Text) : first max c r ≠ [] := by
  unfold first
  split
  · simp
  · rename_i h
    exact h

theorem prefix_atBreak (w : Text) : atBreak w <+: w := by
  unfold atBreak
  cases h : Text.throughLast? '\n' w with
  | some p => exact Text.prefix_of_throughLast? h
  | none =>
    cases h' : Text.throughLast? ' ' w with
    | some p => exact Text.prefix_of_throughLast? h'
    | none => exact List.prefix_refl w

theorem prefix_first (max : Nat) (c : Char) (r : Text) : first max c r <+: c :: r := by
  unfold first
  split
  · exact ⟨r, rfl⟩
  · exact (prefix_atBreak _).trans ⟨_, window_append max (c :: r)⟩

def split (max : Nat) (t : Text) : List Text :=
  match t with
  | [] => []
  | c :: r =>
    if (window max (c :: r)).2 = [] then [c :: r]
    else first max c r :: split max ((c :: r).drop (first max c r).length)
termination_by t.length
decreasing_by
  have := List.length_pos_iff.2 (first_ne_nil max c r)
  simp only [List.length_drop, List.length_cons]
  omega

theorem flatten_split (max : Nat) (t : Text) : (split max t).flatten = t := by
  fun_induction split max t with
  | case1 => rfl
  | case2 c r h => simp
  | case3 c r h ih =>
    obtain ⟨s, hs⟩ := prefix_first max c r
    rw [List.flatten_cons, ih]
    conv => lhs; rw [← hs, List.drop_left, hs]

def ellipsis : Text := ['\n', '.', '.', '.']

def truncate (max : Nat) (t : Text) : Text :=
  if Text.byteSize t ≤ max then t
  else (window (max - Text.byteSize ellipsis) t).1 ++ ellipsis

end Message
end CitedReply
