import CitedReply.Message
import CitedReply.Proofs.Text.Trimming

/-!
# CitedReply.Proofs.Message

The messages that a long text is split into: how long they are, and which of them show nothing.

A message ends at the last break of its window, wherever the text begins that can be seen. So white
space that a message starts with, with a break in it and a long stretch without one behind it, goes
alone.

* `byteSize_of_mem_split`, `byteSize_truncate_le`: no message is longer than the limit.
* `isBlank_piece_iff`: when a message shows nothing.
* `split_flatten_of_split`: each message is the first one of what is left to be sent.
* `feed_mem_split`: one that shows nothing, between two long stretches.
-/

namespace CitedReply
namespace Message

/-! ## Length -/

theorem byteSize_window_le (max : Nat) (t : Text) : Text.byteSize (window max t).1 ≤ max := by
  induction t generalizing max with
  | nil => simp [window]
  | cons c r ih =>
    simp only [window]
    split
    · have := ih (max - c.utf8Size)
      simp only [Text.byteSize_cons]
      omega
    · simp

theorem window_append_of_fits {max : Nat} {u : Text} (h : Text.byteSize u ≤ max) (v : Text) :
    window max (u ++ v) =
      (u ++ (window (max - Text.byteSize u) v).1, (window (max - Text.byteSize u) v).2) := by
  induction u generalizing max with
  | nil => simp
  | cons c u ih =>
    rw [Text.byteSize_cons] at h
    have hrest : max - c.utf8Size - Text.byteSize u = max - (c.utf8Size + Text.byteSize u) := by
      omega
    rw [List.cons_append, window, if_pos (by omega), ih (by omega), Text.byteSize_cons, hrest]
    rfl

/-- No character has more than four bytes. -/
theorem window_ne_nil {max : Nat} (h : 4 ≤ max) (c : Char) (r : Text) :
    (window max (c :: r)).1 ≠ [] := by
  have hc := c.utf8Size_le_four
  simp [window, show c.utf8Size ≤ max by omega]

theorem byteSize_first_le {max : Nat} (h : 4 ≤ max) (c : Char) (r : Text) :
    Text.byteSize (first max c r) ≤ max := by
  have hc := c.utf8Size_le_four
  unfold first
  split
  · simp only [Text.byteSize_cons, Text.byteSize_nil]
    omega
  · exact (Text.byteSize_le_of_prefix (prefix_atBreak _)).trans (byteSize_window_le max (c :: r))

theorem byteSize_of_mem_split {max : Nat} (h : 4 ≤ max) (t : Text) :
    ∀ piece ∈ split max t, Text.byteSize piece ≤ max := by
  fun_induction split max t with
  | case1 => intro piece hp; cases hp
  | case2 c r hfits =>
    intro piece hp
    have hwhole := window_append max (c :: r)
    rw [hfits, List.append_nil] at hwhole
    rw [List.mem_singleton.1 hp, ← hwhole]
    exact byteSize_window_le max (c :: r)
  | case3 c r _ ih =>
    intro piece hp
    rcases List.mem_cons.1 hp with rfl | hp
    · exact byteSize_first_le h c r
    · exact ih piece hp

theorem byteSize_truncate_le {max : Nat} (h : 4 ≤ max) (t : Text) :
    Text.byteSize (truncate max t) ≤ max := by
  have hdots : Text.byteSize ellipsis = 4 := by decide
  unfold truncate
  split
  · assumption
  · have := byteSize_window_le (max - Text.byteSize ellipsis) t
    rw [Text.byteSize_append]
    omega

/-! ## Messages one by one -/

theorem split_cons (max : Nat) (c : Char) (r : Text) :
    split max (c :: r) =
      if (window max (c :: r)).2 = [] then [c :: r]
      else first max c r :: split max ((c :: r).drop (first max c r).length) := by
  rw [split]

/-- What is left of a text behind some of its messages is split as before. -/
theorem split_flatten_of_split {max : Nat} {t : Text} {sent left : List Text}
    (h : split max t = sent ++ left) : split max left.flatten = left := by
  induction sent generalizing t with
  | nil =>
    rw [List.nil_append] at h
    rw [← h, flatten_split]
  | cons p sent ih =>
    cases t with
    | nil => rw [split] at h; cases h
    | cons c r =>
      rw [split_cons] at h
      split at h
      · have hrest : [] = sent ++ left := (List.cons.inj h).2
        rw [(List.append_eq_nil_iff.1 hrest.symm).2]
        simp [split]
      · exact ih (List.cons.inj h).2

/-! ## Blank messages -/

/-- The first message of a text shows nothing: its window is blank, or the last break of the window
comes before anything that can be seen. -/
def CutsBlank (max : Nat) (t : Text) : Prop :=
  let w := (window max t).1
  let visible := Text.trimStart w
  visible = [] ∨
    (window max t).2 ≠ [] ∧ '\n' ∉ visible ∧ ('\n' ∈ w ∨ ' ' ∈ w ∧ ' ' ∉ visible)

theorem isBlank_throughLast_iff {c : Char} (hc : Text.isSpace c = true) {w p : Text}
    (h : Text.throughLast? c w = some p) :
    Text.isBlank p = true ↔ c ∉ Text.trimStart w := by
  obtain ⟨u, x, rfl, rfl, hx⟩ := Text.throughLast?_eq_some h
  have hp : Text.isBlank (u ++ [c]) = Text.isBlank u := by simp [Text.isBlank, hc]
  rw [hp, Text.trimStart_append]
  by_cases hu : Text.isBlank u = true
  · have hvisible : Text.trimStart (c :: x) = Text.trimStart x := by
      simp [Text.trimStart, hc]
    have hsuffix : Text.trimStart x <:+ x := List.dropWhile_suffix _
    rw [if_pos hu, hvisible]
    exact iff_of_true hu fun hm => hx (hsuffix.subset hm)
  · rw [if_neg hu]
    exact iff_of_false hu fun hm => hm (by simp)

theorem trimStart_eq_nil_iff {t : Text} : Text.trimStart t = [] ↔ Text.isBlank t = true := by
  rw [← Text.isEmpty_trimStart, List.isEmpty_iff]

theorem isBlank_atBreak_iff (w : Text) :
    Text.isBlank (atBreak w) = true ↔
      Text.trimStart w = [] ∨
        '\n' ∉ Text.trimStart w ∧ ('\n' ∈ w ∨ ' ' ∈ w ∧ ' ' ∉ Text.trimStart w) := by
  have hsuffix : Text.trimStart w <:+ w := List.dropWhile_suffix _
  unfold atBreak
  cases hn : Text.throughLast? '\n' w with
  | some p =>
    obtain ⟨u, x, -, hw, -⟩ := Text.throughLast?_eq_some hn
    have hmem : '\n' ∈ w := by simp [hw]
    rw [Option.getD_some, isBlank_throughLast_iff rfl hn]
    constructor
    · intro hv
      exact .inr ⟨hv, .inl hmem⟩
    · rintro (hv | ⟨hv, -⟩)
      · simp [hv]
      · exact hv
  | none =>
    have hno : '\n' ∉ w := Text.throughLast?_eq_none hn
    have hnov : '\n' ∉ Text.trimStart w := fun hm => hno (hsuffix.subset hm)
    rw [Option.getD_none]
    cases hs : Text.throughLast? ' ' w with
    | some p =>
      obtain ⟨u, x, -, hw, -⟩ := Text.throughLast?_eq_some hs
      have hmem : ' ' ∈ w := by simp [hw]
      rw [Option.getD_some, isBlank_throughLast_iff rfl hs]
      constructor
      · intro hv
        exact .inr ⟨hnov, .inr ⟨hmem, hv⟩⟩
      · rintro (hv | ⟨-, hm | ⟨-, hv⟩⟩)
        · simp [hv]
        · exact absurd hm hno
        · exact hv
    | none =>
      have hnos : ' ' ∉ w := Text.throughLast?_eq_none hs
      rw [Option.getD_none, ← trimStart_eq_nil_iff]
      constructor
      · exact .inl
      · rintro (hv | ⟨-, hm | ⟨hm, -⟩⟩)
        · exact hv
        · exact absurd hm hno
        · exact absurd hm hnos

theorem atBreak_ne_nil {w : Text} (h : w ≠ []) : atBreak w ≠ [] := by
  unfold atBreak
  cases hn : Text.throughLast? '\n' w with
  | some p => obtain ⟨u, x, rfl, -, -⟩ := Text.throughLast?_eq_some hn; simp
  | none =>
    cases hs : Text.throughLast? ' ' w with
    | some p => obtain ⟨u, x, rfl, -, -⟩ := Text.throughLast?_eq_some hs; simp
    | none => exact h

theorem first_of_atBreak {max : Nat} {c : Char} {r : Text}
    (h : atBreak (window max (c :: r)).1 ≠ []) :
    first max c r = atBreak (window max (c :: r)).1 := by
  unfold first
  split
  · rename_i hnil
    exact absurd hnil h
  · rfl

theorem first_eq_atBreak {max : Nat} (h : 4 ≤ max) (c : Char) (r : Text) :
    first max c r = atBreak (window max (c :: r)).1 :=
  first_of_atBreak (atBreak_ne_nil (window_ne_nil h c r))

/-- A message shows nothing exactly if it is cut off what is left of the text before anything that
can be seen. -/
theorem isBlank_piece_iff {max : Nat} (h : 4 ≤ max) {t piece : Text} {later : List Text}
    (hs : split max t = piece :: later) : Text.isBlank piece = true ↔ CutsBlank max t := by
  cases t with
  | nil => rw [split] at hs; cases hs
  | cons c r =>
    unfold CutsBlank
    rw [split_cons] at hs
    split at hs
    · rename_i hfits
      have hwhole := window_append max (c :: r)
      rw [hfits, List.append_nil] at hwhole
      rw [← (List.cons.inj hs).1, hwhole, hfits, ← trimStart_eq_nil_iff]
      simp
    · rename_i hlong
      rw [← (List.cons.inj hs).1, first_eq_atBreak h, isBlank_atBreak_iff]
      simp only [ne_eq, hlong, not_false_eq_true, true_and]

/-- A text that does not fit is cut at the last break of its window. -/
theorem split_of_long {max : Nat} (h : 4 ≤ max) {t : Text} (ht : (window max t).2 ≠ []) :
    split max t =
      atBreak (window max t).1 :: split max (t.drop (atBreak (window max t).1).length) := by
  cases t with
  | nil => exact absurd rfl ht
  | cons c r => rw [split_cons, if_neg ht, first_eq_atBreak h]

theorem atBreak_of_no_break {w : Text} (hn : '\n' ∉ w) (hs : ' ' ∉ w) : atBreak w = w := by
  rw [atBreak, Text.throughLast?_of_not_mem hn, Text.throughLast?_of_not_mem hs]
  rfl

theorem atBreak_feed {u v : Text} (hv : '\n' ∉ v) : atBreak (u ++ '\n' :: v) = u ++ ['\n'] := by
  rw [atBreak, Text.throughLast?_of_last hv, Option.getD_some]

/-- A line feed behind a message that is full goes alone, if no other one follows soon enough. -/
theorem feed_mem_split {max : Nat} (h : 4 ≤ max) {u v : Text} (hu : Text.byteSize u = max)
    (hbreak : atBreak u = u) (hv : '\n' ∉ v) (hlong : max ≤ Text.byteSize v) :
    ['\n'] ∈ split max (u ++ '\n' :: v) := by
  have hone : Char.utf8Size '\n' = 1 := by decide
  have hfull : window max (u ++ '\n' :: v) = (u, '\n' :: v) := by
    rw [window_append_of_fits hu.le, hu, Nat.sub_self, window, if_neg (by omega), List.append_nil]
  have hnext : window max ('\n' :: v) =
      ('\n' :: (window (max - 1) v).1, (window (max - 1) v).2) := by
    rw [window, hone, if_pos (by omega)]
  have hrest : (window max ('\n' :: v)).2 ≠ [] := by
    intro hnil
    rw [hnext] at hnil
    have hwhole := window_append (max - 1) v
    have hle := byteSize_window_le (max - 1) v
    rw [hnil, List.append_nil] at hwhole
    rw [hwhole] at hle
    omega
  have halone : atBreak (window max ('\n' :: v)).1 = ['\n'] := by
    rw [hnext]
    have hsub : (window (max - 1) v).1 <+: v := ⟨_, window_append (max - 1) v⟩
    exact atBreak_feed (u := []) fun hm => hv (hsub.subset hm)
  rw [split_of_long h (by rw [hfull]; simp), hfull, hbreak, List.drop_left, split_of_long h hrest,
    halone]
  simp

end Message
end CitedReply
