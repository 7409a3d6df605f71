import CitedReply.Proofs.Message
import CitedReply.Proofs.Text.Encoding

/-!
# CitedReply.Proofs.Splitting

The messages that a long text is split into, told from the text alone.

Nothing of the text is lost, and of each message but the last it is known where it ends: what is
left of the text is looked at through a window, which goes to the last place at or before the limit
that no character goes across, and the message goes to the last break in the window. That leaves no
choice (`Splits.eq_split`).

* `isWindow_iff`: what the window is.
* `breaks_iff`: where a message ends in its window.
* `split_determined`: a text is split in this way, and in no other one.
-/

namespace CitedReply
namespace Message

/-! ## The window -/

/-- The start of a text as far as the last place, at or before `max`, that no character goes
across. -/
structure IsWindow (max : Nat) (t w : Text) : Prop where
  start : w <+: t
  fits : Text.byteSize w ≤ max
  longest : ∀ place ≤ max, Utf8.IsBoundary (Utf8.encode t) place → place ≤ Text.byteSize w

theorem prefix_window (max : Nat) (t : Text) : (window max t).1 <+: t :=
  ⟨_, window_append max t⟩

/-- No start of the text that fits is longer than the window. -/
theorem prefix_window_of_fits {max : Nat} {t u : Text} (hu : u <+: t)
    (h : Text.byteSize u ≤ max) : u <+: (window max t).1 := by
  obtain ⟨v, rfl⟩ := hu
  rw [window_append_of_fits h]
  exact List.prefix_append u _

theorem isWindow_window (max : Nat) (t : Text) : IsWindow max t (window max t).1 := by
  refine ⟨prefix_window max t, byteSize_window_le max t, ?_⟩
  intro place hplace hb
  obtain ⟨u, hu, rfl⟩ := Utf8.isBoundary_iff.1 hb
  exact Text.byteSize_le_of_prefix (prefix_window_of_fits hu hplace)

theorem isWindow_iff {max : Nat} {t w : Text} : IsWindow max t w ↔ w = (window max t).1 := by
  constructor
  · rintro ⟨hstart, hfits, hlongest⟩
    have hle := hlongest _ (byteSize_window_le max t)
      (Utf8.isBoundary_iff.2 ⟨_, prefix_window max t, rfl⟩)
    have hge := Text.byteSize_le_of_prefix (prefix_window_of_fits hstart hfits)
    exact Text.eq_of_byteSize_eq hstart (prefix_window max t) (Nat.le_antisymm hge hle)
  · rintro rfl
    exact isWindow_window max t

theorem rest_eq_nil_iff {max : Nat} {t : Text} :
    (window max t).2 = [] ↔ Text.byteSize t ≤ max := by
  have hwhole := window_append max t
  constructor
  · intro h
    rw [h, List.append_nil] at hwhole
    rw [← hwhole]
    exact byteSize_window_le max t
  · intro h
    have hp := (prefix_window_of_fits (List.prefix_refl t) h).length_le
    have hlen := congrArg List.length hwhole
    rw [List.length_append] at hlen
    exact List.length_eq_zero_iff.1 (by omega)

/-! ## The break -/

/-- Where a message ends in its window: behind the last line feed; if there is none, behind the last
space; if there is none either, at the end. -/
inductive Breaks (w : Text) : Text → Prop where
  | feed {u v : Text} : w = u ++ '\n' :: v → '\n' ∉ v → Breaks w (u ++ ['\n'])
  | space {u v : Text} : '\n' ∉ w → w = u ++ ' ' :: v → ' ' ∉ v → Breaks w (u ++ [' '])
  | whole : '\n' ∉ w → ' ' ∉ w → Breaks w w

theorem breaks_atBreak (w : Text) : Breaks w (atBreak w) := by
  unfold atBreak
  cases hn : Text.throughLast? '\n' w with
  | some p =>
    obtain ⟨u, v, rfl, hw, hv⟩ := Text.throughLast?_eq_some hn
    exact .feed hw hv
  | none =>
    have hfeed := Text.throughLast?_eq_none hn
    cases hs : Text.throughLast? ' ' w with
    | some p =>
      obtain ⟨u, v, rfl, hw, hv⟩ := Text.throughLast?_eq_some hs
      exact .space hfeed hw hv
    | none => exact .whole hfeed (Text.throughLast?_eq_none hs)

theorem breaks_iff {w p : Text} : Breaks w p ↔ p = atBreak w := by
  constructor
  · intro h
    cases h with
    | feed hw hv => rw [hw, atBreak_feed hv]
    | space hfeed hw hv =>
      rw [atBreak, Text.throughLast?_of_not_mem hfeed, hw, Text.throughLast?_of_last hv]
      rfl
    | whole hfeed hspace => exact (atBreak_of_no_break hfeed hspace).symm
  · rintro rfl
    exact breaks_atBreak w

/-! ## The first message -/

/-- A character that is too wide for a message has one for itself all the same. -/
def TooWide (max : Nat) (p : Text) : Prop := ∃ c : Char, p = [c] ∧ max < c.utf8Size

theorem window_of_tooWide {max : Nat} {c : Char} (h : max < c.utf8Size) (r : Text) :
    window max (c :: r) = ([], c :: r) := by
  rw [window, if_neg (by omega)]

theorem first_of_tooWide {max : Nat} {c : Char} (h : max < c.utf8Size) (r : Text) :
    first max c r = [c] := by
  rw [first, window_of_tooWide h]
  rfl

theorem first_cases (max : Nat) (c : Char) (r : Text) :
    TooWide max (first max c r) ∨ first max c r = atBreak (window max (c :: r)).1 := by
  by_cases hc : max < c.utf8Size
  · exact .inl ⟨c, first_of_tooWide hc r, hc⟩
  · have hw : (window max (c :: r)).1 ≠ [] := by
      simp [window, show c.utf8Size ≤ max by omega]
    exact .inr (first_of_atBreak (atBreak_ne_nil hw))

theorem fits_first (max : Nat) (c : Char) (r : Text) :
    Text.byteSize (first max c r) ≤ max ∨ TooWide max (first max c r) := by
  rcases first_cases max c r with hwide | hbreak
  · exact .inr hwide
  · rw [hbreak]
    exact .inl ((Text.byteSize_le_of_prefix (prefix_atBreak _)).trans (byteSize_window_le max _))

/-- A message that is followed by another one is the first of a text that does not fit. -/
theorem split_eq_cons {max : Nat} {t p : Text} {left : List Text} (h : split max t = p :: left) :
    (p = t ∧ t ≠ [] ∧ left = [] ∧ Text.byteSize t ≤ max) ∨
      max < Text.byteSize t ∧ ∃ c r, t = c :: r ∧ p = first max c r := by
  cases t with
  | nil => rw [split] at h; cases h
  | cons c r =>
    rw [split_cons] at h
    split at h
    · rename_i hfits
      obtain ⟨rfl, rfl⟩ := List.cons.inj h
      exact .inl ⟨rfl, List.cons_ne_nil c r, rfl, rest_eq_nil_iff.1 hfits⟩
    · rename_i hlong
      rw [rest_eq_nil_iff, Nat.not_le] at hlong
      exact .inr ⟨hlong, c, r, rfl, (List.cons.inj h).1.symm⟩

/-! ## All messages -/

/-- What the messages are that a text is split into: pieces of it, cut between characters, none of
them empty and none too long unless it is one character. Each that another one follows is cut off
what is left of the text because that does not fit, at the break of its window. -/
structure Splits (max : Nat) (t : Text) (pieces : List Text) : Prop where
  flatten : pieces.flatten = t
  ne_nil : ∀ p ∈ pieces, p ≠ []
  boundary : ∀ sent left, pieces = sent ++ left →
    Utf8.IsBoundary (Utf8.encode t) (Text.byteSize sent.flatten)
  fits : ∀ p ∈ pieces, Text.byteSize p ≤ max ∨ TooWide max p
  broken : ∀ sent p left, pieces = sent ++ p :: left → left ≠ [] →
    max < Text.byteSize (p :: left).flatten ∧
      (TooWide max p ∨ ∃ w, IsWindow max (p :: left).flatten w ∧ Breaks w p)

theorem splits_split (max : Nat) (t : Text) : Splits max t (split max t) := by
  have hcut : ∀ p ∈ split max t, ∃ left, split max (p :: left).flatten = p :: left := by
    intro p hp
    obtain ⟨sent, left, hs⟩ := List.append_of_mem hp
    exact ⟨left, split_flatten_of_split hs⟩
  refine ⟨flatten_split max t, ?_, ?_, ?_, ?_⟩
  · intro p hp
    obtain ⟨left, hs⟩ := hcut p hp
    rcases split_eq_cons hs with ⟨h, hne, -⟩ | ⟨-, c, r, -, rfl⟩
    · exact h ▸ hne
    · exact first_ne_nil max c r
  · intro sent left hs
    exact Utf8.isBoundary_flatten (by rw [← hs, flatten_split])
  · intro p hp
    obtain ⟨left, hs⟩ := hcut p hp
    rcases split_eq_cons hs with ⟨h, -, -, hfits⟩ | ⟨-, c, r, -, rfl⟩
    · exact .inl (h ▸ hfits)
    · exact fits_first max c r
  · intro sent p left hs hleft
    rcases split_eq_cons (split_flatten_of_split hs) with ⟨-, -, hnil, -⟩ | ⟨hlong, c, r, ht, rfl⟩
    · exact absurd hnil hleft
    · refine ⟨hlong, ?_⟩
      rcases first_cases max c r with hwide | hbreak
      · exact .inl hwide
      · refine .inr ⟨_, isWindow_window max _, ?_⟩
        rw [ht, hbreak]
        exact breaks_atBreak _

/-- What is left behind the first message is split by itself. -/
theorem Splits.tail {max : Nat} {t p : Text} {left : List Text} (h : Splits max t (p :: left)) :
    Splits max left.flatten left := by
  refine ⟨rfl, ?_, ?_, ?_, ?_⟩
  · intro q hq
    exact h.ne_nil q (List.mem_cons_of_mem p hq)
  · rintro sent rest rfl
    exact Utf8.isBoundary_flatten rfl
  · intro q hq
    exact h.fits q (List.mem_cons_of_mem p hq)
  · intro sent q rest hs
    exact h.broken (p :: sent) q rest (by rw [hs]; rfl)

/-- The first message of a text that does not fit can be no other. -/
theorem Splits.head_eq {max : Nat} {c : Char} {r p : Text} {left : List Text}
    (h : Splits max (c :: r) (p :: left)) (hlong : max < Text.byteSize (c :: r)) :
    p = first max c r := by
  have hwhole : (p :: left).flatten = c :: r := h.flatten
  have hne := h.ne_nil p List.mem_cons_self
  have hwide : TooWide max p → p = first max c r := by
    rintro ⟨d, rfl, hd⟩
    obtain rfl : d = c := (List.cons.inj hwhole).1
    exact (first_of_tooWide hd r).symm
  by_cases hleft : left = []
  · subst hleft
    rw [List.flatten_singleton] at hwhole
    rcases h.fits p List.mem_cons_self with hfits | hp
    · rw [hwhole] at hfits
      omega
    · exact hwide hp
  · rcases (h.broken [] p left rfl hleft).2 with hp | ⟨w, hw, hp⟩
    · exact hwide hp
    · rw [hwhole] at hw
      rw [isWindow_iff.1 hw] at hp
      rw [breaks_iff.1 hp] at hne ⊢
      exact (first_of_atBreak hne).symm

/-- The induction is on the messages, the first of which is determined by what is left. -/
theorem Splits.eq_split {max : Nat} {t : Text} {pieces : List Text} (h : Splits max t pieces) :
    pieces = split max t := by
  induction pieces generalizing t with
  | nil =>
    obtain rfl : [] = t := h.flatten
    rw [split]
  | cons p left ih =>
    have hwhole : p ++ left.flatten = t := h.flatten
    have hne := h.ne_nil p List.mem_cons_self
    cases t with
    | nil => exact absurd (List.append_eq_nil_iff.1 hwhole).1 hne
    | cons c r =>
      rw [split_cons]
      by_cases hfits : Text.byteSize (c :: r) ≤ max
      · have hleft : left = [] := by
          by_contra hleft
          have hlong := (h.broken [] p left rfl hleft).1
          rw [h.flatten] at hlong
          omega
        subst hleft
        rw [if_pos (rest_eq_nil_iff.2 hfits), ← hwhole, List.flatten_nil, List.append_nil]
      · rw [if_neg (mt rest_eq_nil_iff.1 hfits), ← h.head_eq (by omega), ← hwhole, List.drop_left,
          ← ih h.tail]

/-- However small the limit, a text is split in this way, and in no other one. -/
theorem split_determined (max : Nat) (t : Text) :
    Splits max t (split max t) ∧ ∀ pieces, Splits max t pieces → pieces = split max t :=
  ⟨splits_split max t, fun _ h => h.eq_split⟩

/-- A space counts only in a window without a line feed, and a wide character goes alone. -/
example : split 3 "a\nb cdéé 😀e".toList =
    ["a\n".toList, "b ".toList, "cd".toList, "é".toList, "é ".toList, "😀".toList, "e".toList] := by
  decide +kernel

end Message
end CitedReply
