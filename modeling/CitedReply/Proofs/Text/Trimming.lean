import CitedReply.Proofs.Text.Search
import CitedReply.Text.Blank

/-!
# CitedReply.Proofs.Text.Trimming

What trimming takes away, and what it does to a text that grows.

* `isPrefix_trim`: trimming keeps prefixes.
* `trimmed_trim`, `trim_of_trimmed`: a trimmed text has no white space at its ends, and a text with
  none is left alone.
-/

namespace CitedReply
namespace Text

theorem trimStart_eq (t : Text) : ∃ s, t = s ++ trimStart t ∧ ∀ c ∈ s, isSpace c = true :=
  ⟨t.takeWhile isSpace, List.takeWhile_append_dropWhile.symm, fun _ => List.mem_takeWhile_imp⟩

theorem trimEnd_eq (t : Text) : ∃ s, t = trimEnd t ++ s ∧ ∀ c ∈ s, isSpace c = true := by
  obtain ⟨s, hs, hsp⟩ := trimStart_eq t.reverse
  refine ⟨s.reverse, ?_, fun c hc => hsp c (List.mem_reverse.1 hc)⟩
  have := congrArg List.reverse hs
  rw [List.reverse_reverse, List.reverse_append] at this
  exact this

theorem isEmpty_trimStart (t : Text) : (trimStart t).isEmpty = isBlank t := by
  rw [Bool.eq_iff_iff, List.isEmpty_iff, trimStart, List.dropWhile_eq_nil_iff, isBlank,
    List.all_eq_true]

theorem trimStart_append (s x : Text) :
    trimStart (s ++ x) = if isBlank s then trimStart x else trimStart s ++ x := by
  rw [← isEmpty_trimStart]
  exact List.dropWhile_append

theorem trimEnd_append (s x : Text) :
    trimEnd (s ++ x) = if isBlank x then trimEnd s else s ++ trimEnd x := by
  have hb : (x.reverse.dropWhile isSpace).isEmpty = isBlank x := by
    have h := isEmpty_trimStart x.reverse
    rwa [isBlank, List.all_reverse] at h
  rw [trimEnd, List.reverse_append, List.dropWhile_append, hb]
  split
  · rfl
  · rw [List.reverse_append, List.reverse_reverse]
    rfl

theorem prefix_trimEnd (t : Text) : trimEnd t <+: t := by
  obtain ⟨s, hs, _⟩ := trimEnd_eq t
  exact ⟨s, hs.symm⟩

theorem isPrefix_trimEnd {s t : Text} (h : s <+: t) : trimEnd s <+: trimEnd t := by
  obtain ⟨x, rfl⟩ := h
  rw [trimEnd_append]
  split
  · exact List.prefix_refl _
  · exact (prefix_trimEnd s).trans (List.prefix_append s _)

theorem isPrefix_trimStart {s t : Text} (h : s <+: t) : trimStart s <+: trimStart t := by
  obtain ⟨x, rfl⟩ := h
  rw [trimStart_append]
  split
  · rename_i hb
    rw [← isEmpty_trimStart, List.isEmpty_iff] at hb
    rw [hb]
    exact List.nil_prefix
  · exact List.prefix_append _ x

theorem isPrefix_trim {s t : Text} (h : s <+: t) : trim s <+: trim t :=
  isPrefix_trimEnd (isPrefix_trimStart h)

theorem trim_of_isBlank {t : Text} (h : isBlank t = true) : trim t = [] := by
  have ht : trimStart t = [] := List.dropWhile_eq_nil_iff.2 (List.all_eq_true.1 h)
  rw [trim, ht]
  rfl

theorem trim_append_of_isBlank {x : Text} (h : isBlank x = true) (s : Text) :
    trim (s ++ x) = trim s := by
  rw [trim, trimStart_append]
  split
  · rename_i hs
    rw [trim_of_isBlank hs]
    exact trim_of_isBlank h
  · rw [trimEnd_append, if_pos h]
    rfl

theorem trim_cons {c : Char} (h : isSpace c = false) (t : Text) :
    trim (c :: t) = c :: trimEnd t := by
  have hstart : trimStart (c :: t) = [c] ++ t := by simp [trimStart, h]
  have hend : trimEnd [c] = [c] := by simp [trimEnd, h]
  rw [trim, hstart, trimEnd_append]
  split
  · rename_i hb
    have ht : trimEnd t = [] := by
      rw [isBlank, ← List.all_reverse] at hb
      rw [trimEnd, List.dropWhile_eq_nil_iff.2 (List.all_eq_true.1 hb)]
      rfl
    rw [hend, ht]
  · rfl

theorem trim_of_ends {a b : Char} (t : Text) (ha : isSpace a = false) (hb : isSpace b = false) :
    trim (a :: (t ++ [b])) = a :: (t ++ [b]) := by
  simp [trim, trimStart, trimEnd, ha, hb]

theorem trim_infix (t : Text) : trim t <:+: t := by
  obtain ⟨s, hs, _⟩ := trimStart_eq t
  have hsuffix : trimStart t <:+ t := ⟨s, hs.symm⟩
  exact (prefix_trimEnd _).isInfix.trans hsuffix.isInfix

theorem infix_trimStart_iff {z t : Text} (h : ∀ c ∈ z, isSpace c = false) :
    z <:+: trimStart t ↔ z <:+: t := by
  obtain ⟨s, hs, hsp⟩ := trimStart_eq t
  cases z with
  | nil => exact iff_of_true List.nil_infix List.nil_infix
  | cons a q =>
    have ha : a ∉ s := fun hm => by
      have hspace := hsp a hm
      rw [h a List.mem_cons_self] at hspace
      cases hspace
    conv => rhs; rw [hs, infix_append_iff_of_not_mem ha]

theorem infix_trimEnd_iff {z t : Text} (h : ∀ c ∈ z, isSpace c = false) :
    z <:+: trimEnd t ↔ z <:+: t := by
  have hrev : ∀ c ∈ z.reverse, isSpace c = false := fun c hc => h c (List.mem_reverse.1 hc)
  rw [← List.reverse_infix, trimEnd, List.reverse_reverse]
  exact (infix_trimStart_iff hrev).trans List.reverse_infix

/-- Trimming takes no piece away that has no white space. -/
theorem infix_trim_iff {z t : Text} (h : ∀ c ∈ z, isSpace c = false) :
    z <:+: trim t ↔ z <:+: t := by
  rw [trim, infix_trimEnd_iff h, infix_trimStart_iff h]

theorem isDigit_of_isSpace {c : Char} (h : isSpace c = true) : c.isDigit = false := by
  by_contra hd
  have hd : 48 ≤ c.toNat ∧ c.toNat ≤ 57 := by
    simpa [Char.isDigit, UInt32.le_iff_toNat_le] using hd
  simp only [isSpace, Bool.or_eq_true, Bool.and_eq_true, decide_eq_true_eq, beq_iff_eq] at h
  omega

/-- No white space at either end. -/
structure Trimmed (t : Text) : Prop where
  head : ∀ c, t.head? = some c → isSpace c = false
  last : ∀ c, t.getLast? = some c → isSpace c = false

theorem trim_of_trimmed {t : Text} (h : Trimmed t) : trim t = t := by
  have hstart : trimStart t = t := by
    cases t with
    | nil => rfl
    | cons c t => simp [trimStart, h.head c rfl]
  rw [trim, hstart, trimEnd]
  rcases List.eq_nil_or_concat t with rfl | ⟨u, c, rfl⟩
  · rfl
  · simp [h.last c (by simp)]

theorem trimmed_trim (t : Text) : Trimmed (trim t) := by
  constructor
  · intro c hc
    obtain ⟨s, hs⟩ := prefix_trimEnd (trimStart t)
    have hstart : (trimStart t).head? = some c := by
      rw [← hs, List.head?_append, show (trimEnd (trimStart t)).head? = some c from hc]
      rfl
    have := List.head?_dropWhile_not isSpace t
    rw [show (t.dropWhile isSpace).head? = some c from hstart] at this
    simpa using this
  · intro c hc
    have := List.head?_dropWhile_not isSpace (trimStart t).reverse
    rw [trim, trimEnd, List.getLast?_reverse] at hc
    rw [hc] at this
    simpa using this

end Text
end CitedReply
