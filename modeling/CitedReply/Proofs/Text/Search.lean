import CitedReply.Text.Basic
import Mathlib.Data.List.TakeWhile

/-!
# CitedReply.Proofs.Text.Search

Where a text is cut: at the last of its occurrences of a character, at the first of a piece, or at
each separator. What a text that grows keeps of all this.
-/

namespace CitedReply
namespace Text

theorem byteSize_le_of_prefix {s t : Text} (h : s <+: t) : byteSize s ≤ byteSize t := by
  obtain ⟨x, rfl⟩ := h
  rw [byteSize_append]
  exact Nat.le_add_right _ _

theorem byteSize_eq_zero_iff {t : Text} : byteSize t = 0 ↔ t = [] := by
  cases t with
  | nil => simp
  | cons c t =>
    have := c.utf8Size_pos
    simp only [byteSize_cons, List.cons_ne_nil, iff_false]
    omega

/-- Of two starts of a text the one with more bytes is the longer one. -/
theorem prefix_of_byteSize_le {s t u : Text} (hs : s <+: u) (ht : t <+: u)
    (h : byteSize s ≤ byteSize t) : s <+: t := by
  rcases List.prefix_or_prefix_of_prefix hs ht with hst | ⟨x, rfl⟩
  · exact hst
  · rw [byteSize_append] at h
    have hx : x = [] := byteSize_eq_zero_iff.1 (by omega)
    simp [hx]

theorem eq_of_byteSize_eq {s t u : Text} (hs : s <+: u) (ht : t <+: u)
    (h : byteSize s = byteSize t) : s = t :=
  (prefix_of_byteSize_le hs ht h.le).eq_of_length_le (prefix_of_byteSize_le ht hs h.ge).length_le

theorem byteSize_replicate (n : Nat) (c : Char) :
    byteSize (List.replicate n c) = n * c.utf8Size := by
  induction n with
  | zero => simp
  | succ n ih =>
    rw [List.replicate_succ, byteSize_cons, ih, Nat.succ_mul]
    omega

theorem throughLast?_eq_some {c : Char} {t p : Text} (h : throughLast? c t = some p) :
    ∃ u v, p = u ++ [c] ∧ t = u ++ c :: v ∧ c ∉ v := by
  have hr := List.takeWhile_append_dropWhile (p := (· != c)) (l := t.reverse)
  have hv : c ∉ t.reverse.takeWhile (· != c) := fun hm => by
    simpa using List.mem_takeWhile_imp hm
  unfold throughLast? at h
  split at h
  · cases h
  · rename_i hne
    cases h
    cases hd : t.reverse.dropWhile (· != c) with
    | nil => exact absurd hd hne
    | cons x r =>
      have hx : x = c := by
        have := List.head?_dropWhile_not (· != c) t.reverse
        rw [hd] at this
        simpa using this
      subst hx
      refine ⟨r.reverse, (t.reverse.takeWhile (· != x)).reverse, by simp, ?_, by simpa using hv⟩
      have := congrArg List.reverse hr
      rw [hd, List.reverse_append, List.reverse_reverse] at this
      simpa using this.symm

theorem throughLast?_eq_none {c : Char} {t : Text} (h : throughLast? c t = none) : c ∉ t := by
  unfold throughLast? at h
  split at h
  · rename_i hd
    intro hc
    have hall := List.dropWhile_eq_nil_iff.1 hd c (List.mem_reverse.2 hc)
    simp at hall
  · cases h

theorem throughLast?_of_not_mem {c : Char} {t : Text} (h : c ∉ t) : throughLast? c t = none := by
  cases hl : throughLast? c t with
  | none => rfl
  | some p =>
    obtain ⟨u, v, -, rfl, -⟩ := throughLast?_eq_some hl
    simp at h

theorem eq_of_last {c : Char} {u u' w w' : Text} (hw : c ∉ w) (hw' : c ∉ w')
    (h : u ++ c :: w = u' ++ c :: w') : u = u' ∧ w = w' := by
  induction u generalizing u' with
  | nil =>
    cases u' with
    | nil => exact ⟨rfl, (List.cons.inj h).2⟩
    | cons x u' =>
      have ht : w = u' ++ c :: w' := (List.cons.inj h).2
      exact absurd (by rw [ht]; simp) hw
  | cons x u ih =>
    cases u' with
    | nil =>
      have ht : u ++ c :: w = w' := (List.cons.inj h).2
      exact absurd (by rw [← ht]; simp) hw'
    | cons x' u' =>
      obtain ⟨hx, ht⟩ := List.cons.inj h
      obtain ⟨hu, hw⟩ := ih ht
      exact ⟨by rw [hx, hu], hw⟩

theorem throughLast?_of_last {c : Char} {u v : Text} (h : c ∉ v) :
    throughLast? c (u ++ c :: v) = some (u ++ [c]) := by
  cases hl : throughLast? c (u ++ c :: v) with
  | none => exact absurd (by simp) (throughLast?_eq_none hl)
  | some p =>
    obtain ⟨u', v', rfl, he, hv'⟩ := throughLast?_eq_some hl
    rw [(eq_of_last h hv' he).1]

/-! ## First occurrences -/

theorem dropPrefix?_eq_none_iff {p t : Text} : dropPrefix? p t = none ↔ ¬ p <+: t := by
  rw [Option.eq_none_iff_forall_ne_some]
  constructor
  · rintro h ⟨r, rfl⟩
    exact h r (dropPrefix?_append p r)
  · rintro h r hr
    exact h ⟨r, (dropPrefix?_eq_some_iff.1 hr).symm⟩

theorem cut?_eq_none_iff {p t : Text} : cut? p t = none ↔ ¬ p <:+: t := by
  induction t with
  | nil => simp [cut?, dropPrefix?_eq_none_iff]
  | cons c t ih =>
    rw [List.infix_cons_iff, not_or, ← dropPrefix?_eq_none_iff, ← ih]
    cases h : dropPrefix? p (c :: t) <;> simp [cut?, h]

/-- A piece whose first character does not come up in it again does not start before its own
occurrence and end inside it. -/
theorem cut?_append {a : Char} {q t : Text} (hq : a ∉ q) (ht : ¬ (a :: q) <:+: t) (r : Text) :
    cut? (a :: q) (t ++ a :: q ++ r) = some (t, r) := by
  induction t with
  | nil => simp [cut?, dropPrefix?]
  | cons c t ih =>
    rw [List.infix_cons_iff, not_or] at ht
    have hnone : dropPrefix? (a :: q) (c :: (t ++ a :: q ++ r)) = none := by
      rw [dropPrefix?_eq_none_iff]
      rintro ⟨s, hs⟩
      rw [List.cons_append, List.cons.injEq] at hs
      obtain ⟨rfl, hs⟩ := hs
      rw [List.append_assoc, List.append_eq_append_iff] at hs
      rcases hs with ⟨x, rfl, _⟩ | ⟨x, rfl, hx⟩
      · exact ht.1 ⟨x, rfl⟩
      · -- the piece would go on into its own occurrence, whose first character it would repeat
        cases x with
        | nil => exact ht.1 ⟨[], by simp⟩
        | cons y x =>
          obtain ⟨rfl, _⟩ := List.cons.inj hx
          exact hq (by simp)
    simp only [List.cons_append, cut?, hnone, ih ht.2, Option.map_some]

theorem cut?_append_of_some {p t a b : Text} (h : cut? p t = some (a, b)) (s : Text) :
    cut? p (t ++ s) = some (a, b ++ s) := by
  induction t generalizing a with
  | nil =>
    obtain ⟨r, hr, he⟩ := Option.map_eq_some_iff.1 h
    cases he
    obtain ⟨rfl, rfl⟩ := List.nil_eq_append_iff.1 (dropPrefix?_eq_some_iff.1 hr)
    cases s <;> rfl
  | cons c t ih =>
    simp only [List.cons_append, cut?] at h ⊢
    split at h
    · rename_i r hr
      cases h
      have hs : dropPrefix? p (c :: (t ++ s)) = some (b ++ s) := by
        rw [dropPrefix?_eq_some_iff, ← List.append_assoc, ← dropPrefix?_eq_some_iff.1 hr]
        rfl
      rw [hs]
    · rename_i hnone
      obtain ⟨⟨x, y⟩, hxy, he⟩ := Option.map_eq_some_iff.1 h
      cases he
      -- what follows `t` is too far away to complete `p` at the head
      have hlen : p.length ≤ (c :: t).length := by
        have := congrArg List.length (eq_of_cut?_eq_some hxy)
        simp only [List.length_append, List.length_cons] at this ⊢
        omega
      have hs : dropPrefix? p (c :: (t ++ s)) = none := by
        rw [dropPrefix?_eq_none_iff] at hnone ⊢
        exact fun hp => hnone (List.prefix_of_prefix_length_le hp (List.prefix_append (c :: t) s) hlen)
      rw [hs, ih hxy]
      rfl

/-- Before the place where a piece is cut out it does not come up. -/
theorem not_infix_of_cut? {p t a b : Text} (hp : p ≠ []) (h : cut? p t = some (a, b)) :
    ¬ p <:+: a := by
  intro hi
  obtain ⟨⟨x, y⟩, hxy⟩ := Option.ne_none_iff_exists'.1 fun hn => cut?_eq_none_iff.1 hn hi
  have hfirst := cut?_append_of_some hxy (p ++ b)
  rw [← List.append_assoc, ← eq_of_cut?_eq_some h, h] at hfirst
  obtain rfl : a = x := (Prod.mk.inj (Option.some.inj hfirst)).1
  have hlen := congrArg List.length (eq_of_cut?_eq_some hxy)
  simp only [List.length_append] at hlen
  have := List.length_pos_iff.2 hp
  omega

/-! ## Pieces without a character -/

theorem prefix_of_prefix_append_cons {c : Char} {z a b : Text} (hc : c ∉ z)
    (h : z <+: a ++ c :: b) : z <+: a := by
  rcases List.prefix_or_prefix_of_prefix h (List.prefix_append a (c :: b)) with ha | ⟨y, rfl⟩
  · exact ha
  · have hy : y <+: c :: b := (List.prefix_append_right_inj a).1 h
    cases y with
    | nil => exact ⟨[], by simp⟩
    | cons d y =>
      obtain ⟨r, hr⟩ := hy
      obtain ⟨rfl, _⟩ := List.cons.inj hr
      exact absurd (by simp) hc

theorem cut?_append_cons {c : Char} {z a : Text} (hc : c ∉ z) (ha : ¬ z <:+: a) (b : Text) :
    cut? z (a ++ c :: b) = (cut? z b).map fun m => (a ++ c :: m.1, m.2) := by
  induction a with
  | nil =>
    have hnone : dropPrefix? z (c :: b) = none := by
      rw [dropPrefix?_eq_none_iff]
      exact fun hp => ha (prefix_of_prefix_append_cons (a := []) hc hp).isInfix
    simp only [List.nil_append, cut?, hnone]
  | cons x a ih =>
    rw [List.infix_cons_iff, not_or] at ha
    have hnone : dropPrefix? z (x :: (a ++ c :: b)) = none := by
      rw [dropPrefix?_eq_none_iff]
      exact fun hp => ha.1 (prefix_of_prefix_append_cons hc hp)
    simp only [List.cons_append, cut?, hnone, ih ha.2, Option.map_map]
    rfl

theorem infix_append_cons_iff {c : Char} {z a b : Text} (hc : c ∉ z) :
    z <:+: a ++ c :: b ↔ z <:+: a ∨ z <:+: b := by
  constructor
  · intro h
    by_cases ha : z <:+: a
    · exact .inl ha
    · rw [← not_not (a := z <:+: a ++ c :: b), ← cut?_eq_none_iff, cut?_append_cons hc ha,
        Option.map_eq_none_iff, cut?_eq_none_iff, not_not] at h
      exact .inr h
  · rintro (h | h)
    · exact h.trans (List.prefix_append a _).isInfix
    · exact h.trans ⟨a ++ [c], [], by simp⟩

theorem infix_cons_iff_of_not_mem {c : Char} {z b : Text} (hc : c ∉ z) (hz : z ≠ []) :
    z <:+: c :: b ↔ z <:+: b := by
  have h := infix_append_cons_iff (a := []) (b := b) hc
  rw [List.nil_append, List.infix_nil] at h
  rw [h, or_iff_right hz]

theorem infix_append_iff_of_not_mem {a : Char} {q u r : Text} (h : a ∉ u) :
    (a :: q) <:+: u ++ r ↔ (a :: q) <:+: r := by
  induction u with
  | nil => rfl
  | cons c u ih =>
    simp only [List.mem_cons, not_or] at h
    rw [List.cons_append, List.infix_cons_iff, ih h.2, or_iff_right_iff_imp]
    rintro ⟨s, hs⟩
    exact absurd (List.cons.inj hs).1 h.1

/-! ## Escaped texts -/

section Escape

variable {e : Char} {f : Char → Text}

theorem prefix_of_prefix_flatMap {z t : Text} (he : e ∉ z)
    (hf : ∀ c, f c = [c] ∨ ∃ u, f c = e :: u) (h : z <+: t.flatMap f) : z <+: t := by
  induction z generalizing t with
  | nil => exact List.nil_prefix
  | cons x z ih =>
    simp only [List.mem_cons, not_or] at he
    cases t with
    | nil => simp at h
    | cons c t =>
      rw [List.flatMap_cons] at h
      rcases hf c with hc | ⟨u, hc⟩
      · rw [hc, List.singleton_append, List.cons_prefix_cons] at h
        exact List.cons_prefix_cons.2 ⟨h.1, ih he.2 h.2⟩
      · rw [hc, List.cons_append, List.cons_prefix_cons] at h
        exact absurd h.1.symm he.1

/-- Where characters are written as they are or behind an `e`, a piece without `e` that is there
was there before, provided that no escape has its first character. -/
theorem infix_of_infix_flatMap {a : Char} {q t : Text} (he : e ∉ a :: q)
    (hf : ∀ c, f c = [c] ∨ ∃ u, f c = e :: u ∧ a ∉ u) (h : (a :: q) <:+: t.flatMap f) :
    (a :: q) <:+: t := by
  have hf' : ∀ c, f c = [c] ∨ ∃ u, f c = e :: u := fun c =>
    (hf c).imp_right fun ⟨u, hu, _⟩ => ⟨u, hu⟩
  induction t with
  | nil => exact h
  | cons c t ih =>
    rcases hf c with hc | ⟨u, hc, hu⟩
    · rw [List.flatMap_cons, hc, List.singleton_append, List.infix_cons_iff] at h
      rw [List.infix_cons_iff]
      refine h.imp (fun hp => ?_) ih
      refine prefix_of_prefix_flatMap he hf' ?_
      rwa [List.flatMap_cons, hc, List.singleton_append]
    · rw [List.flatMap_cons, hc, List.cons_append,
        infix_cons_iff_of_not_mem he (List.cons_ne_nil a q), infix_append_iff_of_not_mem hu] at h
      exact (ih h).trans (List.suffix_cons c t).isInfix

end Escape

/-! ## Lines -/

theorem fields_of_not_mem {sep : Char} {t : Text} (h : sep ∉ t) : fields sep t = [t] := by
  induction t with
  | nil => rfl
  | cons c t ih =>
    simp only [List.mem_cons, not_or] at h
    simp [fields, Ne.symm h.1, ih h.2]

theorem fields_ne_nil (sep : Char) (t : Text) : fields sep t ≠ [] := by
  cases t with
  | nil => exact List.cons_ne_nil _ _
  | cons c t =>
    rw [fields]
    split
    · exact List.cons_ne_nil _ _
    · split <;> exact List.cons_ne_nil _ _

theorem mem_of_mem_fields {sep c : Char} {f t : Text} (hf : f ∈ fields sep t) (hc : c ∈ f) :
    c ∈ t := by
  induction t generalizing f with
  | nil =>
    rw [List.mem_singleton.1 hf] at hc
    exact hc
  | cons x t ih =>
    rw [fields] at hf
    split at hf
    · rcases List.mem_cons.1 hf with rfl | hf
      · cases hc
      · exact List.mem_cons_of_mem x (ih hf hc)
    · split at hf
      · rw [List.mem_singleton.1 hf] at hc
        rw [List.mem_singleton.1 hc]
        exact List.mem_cons_self
      · rename_i g gs hg
        rw [hg] at ih
        rcases List.mem_cons.1 hf with rfl | hf
        · rcases List.mem_cons.1 hc with rfl | hc
          · exact List.mem_cons_self
          · exact List.mem_cons_of_mem x (ih List.mem_cons_self hc)
        · exact List.mem_cons_of_mem x (ih (List.mem_cons_of_mem g hf) hc)

theorem fields_append (sep : Char) (u v : Text) :
    fields sep (u ++ sep :: v) = fields sep u ++ fields sep v := by
  induction u with
  | nil => simp [fields]
  | cons c u ih =>
    by_cases h : c = sep
    · simp [fields, h, ih]
    · simp only [List.cons_append, fields, if_neg h, ih]
      cases hu : fields sep u with
      | nil => exact absurd hu (fields_ne_nil sep u)
      | cons f fs => rfl

end Text
end CitedReply
