import CitedReply.Proofs.Marker.Link

/-!
# CitedReply.Proofs.Link.Reading

The links of a text, found again where they were put.

A reader goes from left to right and takes the first link that it can read (`next?_of_readable`). In
the text of a link every bracket stands behind a backslash, so a link that starts inside another one
starts in its target, or stands behind a backslash or an exclamation mark (`before_of_opened`).

* `atHead?_text`: a link with a bare target is read as it was written.
* `mem_split`: a link that can be read is one of the links of its text, unless the reader comes to it
  in the target of another one.
-/

namespace CitedReply

theorem Citation.needsAngles_iff {url : Text} :
    needsAngles url = true ↔ ∃ x ∈ url, x = '(' ∨ x = ')' ∨ Text.isSpace x = true := by
  simp [needsAngles, or_assoc]

theorem Citation.needsAngles_eq_false_iff {url : Text} :
    needsAngles url = false ↔ ∀ x ∈ url, x ≠ '(' ∧ x ≠ ')' ∧ Text.isSpace x = false := by
  simp [needsAngles, and_assoc]

namespace Link

/-! ## What is read of a link -/

theorem label?_escape {t : Text} (h : '\n' ∉ t) (r : Text) :
    label? (escape t ++ ']' :: r) = some (escape t, r) := by
  induction t with
  | nil => rfl
  | cons c t ih =>
    simp only [List.mem_cons, not_or] at h
    rw [escape_cons]
    by_cases hc : needsEscape c = true
    · rw [if_pos hc]
      simp [label?, ih h.2]
    · rw [if_neg hc]
      simp only [needsEscape, Bool.or_eq_true, decide_eq_true_eq, not_or] at hc
      simp [label?, ih h.2, hc.1.1, hc.1.2, hc.2, Ne.symm h.1]

theorem label?_escape_of_feed {t : Text} (h : '\n' ∈ t) (r : Text) :
    label? (escape t ++ r) = none := by
  induction t with
  | nil => cases h
  | cons c t ih =>
    rw [escape_cons]
    by_cases hc : needsEscape c = true
    · have ht : '\n' ∈ t := by
        rcases List.mem_cons.1 h with rfl | ht
        · exact absurd hc (by decide)
        · exact ht
      rw [if_pos hc]
      simp [label?, ih ht]
    · rw [if_neg hc]
      by_cases hn : c = '\n'
      · simp [label?, hn]
      · have ht : '\n' ∈ t := (List.mem_cons.1 h).resolve_left (Ne.symm hn)
        simp only [needsEscape, Bool.or_eq_true, decide_eq_true_eq, not_or] at hc
        simp [label?, ih ht, hc.1.1, hc.1.2, hc.2, hn]

/-- A written link is read as far as its target, unless there is a line feed in its text. -/
theorem afterBracket?_escape (image : Bool) (t u : Text) :
    afterBracket? image (escape t ++ ']' :: '(' :: u) =
      if '\n' ∈ t then none
      else (target? u).map fun s => (⟨image, escape t, s.1, s.2.1⟩, s.2.2) := by
  unfold afterBracket?
  by_cases hf : '\n' ∈ t
  · rw [label?_escape_of_feed hf, if_pos hf]
  · rw [label?_escape hf, if_neg hf]
    rfl

theorem isSpace_of_isAsciiSpace {x : Char} (h : isAsciiSpace x = true) :
    Text.isSpace x = true := by
  simp only [isAsciiSpace, Bool.or_eq_true, decide_eq_true_eq] at h
  rcases h with (((rfl | rfl) | rfl) | rfl) | rfl <;> rfl

/-- An address that stands as a target without angle brackets. -/
def IsBare (href : Text) : Prop :=
  href ≠ [] ∧ href.head? ≠ some '<' ∧ ∀ c ∈ href, c ≠ '(' ∧ c ≠ ')' ∧ isAsciiSpace c = false

theorem isBare_of_needsAngles {url : Text} (h : Citation.needsAngles url = false) (hne : url ≠ [])
    (hhead : url.head? ≠ some '<') : IsBare url := by
  refine ⟨hne, hhead, ?_⟩
  intro c hc
  obtain ⟨hopen, hclose, hspace⟩ := Citation.needsAngles_eq_false_iff.1 h c hc
  refine ⟨hopen, hclose, ?_⟩
  rw [← Bool.not_eq_true]
  intro hs
  rw [isSpace_of_isAsciiSpace hs] at hspace
  cases hspace

theorem bareTarget?_append {href : Text}
    (h : ∀ c ∈ href, c ≠ '(' ∧ c ≠ ')' ∧ isAsciiSpace c = false) (r : Text) :
    bareTarget? 0 (href ++ ')' :: r) = some (href, r) := by
  induction href with
  | nil => rfl
  | cons c href ih =>
    obtain ⟨hopen, hclose, hspace⟩ := h c List.mem_cons_self
    have hrest := ih fun x hx => h x (List.mem_cons_of_mem c hx)
    simp [bareTarget?, hopen, hclose, hspace, hrest]

/-- What is read without angle brackets is not empty, and does not start like one with them. -/
theorem target?_bare_iff {t href r : Text} :
    target? t = some (false, href, r) ↔
      href ≠ [] ∧ href.head? ≠ some '<' ∧ bareTarget? 0 t = some (href, r) := by
  constructor
  · intro h
    unfold target? at h
    split at h
    · obtain ⟨s, -, hs⟩ := Option.map_eq_some_iff.1 h
      cases hs
    · rename_i hopen
      obtain ⟨s, hs, he⟩ := Option.map_eq_some_iff.1 h
      cases he
      obtain ⟨hread, hne⟩ := Option.filter_eq_some_iff.1 hs
      have hne : href ≠ [] := by simpa using hne
      refine ⟨hne, ?_, hread⟩
      intro hhead
      obtain ⟨c, href, rfl⟩ := List.exists_cons_of_ne_nil hne
      obtain rfl : c = '<' := Option.some.inj hhead
      exact hopen _ (eq_of_bareTarget? hread)
  · rintro ⟨hne, hhead, hread⟩
    obtain ⟨c, href, rfl⟩ := List.exists_cons_of_ne_nil hne
    have ht := eq_of_bareTarget? hread
    unfold target?
    split
    · obtain ⟨rfl, -⟩ := List.cons.inj ht
      exact absurd rfl hhead
    · simp [hread]

theorem target?_append {href : Text} (h : IsBare href) (r : Text) :
    target? (href ++ ')' :: r) = some (false, href, r) := by
  obtain ⟨hne, hhead, hall⟩ := h
  exact target?_bare_iff.2 ⟨hne, hhead, bareTarget?_append hall r⟩

theorem afterBracket?_append {t href : Text} (image : Bool) (ht : '\n' ∉ t) (hh : IsBare href)
    (r : Text) :
    afterBracket? image (escape t ++ ']' :: '(' :: (href ++ ')' :: r)) =
      some (⟨image, escape t, false, href⟩, r) := by
  rw [afterBracket?_escape, if_neg ht, target?_append hh, Option.map_some]

theorem atHead?_text {t href : Text} (ht : '\n' ∉ t) (hh : IsBare href) {before : Option Char}
    (hb : before ≠ some '\\') (r : Text) :
    atHead? before (text ⟨false, escape t, false, href⟩ ++ r) =
      some (⟨false, escape t, false, href⟩, r) := by
  have hs : text ⟨false, escape t, false, href⟩ ++ r =
      '[' :: (escape t ++ ']' :: '(' :: (href ++ ')' :: r)) := by
    simp [text, writtenTarget]
  rw [hs, atHead?, if_neg hb]
  exact afterBracket?_append false ht hh r

/-! ## The leftmost link -/

theorem getLast?_cons_or (c : Char) (t : Text) (before : Option Char) :
    (c :: t).getLast?.or before = t.getLast?.or (some c) := by
  rw [List.getLast?_cons]
  cases t.getLast? <;> rfl

/-- A link that can be read is found, unless another one is found before it. -/
theorem next?_of_readable {before : Option Char} {u v r : Text} {l : Link}
    (h : atHead? (u.getLast?.or before) v = some (l, r)) :
    ∃ gap l' r', next? before (u ++ v) = some (gap, l', r') ∧
      (gap = u ∧ l' = l ∧ r' = r ∨ gap.length < u.length) := by
  induction u generalizing before with
  | nil =>
    cases v with
    | nil => cases h
    | cons c v =>
      have hc : atHead? before (c :: v) = some (l, r) := h
      exact ⟨[], l, r, by rw [List.nil_append, next?, hc], .inl ⟨rfl, rfl, rfl⟩⟩
  | cons c u ih =>
    rw [List.cons_append, next?]
    cases hc : atHead? before (c :: (u ++ v)) with
    | some m => exact ⟨[], m.1, m.2, rfl, .inr (Nat.succ_pos _)⟩
    | none =>
      rw [getLast?_cons_or] at h
      obtain ⟨gap, l', r', hnext, hplace⟩ := ih h
      refine ⟨c :: gap, l', r', by rw [hnext]; rfl, ?_⟩
      rcases hplace with ⟨rfl, rfl, rfl⟩ | hlt
      · exact .inl ⟨rfl, rfl, rfl⟩
      · exact .inr (Nat.succ_lt_succ hlt)

theorem next?_of_no_bracket {before : Option Char} {t : Text} (h : '[' ∉ t) :
    next? before t = none := by
  cases hn : next? before t with
  | none => rfl
  | some m =>
    have ht := eq_of_next? hn
    exact absurd (by rw [ht]; simp [text]) h

theorem split_of_none {t : Text} (h : next? none t = none) : split t = ⟨[], t⟩ := by
  rw [split]
  split
  · rfl
  · rename_i h'
    rw [h] at h'
    cases h'

theorem split_of_next? {t gap rest : Text} {l : Link} (h : next? none t = some (gap, l, rest)) :
    split t = (split rest).push gap l := by
  conv => lhs; rw [split]
  split
  · rename_i h'
    rw [h] at h'
    cases h'
  · rename_i h'
    rw [h] at h'
    cases h'
    rfl

/-! ## Links in links -/

theorem Guarded.before_bracket {u v : Text} (h : Guarded (u ++ '[' :: v)) :
    u.getLast? = some '\\' := by
  generalize hx : u ++ '[' :: v = x at h
  induction h generalizing u with
  | nil => simp at hx
  | escaped c _ ih =>
    match u with
    | [] => cases hx
    | [d] =>
      obtain ⟨rfl, -⟩ := List.cons.inj hx
      rfl
    | d :: e :: u =>
      have hrest : u ++ '[' :: v = _ := (List.cons.inj (List.cons.inj hx).2).2
      have hlast := ih hrest
      rw [List.getLast?_cons_cons, List.getLast?_cons, hlast]
      rfl
  | plain hc _ _ _ ih =>
    cases u with
    | nil => exact absurd (List.cons.inj hx).1.symm hc
    | cons d u =>
      have hlast := ih (List.cons.inj hx).2
      rw [List.getLast?_cons, hlast]
      rfl

/-- A bracket in a link before its target is the first, or stands behind one of two characters. -/
theorem before_of_opened {l : Link} (h : Guarded l.label) {u v : Text}
    (hl : l.opened = u ++ '[' :: v) (hu : u ≠ []) :
    u.getLast? = some '\\' ∨ u.getLast? = some '!' := by
  have hlabel : ∀ w x, l.label ++ [']', '('] = w ++ '[' :: x → w.getLast? = some '\\' := by
    intro w x hw
    rcases List.append_eq_append_iff.1 hw with ⟨y, rfl, hy⟩ | ⟨y, hy, hx⟩
    · match y with
      | [] => cases hy
      | [_] => cases hy
      | [_, _] => cases hy
    · cases y with
      | nil => cases hx
      | cons d y =>
        obtain ⟨rfl, -⟩ := List.cons.inj hx
        rw [hy] at h
        exact h.before_bracket
  have hbracket : ∀ w x, '[' :: (l.label ++ [']', '(']) = w ++ '[' :: x →
      w = [] ∨ w.getLast? = some '\\' := by
    intro w x hw
    cases w with
    | nil => exact .inl rfl
    | cons d w =>
      have hlast := hlabel w x (List.cons.inj hw).2
      rw [List.getLast?_cons, hlast]
      exact .inr rfl
  unfold opened at hl
  cases hi : l.image with
  | false =>
    rw [hi] at hl
    rcases hbracket u v hl with rfl | hlast
    · exact absurd rfl hu
    · exact .inl hlast
  | true =>
    rw [hi] at hl
    cases u with
    | nil => exact absurd rfl hu
    | cons d u =>
      obtain ⟨rfl, hrest⟩ := List.cons.inj hl
      rcases hbracket u v hrest with rfl | hlast
      · exact .inr rfl
      · rw [List.getLast?_cons, hlast]
        exact .inl rfl

/-- Where the targets of links in a row are, by their first character and the one behind them. -/
def targets (offset : Nat) : List (Text × Link) → List (Nat × Nat)
  | [] => []
  | (gap, l) :: links =>
    let start := offset + gap.length + l.opened.length
    (start, start + (writtenTarget l.angled l.href).length) ::
      targets (offset + gap.length + l.text.length) links

/-- The character with so many before it is part of the target of a link. -/
def InTarget (t : Text) (place : Nat) : Prop :=
  ∃ r ∈ targets 0 (split t).links, r.1 ≤ place ∧ place < r.2

instance (t : Text) (place : Nat) : Decidable (InTarget t place) :=
  inferInstanceAs (Decidable (∃ r ∈ targets 0 (split t).links, r.1 ≤ place ∧ place < r.2))

/-- A bracket in a link that is not behind one of two characters is the first, or in the target. -/
theorem place_of_bracket {l : Link} (h : Guarded l.label) {u v : Text} (hl : l.text = u ++ '[' :: v)
    (hu : u ≠ []) (hbefore : u.getLast? ≠ some '\\' ∧ u.getLast? ≠ some '!') :
    l.opened.length ≤ u.length ∧
      u.length < l.opened.length + (writtenTarget l.angled l.href).length := by
  rw [text_eq_opened] at hl
  rcases List.append_eq_append_iff.1 hl with ⟨w, rfl, hw⟩ | ⟨w, ho, hw⟩
  · have hlen := congrArg List.length hw
    simp only [List.length_append, List.length_cons, List.length_nil] at hlen ⊢
    have hv : v ≠ [] := by
      rintro rfl
      have hlast := congrArg List.getLast? hw
      simp at hlast
    have := List.length_pos_iff.2 hv
    omega
  · cases w with
    | nil =>
      have hlen := congrArg List.length hw
      have hhead := congrArg List.head? hw
      simp only [List.length_append, List.length_cons, List.length_nil, List.nil_append] at hlen
      rw [List.append_nil] at ho
      rw [ho]
      cases ht : writtenTarget l.angled l.href with
      | nil => rw [ht] at hhead; cases hhead
      | cons d target => simp
    | cons d w =>
      obtain ⟨rfl, -⟩ := List.cons.inj hw
      rcases before_of_opened h ho hu with hlast | hlast
      · exact absurd hlast hbefore.1
      · exact absurd hlast hbefore.2

/-- Of two links that overlap, the later one starts in the target of the other. -/
theorem place_of_later {l l' : Link} (hi : l.image = false) (h : Guarded l'.label)
    {u after rest : Text} (he : l'.text ++ rest = u ++ (l.text ++ after)) (hu : u ≠ [])
    (hbefore : u.getLast? ≠ some '\\' ∧ u.getLast? ≠ some '!') :
    (l'.opened.length ≤ u.length ∧
        u.length < l'.opened.length + (writtenTarget l'.angled l'.href).length) ∨
      ∃ before, u = l'.text ++ before ∧ rest = before ++ (l.text ++ after) := by
  obtain ⟨x, hx⟩ : ∃ x, l.text = '[' :: x := ⟨_, by rw [text, hi]; rfl⟩
  rcases List.append_eq_append_iff.1 he with ⟨w, hw, hrest⟩ | ⟨w, hw, hrest⟩
  · exact .inr ⟨w, hw, hrest⟩
  · cases w with
    | nil => exact .inr ⟨[], by simpa using hw.symm, hrest.symm⟩
    | cons d w =>
      rw [hx] at hrest
      obtain ⟨rfl, -⟩ := List.cons.inj hrest
      exact .inl (place_of_bracket h hw hu hbefore)

theorem getLast?_append_of_some {s : Text} {x : Char} (h : s.getLast? = some x) (p : Text) :
    (p ++ s).getLast? = some x := by
  rw [List.getLast?_append, h]
  rfl

/-- A link that can be read wherever no backslash stands before it is one of the links of its text,
unless it stands behind one of two characters or in the target of another link. -/
theorem mem_split {l : Link} {after : Text} (hi : l.image = false)
    (hl : ∀ b, b ≠ some '\\' → atHead? b (l.text ++ after) = some (l, after)) {t before : Text}
    (ht : t = before ++ (l.text ++ after))
    (hbefore : before.getLast? ≠ some '\\' ∧ before.getLast? ≠ some '!') (offset : Nat)
    (hout : ∀ r ∈ targets offset (split t).links,
      ¬ (r.1 ≤ offset + before.length ∧ offset + before.length < r.2)) :
    ∃ gap, (gap, l) ∈ (split t).links := by
  induction t using split.induct generalizing before offset with
  | case1 t h =>
    obtain ⟨gap, l', rest, hnext, -⟩ := next?_of_readable
      (hl (before.getLast?.or none) (by rw [Option.or_none]; exact hbefore.1))
    rw [← ht, h] at hnext
    cases hnext
  | case2 t gap l' rest h ih =>
    obtain ⟨gap', l'', rest', hnext, hplace⟩ := next?_of_readable
      (hl (before.getLast?.or none) (by rw [Option.or_none]; exact hbefore.1))
    rw [← ht, h] at hnext
    obtain ⟨rfl, rfl, rfl⟩ : gap = gap' ∧ l' = l'' ∧ rest = rest' := by simpa using hnext
    rw [split_of_next? h] at hout ⊢
    rcases hplace with ⟨-, rfl, -⟩ | hlt
    · exact ⟨gap, List.mem_cons_self⟩
    · -- another link is found first, and the reader goes on behind it
      have hparts := (eq_of_next? h).symm.trans ht
      rw [List.append_assoc] at hparts
      rcases List.append_eq_append_iff.1 hparts with ⟨u, rfl, hu⟩ | ⟨u, rfl, -⟩
      · have hne : u ≠ [] := by
          rintro rfl
          simp at hlt
        have hlast : u.getLast? ≠ some '\\' ∧ u.getLast? ≠ some '!' :=
          ⟨fun hx => hbefore.1 (getLast?_append_of_some hx gap),
            fun hx => hbefore.2 (getLast?_append_of_some hx gap)⟩
        rcases place_of_later hi (guarded_of_next? h) hu hne hlast with hin | ⟨w, rfl, hrest⟩
        · have := hout _ List.mem_cons_self
          simp only [List.length_append] at this
          omega
        · have hlast' : w.getLast? ≠ some '\\' ∧ w.getLast? ≠ some '!' :=
            ⟨fun hx => hlast.1 (getLast?_append_of_some hx l'.text),
              fun hx => hlast.2 (getLast?_append_of_some hx l'.text)⟩
          obtain ⟨gap', hmem⟩ := ih hrest hlast' (offset + gap.length + l'.text.length) (by
            intro r hr
            have := hout r (List.mem_cons_of_mem _ hr)
            simp only [List.length_append] at this
            omega)
          exact ⟨gap', List.mem_cons_of_mem _ hmem⟩
      · rw [List.length_append] at hlt
        omega

end Link
end CitedReply
