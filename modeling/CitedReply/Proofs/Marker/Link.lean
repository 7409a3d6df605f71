import CitedReply.Citation.Link
import CitedReply.Link.Annotation
import CitedReply.Proofs.Marker.Scan

/-!
# CitedReply.Proofs.Marker.Link

Links and markers. In a link text every bracket stands behind a backslash (`Guarded`), and the
bracket that closes it has a parenthesis behind it, so neither makes a marker: the markers of a link
are those of its target, whatever stands around the link (`ids_append_link`).

* `pieces_link`: a scan comes to characters alone as far as the target.
* `ids_annotate`: the annotation of links neither makes a marker nor hides one.
-/

namespace CitedReply
namespace Link

/-- Every bracket stands behind a backslash that is not itself behind one. -/
inductive Guarded : Text → Prop where
  | nil : Guarded []
  | escaped (c : Char) {t : Text} : Guarded t → Guarded ('\\' :: c :: t)
  | plain {c : Char} {t : Text} : c ≠ '[' → c ≠ ']' → c ≠ '\\' → Guarded t → Guarded (c :: t)

theorem guarded_escape (t : Text) : Guarded (escape t) := by
  induction t with
  | nil => exact .nil
  | cons c t ih =>
    rw [escape_cons]
    by_cases h : needsEscape c = true
    · rw [if_pos h]
      exact .escaped c ih
    · rw [if_neg h]
      simp only [needsEscape, Bool.or_eq_true, decide_eq_true_eq, not_or] at h
      exact .plain h.1.1 h.1.2 h.2 ih

theorem guarded_of_label? {t label r : Text} (h : label? t = some (label, r)) : Guarded label := by
  fun_induction label? t generalizing label with
  | case1 => cases h
  | case2 c t ih =>
    obtain ⟨s, hs, he⟩ := Option.map_eq_some_iff.1 h
    cases he
    exact .escaped c (ih hs)
  | case3 t => cases h; exact .nil
  | case4 => cases h
  | case5 c t _ hc hn ih =>
    obtain ⟨s, hs, he⟩ := Option.map_eq_some_iff.1 h
    cases he
    simp only [not_or] at hn
    exact .plain hn.1 hc hn.2.2 (ih hs)

theorem Guarded.backslash_mem {w u : Text} (h : Guarded (w ++ ']' :: u)) : '\\' ∈ w := by
  induction w with
  | nil =>
    cases h with
    | plain _ hc => exact absurd rfl hc
  | cons c w ih =>
    generalize hx : c :: w ++ ']' :: u = x at h
    cases h with
    | nil => cases hx
    | escaped =>
      rw [(List.cons.inj hx).1]
      exact List.mem_cons_self
    | plain _ _ _ h =>
      rw [← (List.cons.inj hx).2] at h
      exact List.mem_cons_of_mem _ (ih h)

theorem guarded_of_atHead? {before : Option Char} {t r : Text} {l : Link}
    (h : atHead? before t = some (l, r)) : Guarded l.label := by
  have after : ∀ {image : Bool} {t : Text}, afterBracket? image t = some (l, r) →
      Guarded l.label := by
    intro image t h
    unfold afterBracket? at h
    split at h
    · rename_i hl
      obtain ⟨s, hs, he⟩ := Option.map_eq_some_iff.1 h
      cases he
      exact guarded_of_label? hl
    · cases h
  unfold atHead? at h
  split at h
  · exact after h
  · split at h
    · cases h
    · exact after h
  · cases h

theorem guarded_of_next? {before : Option Char} {t gap r : Text} {l : Link}
    (h : next? before t = some (gap, l, r)) : Guarded l.label := by
  induction t generalizing before gap with
  | nil => cases h
  | cons c t ih =>
    simp only [next?] at h
    split at h
    · rename_i hl
      cases h
      exact guarded_of_atHead? hl
    · obtain ⟨⟨g, l', r'⟩, hs, he⟩ := Option.map_eq_some_iff.1 h
      cases he
      exact ih hs

theorem guarded_split (t : Text) : ∀ p ∈ (split t).links, Guarded p.2.label := by
  fun_induction split t with
  | case1 => intro p hp; cases hp
  | case2 t gap l rest h ih =>
    intro p hp
    rcases List.mem_cons.1 hp with rfl | hp
    · exact guarded_of_next? h
    · exact ih p hp

/-- A link as far as its target. -/
def opened (l : Link) : Text :=
  (if l.image then ['!'] else []) ++ '[' :: l.label ++ [']', '(']

theorem text_eq_opened (l : Link) :
    l.text = l.opened ++ (writtenTarget l.angled l.href ++ [')']) := by
  simp [text, opened]

theorem written_eq_text (label href : Text) :
    written label href = text ⟨false, escape label, true, href⟩ := by
  simp [written, text, writtenTarget]

/-- A link as it stands after the annotation. -/
def relinked (d : Directory) (synthetic : Bool) (l : Link) : Link :=
  match citation? d synthetic l with
  | some c => ⟨false, escape (displayText (some c) (unescape l.label) l.href), true, l.href⟩
  | none => l

theorem annotated_eq_text (d : Directory) (synthetic : Bool) (l : Link) :
    annotated d synthetic l = (relinked d synthetic l).text := by
  cases h : citation? d synthetic l with
  | some c => simp only [annotated, relinked, h, written_eq_text]
  | none => simp only [annotated, relinked, h]

theorem href_relinked (d : Directory) (synthetic : Bool) (l : Link) :
    (relinked d synthetic l).href = l.href := by
  unfold relinked
  split <;> rfl

theorem guarded_relinked {l : Link} (h : Guarded l.label) (d : Directory) (synthetic : Bool) :
    Guarded (relinked d synthetic l).label := by
  unfold relinked
  split
  · exact guarded_escape _
  · exact h

end Link

theorem Citation.target_eq (url : Text) :
    target url = Link.writtenTarget (needsAngles url) url := rfl

/-- The link that a citation is written as. -/
def Citation.asLink (c : Citation) : Link :=
  ⟨false, Link.escape c.label, needsAngles c.url, c.url⟩

theorem Citation.link_eq_text (c : Citation) : c.link = c.asLink.text := by
  simp [link, asLink, target_eq, Link.text]

namespace Marker

open Link

theorem atHead?_link_text {label : Text} (h : Guarded label) (x : Text) :
    atHead? ('[' :: (label ++ ']' :: '(' :: x)) = none := by
  cases hm : atHead? ('[' :: (label ++ ']' :: '(' :: x)) with
  | none => rfl
  | some m =>
    obtain ⟨digits, after⟩ := m
    obtain ⟨hn, ha, he⟩ := atHead?_eq_some_iff.1 hm
    have hin : ∀ c ∈ idStart ++ digits, c ≠ ']' ∧ c ≠ '\\' := by
      intro c hc
      rcases List.mem_append.1 hc with hc | hc
      · have all : ∀ c ∈ idStart, c ≠ ']' ∧ c ≠ '\\' := by simp [idStart]
        exact all c hc
      · have hd := hn.2 c hc
        constructor
        · rintro rfl
          exact absurd hd (by decide)
        · rintro rfl
          exact absurd hd (by decide)
    have he' : label ++ ']' :: '(' :: x = (idStart ++ digits) ++ ']' :: after := by
      simpa [written_eq] using he
    rcases List.append_eq_append_iff.1 he' with ⟨u, hu, hv⟩ | ⟨u, hu, hv⟩
    · cases u with
      | nil =>
        have : after = '(' :: x := (List.cons.inj hv).2.symm
        rw [this] at ha
        exact absurd rfl ha
      | cons y u =>
        have hy : y = ']' := (List.cons.inj hv).1.symm
        exact absurd hy (hin y (by rw [hu]; simp)).1
    · cases u with
      | nil =>
        have : after = '(' :: x := (List.cons.inj hv).2
        rw [this] at ha
        exact absurd rfl ha
      | cons y u =>
        have hy : y = ']' := (List.cons.inj hv).1.symm
        rw [hu, hy] at h
        exact absurd rfl (hin '\\' h.backslash_mem).2

theorem pieces_guarded {label : Text} (h : Guarded label) (x : Text) :
    pieces (label ++ ']' :: '(' :: x) = (label ++ [']', '(']).map .char ++ pieces x := by
  induction h with
  | nil => rw [List.nil_append, pieces_cons_ne (by decide), pieces_cons_ne (by decide)]; rfl
  | escaped c h ih =>
    rw [List.cons_append, List.cons_append, pieces_cons_ne (by decide)]
    by_cases hc : c = '['
    · rw [hc, pieces_of_char (atHead?_link_text h x), ih]; rfl
    · rw [pieces_cons_ne hc, ih]; rfl
  | plain hc _ _ _ ih => rw [List.cons_append, pieces_cons_ne hc, ih]; rfl

/-- As far as its target a link is a row of characters. -/
theorem pieces_opened {l : Link} (h : Guarded l.label) (x : Text) :
    pieces (l.opened ++ x) = l.opened.map .char ++ pieces x := by
  have hbracket : pieces ('[' :: (l.label ++ ']' :: '(' :: x)) =
      .char '[' :: ((l.label ++ [']', '(']).map .char ++ pieces x) := by
    rw [pieces_of_char (atHead?_link_text h x), pieces_guarded h]
  cases hi : l.image with
  | true =>
    have ho : l.opened ++ x = '!' :: '[' :: (l.label ++ ']' :: '(' :: x) := by simp [opened, hi]
    rw [ho, pieces_cons_ne (by decide), hbracket]
    simp [opened, hi]
  | false =>
    have ho : l.opened ++ x = '[' :: (l.label ++ ']' :: '(' :: x) := by simp [opened, hi]
    rw [ho, hbracket]
    simp [opened, hi]

theorem pieces_link {l : Link} (h : Guarded l.label) (x : Text) :
    pieces (l.text ++ x) = l.opened.map .char ++
      (pieces (writtenTarget l.angled l.href) ++ .char ')' :: pieces x) := by
  rw [text_eq_opened, List.append_assoc, pieces_opened h, List.append_assoc,
    List.singleton_append, pieces_append_inert (by decide), pieces_cons_ne (by decide)]

theorem ids_writtenTarget (angled : Bool) (href : Text) :
    ids (writtenTarget angled href) = ids href := by
  cases angled with
  | true =>
    rw [show writtenTarget true href = '<' :: (href ++ ['>']) from rfl, ids_cons_ne (by decide),
      ids_append_inert (by decide), ids_cons_ne (by decide), ids_nil, List.append_nil]
  | false => rfl

theorem ids_link {l : Link} (h : Guarded l.label) (x : Text) :
    ids (l.text ++ x) = ids l.href ++ ids x := by
  rw [← ids_writtenTarget l.angled l.href]
  simp only [ids_eq_filterMap, pieces_link h, List.filterMap_append, filterMap_id?_chars]
  rfl

theorem link_text_head (l : Link) : ∃ c r, l.text = c :: r ∧ isInert c = true := by
  cases hi : l.image with
  | true => exact ⟨'!', _, by simp [text, hi]; rfl, by decide⟩
  | false => exact ⟨'[', _, by simp [text, hi]; rfl, by decide⟩

theorem ids_append_link (gap : Text) {l : Link} (h : Guarded l.label) (x : Text) :
    ids (gap ++ l.text ++ x) = ids gap ++ (ids l.href ++ ids x) := by
  rw [← ids_link h]
  obtain ⟨c, r, hl, hc⟩ := link_text_head l
  rw [hl, List.append_assoc, List.cons_append, ids_append_inert hc]

theorem ids_links (f : Link → Link) (hf : ∀ l, (f l).href = l.href) (parts : List (Text × Link))
    (h : ∀ p ∈ parts, Guarded (f p.2).label) (x : Text) :
    ids (parts.flatMap (fun p => p.1 ++ (f p.2).text) ++ x) =
      parts.flatMap (fun p => ids p.1 ++ ids p.2.href) ++ ids x := by
  induction parts with
  | nil => rfl
  | cons p parts ih =>
    rw [List.flatMap_cons, List.flatMap_cons, List.append_assoc,
      ids_append_link _ (h p List.mem_cons_self), hf,
      ih fun q hq => h q (List.mem_cons_of_mem _ hq)]
    simp

theorem ids_split (t : Text) :
    ids t = (split t).links.flatMap (fun p => ids p.1 ++ ids p.2.href) ++ ids (split t).gap := by
  conv => lhs; rw [← text_split t, Parts.text]
  exact ids_links id (fun _ => rfl) _ (guarded_split t) _

theorem ids_annotate (d : Directory) (synthetic : Bool) (t : Text) :
    ids (annotate d synthetic t).text = ids t := by
  simp only [annotate, annotated_eq_text]
  rw [ids_links (relinked d synthetic) (href_relinked d synthetic) _
    (fun p hp => guarded_relinked (guarded_split t p hp) d synthetic), ← ids_split]

end Marker
end CitedReply
