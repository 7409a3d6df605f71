import CitedReply.Proofs.Link.Annotating
import CitedReply.Proofs.Link.Writing

/-!
# CitedReply.Proofs.Link.Readable

Links that are read wherever they stand.

What follows a link does not count for it: whether it is read at the head of a text depends on the
link itself (`IsReadable`) and on the character before it. In a text it is the first one to be read
unless another one begins before it, perhaps to end behind it (`BeginsIn`).

* `atHead?_eq_some_iff`: what is read at the head of a text.
* `next?_append_iff`: when a link that stands in a text is the first one.
* `successive_cons_iff`: so a row of links is read link by link.
-/

namespace CitedReply
namespace Link

/-! ## Links that are read wherever they stand -/

theorem label?_written {t label r : Text} (h : label? t = some (label, r)) (x : Text) :
    label? (label ++ ']' :: x) = some (label, x) := by
  fun_induction label? t generalizing label with
  | case1 => cases h
  | case2 c t ih =>
    obtain ⟨s, hs, he⟩ := Option.map_eq_some_iff.1 h
    cases he
    simp [label?, ih hs]
  | case3 t => cases h; rfl
  | case4 => cases h
  | case5 c t _ hc hn ih =>
    obtain ⟨s, hs, he⟩ := Option.map_eq_some_iff.1 h
    cases he
    simp only [not_or] at hn
    simp [label?, ih hs, hc, hn]

theorem bareTarget?_written {depth : Nat} {t href r : Text}
    (h : bareTarget? depth t = some (href, r)) (x : Text) :
    bareTarget? depth (href ++ ')' :: x) = some (href, x) ∧ '\n' ∉ href := by
  induction t generalizing depth href with
  | nil => cases h
  | cons c t ih =>
    simp only [bareTarget?] at h
    split at h
    · rename_i hc
      cases h
      simp [bareTarget?, hc.2]
    · rename_i hc
      split at h
      · cases h
      · rename_i hspace
        obtain ⟨s, hs, he⟩ := Option.map_eq_some_iff.1 h
        cases he
        obtain ⟨hread, hfeed⟩ := ih hs
        have hne : c ≠ '\n' := by
          rintro rfl
          exact hspace rfl
        refine ⟨?_, by simp [hfeed, Ne.symm hne]⟩
        rw [List.cons_append, bareTarget?, if_neg hc, if_neg hspace]
        simp only [hread, Option.map_some]

/-- A target that was read is read wherever it stands, and is an address on one line. -/
theorem target?_written {angled : Bool} {t href r : Text} (h : target? t = some (angled, href, r))
    (x : Text) :
    target? (writtenTarget angled href ++ ')' :: x) = some (angled, href, x) ∧
      href ≠ [] ∧ '\n' ∉ href := by
  cases angled with
  | true =>
    rw [eq_of_target? h] at h
    obtain ⟨hne, hgt, hfeed⟩ := target?_angled_iff.1 h
    exact ⟨target?_angled_iff.2 ⟨hne, hgt, hfeed⟩, hne, hfeed⟩
  | false =>
    obtain ⟨hne, hhead, hread⟩ := target?_bare_iff.1 h
    obtain ⟨hread, hfeed⟩ := bareTarget?_written hread x
    exact ⟨target?_bare_iff.2 ⟨hne, hhead, hread⟩, hne, hfeed⟩

/-- A link whose label and target are read as they are written. -/
structure IsReadable (l : Link) : Prop where
  label : label? (l.label ++ [']']) = some (l.label, [])
  target : target? (writtenTarget l.angled l.href ++ [')']) = some (l.angled, l.href, [])

theorem afterBracket?_eq_some_iff {image : Bool} {t r : Text} {l : Link} :
    afterBracket? image t = some (l, r) ↔
      l.image = image ∧
        t = l.label ++ ']' :: '(' :: (writtenTarget l.angled l.href ++ ')' :: r) ∧
          l.IsReadable := by
  constructor
  · intro h
    obtain ⟨himage, ht⟩ := eq_of_afterBracket? h
    refine ⟨himage, ht, ?_⟩
    unfold afterBracket? at h
    split at h
    · rename_i hlabel
      obtain ⟨s, hs, he⟩ := Option.map_eq_some_iff.1 h
      cases he
      exact ⟨label?_written hlabel [], (target?_written hs []).1⟩
    · cases h
  · rintro ⟨rfl, rfl, hlabel, htarget⟩
    simp only [afterBracket?, label?_written hlabel, (target?_written htarget r).1, Option.map_some]

/-- A readable link is read at the head of a text, whatever follows it, unless it is kept from it by
a backslash. -/
theorem atHead?_eq_some_iff {before : Option Char} {t r : Text} {l : Link} :
    atHead? before t = some (l, r) ↔
      t = l.text ++ r ∧ l.IsReadable ∧ (l.image = true ∨ before ≠ some '\\') := by
  constructor
  · intro h
    refine ⟨eq_of_atHead? h, ?_⟩
    unfold atHead? at h
    split at h
    · obtain ⟨himage, -, hl⟩ := afterBracket?_eq_some_iff.1 h
      exact ⟨hl, .inl himage⟩
    · split at h
      · cases h
      · rename_i hb
        exact ⟨(afterBracket?_eq_some_iff.1 h).2.2, .inr hb⟩
    · cases h
  · rintro ⟨rfl, hl, hb⟩
    have hread : ∀ image, l.image = image →
        afterBracket? image (l.label ++ ']' :: '(' :: (writtenTarget l.angled l.href ++ ')' :: r)) =
          some (l, r) := fun image himage => afterBracket?_eq_some_iff.2 ⟨himage, rfl, hl⟩
    cases himage : l.image with
    | true =>
      have ht : l.text ++ r =
          '!' :: '[' :: (l.label ++ ']' :: '(' :: (writtenTarget l.angled l.href ++ ')' :: r)) := by
        simp [text, himage]
      rw [ht]
      exact hread true himage
    | false =>
      have ht : l.text ++ r =
          '[' :: (l.label ++ ']' :: '(' :: (writtenTarget l.angled l.href ++ ')' :: r)) := by
        simp [text, himage]
      rw [himage, or_iff_right (by decide)] at hb
      rw [ht, atHead?, if_neg hb]
      exact hread false himage

/-! ## The next link -/

theorem atHead?_of_next? {before : Option Char} {t gap r : Text} {l : Link}
    (h : next? before t = some (gap, l, r)) :
    atHead? (gap.getLast?.or before) (l.text ++ r) = some (l, r) := by
  induction t generalizing before gap with
  | nil => cases h
  | cons c t ih =>
    simp only [next?] at h
    split at h
    · rename_i hl
      cases h
      rwa [← eq_of_atHead? hl]
    · obtain ⟨⟨g, l', r'⟩, hs, he⟩ := Option.map_eq_some_iff.1 h
      cases he
      rw [getLast?_cons_or]
      exact ih hs

/-- The first link of the text that the two make together begins in the first. -/
def BeginsIn (gap x : Text) : Prop := ∃ m ∈ next? none (gap ++ x), m.1.length < gap.length

instance (gap x : Text) : Decidable (BeginsIn gap x) :=
  inferInstanceAs (Decidable (∃ m ∈ next? none (gap ++ x), m.1.length < gap.length))

/-- The first link of a text, by itself and by what comes before it. -/
theorem next?_append_iff {gap x : Text} {l : Link} :
    next? none (gap ++ (l.text ++ x)) = some (gap, l, x) ↔
      l.IsReadable ∧ (l.image = true ∨ gap.getLast? ≠ some '\\') ∧
        ¬ BeginsIn gap (l.text ++ x) := by
  constructor
  · intro h
    obtain ⟨-, hl, hb⟩ := atHead?_eq_some_iff.1 (atHead?_of_next? h)
    rw [Option.or_none] at hb
    refine ⟨hl, hb, ?_⟩
    rintro ⟨m, hm, hlt⟩
    rw [h] at hm
    cases hm
    exact Nat.lt_irrefl _ hlt
  · rintro ⟨hl, hb, hbegins⟩
    have hread : atHead? (gap.getLast?.or none) (l.text ++ x) = some (l, x) := by
      rw [Option.or_none]
      exact atHead?_eq_some_iff.2 ⟨rfl, hl, hb⟩
    obtain ⟨gap', l', r', hnext, ⟨rfl, rfl, rfl⟩ | hlt⟩ := next?_of_readable hread
    · exact hnext
    · exact absurd ⟨_, hnext, hlt⟩ hbegins

theorem successive_cons_iff {gap last : Text} {l : Link} {links : List (Text × Link)} :
    Successive (Parts.text ⟨(gap, l) :: links, last⟩) ((gap, l) :: links) last ↔
      next? none (gap ++ (l.text ++ Parts.text ⟨links, last⟩)) =
          some (gap, l, Parts.text ⟨links, last⟩) ∧
        Successive (Parts.text ⟨links, last⟩) links last := by
  have htext : Parts.text ⟨(gap, l) :: links, last⟩ =
      gap ++ (l.text ++ Parts.text ⟨links, last⟩) := by
    simp [Parts.text]
  rw [htext]
  constructor
  · intro h
    cases h with
    | @link _ _ rest _ _ _ hnext hrest =>
      obtain rfl : rest = Parts.text ⟨links, last⟩ := hrest.text_eq
      exact ⟨hnext, hrest⟩
  · rintro ⟨hnext, hrest⟩
    exact .link hnext hrest

theorem Successive.split_eq {t last : Text} {links : List (Text × Link)}
    (h : Successive t links last) : split t = ⟨links, last⟩ := by
  induction h with
  | done hnone => exact split_of_none hnone
  | link hnext _ ih =>
    rw [split_of_next? hnext, ih]
    rfl

end Link
end CitedReply
