import CitedReply.Citation.Reply
import CitedReply.Proofs.Link.Readable
import Mathlib.Data.List.Basic

/-!
# CitedReply.Proofs.Link.Rereading

An annotated text, read once more.

A link that stays was read once and is readable. One that is written anew has a new label, and its
address stands in angle brackets even if it stood without them; so it may no longer be readable, and
it may end another link that was begun before it and had no end.

* `successive_relink_iff`: when the row of links is read as it was written.
* `citation?_relinked`: when a link is read for the citation that it was written for.
* `reannotate`: so the sources of an annotated text are those of the text itself.
-/

namespace CitedReply
namespace Link

/-! ## Links written anew -/

section Annotated

variable (d : Directory) (synthetic : Bool)

/-- The label of a link that is written anew. -/
def newLabel (l : Link) : Text := displayText (some (cited d l)) (unescape l.label) l.href

theorem relinked_of_stays {l : Link} (h : Stays d synthetic l) : relinked d synthetic l = l := by
  simp only [relinked, citation?_eq, if_pos h]

theorem relinked_of_not_stays {l : Link} (h : ¬ Stays d synthetic l) :
    relinked d synthetic l = ⟨false, escape (newLabel d l), true, l.href⟩ := by
  simp only [relinked, citation?_eq, if_neg h, newLabel]

theorem image_relinked (l : Link) : (relinked d synthetic l).image = l.image := by
  by_cases h : Stays d synthetic l
  · rw [relinked_of_stays d synthetic h]
  · rw [relinked_of_not_stays d synthetic h]
    rw [Stays, not_or] at h
    simpa using h.1

theorem stays_relinked_iff (l : Link) :
    Stays d synthetic (relinked d synthetic l) ↔ Stays d synthetic l := by
  simp only [Stays, image_relinked, href_relinked]

theorem isReadable_written_iff {label href : Text} (hne : href ≠ []) (hfeed : '\n' ∉ href) :
    IsReadable ⟨false, escape label, true, href⟩ ↔ '\n' ∉ label ∧ '>' ∉ href := by
  constructor
  · rintro ⟨hlabel, htarget⟩
    refine ⟨fun hin => ?_, (target?_angled_iff.1 htarget).2.1⟩
    rw [label?_escape_of_feed hin] at hlabel
    cases hlabel
  · rintro ⟨hlabel, hgt⟩
    constructor
    · exact label?_escape hlabel []
    · exact target?_angled_iff.2 ⟨hne, hgt, hfeed⟩

/-- A link that was read is still readable, unless it is written anew with a line feed in its label
or a bracket in its address. -/
theorem isReadable_relinked_iff {l : Link} (h : l.IsReadable) :
    (relinked d synthetic l).IsReadable ↔
      (¬ Stays d synthetic l → '\n' ∉ newLabel d l ∧ '>' ∉ l.href) := by
  by_cases hs : Stays d synthetic l
  · rw [relinked_of_stays d synthetic hs]
    exact iff_of_true h fun hn => absurd hs hn
  · obtain ⟨-, hne, hfeed⟩ := target?_written h.target []
    rw [relinked_of_not_stays d synthetic hs, isReadable_written_iff hne hfeed]
    exact ⟨fun hl _ => hl, fun hl => hl hs⟩

/-- A gap and its link, as they stand after the annotation. -/
def relink (p : Text × Link) : Text × Link := (p.1, relinked d synthetic p.2)

theorem text_annotate (t : Text) :
    (annotate d synthetic t).text =
      Parts.text ⟨(split t).links.map (relink d synthetic), (split t).gap⟩ := by
  simp only [annotate, annotated_eq_text, Parts.text, List.flatMap_map, relink]

/-- No link begins in a gap between the links of a row, with what follows the gap written anew. -/
def GapsStay : List (Text × Link) → Text → Prop
  | [], _ => True
  | p :: links, last =>
    ¬ BeginsIn p.1 ((relinked d synthetic p.2).text ++
        Parts.text ⟨links.map (relink d synthetic), last⟩) ∧
      GapsStay links last

instance decidableGapsStay : ∀ links last, Decidable (GapsStay d synthetic links last)
  | [], _ => inferInstanceAs (Decidable True)
  | _ :: links, last =>
    have := decidableGapsStay links last
    inferInstanceAs (Decidable (_ ∧ _))

theorem successive_relink_iff {t last : Text} {links : List (Text × Link)}
    (h : Successive t links last) :
    Successive (Parts.text ⟨links.map (relink d synthetic), last⟩)
        (links.map (relink d synthetic)) last ↔
      (∀ p ∈ links, ¬ Stays d synthetic p.2 → '\n' ∉ newLabel d p.2 ∧ '>' ∉ p.2.href) ∧
        GapsStay d synthetic links last := by
  induction h with
  | done hnone =>
    refine iff_of_true (.done hnone) ⟨?_, trivial⟩
    intro p hp
    cases hp
  | @link t gap rest last l links hnext _ ih =>
    obtain ⟨-, hl, hb⟩ := atHead?_eq_some_iff.1 (atHead?_of_next? hnext)
    rw [Option.or_none, ← image_relinked d synthetic] at hb
    -- the character before the link is the one before the link that was read
    rw [List.map_cons, relink, successive_cons_iff, next?_append_iff, and_iff_right hb, ih]
    rw [isReadable_relinked_iff d synthetic hl, List.forall_mem_cons, GapsStay, and_and_and_comm]

/-! ## Citations of links written anew -/

variable {d}

theorem title_synthetic (href label : Text) :
    (Citation.synthetic href label).title =
      if Text.trim label = [] then Url.domain href else Text.trim label := rfl

theorem displayText_synthetic (href label : Text) :
    displayText (some (Citation.synthetic href label)) label href =
      (Citation.synthetic href label).title := by
  by_cases ht : (Citation.synthetic href label).title = []
  · -- the title is empty only if the domain is, which then is what is shown
    have hlabel : Text.trim label = [] := by
      by_contra hne
      rw [title_synthetic, if_neg hne] at ht
      exact hne ht
    have hdomain : Url.domain href = [] := by rwa [title_synthetic, if_pos hlabel] at ht
    simp [displayText, Option.filter, ht, hlabel, hdomain]
  · simp [displayText, Option.filter, ht]

theorem synthetic_congr {href label label' : Text}
    (h : (Citation.synthetic href label).title = (Citation.synthetic href label').title) :
    Citation.synthetic href label = Citation.synthetic href label' :=
  congrArg (fun title => { Citation.synthetic href label with title }) h

theorem synthetic_title (href label : Text)
    (h : Text.trim label = [] → Text.trim (Url.domain href) = Url.domain href) :
    Citation.synthetic href (Citation.synthetic href label).title =
      Citation.synthetic href label := by
  apply synthetic_congr
  simp only [title_synthetic]
  by_cases hblank : Text.trim label = []
  · rw [if_pos hblank, h hblank, ite_self]
  · rw [if_neg hblank, Text.trim_of_trimmed (Text.trimmed_trim label), if_neg hblank]

variable (d) in
/-- If a citation is made up for the link under the name of its domain, the name has no white space
at its ends. -/
def KeepsName (l : Link) : Prop :=
  ¬ Stays d synthetic l → d.get? l.href = none → Text.trim (unescape l.label) = [] →
    Text.trim (Url.domain l.href) = Url.domain l.href

theorem citation?_relinked {l : Link} (h : KeepsName d synthetic l) :
    citation? d synthetic (relinked d synthetic l) = citation? d synthetic l := by
  simp only [citation?_eq, stays_relinked_iff]
  by_cases hs : Stays d synthetic l
  · rw [if_pos hs, if_pos hs]
  · rw [if_neg hs, if_neg hs, relinked_of_not_stays d synthetic hs]
    cases hd : d.get? l.href with
    | some c => simp [cited, hd]
    | none =>
      have hnew : newLabel d l = (Citation.synthetic l.href (unescape l.label)).title := by
        simp only [newLabel, cited, hd, Option.getD_none, displayText_synthetic]
      simp only [cited, hd, Option.getD_none, unescape_escape, hnew]
      rw [synthetic_title _ _ (h hs hd)]

end Annotated

/-! ## The annotation of an annotated text -/

/-- What lets an annotated text be read as it was written: a new label stays on one line, an address
that comes into angle brackets has no such bracket, and no gap holds the beginning of a link that
something in the new text ends. -/
structure Legible (d : Directory) (synthetic : Bool) (t : Text) : Prop where
  link : ∀ p ∈ (split t).links, ¬ Stays d synthetic p.2 → '\n' ∉ newLabel d p.2 ∧ '>' ∉ p.2.href
  gap : GapsStay d synthetic (split t).links (split t).gap

theorem sources_of_successive {d : Directory} {synthetic : Bool} {t : Text}
    (h : Successive (annotate d synthetic t).text ((split t).links.map (relink d synthetic))
      (split t).gap)
    (hname : ∀ p ∈ (split t).links, KeepsName d synthetic p.2) :
    (annotate d synthetic (annotate d synthetic t).text).sources =
      (annotate d synthetic t).sources := by
  rw [annotate, h.split_eq]
  simp only [annotate, List.filterMap_map]
  refine congrArg Citation.firstPerUrl (List.filterMap_congr fun p hp => ?_)
  exact citation?_relinked synthetic (hname p hp)

/-- An annotated text is read as it was written exactly if it is legible. Then it has the sources
that it was written with, provided that each link that is named for its domain keeps that name. -/
theorem reannotate (d : Directory) (synthetic : Bool) (t : Text) :
    (Successive (annotate d synthetic t).text ((split t).links.map (relink d synthetic))
        (split t).gap ↔ Legible d synthetic t) ∧
      (Legible d synthetic t → (∀ p ∈ (split t).links, KeepsName d synthetic p.2) →
        (annotate d synthetic (annotate d synthetic t).text).sources =
          (annotate d synthetic t).sources) := by
  have hiff : Successive (annotate d synthetic t).text ((split t).links.map (relink d synthetic))
      (split t).gap ↔ Legible d synthetic t := by
    rw [text_annotate, successive_relink_iff d synthetic (successive_split t)]
    exact ⟨fun ⟨hlink, hgap⟩ => ⟨hlink, hgap⟩, fun ⟨hlink, hgap⟩ => ⟨hlink, hgap⟩⟩
  exact ⟨hiff, fun hlegible => sources_of_successive (hiff.2 hlegible)⟩

def parenthesized : Directory :=
  .ofList [⟨"cite-1".toList, "A [1]".toList, "/a_(b)".toList, []⟩]

/-- A link whose target is bare, an image, a link without a text, and one that is not ended. -/
def mixedLinks : Text := "See [x](/a_(b)) ![i](/c) [ ](https://d.org) [y](<z".toList

theorem reannotate_mixedLinks :
    Legible parenthesized true mixedLinks ∧
      (∀ p ∈ (split mixedLinks).links, KeepsName parenthesized true p.2) ∧
      (annotate parenthesized true mixedLinks).text =
        "See [A \\[1\\]](</a_(b)>) ![i](/c) [d.org](<https://d.org>) [y](<z".toList ∧
      (annotate parenthesized true (annotate parenthesized true mixedLinks).text).sources =
        (annotate parenthesized true mixedLinks).sources := by
  have hlegible : Legible parenthesized true mixedLinks := by
    constructor
    · decide +kernel
    · decide +kernel
  have hname : ∀ p ∈ (split mixedLinks).links, KeepsName parenthesized true p.2 := by
    simp only [KeepsName]
    decide +kernel
  exact ⟨hlegible, hname, by decide +kernel, (reannotate _ _ _).2 hlegible hname⟩

/-- An address with a bracket, a title of two lines, and no more than an address. -/
def illegibleCitations : List Citation :=
  [⟨['a'], [], "/a>b".toList, []⟩, ⟨['b'], "B\nB".toList, "/b".toList, []⟩,
    ⟨['c'], [], "/c".toList, []⟩]

/-- The last link stands in what would be the target of another one, had that an end. -/
def illegibleLinks : Text := "[A](/a>b) [B](/b) [x](<y [C](/c)".toList

def illegibleReply : Text :=
  ("<citations>\x7b\"id\":\"a\",\"url\":\"/a>b\"\x7d\n" ++
    "\x7b\"id\":\"b\",\"title\":\"B\\nB\",\"url\":\"/b\"\x7d\n" ++
    "\x7b\"id\":\"c\",\"url\":\"/c\"\x7d</citations>").toList ++ illegibleLinks

/-- A reply with three sources, and none of them is a source of its annotated text. -/
theorem sources_lost_in_illegibleReply :
    Reading.ofText illegibleReply = ⟨illegibleCitations, illegibleLinks⟩ ∧
      (annotate (.ofList illegibleCitations) false illegibleLinks).sources = illegibleCitations ∧
      (annotate (.ofList illegibleCitations) false
        (annotate (.ofList illegibleCitations) false illegibleLinks).text).sources = [] := by
  decide +kernel

/-- A domain with white space at its end is cut when it is read as the text of its link. -/
example :
    let a := annotate .empty true "[](<http:// >)".toList
    a.sources.map (·.title) = ["http:// ".toList] ∧
      (annotate .empty true a.text).sources.map (·.title) = ["http://".toList] := by
  decide +kernel

end Link
end CitedReply
