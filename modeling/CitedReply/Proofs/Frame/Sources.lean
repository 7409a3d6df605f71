import CitedReply.Citation.Reply
import CitedReply.Proofs.Citation.Line
import CitedReply.Proofs.Frame.Display
import CitedReply.Proofs.Link.Reading
import CitedReply.Proofs.Marker.Substitution
import Mathlib.Data.List.Basic

/-!
# CitedReply.Proofs.Frame.Sources

The citations that a finished reply refers to, and the sources that are listed under it.

A marker gives way to a link, and the links of the text that comes of it are read once more. What
stands around the marker may keep its link from being read as one: a backslash or an exclamation
mark right before it, or a link whose target it stands in.

* `source_of_marker`: else the citation is a source, linked under its title and listed.
* `sources_lost`: three replies in which it is not.
-/

namespace CitedReply

namespace Citation

/-- The title and the address need no care when they are written as a link. -/
structure Plain (c : Citation) : Prop where
  title_ne_nil : c.title ≠ []
  title_oneLine : '\n' ∉ c.title
  url : ∀ x ∈ c.url, Text.isSpace x = false ∧ x ∉ ['(', ')', '<', '>', '[', ']']

theorem Plain.label_eq {c : Citation} (h : c.Plain) : c.label = c.title := if_neg h.title_ne_nil

theorem Plain.needsAngles_eq {c : Citation} (h : c.Plain) : needsAngles c.url = false := by
  rw [needsAngles_eq_false_iff]
  intro x hx
  obtain ⟨hspace, hno⟩ := h.url x hx
  simp only [List.mem_cons, not_or] at hno
  exact ⟨hno.1, hno.2.1, hspace⟩

/-- The link that a plain citation is written as. -/
def bareLink (c : Citation) : Link := ⟨false, Link.escape c.title, false, c.url⟩

theorem Plain.link_eq {c : Citation} (h : c.Plain) : c.link = c.bareLink.text := by
  rw [link_eq_text, asLink, h.label_eq, h.needsAngles_eq, bareLink]

theorem Plain.isBare {c : Citation} (h : c.Plain) (hne : c.url ≠ []) : Link.IsBare c.url := by
  refine Link.isBare_of_needsAngles h.needsAngles_eq hne ?_
  intro hhead
  have hno := (h.url _ (List.mem_of_mem_head? hhead)).2
  exact hno (by simp)

end Citation

namespace Link

theorem citation?_of_get? {d : Directory} {synthetic : Bool} {l : Link} {c : Citation}
    (hd : d.get? l.href = some c) :
    citation? d synthetic l = if l.image then none else some c := by
  simp only [citation?, hd]

/-- A link to a known citation brings it into the sources. -/
theorem mem_sources {d : Directory} (hd : d.Keyed) {synthetic : Bool} {t gap : Text} {l : Link}
    {c : Citation} (hmem : (gap, l) ∈ (split t).links) (hi : l.image = false)
    (hc : d.get? l.href = some c) : c ∈ (annotate d synthetic t).sources := by
  have hl : citation? d synthetic l = some c := by rw [citation?_of_get? hc, if_neg (by simp [hi])]
  refine Citation.mem_firstPerUrl (List.mem_filterMap.2 ⟨_, hmem, hl⟩) ?_
  intro e he hu
  obtain ⟨p, -, hp⟩ := List.mem_filterMap.1 he
  have hget : d.get? p.2.href = some c := by
    rw [← url_of_citation? hd hp, hu, hd _ _ hc, hc]
  rw [citation?_of_get? hget] at hp
  split at hp
  · cases hp
  · exact (Option.some.inj hp).symm

/-- A link to a known citation with a title is written anew, under the title. -/
theorem written_infix_annotate {d : Directory} {synthetic : Bool} {t gap : Text} {l : Link}
    {c : Citation} (hmem : (gap, l) ∈ (split t).links) (hi : l.image = false)
    (hc : d.get? l.href = some c) (ht : c.title ≠ []) :
    written c.title l.href <:+: (annotate d synthetic t).text := by
  have hl : citation? d synthetic l = some c := by rw [citation?_of_get? hc, if_neg (by simp [hi])]
  have hlabel : displayText (some c) (unescape l.label) l.href = c.title := by
    simp [displayText, Option.filter, ht]
  have hwritten : annotated d synthetic l = written c.title l.href := by
    simp only [annotated, hl, hlabel]
  have hpart : gap ++ annotated d synthetic l <:+:
      (split t).links.flatMap fun p => p.1 ++ annotated d synthetic p.2 :=
    List.infix_of_mem_flatten (List.mem_map_of_mem hmem)
  rw [← hwritten]
  exact (List.suffix_append gap _).isInfix.trans (hpart.trans (List.prefix_append _ _).isInfix)

end Link

namespace Frame

theorem footerLine_infix_footer {c : Citation} {sources : List Citation} (h : c ∈ sources) :
    Link.footerLine c <:+: Link.footer sources :=
  (List.infix_of_mem_flatten (List.mem_map_of_mem h)).trans (List.suffix_append _ _).isInfix

theorem annotation_infix_body (options : Options) (a : Link.Annotation) :
    a.text <:+: bodyText options a := by
  unfold bodyText
  split
  · rw [List.append_assoc]
    exact (List.prefix_append _ _).isInfix
  · exact List.infix_rfl

theorem footer_infix_body {options : Options} {a : Link.Annotation}
    (hf : options.sourcesFooter = true) (hs : a.sources ≠ []) :
    Link.footer a.sources <:+: bodyText options a := by
  rw [bodyText, if_pos ⟨hf, hs⟩]
  exact (List.suffix_append _ _).isInfix

variable {raw : Text} {c : Citation}

theorem url_ne_nil_of_mem (h : c ∈ (Reading.ofText raw).citations) : c.url ≠ [] := by
  obtain ⟨line, -, hline⟩ := List.mem_filterMap.1 (Citation.mem_of_mem_firstPerUrl h)
  exact (Citation.ne_nil_of_ofLine? hline).2

theorem get?_directory (h : c ∈ (Reading.ofText raw).citations) :
    (Reading.ofText raw).directory.get? c.url = some c :=
  Directory.get?_ofList h fun _ he hu => Citation.eq_of_mem_firstPerUrl h he hu

/-- The link that takes the place of a marker is one of those of the text, unless it is kept from
being read as one. -/
theorem bareLink_mem_split {a digits b : Text}
    (hraw : Text.trim (Block.layout raw).outside = a ++ Marker.written digits ++ b)
    (hn : Marker.IsNumber digits) (hb : b.head? ≠ some '(')
    (hc : Marker.resolve? (Reading.ofText raw).citations digits = some c) (hplain : c.Plain)
    (hbefore : a.getLast? ≠ some '\\' ∧ a.getLast? ≠ some '!')
    (htarget : ¬ Link.InTarget (Reading.ofText raw).clean
      (Marker.substitute (Reading.ofText raw).citations a).length) :
    ∃ gap, (gap, c.bareLink) ∈ (Link.split (Reading.ofText raw).clean).links := by
  have hmem : c ∈ (Reading.ofText raw).citations := List.mem_of_find?_eq_some hc
  have hbare := hplain.isBare (url_ne_nil_of_mem hmem)
  have hclean : (Reading.ofText raw).clean =
      Marker.substitute (Reading.ofText raw).citations a ++
        (c.bareLink.text ++ Marker.substitute (Reading.ofText raw).citations b) := by
    rw [← hplain.link_eq, ← Marker.substitute_at_marker hn hb hc a, ← hraw]
    rfl
  have hlast : ∀ x, x ≠ ')' → a.getLast? ≠ some x →
      (Marker.substitute (Reading.ofText raw).citations a).getLast? ≠ some x := by
    intro x hx ha hs
    rcases Marker.getLast?_substitute (Reading.ofText raw).citations a with hl | hl
    · exact ha (hl ▸ hs)
    · rw [hl] at hs
      exact hx (Option.some.inj hs).symm
  refine Link.mem_split rfl (fun before hbs => Link.atHead?_text hplain.title_oneLine hbare hbs _)
    hclean ⟨hlast _ (by decide) hbefore.1, hlast _ (by decide) hbefore.2⟩ 0 ?_
  intro r hr hin
  rw [Nat.zero_add] at hin
  exact htarget ⟨r, hr, hin⟩

/-- A citation that a marker of a finished reply refers to is linked under its title and listed as a
source, unless what stands around the marker keeps its link from being read as one. -/
theorem source_of_marker {options : Options} {raw text a digits b : Text} {c : Citation}
    (hbody : ofReading options raw (Reading.ofText raw) false = .body text)
    (hraw : Text.trim (Block.layout raw).outside = a ++ Marker.written digits ++ b)
    (hn : Marker.IsNumber digits) (hb : b.head? ≠ some '(')
    (hc : Marker.resolve? (Reading.ofText raw).citations digits = some c) (hplain : c.Plain)
    (hbefore : a.getLast? ≠ some '\\' ∧ a.getLast? ≠ some '!')
    (htarget : ¬ Link.InTarget (Reading.ofText raw).clean
      (Marker.substitute (Reading.ofText raw).citations a).length) :
    c ∈ sources options (Reading.ofText raw) false ∧
      Link.written c.title c.url <:+: text ∧
      (options.sourcesFooter = true → Link.footerLine c <:+: text) := by
  obtain ⟨-, rfl⟩ := body_of_ofReading hbody
  obtain ⟨gap, hmem⟩ := bareLink_mem_split hraw hn hb hc hplain hbefore htarget
  have hget := get?_directory (List.mem_of_find?_eq_some hc)
  have hsource : c ∈ sources options (Reading.ofText raw) false :=
    Link.mem_sources (Directory.keyed_ofList _) hmem rfl hget
  refine ⟨hsource, ?_, ?_⟩
  · exact (Link.written_infix_annotate hmem rfl hget hplain.title_ne_nil).trans
      (annotation_infix_body options _)
  · intro hf
    exact (footerLine_infix_footer hsource).trans
      (footer_infix_body hf (List.ne_nil_of_mem hsource))

def one : Citation := ⟨"cite-1".toList, "One".toList, "https://one.com".toList, []⟩

/-- A reply whose only marker stands between two texts. -/
def replyAround (left right : Text) : Text :=
  ("<citations>\n\x7b\"id\":\"cite-1\",\"title\":\"One\",\"url\":\"https://one.com\"," ++
    "\"snippet\":\"\"\x7d\n</citations>\n").toList ++ left ++ "[cite-1]".toList ++ right

theorem plain_one : one.Plain := by
  refine ⟨by decide, by decide, ?_⟩
  have hall : (one.url.all fun x =>
      !Text.isSpace x && !List.contains ['(', ')', '<', '>', '[', ']'] x) = true := by
    decide
  intro x hx
  simpa using List.all_eq_true.1 hall x hx

/-- The marker stands in the text of what would be a link, did its text not have a bracket. -/
def labelReply : Text := replyAround "[see ".toList "](/c)".toList

theorem source_of_marker_in_label :
    ofReading Settings.default.options labelReply (Reading.ofText labelReply) false =
      .body ("[see [One](<https://one.com>)](/c)\n\n**Sources:**\n" ++
        "- [One](<https://one.com>)").toList ∧
      one ∈ sources Settings.default.options (Reading.ofText labelReply) false := by
  have hbody : ofReading Settings.default.options labelReply (Reading.ofText labelReply) false =
      .body ("[see [One](<https://one.com>)](/c)\n\n**Sources:**\n" ++
        "- [One](<https://one.com>)").toList := by
    decide +kernel
  have hraw : Text.trim (Block.layout labelReply).outside =
      "[see ".toList ++ Marker.written ['1'] ++ "](/c)".toList := by
    decide +kernel
  have hc : Marker.resolve? (Reading.ofText labelReply).citations ['1'] = some one := by
    decide +kernel
  have htarget : ¬ Link.InTarget (Reading.ofText labelReply).clean
      (Marker.substitute (Reading.ofText labelReply).citations "[see ".toList).length := by
    decide +kernel
  have hsource := source_of_marker hbody hraw ⟨by decide, by simp⟩ (by decide +kernel) hc plain_one
    ⟨by decide, by decide⟩ htarget
  exact ⟨hbody, hsource.1⟩

/-- An image, an escaped bracket, the target of a link: what the marker refers to is no source. -/
theorem sources_lost :
    one.Plain ∧ Url.isExternal one.url = true ∧
      ∀ around ∈ [("It is fast!".toList, []), ("Literally \\".toList, []),
          ("See [x](/".toList, [')'])],
        ofReading Settings.default.options (replyAround around.1 around.2)
            (Reading.ofText (replyAround around.1 around.2)) false =
          .body (around.1 ++ "[One](https://one.com)".toList ++ around.2) ∧
        Text.trim (Block.layout (replyAround around.1 around.2)).outside =
          around.1 ++ Marker.written ['1'] ++ around.2 ∧
        around.2.head? ≠ some '(' ∧
        Marker.resolve? (Reading.ofText (replyAround around.1 around.2)).citations ['1'] = some one ∧
        sources Settings.default.options (Reading.ofText (replyAround around.1 around.2)) false =
          [] := by
  refine ⟨plain_one, by decide, ?_⟩
  decide +kernel

end Frame
end CitedReply
