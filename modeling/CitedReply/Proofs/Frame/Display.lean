import CitedReply.Frame.Settings
import CitedReply.Proofs.Directory
import CitedReply.Proofs.Marker.Link

/-!
# CitedReply.Proofs.Frame.Display

The markers of what is displayed. The text of a reply is displayed only if it has none, and neither
the holding back of its end nor the annotation of its links makes one. The footer escapes its labels
but not its snippets, and those are all that can bring one in.

* `find_annotate`: the markers of an annotated text are those of the text, and so is the verdict.
* `ids_body`: the markers of a body are those of the snippets in its footer.
* `markers_of_body`: so nothing half-finished is displayed exactly if no such snippet has one.
-/

namespace CitedReply

namespace HoldBack

open Marker

theorem ids_withoutTag {t : Text} (h : ids t = []) : ids (withoutTag t) = [] := by
  simp only [withoutTag]
  cases hf : ((List.range Block.openTag.length).reverse.filter (0 < ·)).findSome? fun n =>
      Text.dropSuffix? (Block.openTag.take n) t with
  | none => exact h
  | some r =>
    obtain ⟨n, hn, hr⟩ := List.exists_of_findSome?_eq_some hf
    have hpos : 0 < n := by simpa using (List.mem_filter.1 hn).2
    obtain ⟨m, rfl⟩ := Nat.exists_eq_add_of_lt hpos
    rw [Text.dropSuffix?_eq_some_iff] at hr
    have htag : Block.openTag.take (0 + m + 1) = '<' :: Block.openTag.tail.take (0 + m) := rfl
    rw [hr, htag, ids_append_inert (by decide)] at h
    exact (List.append_eq_nil_iff.1 h).1

theorem ids_withoutMarker {t : Text} (h : ids t = []) : ids (withoutMarker t) = [] := by
  unfold withoutMarker atLastBracket?
  cases hp : Text.throughLast? '[' t with
  | none => exact h
  | some p =>
    obtain ⟨u, v, rfl, ht, _⟩ := Text.throughLast?_eq_some hp
    simp only [Option.map_some, List.dropLast_concat]
    split
    · rw [ht, ids_append_inert (by decide)] at h
      exact (List.append_eq_nil_iff.1 h).1
    · exact h

theorem ids_holdBack {t : Text} (h : ids t = []) : ids (holdBack t) = [] := by
  have hm := ids_withoutMarker (ids_withoutTag h)
  obtain ⟨s, hs, hsp⟩ := Text.trimEnd_eq (withoutMarker (withoutTag t))
  rw [hs, ids_append_blank _ hsp] at hm
  exact hm

end HoldBack

namespace Suppression

open Marker

/-- The verdict on a text hangs on the markers it has. -/
theorem applies_congr {clean clean' : Text} (h : ids clean' = ids clean) (raw : Text)
    (streaming : Bool) : applies raw clean' streaming = applies raw clean streaming := by
  simp only [applies, isUnresolved, h]

/-- The markers of an annotated text are those of the text, in order: they stand between its links
and in their addresses, which the annotation keeps. So the verdict on the one is the verdict on the
other. -/
theorem find_annotate (d : Directory) (synthetic : Bool) (t : Text) :
    (find (Link.annotate d synthetic t).text).map Found.id = (find t).map Found.id ∧
      (find t).map Found.id =
        (Link.split t).links.flatMap (fun p =>
          (find p.1).map Found.id ++ (find p.2.href).map Found.id) ++
            (find (Link.split t).gap).map Found.id ∧
      ∀ raw streaming,
        applies raw (Link.annotate d synthetic t).text streaming = applies raw t streaming := by
  simp only [map_id_find]
  have hids := ids_annotate d synthetic t
  exact ⟨hids, ids_split t, applies_congr hids⟩

/-- A title that looks like a marker hides none, and none is made of what stands around its link. -/
example :
    let d : Directory := .ofList [⟨[], "[cite-1]".toList, "/[cite-2]".toList, []⟩]
    (find (Link.annotate d false "[cite-[x](/[cite-2])3][cite-4]".toList).text).map Found.id =
      ["cite-2".toList, "cite-4".toList] := by
  decide +kernel

end Suppression

namespace Link

open Marker

theorem url_of_citation? {d : Directory} (h : d.Keyed) {synthetic : Bool} {l : Link} {c : Citation}
    (hc : citation? d synthetic l = some c) : c.url = l.href := by
  unfold citation? at hc
  split at hc
  · cases hc
  · split at hc
    · rename_i hd
      cases hc
      exact h _ _ hd
    · split at hc
      · cases hc
        rfl
      · cases hc

/-- The address of a source is the target of a link, so its markers are markers of the text. -/
theorem ids_url_of_source {d : Directory} (h : d.Keyed) {synthetic : Bool} {t : Text}
    (ht : ids t = []) : ∀ c ∈ (annotate d synthetic t).sources, ids c.url = [] := by
  intro c hc
  obtain ⟨p, hp, hpc⟩ := List.mem_filterMap.1 (Citation.mem_of_mem_firstPerUrl hc)
  rw [ids_split, List.append_eq_nil_iff, List.flatMap_eq_nil_iff] at ht
  rw [url_of_citation? h hpc]
  exact (List.append_eq_nil_iff.1 (ht.1 p hp)).2

/-- What the footer shows of a snippet. -/
def shownSnippet (c : Citation) : Text := shortened (Text.trim c.snippet)

theorem footerLine_head (c : Citation) : ∃ r, footerLine c = '\n' :: r := by
  simp only [footerLine, show "\n- ".toList = ['\n', '-', ' '] from rfl, List.cons_append]
  exact ⟨_, rfl⟩

theorem ids_footerLine {c : Citation} (h : ids c.url = []) {x : Text}
    (hx : x = [] ∨ ∃ r, x = '\n' :: r) :
    ids (footerLine c ++ x) = ids (shownSnippet c) ++ ids x := by
  have hlink : ∀ y : Text, ids ("\n- ".toList ++ written (displayText (some c) [] c.url) c.url ++ y) =
      ids y := by
    intro y
    rw [List.append_assoc, ids_append_of_no_bracket (by decide), written_eq_text,
      ids_link (guarded_escape _), h, List.nil_append]
  have hbehind : ids (shownSnippet c ++ x) = ids (shownSnippet c) ++ ids x := by
    rcases hx with rfl | ⟨r, rfl⟩
    · simp
    · exact ids_append_inert (by decide) _ _
  simp only [footerLine]
  rw [List.append_assoc, hlink]
  split
  · rename_i he
    simp [shownSnippet, he, shortened]
  · rw [List.append_assoc, ids_append_of_no_bracket (by decide)]
    exact hbehind

theorem ids_footer {sources : List Citation} (h : ∀ c ∈ sources, ids c.url = []) :
    ids (footer sources) = sources.flatMap fun c => ids (shownSnippet c) := by
  unfold footer
  rw [ids_append_of_no_bracket (by decide)]
  induction sources with
  | nil => simp
  | cons c cs ih =>
    have hx : cs.flatMap footerLine = [] ∨ ∃ r, cs.flatMap footerLine = '\n' :: r := by
      cases cs with
      | nil => exact .inl rfl
      | cons c' cs' =>
        obtain ⟨r, hr⟩ := footerLine_head c'
        exact .inr ⟨r ++ cs'.flatMap footerLine, by rw [List.flatMap_cons, hr, List.cons_append]⟩
    have hline := ids_footerLine (h c List.mem_cons_self) hx
    have hrest := ih fun c' hc' => h c' (List.mem_cons_of_mem _ hc')
    rw [List.flatMap_cons, List.flatMap_cons, hline, hrest]

end Link

namespace Frame

open Marker

/-- The sources that are linked from what is displayed of a reading. -/
def sources (options : Options) (r : Reading) (streaming : Bool) : List Citation :=
  (Link.annotate r.directory options.syntheticExternal (shown r.clean streaming)).sources

theorem ids_shown {clean : Text} (h : ids clean = []) (streaming : Bool) :
    ids (shown clean streaming) = [] := by
  cases streaming with
  | true => exact HoldBack.ids_holdBack h
  | false => exact h

theorem body_of_ofReading {options : Options} {raw text : Text} {r : Reading} {streaming : Bool}
    (h : ofReading options raw r streaming = .body text) :
    ids r.clean = [] ∧ text = bodyText options
      (Link.annotate r.directory options.syntheticExternal (shown r.clean streaming)) := by
  unfold ofReading at h
  split at h
  · cases h
  · rename_i hs
    cases h
    refine ⟨?_, rfl⟩
    simp only [Suppression.applies, Suppression.isUnresolved, Bool.or_eq_true, not_or] at hs
    simpa using hs.1

theorem ids_bodyText {options : Options} {a : Link.Annotation} (htext : ids a.text = [])
    (hurl : ∀ c ∈ a.sources, ids c.url = []) :
    ids (bodyText options a) =
      if options.sourcesFooter then a.sources.flatMap fun c => ids (Link.shownSnippet c) else [] := by
  unfold bodyText
  by_cases hf : options.sourcesFooter = true
  · by_cases hs : a.sources = []
    · simp [hs, htext]
    · rw [if_pos ⟨hf, hs⟩, if_pos hf, ← Link.ids_footer hurl, List.append_assoc,
        show "\n\n".toList ++ Link.footer a.sources = '\n' :: '\n' :: Link.footer a.sources from rfl,
        ids_append_inert (by decide), htext, List.nil_append, ids_cons_ne (by decide),
        ids_cons_ne (by decide)]
  · rw [if_neg fun h => hf h.1, if_neg hf, htext]

theorem ids_body {options : Options} {raw text : Text} {streaming : Bool}
    (h : ofReading options raw (Reading.ofText raw) streaming = .body text) :
    ids text =
      if options.sourcesFooter then
        (sources options (Reading.ofText raw) streaming).flatMap fun c => ids (Link.shownSnippet c)
      else [] := by
  obtain ⟨hclean, rfl⟩ := body_of_ofReading h
  have hshown := ids_shown hclean streaming
  exact ids_bodyText ((ids_annotate _ _ _).trans hshown)
    (Link.ids_url_of_source (Directory.keyed_ofList _) hshown)

/-- While a reply grows, a block keeps it from being displayed, so no citation is known yet. -/
theorem citations_of_streaming_body {options : Options} {raw text : Text}
    (h : ofReading options raw (Reading.ofText raw) true = .body text) :
    (Reading.ofText raw).citations = [] := by
  unfold ofReading at h
  split at h
  · cases h
  · rename_i hs
    simp only [Suppression.applies, Bool.true_and, Bool.or_eq_true, not_or] at hs
    have hopen : Text.cut? Block.openTag raw = none := by
      simpa [Suppression.hasBlock, Text.contains] using hs.2
    simp only [Reading.ofText, Block.layout_of_no_open hopen]
    rfl

theorem shownSnippet_of_no_citations {options : Options} {r : Reading} (h : r.citations = [])
    {streaming : Bool} : ∀ c ∈ sources options r streaming, Link.shownSnippet c = [] := by
  intro c hc
  obtain ⟨p, _, hp⟩ := List.mem_filterMap.1 (Citation.mem_of_mem_firstPerUrl hc)
  have hd : r.directory.get? p.2.href = none := by
    rw [Reading.directory, h]
    rfl
  simp only [Link.citation?, hd] at hp
  split at hp
  · cases hp
  · split at hp
    · cases hp
      rfl
    · cases hp

/-- Of a reply that is displayed, only the snippets in the footer can hold markers, and what they
hold is all there is. So nothing half-finished is displayed exactly if no snippet that is listed has
a marker, and never while the reply still grows. -/
theorem markers_of_body {options : Options} {raw text : Text} {streaming : Bool}
    (h : ofReading options raw (Reading.ofText raw) streaming = .body text) :
    ids text =
        (if options.sourcesFooter then
          (sources options (Reading.ofText raw) streaming).flatMap fun c => ids (Link.shownSnippet c)
        else []) ∧
      (ids text = [] ↔ (options.sourcesFooter = true →
        ∀ c ∈ sources options (Reading.ofText raw) streaming, ids (Link.shownSnippet c) = [])) ∧
      (streaming = true → ids text = []) := by
  have hids := ids_body h
  have hiff : ids text = [] ↔ (options.sourcesFooter = true →
      ∀ c ∈ sources options (Reading.ofText raw) streaming, ids (Link.shownSnippet c) = []) := by
    rw [hids]
    by_cases hf : options.sourcesFooter = true
    · rw [if_pos hf, List.flatMap_eq_nil_iff]
      exact ⟨fun hs _ => hs, fun hs => hs hf⟩
    · rw [if_neg hf]
      exact ⟨fun _ hf' => absurd hf' hf, fun _ => rfl⟩
  refine ⟨hids, hiff, ?_⟩
  rintro rfl
  refine hiff.2 fun _ c hc => ?_
  rw [shownSnippet_of_no_citations (citations_of_streaming_body h) c hc, ids_nil]

/-- The title looks like a marker, the snippet has none. -/
def exampleReply : Text :=
  ("<citations>\n\x7b\"id\":\"cite-1\",\"title\":\"[cite-2]\",\"url\":\"https://one.com\"," ++
    "\"snippet\":\"so [cite-\"\x7d\n</citations>\nSeen [cite-1]").toList

theorem markers_of_exampleReply :
    ofReading Settings.default.options exampleReply (Reading.ofText exampleReply) false =
        .body ("Seen [\\[cite-2\\]](<https://one.com>)\n\n**Sources:**\n" ++
          "- [\\[cite-2\\]](<https://one.com>): so [cite-").toList ∧
      ids ("Seen [\\[cite-2\\]](<https://one.com>)\n\n**Sources:**\n" ++
          "- [\\[cite-2\\]](<https://one.com>): so [cite-").toList = [] := by
  have h : ofReading Settings.default.options exampleReply (Reading.ofText exampleReply) false =
      .body ("Seen [\\[cite-2\\]](<https://one.com>)\n\n**Sources:**\n" ++
        "- [\\[cite-2\\]](<https://one.com>): so [cite-").toList := by
    decide +kernel
  have hsnippets : ∀ c ∈ sources Settings.default.options (Reading.ofText exampleReply) false,
      ids (Link.shownSnippet c) = [] := by
    decide +kernel
  exact ⟨h, (markers_of_body h).2.1.2 fun _ => hsnippets⟩

def snippetReply : Text :=
  ("<citations>\n\x7b\"id\":\"cite-1\",\"title\":\"One\",\"url\":\"https://one.com\"," ++
    "\"snippet\":\"see [cite-9]\"\x7d\n</citations>\nText [cite-1]").toList

/-- The footer shows the marker of a snippet as it stands. -/
theorem marker_shown_in_snippet :
    ∃ text, ofReading Settings.default.options snippetReply (Reading.ofText snippetReply) false =
        .body text ∧
      ids text = ["cite-9".toList] :=
  ⟨("Text [One](<https://one.com>)\n\n**Sources:**\n" ++
    "- [One](<https://one.com>): see [cite-9]").toList, by decide +kernel, by decide +kernel⟩

end Frame
end CitedReply
