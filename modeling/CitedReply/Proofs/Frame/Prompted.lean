import CitedReply.Frame.Settings
import CitedReply.Proofs.Citation.Line
import CitedReply.Proofs.Directory
import CitedReply.Proofs.Marker.Substitution
import Mathlib.Data.List.Nodup

/-!
# CitedReply.Proofs.Frame.Prompted

Replies that keep to the format the model is prompted for: one block with a described citation on
each line, and an answer whose markers all name one of them.

Citations are kept by address and looked up by identifier. A line that repeats an address is
dropped, and the markers with its identifier are never resolved.

* `leftover_firstPerUrl`: what a marker leaves to be found, after the lines with a repeated address
  have been dropped.
* `body_iff_of_followsPrompt`: the finished reply is displayed exactly if the answer refers to no
  line that repeats an address.
-/

namespace CitedReply

/-- A reply of one block and the answer behind it. -/
def reply (body answer : Text) : Text := Block.openTag ++ body ++ Block.closeTag ++ answer

/-- What the prompt asks for. The block may have blank lines, and its objects other members. -/
structure FollowsPrompt (body answer : Text) (cs : List Citation) : Prop where
  closed : ¬ Block.closeTag <:+: body
  lines : List.Forall₂ Citation.Describes ((Text.lines body).filter (!Text.isBlank ·)) cs
  numbered : ∀ c ∈ cs, ∃ digits, Marker.IsNumber digits ∧ c.id = Marker.idOf digits
  distinct : (cs.map (·.id)).Nodup
  addressed : ∀ c ∈ cs, Url.isExternal c.url = true
  answered : ¬ Block.openTag <:+: answer
  known : ∀ id ∈ Marker.ids answer, id ∈ cs.map (·.id)

/-! ## Reading the reply -/

theorem layout_reply {body answer : Text} (hbody : ¬ Block.closeTag <:+: body)
    (hanswer : ¬ Block.openTag <:+: answer) :
    Block.layout (reply body answer) = ⟨[([], body)], answer, none⟩ := by
  have hopen : Text.cut? Block.openTag (reply body answer) =
      some ([], body ++ Block.closeTag ++ answer) := by
    have := Text.cut?_append (a := '<') (t := []) (by decide : '<' ∉ Block.openTag.tail) (by decide)
      (body ++ Block.closeTag ++ answer)
    simpa [reply, Block.openTag] using this
  have hclose : Text.cut? Block.closeTag (body ++ Block.closeTag ++ answer) = some (body, answer) :=
    Text.cut?_append (by decide) hbody answer
  rw [Block.layout_of_block hopen hclose,
    Block.layout_of_no_open (Text.cut?_eq_none_iff.2 hanswer)]
  rfl

theorem filterMap_ofLine? {lines : List Text} {cs : List Citation}
    (h : List.Forall₂ Citation.Describes (lines.filter (!Text.isBlank ·)) cs)
    (hid : ∀ c ∈ cs, c.id ≠ []) (hurl : ∀ c ∈ cs, c.url ≠ []) :
    lines.filterMap Citation.ofLine? = cs := by
  induction lines generalizing cs with
  | nil => cases h; rfl
  | cons line lines ih =>
    by_cases hb : Text.isBlank line = true
    · rw [List.filter_cons_of_neg (by simp [hb])] at h
      rw [List.filterMap_cons_none (Citation.ofLine?_of_isBlank hb), ih h hid hurl]
    · rw [List.filter_cons_of_pos (by simp [hb])] at h
      cases h with
      | @cons _ c _ cs hc hcs =>
        simp only [List.mem_cons, forall_eq_or_imp] at hid hurl
        rw [List.filterMap_cons_some (Citation.ofLine?_of_describes hc hid.1 hurl.1),
          ih hcs hid.2 hurl.2]

theorem ne_nil_of_isExternal {url : Text} (h : Url.isExternal url = true) : url ≠ [] := by
  rintro rfl
  exact absurd h (by decide)

theorem ofText_reply {body answer : Text} {cs : List Citation} (h : FollowsPrompt body answer cs) :
    Reading.ofText (reply body answer) =
      ⟨Citation.firstPerUrl cs,
        Marker.substitute (Citation.firstPerUrl cs) (Text.trim answer)⟩ := by
  have hid : ∀ c ∈ cs, c.id ≠ [] := by
    intro c hc
    obtain ⟨digits, _, he⟩ := h.numbered c hc
    rw [he]
    exact List.cons_ne_nil _ _
  have hcs := filterMap_ofLine? h.lines hid fun c hc => ne_nil_of_isExternal (h.addressed c hc)
  simp [Reading.ofText, Reading.listed, layout_reply h.closed h.answered, Block.Layout.bodies,
    Block.Layout.outside, hcs]

/-! ## What is left to be found -/

/-- Identifiers are distinct, so a marker finds its own line or, where that has been dropped,
none. -/
theorem leftover_firstPerUrl {cs : List Citation} (h : (cs.map (·.id)).Nodup) {c : Citation}
    (hc : c ∈ cs) :
    Marker.leftover (Citation.firstPerUrl cs) c.id = [] ↔
      c ∈ Citation.firstPerUrl cs ∧ Marker.ids c.url = [] := by
  have same : ∀ e ∈ Citation.firstPerUrl cs, e.id = c.id → e = c := fun e he hi =>
    List.inj_on_of_nodup_map h (Citation.mem_of_mem_firstPerUrl he) hc hi
  unfold Marker.leftover
  cases hf : (Citation.firstPerUrl cs).find? (·.id = c.id) with
  | some e =>
    have he := List.mem_of_find?_eq_some hf
    have hi : e.id = c.id := by simpa using List.find?_some hf
    obtain rfl := same e he hi
    simp [he]
  | none =>
    have hn : c ∉ Citation.firstPerUrl cs := fun hm => by
      simpa using List.find?_eq_none.1 hf c hm
    simp [hn]

theorem ids_clean_reply {body answer : Text} {cs : List Citation} (h : FollowsPrompt body answer cs) :
    Marker.ids (Reading.ofText (reply body answer)).clean = [] ↔
      ∀ c ∈ cs, c.id ∈ Marker.ids answer →
        c ∈ Citation.firstPerUrl cs ∧ Marker.ids c.url = [] := by
  rw [ofText_reply h, Marker.ids_substitute, Marker.ids_trim, List.flatMap_eq_nil_iff]
  constructor
  · intro hall c hc hid
    exact (leftover_firstPerUrl h.distinct hc).1 (hall _ hid)
  · intro hall id hid
    obtain ⟨c, hc, rfl⟩ := List.mem_map.1 (h.known id hid)
    exact (leftover_firstPerUrl h.distinct hc).2 (hall c hc hid)

/-! ## What is displayed -/

theorem body_iff_of_clean {options : Options} {raw : Text} {r : Reading} :
    (∃ text, Frame.ofReading options raw r false = .body text) ↔ Marker.ids r.clean = [] := by
  unfold Frame.ofReading Suppression.applies Suppression.isUnresolved
  cases hids : Marker.ids r.clean <;> simp

/-- A finished reply that follows the prompt is displayed exactly if each line that the answer
refers to is the first with its address. What an address with a marker in it does to the reply is
left open. -/
theorem body_iff_of_followsPrompt {options : Options} {body answer : Text} {cs : List Citation}
    (h : FollowsPrompt body answer cs)
    (hurl : ∀ c ∈ cs, c.id ∈ Marker.ids answer → Marker.ids c.url = []) :
    (∃ text, Frame.ofReading options (reply body answer) (Reading.ofText (reply body answer)) false =
        .body text) ↔
      ∀ c ∈ cs, c.id ∈ Marker.ids answer →
        ∃ earlier later, cs = earlier ++ c :: later ∧ ∀ e ∈ earlier, e.url ≠ c.url := by
  rw [body_iff_of_clean, ids_clean_reply h]
  simp only [Citation.mem_firstPerUrl_iff]
  exact ⟨fun hall c hc hid => (hall c hc hid).1, fun hall c hc hid => ⟨hall c hc hid, hurl c hc hid⟩⟩

/-- Two lines, the second with an address of its own or that of the first. -/
def exampleSources (url : Text) : List Citation :=
  [⟨"cite-1".toList, "First".toList, "https://a.com".toList, []⟩,
    ⟨"cite-2".toList, "Second".toList, url, []⟩]

def exampleBody (cs : List Citation) : Text :=
  '\n' :: cs.flatMap fun c => Citation.encode c ++ ['\n']

def exampleAnswer : Text := "\nOne [cite-1], two [cite-2].".toList

theorem followsPrompt_example (url : Text) (hurl : Url.isExternal url = true)
    (hclosed : Text.cut? Block.closeTag (exampleBody (exampleSources url)) = none)
    (hlines : (Text.lines (exampleBody (exampleSources url))).filter (!Text.isBlank ·) =
      (exampleSources url).map Citation.encode) :
    FollowsPrompt (exampleBody (exampleSources url)) exampleAnswer (exampleSources url) where
  closed := Text.cut?_eq_none_iff.1 hclosed
  lines := by
    rw [hlines]
    exact .cons (Citation.describes_encode _) (.cons (Citation.describes_encode _) .nil)
  numbered := by
    intro c hc
    simp only [exampleSources, List.mem_cons, List.not_mem_nil, or_false] at hc
    rcases hc with rfl | rfl
    · exact ⟨['1'], ⟨List.cons_ne_nil _ _, List.all_eq_true.1 rfl⟩, rfl⟩
    · exact ⟨['2'], ⟨List.cons_ne_nil _ _, List.all_eq_true.1 rfl⟩, rfl⟩
  distinct := show ["cite-1".toList, "cite-2".toList].Nodup by decide
  addressed := by
    intro c hc
    simp only [exampleSources, List.mem_cons, List.not_mem_nil, or_false] at hc
    rcases hc with rfl | rfl
    · exact (by decide : Url.isExternal "https://a.com".toList = true)
    · exact hurl
  answered := Text.cut?_eq_none_iff.1 (by decide +kernel)
  known := show ∀ id ∈ Marker.ids exampleAnswer, id ∈ ["cite-1".toList, "cite-2".toList] by
    decide +kernel

theorem body_of_distinct_addresses :
    FollowsPrompt (exampleBody (exampleSources "https://b.com".toList)) exampleAnswer
        (exampleSources "https://b.com".toList) ∧
      ∃ text, Frame.ofReading Settings.default.options
        (reply (exampleBody (exampleSources "https://b.com".toList)) exampleAnswer)
        (Reading.ofText (reply (exampleBody (exampleSources "https://b.com".toList)) exampleAnswer))
        false = .body text := by
  have h := followsPrompt_example "https://b.com".toList (by decide) (by decide +kernel)
    (by decide +kernel)
  have hkept : ∀ c ∈ exampleSources "https://b.com".toList,
      c ∈ Citation.firstPerUrl (exampleSources "https://b.com".toList) := by
    decide +kernel
  refine ⟨h, (body_iff_of_followsPrompt h (by decide +kernel)).2 fun c hc _ => ?_⟩
  exact Citation.mem_firstPerUrl_iff.1 (hkept c hc)

/-- Nothing the prompt asks for is amiss, and the reply is hidden for good. -/
theorem loading_of_repeated_address :
    FollowsPrompt (exampleBody (exampleSources "https://a.com".toList)) exampleAnswer
        (exampleSources "https://a.com".toList) ∧
      ¬ ∃ text, Frame.ofReading Settings.default.options
        (reply (exampleBody (exampleSources "https://a.com".toList)) exampleAnswer)
        (Reading.ofText (reply (exampleBody (exampleSources "https://a.com".toList)) exampleAnswer))
        false = .body text := by
  refine ⟨followsPrompt_example _ (by decide) (by decide +kernel) (by decide +kernel), ?_⟩
  rw [body_iff_of_clean]
  decide +kernel

end CitedReply
