import CitedReply.Proofs.Citation.Block
import CitedReply.Proofs.Citation.Cut
import CitedReply.Proofs.Frame.Prompted

/-!
# CitedReply.Proofs.Citation.Wire

Citations on their way: a reply is written with its citations in front and read as it arrives.

At every moment the part that has arrived holds some objects as a whole, and those are the citations
that are read. The part may end in a tag, in an object or in the answer; only a line that is a whole
object gives a citation, and no object holds a line feed or the closing tag.

* `filterMap_lines_of_cut`: the lines of a part of the block, one turn for each object.
* `citations_of_arrived`: what is read of any part of the reply.
-/

namespace CitedReply
namespace Wire

/-- The citations as compact objects, one on each line. -/
def objects (cs : List Citation) : Text := List.intercalate ['\n'] (cs.map Citation.encode)

def body (cs : List Citation) : Text := '\n' :: (objects cs ++ ['\n'])

/-- A reply with its citations in front. -/
def text (cs : List Citation) (answer : Text) : Text := reply (body cs) ('\n' :: answer)

/-- The reply up to the end of the last object. -/
def upTo (cs : List Citation) : Text := Block.openTag ++ '\n' :: objects cs

/-- How many of the objects are wholly contained in the part of a reply that has arrived. -/
def arrived (cs : List Citation) (part : Text) : Nat :=
  (List.range cs.length).countP fun i => (upTo (cs.take (i + 1))).isPrefixOf part

/-! ## Objects -/

theorem objects_cons (c : Citation) {cs : List Citation} (h : cs ≠ []) :
    objects (c :: cs) = Citation.encode c ++ '\n' :: objects cs := by
  have hne : cs.map Citation.encode ≠ [] := by simpa using h
  simp [objects, List.intercalate_cons_of_ne_nil hne]

theorem encode_prefix_objects (c : Citation) (cs : List Citation) :
    Citation.encode c <+: objects (c :: cs) := by
  by_cases h : cs = []
  · subst h
    simp [objects]
  · rw [objects_cons c h]
    exact List.prefix_append _ _

theorem objects_prefix (cs ds : List Citation) : objects cs <+: objects (cs ++ ds) := by
  induction cs with
  | nil => exact List.nil_prefix
  | cons c cs ih =>
    by_cases h : cs = []
    · subst h
      simpa [objects] using encode_prefix_objects c ds
    · rw [List.cons_append, objects_cons c h, objects_cons c (List.append_ne_nil_of_left_ne_nil h ds)]
      simpa using ih

/-- The lines of the block, the closing tag in place of a last object. -/
theorem objects_closeTag {cs : List Citation} (h : cs ≠ []) :
    objects cs ++ '\n' :: Block.closeTag =
      List.intercalate ['\n'] (cs.map Citation.encode ++ [Block.closeTag]) := by
  induction cs with
  | nil => exact absurd rfl h
  | cons c cs ih =>
    by_cases hcs : cs = []
    · subst hcs
      simp [objects]
    · rw [objects_cons c hcs, List.append_assoc, List.cons_append, ih hcs, List.map_cons,
        List.cons_append, List.intercalate_cons_of_ne_nil (by simp)]
      simp

/-! ## Whole objects -/

/-- How many of the objects are wholly contained in the start of a block. -/
def whole (cs : List Citation) (q : Text) : Nat :=
  (List.range cs.length).countP fun i => (objects (cs.take (i + 1))).isPrefixOf q

theorem arrived_eq_whole (cs : List Citation) (q : Text) :
    arrived cs (Block.openTag ++ '\n' :: q) = whole cs q := by
  unfold arrived whole
  refine List.countP_congr fun i _ => ?_
  rw [List.isPrefixOf_iff_prefix, List.isPrefixOf_iff_prefix, upTo, List.prefix_append_right_inj,
    List.cons_prefix_cons]
  exact and_iff_right rfl

theorem arrived_of_short (cs : List Citation) {part : Text}
    (h : part.length ≤ Block.openTag.length) : arrived cs part = 0 := by
  refine List.countP_eq_zero.2 fun i _ hp => ?_
  have hlen := (List.isPrefixOf_iff_prefix.1 hp).length_le
  rw [upTo, List.length_append, List.length_cons] at hlen
  omega

theorem arrived_of_all {cs : List Citation} {part : Text} (h : upTo cs <+: part) :
    arrived cs part = cs.length := by
  have hall : ∀ i ∈ List.range cs.length, (upTo (cs.take (i + 1))).isPrefixOf part = true := by
    intro i _
    have hobjects := objects_prefix (cs.take (i + 1)) (cs.drop (i + 1))
    rw [List.take_append_drop] at hobjects
    rw [List.isPrefixOf_iff_prefix]
    refine List.IsPrefix.trans ?_ h
    rw [upTo, upTo, List.prefix_append_right_inj]
    exact List.cons_prefix_cons.2 ⟨rfl, hobjects⟩
  rw [arrived, List.countP_eq_length.2 hall, List.length_range]

theorem whole_of_cut {c : Citation} {cs : List Citation} {q : Text}
    (h : ¬ Citation.encode c <+: q) : whole (c :: cs) q = 0 := by
  refine List.countP_eq_zero.2 fun i _ hp => h ?_
  rw [List.isPrefixOf_iff_prefix, List.take_succ_cons] at hp
  exact (encode_prefix_objects c _).trans hp

theorem whole_cons (c : Citation) (cs : List Citation) {q : Text} (h : Citation.encode c <+: q) :
    whole (c :: cs) q =
      (List.range cs.length).countP (fun i => (objects (c :: cs.take (i + 1))).isPrefixOf q) + 1 := by
  have hfirst : (objects [c]).isPrefixOf q = true := by
    rw [List.isPrefixOf_iff_prefix]
    simpa [objects] using h
  rw [whole, List.length_cons, List.range_succ_eq_map, List.countP_cons, List.countP_map]
  simp only [List.take_succ_cons, List.take_zero, hfirst, if_true]
  rfl

theorem take_ne_nil {cs : List Citation} {i : Nat} (h : i ∈ List.range cs.length) :
    cs.take (i + 1) ≠ [] := by
  have hi := List.mem_range.1 h
  rw [Ne, List.take_eq_nil_iff, not_or]
  exact ⟨Nat.succ_ne_zero i, by rintro rfl; exact absurd hi (Nat.not_lt_zero i)⟩

theorem whole_line (c : Citation) (cs : List Citation) (q : Text) :
    whole (c :: cs) (Citation.encode c ++ '\n' :: q) = whole cs q + 1 := by
  rw [whole_cons c cs (List.prefix_append _ _), whole]
  congr 1
  refine List.countP_congr fun i hi => ?_
  rw [List.isPrefixOf_iff_prefix, List.isPrefixOf_iff_prefix, objects_cons c (take_ne_nil hi),
    List.prefix_append_right_inj, List.cons_prefix_cons]
  exact and_iff_right rfl

theorem whole_object (c : Citation) (cs : List Citation) :
    whole (c :: cs) (Citation.encode c) = 1 := by
  rw [whole_cons c cs (List.prefix_refl _), List.countP_eq_zero.2]
  intro i hi hp
  rw [List.isPrefixOf_iff_prefix, objects_cons c (take_ne_nil hi)] at hp
  have hlen := hp.length_le
  rw [List.length_append, List.length_cons] at hlen
  omega

/-! ## Reading a part of the block -/

variable {cs : List Citation}

/-- Each line is one object or, where the part ends, the start of one or of the closing tag. -/
theorem filterMap_lines_of_cut (hid : ∀ c ∈ cs, c.id ≠ []) (hurl : ∀ c ∈ cs, c.url ≠ []) {q : Text}
    (h : q <+: List.intercalate ['\n'] (cs.map Citation.encode ++ [Block.closeTag])) :
    (Text.lines q).filterMap Citation.ofLine? = cs.take (whole cs q) := by
  induction cs generalizing q with
  | nil =>
    have hq : '{' ∉ q := fun hm => absurd (h.subset hm) (by decide)
    rw [Citation.filterMap_lines_of_no_brace hq]
    rfl
  | cons c cs ih =>
    simp only [List.mem_cons, forall_eq_or_imp] at hid hurl
    rw [List.map_cons, List.cons_append, List.intercalate_cons_of_ne_nil (by simp),
      List.append_assoc, List.singleton_append] at h
    have hread := Citation.ofLine?_of_describes (Citation.describes_encode c) hid.1 hurl.1
    rcases List.prefix_or_prefix_of_prefix h (List.prefix_append (Citation.encode c) _) with
      hcut | ⟨r, rfl⟩
    · have hfeed : '\n' ∉ q := fun hm => Citation.newline_not_mem_encode c (hcut.subset hm)
      rw [Text.lines, Text.fields_of_not_mem hfeed]
      by_cases hq : q = Citation.encode c
      · subst hq
        simp [hread, whole_object]
      · have hne : ¬ Citation.encode c <+: q := fun hp => hq (hcut.eq_of_length_le hp.length_le)
        simp [Citation.ofLine?_of_cut hcut hq, whole_of_cut hne]
    · rcases List.prefix_cons_iff.1 ((List.prefix_append_right_inj _).1 h) with rfl | ⟨q', rfl, hq'⟩
      · rw [List.append_nil, Text.lines, Text.fields_of_not_mem (Citation.newline_not_mem_encode c)]
        simp [hread, whole_object]
      · rw [Text.lines, Text.fields_append, whole_line,
          Text.fields_of_not_mem (Citation.newline_not_mem_encode c), List.singleton_append,
          List.filterMap_cons_some hread, List.take_succ_cons]
        exact congrArg (c :: ·) (ih hid.2 hurl.2 hq')

theorem listed_of_part (hid : ∀ c ∈ cs, c.id ≠ []) (hurl : ∀ c ∈ cs, c.url ≠ []) {q : Text}
    (h : q <+: body cs ++ Block.closeTag) :
    Reading.listed [q] = cs.take (arrived cs (Block.openTag ++ q)) := by
  rw [Reading.listed, List.flatMap_singleton]
  rw [body, List.cons_append, List.append_assoc, List.singleton_append] at h
  rcases List.prefix_cons_iff.1 h with rfl | ⟨q, rfl, hq⟩
  · rw [arrived_of_short cs (by simp)]
    rfl
  · have hblank : Citation.ofLine? [] = none := rfl
    have hlines : Text.lines ('\n' :: q) = [] :: Text.lines q := Text.fields_append '\n' [] q
    rw [hlines, List.filterMap_cons_none hblank, arrived_eq_whole]
    by_cases hcs : cs = []
    · subst hcs
      have hq' : '{' ∉ q := fun hm => absurd (hq.subset hm) (by decide)
      rw [Citation.filterMap_lines_of_no_brace hq']
      rfl
    · rw [objects_closeTag hcs] at hq
      exact filterMap_lines_of_cut hid hurl hq

/-! ## Reading a part of the reply -/

theorem closeTag_not_infix_body (h : ∀ c ∈ cs, ∀ f, ¬ Block.closeTag <:+: c.get f) :
    ¬ Block.closeTag <:+: body cs := by
  have hobjects : ¬ Block.closeTag <:+: objects cs := by
    induction cs with
    | nil => decide
    | cons c cs ih =>
      simp only [List.mem_cons, forall_eq_or_imp] at h
      have hc : ¬ Block.closeTag <:+: Citation.encode c := fun hi => by
        obtain ⟨f, hf⟩ := Citation.closeTag_infix_of_encode hi
        exact h.1 f hf
      by_cases hcs : cs = []
      · subst hcs
        simpa [objects] using hc
      · rw [objects_cons c hcs, Text.infix_append_cons_iff (by decide), not_or]
        exact ⟨hc, ih h.2⟩
  rw [body, Text.infix_cons_iff_of_not_mem (by decide) (by decide),
    Text.infix_append_cons_iff (by decide), not_or]
  exact ⟨hobjects, by decide⟩

/-- The block is open until its closing tag has arrived. -/
theorem layout_of_part (hbody : ¬ Block.closeTag <:+: body cs) {q : Text}
    (h : q <+: body cs ++ Block.closeTag) (hne : q ≠ body cs ++ Block.closeTag) :
    Block.layout (Block.openTag ++ q) = ⟨[], [], some q⟩ := by
  refine Block.layout_of_no_close (Block.cut?_openTag q) ?_
  cases hc : Text.cut? Block.closeTag q with
  | none => rfl
  | some m =>
    obtain ⟨x, y⟩ := m
    obtain ⟨z, hz⟩ := h
    have hpart := Text.cut?_append_of_some hc z
    have hwhole : Text.cut? Block.closeTag (body cs ++ Block.closeTag ++ []) = some (body cs, []) :=
      Text.cut?_append (by decide) hbody []
    rw [List.append_nil, ← hz, hpart] at hwhole
    have hyz : y ++ z = [] := (Prod.mk.inj (Option.some.inj hwhole)).2
    rw [(List.append_eq_nil_iff.1 hyz).2, List.append_nil] at hz
    exact absurd hz hne

theorem ofText_of_block (hid : ∀ c ∈ cs, c.id ≠ []) (hurl : ∀ c ∈ cs, c.url ≠ [])
    (hbody : ¬ Block.closeTag <:+: body cs) {behind : Text} (hbehind : ¬ Block.openTag <:+: behind) :
    Reading.ofText (reply (body cs) behind) =
      ⟨Citation.firstPerUrl cs, Marker.substitute (Citation.firstPerUrl cs) (Text.trim behind)⟩ := by
  have hall : upTo cs <+: Block.openTag ++ body cs := ⟨['\n'], by simp [upTo, body]⟩
  have hlisted : Reading.listed [body cs] = cs := by
    rw [listed_of_part hid hurl (List.prefix_append _ _), arrived_of_all hall, List.take_length]
  simp [Reading.ofText, layout_reply hbody hbehind, Block.Layout.bodies, Block.Layout.outside, hlisted]

/-- While the block is open, the lines that have arrived count. -/
theorem citations_of_open (hid : ∀ c ∈ cs, c.id ≠ []) (hurl : ∀ c ∈ cs, c.url ≠ [])
    (hbody : ¬ Block.closeTag <:+: body cs) {q : Text} (h : q <+: body cs ++ Block.closeTag)
    (hne : q ≠ body cs ++ Block.closeTag) :
    (Reading.ofText (Block.openTag ++ q)).citations =
      Citation.firstPerUrl (cs.take (arrived cs (Block.openTag ++ q))) := by
  rw [← listed_of_part hid hurl h, Reading.ofText, layout_of_part hbody h hne]
  rfl

/-- Once it is closed, all citations have arrived. -/
theorem citations_of_closed (hid : ∀ c ∈ cs, c.id ≠ []) (hurl : ∀ c ∈ cs, c.url ≠ [])
    (hbody : ¬ Block.closeTag <:+: body cs) {behind : Text} (hbehind : ¬ Block.openTag <:+: behind) :
    (Reading.ofText (reply (body cs) behind)).citations =
      Citation.firstPerUrl (cs.take (arrived cs (reply (body cs) behind))) := by
  have hall : upTo cs <+: reply (body cs) behind :=
    ⟨'\n' :: (Block.closeTag ++ behind), by simp [upTo, body, reply]⟩
  rw [ofText_of_block hid hurl hbody hbehind, arrived_of_all hall, List.take_length]

theorem citations_of_part {answer part : Text} (hid : ∀ c ∈ cs, c.id ≠ [])
    (hurl : ∀ c ∈ cs, c.url ≠ []) (hbody : ¬ Block.closeTag <:+: body cs)
    (hanswer : ¬ Block.openTag <:+: '\n' :: answer) (h : part <+: text cs answer) :
    (Reading.ofText part).citations = Citation.firstPerUrl (cs.take (arrived cs part)) := by
  have htext : text cs answer =
      Block.openTag ++ (body cs ++ Block.closeTag ++ '\n' :: answer) := by
    simp [text, reply]
  rw [htext] at h
  by_cases hopen : Block.openTag <+: part
  · obtain ⟨q, rfl⟩ := hopen
    rw [List.prefix_append_right_inj] at h
    by_cases hclosed : body cs ++ Block.closeTag <+: q
    · obtain ⟨behind, rfl⟩ := hclosed
      have hbehind : ¬ Block.openTag <:+: behind := fun hi =>
        hanswer (hi.trans ((List.prefix_append_right_inj _).1 h).isInfix)
      have hreply : Block.openTag ++ (body cs ++ Block.closeTag ++ behind) =
          reply (body cs) behind := by
        simp [reply]
      rw [hreply]
      exact citations_of_closed hid hurl hbody hbehind
    · have hpart : q <+: body cs ++ Block.closeTag :=
        (List.prefix_or_prefix_of_prefix h (List.prefix_append _ _)).resolve_right hclosed
      have hne : q ≠ body cs ++ Block.closeTag := fun he => hclosed (he ▸ List.prefix_refl _)
      exact citations_of_open hid hurl hbody hpart hne
  · -- the opening tag has not arrived as a whole
    have hpart : part <+: Block.openTag :=
      (List.prefix_or_prefix_of_prefix h (List.prefix_append _ _)).resolve_right hopen
    have hnone : ¬ Block.openTag <:+: part := fun hi =>
      hopen (hpart.eq_of_length_le hi.length_le ▸ List.prefix_refl _)
    rw [Reading.ofText_of_no_open hnone, arrived_of_short cs hpart.length_le]
    rfl

/-- Of any part of a reply the citations are read whose objects have arrived as a whole, the first of
each address, and of the whole reply the answer with its markers resolved by them. -/
theorem citations_of_arrived {answer : Text} (hid : ∀ c ∈ cs, c.id ≠ []) (hurl : ∀ c ∈ cs, c.url ≠ [])
    (htag : ∀ c ∈ cs, ∀ f, ¬ Block.closeTag <:+: c.get f) (hanswer : ¬ Block.openTag <:+: answer) :
    (∀ part, part <+: text cs answer →
        (Reading.ofText part).citations = Citation.firstPerUrl (cs.take (arrived cs part))) ∧
      Reading.ofText (text cs answer) =
        ⟨Citation.firstPerUrl cs,
          Marker.substitute (Citation.firstPerUrl cs) (Text.trim answer)⟩ := by
  have hbody := closeTag_not_infix_body htag
  have hanswer' : ¬ Block.openTag <:+: '\n' :: answer := by
    rwa [Text.infix_cons_iff_of_not_mem (by decide) (by decide)]
  refine ⟨fun part hpart => citations_of_part hid hurl hbody hanswer' hpart, ?_⟩
  rw [text, ofText_of_block hid hurl hbody hanswer']
  rfl

/-- Quotes, line feeds, an opening tag and the start of a closing tag inside fields. -/
def exampleCitations : List Citation :=
  [⟨"a".toList, "\"<citations>\"\n".toList, "https://a.com".toList, "\x7b\\".toList⟩,
    ⟨"b".toList, "</citations".toList, "https://b.com".toList, []⟩]

/-- All but the brace of the second object. -/
theorem citations_of_arrived_but_a_brace :
    ∃ part, part <+: text exampleCitations "So.".toList ∧
      part ++ ['\x7d'] <+: text exampleCitations "So.".toList ∧
      (Reading.ofText part).citations = exampleCitations.take 1 ∧
      (Reading.ofText (text exampleCitations "So.".toList)).citations = exampleCitations := by
  have hid : ∀ c ∈ exampleCitations, c.id ≠ [] := by simp [exampleCitations]
  have hurl : ∀ c ∈ exampleCitations, c.url ≠ [] := by simp [exampleCitations]
  have htag : ∀ c ∈ exampleCitations, ∀ f, ¬ Block.closeTag <:+: c.get f := by
    intro c hc f
    simp only [exampleCitations, List.mem_cons, List.not_mem_nil, or_false] at hc
    rcases hc with rfl | rfl <;> cases f <;> exact Text.cut?_eq_none_iff.1 (by decide)
  have hanswer : ¬ Block.openTag <:+: "So.".toList := Text.cut?_eq_none_iff.1 (by decide)
  obtain ⟨hparts, hwhole⟩ := citations_of_arrived hid hurl htag hanswer
  have hpart : (upTo exampleCitations).dropLast <+: text exampleCitations "So.".toList :=
    List.isPrefixOf_iff_prefix.1 (by decide +kernel)
  have hbrace : (upTo exampleCitations).dropLast ++ ['\x7d'] <+:
      text exampleCitations "So.".toList :=
    List.isPrefixOf_iff_prefix.1 (by decide +kernel)
  have harrived : Citation.firstPerUrl
      (exampleCitations.take (arrived exampleCitations (upTo exampleCitations).dropLast)) =
        exampleCitations.take 1 := by
    decide +kernel
  refine ⟨_, hpart, hbrace, (hparts _ hpart).trans harrived, ?_⟩
  rw [hwhole]
  decide +kernel

end Wire
end CitedReply
