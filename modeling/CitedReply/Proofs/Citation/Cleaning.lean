import CitedReply.Proofs.Citation.Block

/-!
# CitedReply.Proofs.Citation.Cleaning

What becomes of a clean text that is read once more.

The clean text is put together after the search for tags: the gaps between the blocks are joined,
and links take the place of markers. An opening tag may come about at a joint or be brought in by a
link, and nothing else makes a second reading differ from the first.

* `ofText_eq_self_iff`: a trimmed text reads as itself when it has no opening tag.
* `openTag_infix_substitute_iff`: where the opening tags of a text with links come from.
* `ofText_clean_iff`: when cleaning a clean text changes nothing.
-/

namespace CitedReply

open Block

/-! ## Tags in links -/

theorem Link.openTag_infix_escape_iff {t : Text} : openTag <:+: escape t ↔ openTag <:+: t := by
  constructor
  · refine Text.infix_of_infix_flatMap (e := '\\') (by decide) fun c => ?_
    by_cases h : needsEscape c = true
    · refine .inr ⟨[c], if_pos h, ?_⟩
      intro hm
      rw [← List.mem_singleton.1 hm] at h
      cases h
    · exact .inl (if_neg h)
  · rintro ⟨a, b, rfl⟩
    have htag : escape openTag = openTag := rfl
    refine ⟨escape a, escape b, ?_⟩
    simp only [escape, List.flatMap_append] at htag ⊢
    rw [htag]

theorem Citation.openTag_infix_link_iff {c : Citation} :
    openTag <:+: c.link ↔ openTag <:+: c.label ∨ openTag <:+: target c.url := by
  rw [link, Text.infix_cons_iff_of_not_mem (by decide) (by decide),
    Text.infix_append_cons_iff (by decide), Link.openTag_infix_escape_iff,
    Text.infix_cons_iff_of_not_mem (by decide) (by decide), Text.infix_append_cons_iff (by decide),
    or_iff_left not_openTag_infix_nil]

namespace Marker

theorem openTag_infix_marker_iff {t digits after : Text} (h : atHead? t = some (digits, after)) :
    openTag <:+: t ↔ openTag <:+: after := by
  obtain ⟨hn, -, rfl⟩ := atHead?_eq_some_iff.1 h
  have hinert := not_mem_of_isInert (show isInert '<' = true by decide) hn
  refine Text.infix_append_iff_of_not_mem ?_
  rw [written_eq, List.mem_cons, not_or]
  exact ⟨by decide, hinert⟩

theorem openTag_infix_link_append_iff {c : Citation} {x : Text} :
    openTag <:+: c.link ++ x ↔ openTag <:+: c.link ∨ openTag <:+: x := by
  obtain ⟨u, hu⟩ := link_eq_concat c
  rw [hu, List.append_assoc, List.singleton_append, Text.infix_append_cons_iff (by decide),
    Text.infix_append_cons_iff (by decide), or_iff_left not_openTag_infix_nil]

theorem openTag_infix_substitute_iff {cs : List Citation} {t : Text} :
    openTag <:+: substitute cs t ↔
      openTag <:+: t ∨
        ∃ id ∈ ids t, ∃ c, cs.find? (·.id = id) = some c ∧ openTag <:+: c.link := by
  induction t using pieces.induct with
  | case1 => simp [substitute, pieces]
  | case2 c r digits after h ih =>
    rw [substitute_of_marker cs h, openTag_infix_marker_iff h, ids_of_marker h]
    simp only [List.mem_cons, exists_eq_or_imp, Piece.resolved, resolve?]
    cases cs.find? (·.id = idOf digits) with
    | some c =>
      simp only [openTag_infix_link_append_iff, ih, Option.some.injEq, exists_eq_left']
      exact or_left_comm
    | none =>
      obtain ⟨hn, ha, -⟩ := atHead?_eq_some_iff.1 h
      rw [← head?_substitute cs] at ha
      simp only [openTag_infix_marker_iff (atHead?_written hn ha), ih, reduceCtorEq, false_and,
        exists_false, false_or]
  | case3 c r h ih =>
    rw [substitute_of_char cs h, List.infix_cons_iff, ← substitute_of_char cs h,
      prefix_substitute_iff (by decide), ih, ids_of_char h, List.infix_cons_iff, or_assoc]

end Marker

/-! ## Reading once more -/

namespace Block

theorem length_outside_add_bodies (t : Text) :
    (layout t).outside.length + (layout t).bodies.length ≤ t.length := by
  fun_induction layout t with
  | case1 t h => simp [Layout.outside, Layout.bodies]
  | case2 t gap rest h hc =>
    have hlen := congrArg List.length (Text.eq_of_cut?_eq_some h)
    simp [Layout.outside, Layout.bodies, openTag] at hlen ⊢
    omega
  | case3 t gap rest h body after hc ih =>
    have hopen := congrArg List.length (Text.eq_of_cut?_eq_some h)
    have hclose := congrArg List.length (Text.eq_of_cut?_eq_some hc)
    simp [Layout.outside, Layout.bodies, Layout.push, openTag] at hopen hclose ih ⊢
    omega

end Block

namespace Reading

theorem ofText_eq_self_iff {t : Text} (h : Text.Trimmed t) :
    ofText t = ⟨[], t⟩ ↔ ¬ openTag <:+: t := by
  constructor
  · intro heq htag
    -- without citations no marker is resolved, so what is read is shorter
    have hclean : Text.trim (layout t).outside = t := by
      obtain ⟨hcitations, hclean⟩ := Reading.mk.inj heq
      rwa [hcitations, Marker.substitute_nil] at hclean
    obtain ⟨m, hm⟩ := Option.ne_none_iff_exists'.1 fun hn => Text.cut?_eq_none_iff.1 hn htag
    obtain ⟨body, bodies, hbodies, -⟩ := bodies_of_open hm
    have houtside := (Text.trim_infix (layout t).outside).length_le
    have hlen := length_outside_add_bodies t
    rw [hclean] at houtside
    rw [hbodies, List.length_cons] at hlen
    omega
  · intro hnone
    rw [ofText_of_no_open hnone, Text.trim_of_trimmed h]

theorem trimmed_clean (raw : Text) : Text.Trimmed (ofText raw).clean :=
  Marker.trimmed_substitute _ (Text.trimmed_trim _)

/-- Cleaning a clean text changes nothing exactly when the gaps joined make no opening tag and no
link that is put in brings one. -/
theorem ofText_clean_iff (raw : Text) :
    ofText (ofText raw).clean = ⟨[], (ofText raw).clean⟩ ↔
      ¬ openTag <:+: (layout raw).outside ∧
        ∀ id ∈ Marker.ids (layout raw).outside, ∀ c,
          (ofText raw).citations.find? (·.id = id) = some c →
            ¬ openTag <:+: c.label ∧ ¬ openTag <:+: Citation.target c.url := by
  have hclean : (ofText raw).clean =
      Marker.substitute (ofText raw).citations (Text.trim (layout raw).outside) := rfl
  have hsolid : ∀ c ∈ openTag, Text.isSpace c = false := by simp [openTag, Text.isSpace]
  rw [ofText_eq_self_iff (trimmed_clean raw), hclean, Marker.openTag_infix_substitute_iff, not_or,
    Marker.ids_trim, Text.infix_trim_iff hsolid]
  simp only [Citation.openTag_infix_link_iff, not_exists, not_and, not_or]

/-- The angle brackets of a tag in the title are escaped, so the reply has one block, and closed. -/
def taggedTitle : Text :=
  ("<citations>\n\x7b\"id\":\"cite-1\",\"title\":\"The \\u003ccitations\\u003e tag\"," ++
    "\"url\":\"https://x.com\"\x7d\n</citations>\nSee [cite-1] for more.").toList

theorem taggedTitle_opens_block :
    (layout taggedTitle).dangling = none ∧
      (ofText taggedTitle).clean = "See [The <citations> tag](https://x.com) for more.".toList ∧
      (ofText (ofText taggedTitle).clean).clean = "See [The".toList ∧
      (ofText (ofText taggedTitle).clean).clean ≠ (ofText taggedTitle).clean := by
  decide +kernel

/-- Two halves of a tag meet where a block is taken out. -/
example : (ofText (ofText "<cit<citations></citations>ations>So.".toList).clean).clean = [] := by
  decide +kernel

end Reading
end CitedReply
