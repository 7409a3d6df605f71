import CitedReply.Citation.Reply
import CitedReply.Proofs.Marker.Substitution

/-!
# CitedReply.Proofs.Citation.Block

The layout of a reply that grows. What follows the closed blocks, its `rest`, is laid out anew; the
closed blocks stay (`layout_append`). An open block can lose its end to a closing tag that was cut,
but no line that had ended (`endedLines_prefix`). A reply without an opening tag has no blocks and
reads as it stands (`ofText_of_no_open`).
-/

namespace CitedReply
namespace Block

namespace Layout

/-- What follows the closed blocks. -/
def rest (l : Layout) : Text :=
  l.gap ++
    (match l.dangling with
    | some body => openTag ++ body
    | none => [])

end Layout

theorem not_openTag_infix_nil : ¬ openTag <:+: [] := by decide

theorem cut?_openTag (t : Text) : Text.cut? openTag (openTag ++ t) = some ([], t) :=
  Text.cut?_append (by decide) not_openTag_infix_nil t

theorem layout_append (t s : Text) :
    layout (t ++ s) =
      { layout ((layout t).rest ++ s) with
        closed := (layout t).closed ++ (layout ((layout t).rest ++ s)).closed } := by
  fun_induction layout t with
  | case1 t h => simp [Layout.rest]
  | case2 t gap rest h hc => simp [Layout.rest, Text.eq_of_cut?_eq_some h]
  | case3 t gap rest h body after hc ih =>
    have hopen := Text.cut?_append_of_some h s
    have hclose := Text.cut?_append_of_some hc s
    have hrest : ((layout after).push gap body).rest = (layout after).rest := rfl
    rw [layout_of_block hopen hclose, hrest, ih]
    rfl

theorem cut?_rest_of_dangling {t body : Text} (h : (layout t).dangling = some body) :
    Text.cut? openTag (layout t).rest = some ((layout t).gap, body) ∧
      Text.cut? closeTag body = none := by
  fun_induction layout t with
  | case1 t ht => cases h
  | case2 t gap rest ht hc =>
    have hrest : Layout.rest ⟨[], gap, some rest⟩ = t := by
      simp [Layout.rest, Text.eq_of_cut?_eq_some ht]
    cases h
    rw [hrest]
    exact ⟨ht, hc⟩
  | case3 t gap rest ht body' after hc ih => exact ih h

/-- The first body of a text: all that follows the opening tag, or what is before the closing tag. -/
theorem bodies_of_open {t gap rest : Text} (h : Text.cut? openTag t = some (gap, rest)) :
    ∃ body bodies, (layout t).bodies = body :: bodies ∧
      (body = rest ∨ ∃ after, Text.cut? closeTag rest = some (body, after)) := by
  cases hc : Text.cut? closeTag rest with
  | none =>
    refine ⟨rest, [], ?_, .inl rfl⟩
    rw [layout_of_no_close h hc]
    rfl
  | some m =>
    obtain ⟨body, after⟩ := m
    refine ⟨body, (layout after).bodies, ?_, .inr ⟨after, rfl⟩⟩
    rw [layout_of_block h hc]
    rfl

/-! ## Lines of an open block -/

/-- The lines that end in a line feed. -/
def endedLines (body : Text) : List Text := (Text.lines body).dropLast

theorem endedLines_of_no_feed {body : Text} (h : '\n' ∉ body) : endedLines body = [] := by
  rw [endedLines, Text.lines, Text.fields_of_not_mem h]
  rfl

theorem endedLines_append {u v : Text} (h : '\n' ∉ v) :
    endedLines (u ++ '\n' :: v) = Text.lines u := by
  rw [endedLines, Text.lines, Text.fields_append, Text.fields_of_not_mem h, List.dropLast_concat]
  rfl

theorem lines_of_ended {body : Text} (h : body = [] ∨ body.getLast? = some '\n') :
    Text.lines body = endedLines body ++ [[]] := by
  rcases h with rfl | h
  · rfl
  · obtain ⟨u, rfl⟩ := List.getLast?_eq_some_iff.1 h
    rw [endedLines_append List.not_mem_nil, Text.lines, Text.fields_append]
    rfl

/-- A closing tag has no line feed, so the one that ends an open block takes no ended line away. -/
theorem endedLines_prefix {rest s body : Text} (h : Text.cut? closeTag rest = none)
    (hb : body = rest ++ s ∨ ∃ after, Text.cut? closeTag (rest ++ s) = some (body, after)) :
    endedLines rest <+: Text.lines body := by
  cases hf : Text.throughLast? '\n' rest with
  | none =>
    rw [endedLines_of_no_feed (Text.throughLast?_eq_none hf)]
    exact List.nil_prefix
  | some p =>
    obtain ⟨u, v, _, rfl, hv⟩ := Text.throughLast?_eq_some hf
    have hbody : ∃ w, body = u ++ '\n' :: w := by
      rcases hb with rfl | ⟨after, hc⟩
      · exact ⟨v ++ s, by simp⟩
      · have hu : ¬ closeTag <:+: u := fun hi =>
          Text.cut?_eq_none_iff.1 h (hi.trans (List.prefix_append u _).isInfix)
        rw [List.append_assoc, List.cons_append, Text.cut?_append_cons (by decide) hu] at hc
        obtain ⟨m, _, he⟩ := Option.map_eq_some_iff.1 hc
        exact ⟨m.1, (Prod.mk.inj he).1.symm⟩
    obtain ⟨w, rfl⟩ := hbody
    rw [endedLines_append hv, Text.lines, Text.lines, Text.fields_append]
    exact List.prefix_append _ _

end Block

/-! ## Without blocks -/

theorem Reading.ofText_of_no_open {raw : Text} (h : ¬ Block.openTag <:+: raw) :
    ofText raw = ⟨[], Text.trim raw⟩ := by
  simp [ofText, Block.layout_of_no_open (Text.cut?_eq_none_iff.2 h), Block.Layout.bodies,
    Block.Layout.outside, listed, Citation.firstPerUrl, Marker.substitute_nil]

end CitedReply
