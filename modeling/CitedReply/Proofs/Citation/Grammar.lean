import CitedReply.Citation.Reply
import CitedReply.Proofs.Citation.Block

/-!
# CitedReply.Proofs.Citation.Grammar

The grammar of a reply: gaps and blocks in turn, and perhaps an open block at the end.

A gap has no opening tag and the body of a block no closing tag (`Layout.Legal`). Tags do not
overlap with themselves, so a gap ends where the first opening tag starts, and a body where the
first closing tag starts.

* `legal_layout`: the layout of a text is legal.
* `eq_layout`: no other one is.
* `layout_unambiguous`: so a text has one legal layout, and it says what is read of the text.
-/

namespace CitedReply

namespace Block

theorem cut?_at_openTag {gap : Text} (h : ¬ openTag <:+: gap) (r : Text) :
    Text.cut? openTag (gap ++ openTag ++ r) = some (gap, r) :=
  Text.cut?_append (by decide) h r

theorem cut?_at_closeTag {body : Text} (h : ¬ closeTag <:+: body) (r : Text) :
    Text.cut? closeTag (body ++ closeTag ++ r) = some (body, r) :=
  Text.cut?_append (by decide) h r

namespace Layout

/-- The gaps of a text, one more than it has closed blocks. -/
def gaps (l : Layout) : List Text := l.closed.map (·.1) ++ [l.gap]

/-- No gap has an opening tag, and no block goes on behind a closing tag. -/
structure Legal (l : Layout) : Prop where
  gap : ∀ g ∈ l.gaps, ¬ openTag <:+: g
  body : ∀ b ∈ l.bodies, ¬ closeTag <:+: b

theorem outside_eq_gaps (l : Layout) : l.outside = l.gaps.flatten := by
  simp [outside, gaps]

theorem text_push (gap body : Text) (l : Layout) :
    (l.push gap body).text = gap ++ openTag ++ (body ++ closeTag ++ l.text) := by
  simp [text, push]

theorem legal_push_iff {gap body : Text} {l : Layout} :
    (l.push gap body).Legal ↔ ¬ openTag <:+: gap ∧ ¬ closeTag <:+: body ∧ l.Legal := by
  constructor
  · rintro ⟨hgap, hbody⟩
    refine ⟨hgap gap List.mem_cons_self, hbody body List.mem_cons_self, ?_, ?_⟩
    · intro g hg
      exact hgap g (List.mem_cons_of_mem _ hg)
    · intro b hb
      exact hbody b (List.mem_cons_of_mem _ hb)
  · rintro ⟨hgap, hbody, hl⟩
    constructor
    · intro g hg
      rcases List.mem_cons.1 hg with rfl | hg
      · exact hgap
      · exact hl.gap g hg
    · intro b hb
      rcases List.mem_cons.1 hb with rfl | hb
      · exact hbody
      · exact hl.body b hb

end Layout

theorem legal_layout (t : Text) : (layout t).Legal := by
  fun_induction layout t with
  | case1 t h =>
    have hgap := Text.cut?_eq_none_iff.1 h
    constructor <;> simp [Layout.gaps, Layout.bodies, hgap]
  | case2 t gap rest h hc =>
    have hgap := Text.not_infix_of_cut? (by decide) h
    have hbody := Text.cut?_eq_none_iff.1 hc
    constructor <;> simp [Layout.gaps, Layout.bodies, hgap, hbody]
  | case3 t gap rest h body after hc ih =>
    have hgap := Text.not_infix_of_cut? (by decide) h
    have hbody := Text.not_infix_of_cut? (by decide) hc
    exact Layout.legal_push_iff.2 ⟨hgap, hbody, ih⟩

/-- The induction is on the closed blocks: the first one is where the first tags are. -/
theorem eq_layout {l : Layout} (h : l.Legal) : l = layout l.text := by
  obtain ⟨closed, gap, dangling⟩ := l
  induction closed with
  | nil =>
    have hgap : ¬ openTag <:+: gap := h.gap gap (List.mem_singleton_self gap)
    cases dangling with
    | none =>
      have htext : Layout.text ⟨[], gap, none⟩ = gap := by simp [Layout.text]
      rw [htext, layout_of_no_open (Text.cut?_eq_none_iff.2 hgap)]
    | some body =>
      have hbody : ¬ closeTag <:+: body := h.body body (List.mem_singleton_self body)
      have htext : Layout.text ⟨[], gap, some body⟩ = gap ++ openTag ++ body := by
        simp [Layout.text]
      rw [htext, layout_of_no_close (cut?_at_openTag hgap body) (Text.cut?_eq_none_iff.2 hbody)]
  | cons block closed ih =>
    obtain ⟨g, body⟩ := block
    have hpush : (⟨(g, body) :: closed, gap, dangling⟩ : Layout) =
        Layout.push g body ⟨closed, gap, dangling⟩ := rfl
    rw [hpush] at h ⊢
    obtain ⟨hgap, hbody, hrest⟩ := Layout.legal_push_iff.1 h
    rw [Layout.text_push, layout_of_block (cut?_at_openTag hgap _) (cut?_at_closeTag hbody _),
      ← ih hrest]

/-- A text has one legal layout. The citations are read from the bodies in it, in order, and the
answer is what the gaps in it make together, without white space at its ends. -/
theorem layout_unambiguous (t : Text) :
    (∀ l : Layout, l.Legal ∧ l.text = t ↔ l = layout t) ∧
      Reading.ofText t =
        ⟨Citation.firstPerUrl (Reading.listed (layout t).bodies),
          Marker.substitute (Citation.firstPerUrl (Reading.listed (layout t).bodies))
            (Text.trim (layout t).gaps.flatten)⟩ := by
  constructor
  · intro l
    constructor
    · rintro ⟨hl, rfl⟩
      exact eq_layout hl
    · rintro rfl
      exact ⟨legal_layout t, text_layout t⟩
  · rw [← Layout.outside_eq_gaps]
    rfl

/-- Stray closing tags, an opening tag in a body, and a tag cut off. -/
example : layout "a</citations><citations>b<citations></citations>c<citations>d</cita".toList =
    ⟨[("a</citations>".toList, "b<citations>".toList)], "c".toList, some "d</cita".toList⟩ := by
  decide +kernel

end Block
end CitedReply
