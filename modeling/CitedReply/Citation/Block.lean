import CitedReply.Text.Blank

/-!
# CitedReply.Citation.Block

Citation blocks in a reply. A reply is gaps and blocks in turn: each block runs from an opening tag
to the next closing tag, and the last one may still be open.
-/

namespace CitedReply
namespace Block

def openTag : Text := ['<', 'c', 'i', 't', 'a', 't', 'i', 'o', 'n', 's', '>']

def closeTag : Text := ['<', '/', 'c', 'i', 't', 'a', 't', 'i', 'o', 'n', 's', '>']

/-- A reply taken apart: each closed block with the gap before it, the gap after them all, and what
has arrived of an open block behind that. -/
structure Layout where
  closed : List (Text × Text)
  gap : Text
  dangling : Option Text
  deriving DecidableEq

namespace Layout

def bodies (l : Layout) : List Text := l.closed.map (·.2) ++ l.dangling.toList

def outside (l : Layout) : Text := (l.closed.map (·.1)).flatten ++ l.gap

def text (l : Layout) : Text :=
  l.closed.flatMap (fun b => b.1 ++ openTag ++ b.2 ++ closeTag) ++ l.gap ++
    (match l.dangling with
    | some body => openTag ++ body
    | none => [])

def push (gap body : Text) (l : Layout) : Layout := { l with closed := (gap, body) :: l.closed }

end Layout

def layout (t : Text) : Layout :=
  match _ : Text.cut? openTag t with
  | none => ⟨[], t, none⟩
  | some (gap, rest) =>
    match _ : Text.cut? closeTag rest with
    | none => ⟨[], gap, some rest⟩
    | some (body, after) => (layout after).push gap body
termination_by t.length
decreasing_by
  have := Text.length_lt_of_cut? (by decide) ‹Text.cut? openTag t = _›
  have := Text.length_lt_of_cut? (by decide) ‹Text.cut? closeTag rest = _›
  omega

theorem layout_of_no_open {t : Text} (h : Text.cut? openTag t = none) : layout t = ⟨[], t, none⟩ := by
  rw [layout]
  split
  · rfl
  · rename_i h'
    rw [h] at h'
    cases h'

theorem layout_of_no_close {t gap rest : Text} (h : Text.cut? openTag t = some (gap, rest))
    (hc : Text.cut? closeTag rest = none) : layout t = ⟨[], gap, some rest⟩ := by
  rw [layout]
  split
  · rename_i h'
    rw [h] at h'
    cases h'
  · rename_i h'
    rw [h] at h'
    cases h'
    split
    · rfl
    · rename_i h''
      rw [hc] at h''
      cases h''

theorem layout_of_block {t gap rest body after : Text}
    (h : Text.cut? openTag t = some (gap, rest)) (hc : Text.cut? closeTag rest = some (body, after)) :
    layout t = (layout after).push gap body := by
  conv => lhs; rw [layout]
  split
  · rename_i h'
    rw [h] at h'
    cases h'
  · rename_i h'
    rw [h] at h'
    cases h'
    split
    · rename_i h''
      rw [hc] at h''
      cases h''
    · rename_i h''
      rw [hc] at h''
      cases h''
      rfl

theorem text_layout (t : Text) : (layout t).text = t := by
  fun_induction layout t with
  | case1 t h => simp [Layout.text]
  | case2 t gap rest h hc =>
    rw [Text.eq_of_cut?_eq_some h]
    simp [Layout.text]
  | case3 t gap rest h body after hc ih =>
    rw [Text.eq_of_cut?_eq_some h, Text.eq_of_cut?_eq_some hc]
    simp only [Layout.text, Layout.push, List.flatMap_cons, List.append_assoc] at ih ⊢
    rw [ih]

end Block
end CitedReply
