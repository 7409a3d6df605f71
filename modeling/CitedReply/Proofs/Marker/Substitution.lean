import CitedReply.Proofs.Marker.Link
import Mathlib.Data.List.Basic

/-!
# CitedReply.Proofs.Marker.Substitution

The markers of a text after links have taken the place of those that are known.

A substitution leaves every character before the next marker alone, and what takes the place of a
marker begins with a bracket too; so no marker is begun, completed or broken off by it
(`atHead?_substitute`).

* `pieces_substitute`: what a scan comes to afterwards, piece by piece.
* `ids_substitute`: a marker that is not known stays, one that is known gives way to the markers in
  the address of its citation.
-/

namespace CitedReply
namespace Marker

open Link

theorem substitute_of_marker {t digits after : Text} (cs : List Citation)
    (h : atHead? t = some (digits, after)) :
    substitute cs t = (Piece.marker digits).resolved cs ++ substitute cs after := by
  simp [substitute, pieces_of_marker h]

theorem substitute_of_char {c : Char} {r : Text} (cs : List Citation)
    (h : atHead? (c :: r) = none) : substitute cs (c :: r) = c :: substitute cs r := by
  simp [substitute, pieces_of_char h, Piece.resolved]

theorem substitute_nil (t : Text) : substitute [] t = t := by
  have hr : Piece.resolved [] = Piece.text := by
    funext p
    cases p <;> rfl
  rw [substitute, hr, text_pieces]

theorem resolved_marker_head (cs : List Citation) (digits : Text) :
    ∃ r, (Piece.marker digits).resolved cs = '[' :: r := by
  simp only [Piece.resolved]
  split
  · exact ⟨_, rfl⟩
  · exact ⟨_, written_eq digits⟩

theorem head?_substitute (cs : List Citation) (t : Text) : (substitute cs t).head? = t.head? := by
  cases t with
  | nil => simp [substitute, pieces]
  | cons c r =>
    cases h : atHead? (c :: r) with
    | none => rw [substitute_of_char cs h, List.head?_cons, List.head?_cons]
    | some m =>
      obtain ⟨digits, after⟩ := m
      obtain ⟨r', hr⟩ := resolved_marker_head cs digits
      have he := eq_of_atHead? h
      rw [written_eq] at he
      rw [substitute_of_marker cs h, hr, (List.cons.inj he).1]
      rfl

theorem eq_append_of_substitute {cs : List Citation} {t u w : Text}
    (h : substitute cs t = u ++ w) (hu : '[' ∉ u) : ∃ v, t = u ++ v ∧ substitute cs v = w := by
  induction u generalizing t with
  | nil => exact ⟨t, rfl, h⟩
  | cons c u ih =>
    simp only [List.mem_cons, not_or] at hu
    have hhead : t.head? = some c := by rw [← head?_substitute cs t, h]; rfl
    cases t with
    | nil => cases hhead
    | cons x r =>
      have hx : x = c := by simpa using hhead
      subst hx
      rw [substitute_of_char cs (atHead?_cons_ne (Ne.symm hu.1) r)] at h
      obtain ⟨v, hv, hw⟩ := ih (List.cons.inj h).2 hu.2
      exact ⟨v, by rw [hv]; rfl, hw⟩

theorem atHead?_substitute {c : Char} {r : Text} (cs : List Citation)
    (h : atHead? (c :: r) = none) : atHead? (c :: substitute cs r) = none := by
  cases hm : atHead? (c :: substitute cs r) with
  | none => rfl
  | some m =>
    obtain ⟨digits, after⟩ := m
    obtain ⟨hn, ha, he⟩ := atHead?_eq_some_iff.1 hm
    have he' : substitute cs r = (idStart ++ digits ++ [']']) ++ after := (List.cons.inj he).2
    obtain ⟨v, hv, hw⟩ := eq_append_of_substitute he' (bracket_not_mem_written hn)
    rw [← hw, head?_substitute] at ha
    have hwhole : c :: r = written digits ++ v := by
      rw [hv, (List.cons.inj he).1, written_eq]
      rfl
    rw [hwhole, atHead?_written hn ha] at h
    cases h

/-- What a scan comes to where a piece was, once markers have given way to links. -/
def Piece.rewritten (cs : List Citation) : Piece → List Piece
  | .char c => [.char c]
  | .marker digits =>
    match resolve? cs digits with
    | some c => c.asLink.opened.map .char ++ (pieces (Citation.target c.url) ++ [.char ')'])
    | none => [.marker digits]

/-- A link brings in no marker but those of its target, and hides none beside it. -/
theorem pieces_substitute (cs : List Citation) (t : Text) :
    pieces (substitute cs t) = (pieces t).flatMap (Piece.rewritten cs) := by
  induction t using pieces.induct with
  | case1 => simp [substitute, pieces]
  | case2 c r digits after h ih =>
    obtain ⟨hn, ha, _⟩ := atHead?_eq_some_iff.1 h
    rw [substitute_of_marker cs h, pieces_of_marker h, List.flatMap_cons, ← ih]
    simp only [Piece.resolved, Piece.rewritten]
    cases resolve? cs digits with
    | some c =>
      simp only [Citation.link_eq_text, List.append_assoc, List.cons_append, List.nil_append]
      exact pieces_link (l := c.asLink) (guarded_escape c.label) (substitute cs after)
    | none =>
      rw [← head?_substitute cs] at ha
      exact pieces_of_marker (atHead?_written hn ha)
  | case3 c r h ih =>
    rw [substitute_of_char cs h, pieces_of_char (atHead?_substitute cs h), pieces_of_char h, ih]
    rfl

/-- What the marker of an identifier leaves to be found. -/
def leftover (cs : List Citation) (id : Text) : List Text :=
  match cs.find? (·.id = id) with
  | some c => ids c.url
  | none => [id]

theorem filterMap_rewritten (cs : List Citation) (p : Piece) :
    (p.rewritten cs).filterMap Piece.id? = p.id?.toList.flatMap (leftover cs) := by
  cases p with
  | char c => rfl
  | marker digits =>
    simp only [Piece.rewritten, resolve?, Piece.id?, leftover, Option.toList_some,
      List.flatMap_singleton]
    cases cs.find? (·.id = idOf digits) with
    | some c =>
      rw [List.filterMap_append, filterMap_id?_chars, List.filterMap_append, ← ids_eq_filterMap,
        Citation.target_eq, ids_writtenTarget]
      exact List.append_nil _
    | none => rfl

theorem ids_substitute (cs : List Citation) (t : Text) :
    ids (substitute cs t) = (ids t).flatMap (leftover cs) := by
  rw [ids_eq_filterMap, pieces_substitute, List.filterMap_flatMap, ids_eq_filterMap,
    List.filterMap_eq_flatMap_toList, List.flatMap_assoc]
  simp only [filterMap_rewritten]

/-! ## What the text keeps -/

theorem link_eq_concat (c : Citation) : ∃ u, c.link = u ++ [')'] :=
  ⟨'[' :: (escape c.label ++ ']' :: '(' :: Citation.target c.url), by simp [Citation.link]⟩

/-- The last character stays, unless a link takes its place. -/
theorem getLast?_substitute (cs : List Citation) (t : Text) :
    (substitute cs t).getLast? = t.getLast? ∨ (substitute cs t).getLast? = some ')' := by
  induction t using pieces.induct with
  | case1 => exact .inl (by simp [substitute, pieces])
  | case2 x r digits after hm ih =>
    rw [substitute_of_marker cs hm, eq_of_atHead? hm, List.getLast?_append, List.getLast?_append]
    rcases ih with ih | ih
    · rw [ih]
      cases ha : after.getLast? with
      | some y => exact .inl rfl
      | none =>
        cases hc : resolve? cs digits with
        | some c =>
          obtain ⟨u, hu⟩ := link_eq_concat c
          exact .inr (by simp [Piece.resolved, hc, hu])
        | none => exact .inl (by simp [Piece.resolved, hc])
    · exact .inr (by rw [ih]; rfl)
  | case3 x r hm ih =>
    rw [substitute_of_char cs hm, List.getLast?_cons, List.getLast?_cons]
    rcases ih with ih | ih
    · exact .inl (by rw [ih])
    · exact .inr (by rw [ih]; rfl)

theorem trimmed_substitute (cs : List Citation) {t : Text} (h : Text.Trimmed t) :
    Text.Trimmed (substitute cs t) where
  head c hc := h.head c (by rwa [← head?_substitute cs])
  last c hc := by
    rcases getLast?_substitute cs t with hl | hl
    · exact h.last c (hl ▸ hc)
    · rw [hl] at hc
      cases hc
      rfl

theorem substitute_append_of_no_bracket (cs : List Citation) {u : Text} (h : '[' ∉ u) (v : Text) :
    substitute cs (u ++ v) = u ++ substitute cs v := by
  induction u with
  | nil => rfl
  | cons c u ih =>
    simp only [List.mem_cons, not_or] at h
    rw [List.cons_append, substitute_of_char cs (atHead?_cons_ne (Ne.symm h.1) _), ih h.2,
      List.cons_append]

theorem substitute_append_inert (cs : List Citation) {c : Char} (h : isInert c = true) (a b : Text) :
    substitute cs (a ++ c :: b) = substitute cs a ++ substitute cs (c :: b) := by
  simp only [substitute, pieces_append_inert h, List.flatMap_append]

/-- What takes the place of a marker stands where the marker stood. -/
theorem substitute_append_marker (cs : List Citation) {digits b : Text} (h : IsNumber digits)
    (hb : b.head? ≠ some '(') (a : Text) :
    substitute cs (a ++ written digits ++ b) =
      substitute cs a ++ ((Piece.marker digits).resolved cs ++ substitute cs b) := by
  rw [List.append_assoc, written_eq, List.cons_append, substitute_append_inert cs (by decide),
    ← List.cons_append, ← written_eq, substitute_of_marker cs (atHead?_written h hb)]

theorem substitute_at_marker {cs : List Citation} {digits b : Text} {c : Citation}
    (h : IsNumber digits) (hb : b.head? ≠ some '(') (hc : resolve? cs digits = some c) (a : Text) :
    substitute cs (a ++ written digits ++ b) = substitute cs a ++ (c.link ++ substitute cs b) := by
  rw [substitute_append_marker cs h hb]
  simp only [Piece.resolved, hc]

theorem prefix_substitute_iff {cs : List Citation} {z t : Text} (h : '[' ∉ z) :
    z <+: substitute cs t ↔ z <+: t := by
  constructor
  · rintro ⟨w, hw⟩
    obtain ⟨v, hv, _⟩ := eq_append_of_substitute hw.symm h
    exact ⟨v, hv.symm⟩
  · rintro ⟨v, rfl⟩
    rw [substitute_append_of_no_bracket cs h]
    exact List.prefix_append z _

end Marker
end CitedReply
