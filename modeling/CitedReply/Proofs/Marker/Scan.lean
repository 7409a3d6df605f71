import CitedReply.Citation.Marker
import CitedReply.Proofs.Text.Search
import CitedReply.Proofs.Text.Trimming

/-!
# CitedReply.Proofs.Marker.Scan

The markers of a text, put together from those of its parts.

A marker holds no bracket but its own two, so a scan that goes on behind a marker and one that goes
on one character later find the same. That makes `ids` follow the characters of a text
(`ids_cons_ne`, `ids_written`), and lets a text be cut before any character that cannot stand inside
a marker or behind one (`pieces_append_inert`).

* `atHead?_eq_some_iff`: what a marker at the head of a text is.
* `idOf_mem_ids`: no marker is missed.
* `eq_of_mem_find`: what is found is a marker, and it stands where it is said to.
-/

namespace CitedReply
namespace Marker

/-- What may stand between the opener and the closing bracket. -/
def IsNumber (digits : Text) : Prop := digits ≠ [] ∧ ∀ c ∈ digits, c.isDigit = true

theorem bracket_not_mem_written {digits : Text} (h : IsNumber digits) :
    '[' ∉ idStart ++ digits ++ [']'] := by
  have hd : '[' ∉ digits := fun hm => absurd (h.2 _ hm) (by decide)
  simp [idStart, hd]

theorem written_eq (digits : Text) : written digits = '[' :: (idStart ++ digits ++ [']']) := rfl

theorem atHead?_written {digits after : Text} (h : IsNumber digits) (ha : after.head? ≠ some '(') :
    atHead? (written digits ++ after) = some (digits, after) := by
  have htake : (digits ++ ']' :: after).takeWhile Char.isDigit = digits := by
    rw [List.takeWhile_append_of_pos h.2]
    simp [show Char.isDigit ']' = false by decide]
  have hdrop : (digits ++ ']' :: after).dropWhile Char.isDigit = ']' :: after := by
    rw [List.dropWhile_append_of_pos h.2]
    simp [show Char.isDigit ']' = false by decide]
  have hsplit : written digits ++ after = opener ++ (digits ++ ']' :: after) := by
    simp [written]
  rw [hsplit, atHead?, Text.dropPrefix?_append]
  simp only [hdrop, htake]
  rw [if_neg]
  rintro (hn | hp)
  · exact h.1 hn
  · exact ha hp

theorem isNumber_of_atHead? {t digits after : Text} (h : atHead? t = some (digits, after)) :
    IsNumber digits ∧ after.head? ≠ some '(' := by
  unfold atHead? at h
  split at h
  · cases h
  · rename_i r _
    split at h
    · rename_i after' _
      split at h
      · cases h
      · rename_i hn
        cases h
        rw [not_or] at hn
        exact ⟨⟨hn.1, fun c => List.mem_takeWhile_imp⟩, hn.2⟩
    · cases h

theorem atHead?_eq_some_iff {t digits after : Text} :
    atHead? t = some (digits, after) ↔
      IsNumber digits ∧ after.head? ≠ some '(' ∧ t = written digits ++ after := by
  constructor
  · intro h
    obtain ⟨hn, ha⟩ := isNumber_of_atHead? h
    exact ⟨hn, ha, eq_of_atHead? h⟩
  · rintro ⟨hn, ha, rfl⟩
    exact atHead?_written hn ha

theorem atHead?_cons_ne {c : Char} (h : c ≠ '[') (r : Text) : atHead? (c :: r) = none := by
  cases hm : atHead? (c :: r) with
  | none => rfl
  | some m =>
    have he := eq_of_atHead? hm
    rw [written_eq] at he
    exact absurd (List.cons.inj he).1 h

/-! ## One piece at a time -/

theorem pieces_of_marker {t digits after : Text} (h : atHead? t = some (digits, after)) :
    pieces t = .marker digits :: pieces after := by
  cases t with
  | nil => cases h
  | cons c r =>
    rw [pieces]
    split
    · rename_i h'
      rw [h] at h'
      cases h'
      rfl
    · rename_i h'
      rw [h] at h'
      cases h'

theorem pieces_of_char {c : Char} {r : Text} (h : atHead? (c :: r) = none) :
    pieces (c :: r) = .char c :: pieces r := by
  rw [pieces]
  split
  · rename_i h'
    rw [h] at h'
    cases h'
  · rfl

theorem pieces_cons_ne {c : Char} (h : c ≠ '[') (r : Text) :
    pieces (c :: r) = .char c :: pieces r :=
  pieces_of_char (atHead?_cons_ne h r)

/-- The identifier of a piece that is a marker. -/
def Piece.id? : Piece → Option Text
  | .char _ => none
  | .marker digits => some (idOf digits)

theorem ids_eq_filterMap (t : Text) : ids t = (pieces t).filterMap Piece.id? := rfl

theorem filterMap_id?_chars (u : Text) : (u.map Piece.char).filterMap Piece.id? = [] := by
  induction u with
  | nil => rfl
  | cons c u ih => exact ih

@[simp] theorem ids_nil : ids [] = [] := by simp [ids, pieces]

theorem ids_of_marker {t digits after : Text} (h : atHead? t = some (digits, after)) :
    ids t = idOf digits :: ids after := by
  simp [ids, pieces_of_marker h]

theorem ids_of_char {c : Char} {r : Text} (h : atHead? (c :: r) = none) : ids (c :: r) = ids r := by
  simp [ids, pieces_of_char h]

theorem ids_cons_ne {c : Char} (h : c ≠ '[') (r : Text) : ids (c :: r) = ids r :=
  ids_of_char (atHead?_cons_ne h r)

theorem ids_append_of_no_bracket {u : Text} (h : '[' ∉ u) (r : Text) : ids (u ++ r) = ids r := by
  induction u with
  | nil => rfl
  | cons c u ih =>
    simp only [List.mem_cons, not_or] at h
    rw [List.cons_append, ids_cons_ne (Ne.symm h.1), ih h.2]

theorem ids_of_no_bracket {u : Text} (h : '[' ∉ u) : ids u = [] := by
  have := ids_append_of_no_bracket h []
  rwa [List.append_nil, ids_nil] at this

theorem ids_written {digits after : Text} (h : IsNumber digits) (ha : after.head? ≠ some '(') :
    ids (written digits ++ after) = idOf digits :: ids after :=
  ids_of_marker (atHead?_written h ha)

/-! ## Cutting a text -/

/-- A character that can stand neither inside a marker nor right behind a link text. -/
def isInert (c : Char) : Bool := !List.contains idStart c && !c.isDigit && c != ']' && c != '('

theorem isInert_of_isSpace {c : Char} (h : Text.isSpace c = true) : isInert c = true := by
  have hd := Text.isDigit_of_isSpace h
  have hne : ∀ x : Char, Text.isSpace x = false → c ≠ x := by
    rintro x hx rfl
    rw [hx] at h
    cases h
  simp [isInert, idStart, hd, hne 'c' rfl, hne 'i' rfl, hne 't' rfl, hne 'e' rfl, hne '-' rfl,
    hne ']' rfl, hne '(' rfl]

theorem not_mem_of_isInert {c : Char} {digits : Text} (h : isInert c = true)
    (hn : IsNumber digits) : c ∉ idStart ++ digits ++ [']'] := by
  simp only [isInert, Bool.and_eq_true, Bool.not_eq_true', bne_iff_ne, ne_eq] at h
  obtain ⟨⟨⟨hs, hd⟩, hc⟩, _⟩ := h
  have hm : c ∉ digits := fun hm => by
    rw [hn.2 c hm] at hd
    cases hd
  have hs' : c ∉ idStart := by simpa using hs
  simp [hs', hm, hc]

theorem head?_append_inert {c : Char} (h : isInert c = true) (after b : Text) :
    (after ++ c :: b).head? = some '(' ↔ after.head? = some '(' := by
  cases after with
  | nil =>
    constructor
    · intro hp
      have : c = '(' := by simpa using hp
      subst this
      exact absurd h (by decide)
    · intro hp
      cases hp
  | cons x after => simp

theorem atHead?_append_inert {c : Char} (h : isInert c = true) (x : Char) (a b : Text) :
    atHead? (x :: a ++ c :: b) = (atHead? (x :: a)).map fun m => (m.1, m.2 ++ c :: b) := by
  cases hm : atHead? (x :: a) with
  | some m =>
    obtain ⟨digits, after⟩ := m
    obtain ⟨hn, ha, he⟩ := atHead?_eq_some_iff.1 hm
    rw [he, List.append_assoc, Option.map_some]
    exact atHead?_written hn (mt (head?_append_inert h after b).1 ha)
  | none =>
    cases hm' : atHead? (x :: a ++ c :: b) with
    | none => rfl
    | some m =>
      obtain ⟨digits, after⟩ := m
      obtain ⟨hn, ha, he⟩ := atHead?_eq_some_iff.1 hm'
      have hx : x = '[' := (List.cons.inj he).1
      have he' : a ++ c :: b = (idStart ++ digits ++ [']']) ++ after := (List.cons.inj he).2
      rcases List.append_eq_append_iff.1 he' with ⟨u, hu, hv⟩ | ⟨u, hu, hv⟩
      · -- the inert character would lie inside the marker
        cases u with
        | nil =>
          rw [List.append_nil] at hu
          rw [List.nil_append] at hv
          have hw : x :: a = written digits := by rw [hx, ← hu, written_eq]
          have := atHead?_written hn (show [].head? ≠ some '(' by simp)
          rw [List.append_nil, ← hw, hm] at this
          cases this
        | cons y u =>
          have hy : y = c := (List.cons.inj hv).1.symm
          have hmem : c ∈ idStart ++ digits ++ [']'] := by
            rw [hu, hy]
            simp
          exact absurd hmem (not_mem_of_isInert h hn)
      · have hw : x :: a = written digits ++ u := by rw [hx, hu, written_eq]; rfl
        rw [hv] at ha
        have := atHead?_written hn (mt (head?_append_inert h u b).2 ha)
        rw [← hw, hm] at this
        cases this

theorem pieces_append_inert {c : Char} (h : isInert c = true) (a b : Text) :
    pieces (a ++ c :: b) = pieces a ++ pieces (c :: b) := by
  induction a using pieces.induct with
  | case1 => simp [pieces]
  | case2 x a digits after hm ih =>
    have hm' := atHead?_append_inert h x a b
    rw [hm, Option.map_some] at hm'
    rw [pieces_of_marker hm', pieces_of_marker hm, ih, List.cons_append]
  | case3 x a hm ih =>
    have hm' := atHead?_append_inert h x a b
    rw [hm, Option.map_none, List.cons_append] at hm'
    rw [List.cons_append, pieces_of_char hm', pieces_of_char hm, ih, List.cons_append]

theorem ids_append_inert {c : Char} (h : isInert c = true) (a b : Text) :
    ids (a ++ c :: b) = ids a ++ ids (c :: b) := by
  simp only [ids, pieces_append_inert h, List.filterMap_append]

theorem idOf_mem_ids {digits b : Text} (h : IsNumber digits) (hb : b.head? ≠ some '(') (a : Text) :
    idOf digits ∈ ids (a ++ written digits ++ b) := by
  have hids := ids_append_inert (show isInert '[' = true by decide) a
    (idStart ++ digits ++ [']'] ++ b)
  have hw : a ++ written digits ++ b = a ++ '[' :: (idStart ++ digits ++ [']'] ++ b) := by
    simp [written_eq]
  have hm : ids ('[' :: (idStart ++ digits ++ [']'] ++ b)) = idOf digits :: ids b :=
    ids_written h hb
  rw [hw, hids, hm]
  simp

theorem ids_append_blank (a : Text) {s : Text} (h : ∀ c ∈ s, Text.isSpace c = true) :
    ids (a ++ s) = ids a := by
  cases s with
  | nil => rw [List.append_nil]
  | cons c s =>
    have hb : '[' ∉ c :: s := fun hm => absurd (h _ hm) (by decide)
    rw [ids_append_inert (isInert_of_isSpace (h c List.mem_cons_self)), ids_of_no_bracket hb,
      List.append_nil]

theorem ids_trim (t : Text) : ids (Text.trim t) = ids t := by
  obtain ⟨s, hs, hsp⟩ := Text.trimStart_eq t
  obtain ⟨e, he, hep⟩ := Text.trimEnd_eq (Text.trimStart t)
  have hb : '[' ∉ s := fun hm => absurd (hsp _ hm) (by decide)
  have hstart : ids (Text.trimStart t) = ids t := by
    conv => rhs; rw [hs, ids_append_of_no_bracket hb]
  rw [← hstart, Text.trim]
  conv => rhs; rw [he, ids_append_blank _ hep]

/-! ## Places -/

theorem map_id_located (offset : Nat) (ps : List Piece) :
    (located offset ps).map Found.id = ps.filterMap Piece.id? := by
  induction ps generalizing offset with
  | nil => rfl
  | cons p ps ih =>
    cases p with
    | char c => exact ih _
    | marker digits => exact congrArg (idOf digits :: ·) (ih _)

theorem map_id_find (t : Text) : (find t).map Found.id = ids t := map_id_located 0 (pieces t)

theorem eq_of_mem_located {t : Text} {offset : Nat} {m : Found}
    (h : m ∈ located offset (pieces t)) :
    ∃ a digits b, t = a ++ written digits ++ b ∧ IsNumber digits ∧ b.head? ≠ some '(' ∧
      m = ⟨offset + Text.byteSize a, offset + Text.byteSize (a ++ written digits), idOf digits⟩ := by
  induction t using pieces.induct generalizing offset with
  | case1 => simp [pieces, located] at h
  | case2 c r digits after hm ih =>
    obtain ⟨hn, ha, he⟩ := atHead?_eq_some_iff.1 hm
    rw [pieces_of_marker hm, located, List.mem_cons] at h
    rcases h with rfl | h
    · exact ⟨[], digits, after, he, hn, ha, by simp⟩
    · obtain ⟨a, ds, b, hafter, hds, hb, rfl⟩ := ih h
      refine ⟨written digits ++ a, ds, b, by rw [he, hafter]; simp, hds, hb, ?_⟩
      simp [Nat.add_assoc]
  | case3 c r hm ih =>
    rw [pieces_of_char hm, located] at h
    obtain ⟨a, ds, b, hr, hds, hb, rfl⟩ := ih h
    refine ⟨c :: a, ds, b, by rw [hr]; simp, hds, hb, ?_⟩
    simp [Nat.add_assoc]

theorem eq_of_mem_find {t : Text} {m : Found} (h : m ∈ find t) :
    ∃ a digits b, t = a ++ written digits ++ b ∧ IsNumber digits ∧ b.head? ≠ some '(' ∧
      m = ⟨Text.byteSize a, Text.byteSize (a ++ written digits), idOf digits⟩ := by
  simpa using eq_of_mem_located h

end Marker
end CitedReply
