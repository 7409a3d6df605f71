/-!
# CitedReply.Text.Basic

Texts as lists of characters, their length in UTF-8 bytes, and the three searches the rest of the
library is built from: a leading piece (`dropPrefix?`), the first occurrence of a piece (`cut?`)
and the fields between separators (`fields`).
-/

namespace CitedReply

abbrev Text := List Char

namespace Text

/-- Length in UTF-8 bytes. -/
def byteSize (t : Text) : Nat := t.foldr (fun c n => c.utf8Size + n) 0

@[simp] theorem byteSize_nil : byteSize [] = 0 := rfl

@[simp] theorem byteSize_cons (c : Char) (t : Text) :
    byteSize (c :: t) = c.utf8Size + byteSize t := rfl

@[simp] theorem byteSize_append (s t : Text) : byteSize (s ++ t) = byteSize s + byteSize t := by
  induction s with
  | nil => simp
  | cons c s ih => simp [ih, Nat.add_assoc]

/-- What follows `p` in a text that starts with `p`. -/
def dropPrefix? : Text → Text → Option Text
  | [], t => some t
  | _ :: _, [] => none
  | p :: ps, c :: cs => if p = c then dropPrefix? ps cs else none

theorem dropPrefix?_eq_some_iff {p t r : Text} : dropPrefix? p t = some r ↔ t = p ++ r := by
  induction p generalizing t with
  | nil => simp [dropPrefix?, eq_comm]
  | cons a p ih =>
    cases t with
    | nil => simp [dropPrefix?]
    | cons c t =>
      by_cases h : a = c
      · simp [dropPrefix?, h, ih]
      · simp [dropPrefix?, h, Ne.symm h]

@[simp] theorem dropPrefix?_append (p r : Text) : dropPrefix? p (p ++ r) = some r :=
  dropPrefix?_eq_some_iff.2 rfl

def dropSuffix? (p t : Text) : Option Text :=
  (dropPrefix? p.reverse t.reverse).map List.reverse

theorem dropSuffix?_eq_some_iff {p t r : Text} : dropSuffix? p t = some r ↔ t = r ++ p := by
  simp only [dropSuffix?, Option.map_eq_some_iff, dropPrefix?_eq_some_iff]
  constructor
  · rintro ⟨u, hu, rfl⟩
    simpa using congrArg List.reverse hu
  · rintro rfl
    exact ⟨r.reverse, by simp, by simp⟩

def startsWith (p t : Text) : Bool := (dropPrefix? p t).isSome

def endsWith (p t : Text) : Bool := (dropSuffix? p t).isSome

/-- What precedes and what follows the first occurrence of `p`. -/
def cut? (p : Text) : Text → Option (Text × Text)
  | [] => (dropPrefix? p []).map fun r => ([], r)
  | c :: cs =>
    match dropPrefix? p (c :: cs) with
    | some r => some ([], r)
    | none => (cut? p cs).map fun s => (c :: s.1, s.2)

theorem eq_of_cut?_eq_some {p t a b : Text} (h : cut? p t = some (a, b)) : t = a ++ p ++ b := by
  induction t generalizing a with
  | nil =>
    simp only [cut?, Option.map_eq_some_iff, dropPrefix?_eq_some_iff] at h
    obtain ⟨r, hr, he⟩ := h
    cases he
    simpa using hr
  | cons c cs ih =>
    simp only [cut?] at h
    split at h
    · rename_i r hr
      cases h
      simpa using dropPrefix?_eq_some_iff.1 hr
    · obtain ⟨⟨x, y⟩, hs, he⟩ := Option.map_eq_some_iff.1 h
      cases he
      simp [ih hs]

theorem length_lt_of_cut? {p t a b : Text} (hp : p ≠ []) (h : cut? p t = some (a, b)) :
    b.length < t.length := by
  have := List.length_pos_iff.2 hp
  rw [eq_of_cut?_eq_some h]
  simp
  omega

def contains (p t : Text) : Bool := (cut? p t).isSome

/-- The pieces between the separators: one more than there are separators. -/
def fields (sep : Char) : Text → List Text
  | [] => [[]]
  | c :: cs =>
    if c = sep then [] :: fields sep cs
    else
      match fields sep cs with
      | [] => [[c]]
      | f :: fs => (c :: f) :: fs

/-- The lines of a text. What follows the last line feed is a line, perhaps an empty one. -/
def lines (t : Text) : List Text := fields '\n' t

/-- Everything up to the last `c`, that one included. -/
def throughLast? (c : Char) (t : Text) : Option Text :=
  match t.reverse.dropWhile (· != c) with
  | [] => none
  | r => some r.reverse

theorem prefix_of_throughLast? {c : Char} {t p : Text} (h : throughLast? c t = some p) : p <+: t := by
  unfold throughLast? at h
  split at h
  · cases h
  · cases h
    have hs := List.dropWhile_suffix (l := t.reverse) (· != c)
    rw [← List.reverse_prefix, List.reverse_reverse] at hs
    exact hs

end Text
end CitedReply
