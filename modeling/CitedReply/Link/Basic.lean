import CitedReply.Link.Text

/-!
# CitedReply.Link.Basic

Inline markdown links, `[text](target)`, and reading them out of a text.

* `next?` finds the leftmost link: the gap before it, the link, and the rest.
* `split` takes a whole text apart into gaps and links.
-/

namespace CitedReply

/-- A link as it is written; `label` still holds its escapes. -/
structure Link where
  image : Bool
  label : Text
  angled : Bool
  href : Text
  deriving DecidableEq

namespace Link

def writtenTarget (angled : Bool) (href : Text) : Text :=
  if angled then '<' :: (href ++ ['>']) else href

def text (l : Link) : Text :=
  (if l.image then ['!'] else []) ++ '[' :: l.label ++ ']' :: '(' ::
    writtenTarget l.angled l.href ++ [')']

/-- Reads link text up to the bracket that closes it. A backslash takes the next character along;
brackets and line feeds have no place in it otherwise. -/
def label? : Text → Option (Text × Text)
  | [] => none
  | '\\' :: c :: r => (label? r).map fun s => ('\\' :: c :: s.1, s.2)
  | c :: r =>
    if c = ']' then some ([], r)
    else if c = '[' ∨ c = '\n' ∨ c = '\\' then none
    else (label? r).map fun s => (c :: s.1, s.2)

def angledTarget? (t : Text) : Option (Text × Text) :=
  let href := t.takeWhile fun c => c ≠ '>' ∧ c ≠ '\n'
  match t.dropWhile fun c => c ≠ '>' ∧ c ≠ '\n' with
  | '>' :: ')' :: r => if href = [] then none else some (href, r)
  | _ => none

def isAsciiSpace (c : Char) : Bool :=
  c = ' ' || c = '\t' || c = '\n' || c = '\x0c' || c = '\r'

/-- Reads a bare target up to the parenthesis that closes the link, with `depth` parentheses of its
own still open. -/
def bareTarget? (depth : Nat) : Text → Option (Text × Text)
  | [] => none
  | c :: r =>
    if c = ')' ∧ depth = 0 then some ([], r)
    else if isAsciiSpace c then none
    else
      let depth := if c = '(' then depth + 1 else if c = ')' then depth - 1 else depth
      (bareTarget? depth r).map fun s => (c :: s.1, s.2)

/-- Reads a target after its parenthesis: whether it stands in angle brackets, what it says, and
what follows the link. -/
def target? (t : Text) : Option (Bool × Text × Text) :=
  match t with
  | '<' :: r => (angledTarget? r).map fun s => (true, s)
  | _ => ((bareTarget? 0 t).filter (·.1 ≠ [])).map fun s => (false, s)

def afterBracket? (image : Bool) (t : Text) : Option (Link × Text) :=
  match label? t with
  | some (label, '(' :: r) => (target? r).map fun s => (⟨image, label, s.1, s.2.1⟩, s.2.2)
  | _ => none

/-- Reads a link at the head of a text. A bracket behind a backslash opens none. -/
def atHead? (before : Option Char) : Text → Option (Link × Text)
  | '!' :: '[' :: r => afterBracket? true r
  | '[' :: r => if before = some '\\' then none else afterBracket? false r
  | _ => none

def next? (before : Option Char) : Text → Option (Text × Link × Text)
  | [] => none
  | c :: r =>
    match atHead? before (c :: r) with
    | some (l, rest) => some ([], l, rest)
    | none => (next? (some c) r).map fun s => (c :: s.1, s.2)

theorem eq_of_label? {t label r : Text} (h : label? t = some (label, r)) :
    t = label ++ ']' :: r := by
  fun_induction label? t generalizing label with
  | case1 => cases h
  | case2 c t ih =>
    obtain ⟨s, hs, he⟩ := Option.map_eq_some_iff.1 h
    cases he
    simp [ih hs]
  | case3 t => cases h; rfl
  | case4 => cases h
  | case5 c t _ _ _ ih =>
    obtain ⟨s, hs, he⟩ := Option.map_eq_some_iff.1 h
    cases he
    simp [ih hs]

theorem eq_of_angledTarget? {t href r : Text} (h : angledTarget? t = some (href, r)) :
    t = href ++ '>' :: ')' :: r := by
  simp only [angledTarget?] at h
  split at h
  · rename_i r' hd
    split at h
    · cases h
    · cases h
      rw [← hd, List.takeWhile_append_dropWhile]
  · cases h

theorem eq_of_bareTarget? {depth : Nat} {t href r : Text}
    (h : bareTarget? depth t = some (href, r)) : t = href ++ ')' :: r := by
  induction t generalizing depth href with
  | nil => cases h
  | cons c t ih =>
    simp only [bareTarget?] at h
    split at h
    · rename_i hc
      cases h
      simp [hc.1]
    · split at h
      · cases h
      · obtain ⟨s, hs, he⟩ := Option.map_eq_some_iff.1 h
        cases he
        simp [ih hs]

theorem eq_of_target? {t href r : Text} {angled : Bool} (h : target? t = some (angled, href, r)) :
    t = writtenTarget angled href ++ ')' :: r := by
  unfold target? at h
  split at h
  · obtain ⟨s, hs, he⟩ := Option.map_eq_some_iff.1 h
    cases he
    simp [writtenTarget, eq_of_angledTarget? hs]
  · obtain ⟨s, hs, he⟩ := Option.map_eq_some_iff.1 h
    cases he
    simp [writtenTarget, eq_of_bareTarget? (Option.filter_eq_some_iff.1 hs).1]

theorem eq_of_afterBracket? {image : Bool} {t r : Text} {l : Link}
    (h : afterBracket? image t = some (l, r)) :
    l.image = image ∧ t = l.label ++ ']' :: '(' :: (writtenTarget l.angled l.href ++ ')' :: r) := by
  unfold afterBracket? at h
  split at h
  · rename_i label r' hl
    obtain ⟨s, hs, he⟩ := Option.map_eq_some_iff.1 h
    cases he
    refine ⟨rfl, ?_⟩
    rw [eq_of_label? hl, eq_of_target? hs]
  · cases h

theorem eq_of_atHead? {before : Option Char} {t r : Text} {l : Link}
    (h : atHead? before t = some (l, r)) : t = l.text ++ r := by
  unfold atHead? at h
  split at h
  · obtain ⟨hi, ht⟩ := eq_of_afterBracket? h
    simp [text, hi, ht]
  · split at h
    · cases h
    · obtain ⟨hi, ht⟩ := eq_of_afterBracket? h
      simp [text, hi, ht]
  · cases h

theorem eq_of_next? {before : Option Char} {t gap r : Text} {l : Link}
    (h : next? before t = some (gap, l, r)) : t = gap ++ l.text ++ r := by
  induction t generalizing before gap with
  | nil => cases h
  | cons c t ih =>
    simp only [next?] at h
    split at h
    · rename_i hl
      cases h
      simpa using eq_of_atHead? hl
    · obtain ⟨⟨g, l', r'⟩, hs, he⟩ := Option.map_eq_some_iff.1 h
      cases he
      simpa using ih hs

theorem length_text_pos (l : Link) : 0 < l.text.length := by
  simp only [text, List.length_append, List.length_cons]
  omega

theorem length_lt_of_next? {before : Option Char} {t gap r : Text} {l : Link}
    (h : next? before t = some (gap, l, r)) : r.length < t.length := by
  have := length_text_pos l
  rw [eq_of_next? h]
  simp
  omega

/-- A text taken apart: each link with the gap before it, and the gap after them all. -/
structure Parts where
  links : List (Text × Link)
  gap : Text

namespace Parts

def text (p : Parts) : Text := p.links.flatMap (fun l => l.1 ++ l.2.text) ++ p.gap

def push (gap : Text) (l : Link) (p : Parts) : Parts := { p with links := (gap, l) :: p.links }

end Parts

def split (t : Text) : Parts :=
  match _ : next? none t with
  | none => ⟨[], t⟩
  | some (gap, l, rest) => (split rest).push gap l
termination_by t.length
decreasing_by exact length_lt_of_next? ‹_›

theorem text_split (t : Text) : (split t).text = t := by
  fun_induction split t with
  | case1 t h => rfl
  | case2 t gap l rest h ih =>
    simp only [Parts.text, Parts.push, List.flatMap_cons, List.append_assoc] at ih ⊢
    rw [ih, ← List.append_assoc]
    exact (eq_of_next? h).symm

end Link
end CitedReply
