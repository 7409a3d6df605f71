import CitedReply.Citation.Link

/-!
# CitedReply.Citation.Marker

Reference markers such as `[cite-3]`: finding them, and putting links in their place. A marker that
an opening parenthesis follows is the text of a link and not a marker.
-/

namespace CitedReply
namespace Marker

/-- `[cite-` -/
def opener : Text := ['[', 'c', 'i', 't', 'e', '-']

def idStart : Text := ['c', 'i', 't', 'e', '-']

/-- The digits of the marker a text starts with, and what follows it. -/
def atHead? (t : Text) : Option (Text × Text) :=
  match Text.dropPrefix? opener t with
  | none => none
  | some r =>
    match r.dropWhile Char.isDigit with
    | ']' :: after =>
      if r.takeWhile Char.isDigit = [] ∨ after.head? = some '(' then none
      else some (r.takeWhile Char.isDigit, after)
    | _ => none

/-- A text is a row of characters and markers. -/
inductive Piece where
  | char (c : Char)
  | marker (digits : Text)
  deriving DecidableEq

def written (digits : Text) : Text := opener ++ digits ++ [']']

theorem eq_of_atHead? {t digits after : Text} (h : atHead? t = some (digits, after)) :
    t = written digits ++ after := by
  unfold atHead? at h
  split at h
  · cases h
  · rename_i r hr
    split at h
    · rename_i after' hd
      split at h
      · cases h
      · cases h
        have hs := List.takeWhile_append_dropWhile (p := Char.isDigit) (l := r)
        rw [hd] at hs
        rw [Text.dropPrefix?_eq_some_iff.1 hr, written]
        simp [hs]
    · cases h

theorem length_lt_of_atHead? {t digits after : Text} (h : atHead? t = some (digits, after)) :
    after.length < t.length := by
  rw [eq_of_atHead? h, written, opener]
  simp
  omega

def Piece.text : Piece → Text
  | .char c => [c]
  | .marker digits => written digits

def pieces : Text → List Piece
  | [] => []
  | c :: r =>
    match _ : atHead? (c :: r) with
    | some (digits, after) => .marker digits :: pieces after
    | none => .char c :: pieces r
termination_by t => t.length
decreasing_by
  · exact length_lt_of_atHead? ‹_›
  · simp

theorem text_pieces (t : Text) : (pieces t).flatMap Piece.text = t := by
  fun_induction pieces t with
  | case1 => rfl
  | case2 c r digits after h ih =>
    rw [eq_of_atHead? h, List.flatMap_cons, ih, Piece.text]
  | case3 c r h ih => rw [List.flatMap_cons, ih, Piece.text, List.singleton_append]

def idOf (digits : Text) : Text := idStart ++ digits

/-- The citation a marker stands for: the first with its identifier. -/
def resolve? (cs : List Citation) (digits : Text) : Option Citation :=
  cs.find? (·.id = idOf digits)

def ids (t : Text) : List Text :=
  (pieces t).filterMap fun p =>
    match p with
    | .char _ => none
    | .marker digits => some (idOf digits)

/-- A marker and where it stands, in bytes from the start of the text. -/
structure Found where
  start : Nat
  stop : Nat
  id : Text

def located (offset : Nat) : List Piece → List Found
  | [] => []
  | .char c :: ps => located (offset + c.utf8Size) ps
  | .marker digits :: ps =>
    let stop := offset + Text.byteSize (written digits)
    ⟨offset, stop, idOf digits⟩ :: located stop ps

def find (t : Text) : List Found := located 0 (pieces t)

/-- What becomes of a piece when markers give way to links. -/
def Piece.resolved (cs : List Citation) : Piece → Text
  | .char c => [c]
  | .marker digits =>
    match resolve? cs digits with
    | some c => c.link
    | none => written digits

/-- Puts a link in the place of each marker whose citation is known. -/
def substitute (cs : List Citation) (t : Text) : Text := (pieces t).flatMap (Piece.resolved cs)

end Marker
end CitedReply
