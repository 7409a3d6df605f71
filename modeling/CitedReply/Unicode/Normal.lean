import CitedReply.Unicode.Composition

/-!
# CitedReply.Unicode.Normal

The composed normal form of a text: take characters apart, put marks in order, put characters
together again.
-/

namespace CitedReply
namespace Unicode

/-- Takes a character apart. A first part may have parts of its own, at most `depth` deep. -/
def decompose : Nat → Char → Text
  | 0, c => [c]
  | depth + 1, c =>
    match parts? c with
    | some (a, b) => decompose depth a ++ [b]
    | none => [c]

def maxParts : Nat := 4

/-- Puts a mark into a text that stands backwards: before marks of a greater class. -/
def insertMark (c : Char) : Text → Text
  | d :: r =>
    if 0 < combiningClass c ∧ combiningClass c < combiningClass d then d :: insertMark c r
    else c :: d :: r
  | [] => [c]

def orderMarks (t : Text) : Text := (t.foldl (fun done c => insertMark c done) []).reverse

/-- A text on its way to being composed: what is done, backwards; the base character that may still
take up others; and the marks after it that it has not taken, backwards. -/
structure Composing where
  done : Text
  base : Option Char
  after : Text

namespace Composing

def finish (s : Composing) : Text := s.after ++ s.base.toList ++ s.done

/-- A mark between the base and `c`, of the same class or a greater one, keeps them apart. -/
def blocks (s : Composing) (c : Char) : Bool :=
  match s.after with
  | [] => false
  | d :: _ => combiningClass c ≤ combiningClass d

def add (s : Composing) (c : Char) : Composing :=
  match s.base with
  | none => if combiningClass c = 0 then { s with base := some c } else { s with done := c :: s.done }
  | some b =>
    match if s.blocks c then none else composite? b c with
    | some d => { s with base := some d }
    | none =>
      if combiningClass c = 0 then ⟨s.finish, some c, []⟩ else { s with after := c :: s.after }

end Composing

def compose (t : Text) : Text := (t.foldl Composing.add ⟨[], none, []⟩).finish.reverse

def normalize (t : Text) : Text := compose (orderMarks (t.flatMap (decompose maxParts)))

end Unicode
end CitedReply
