import CitedReply.Text.Basic

/-!
# CitedReply.Json.Basic

JSON values, and the three ways a text can fail to be the JSON that is asked for.
-/

namespace CitedReply
namespace Json

/-- `malformed`: no continuation would make it JSON. `mismatch`: sound so far, but not of the shape
asked for. `truncated`: it ends too early. -/
inductive Fault where
  | malformed
  | mismatch
  | truncated
  deriving DecidableEq, Repr

/-- What a reader makes of the head of a text, and the text after it. -/
abbrev Result (α : Type) := Except Fault (α × Text)

/-- Members stand as written; a number keeps its spelling. -/
inductive Value where
  | null
  | bool (b : Bool)
  | number (spelling : Text)
  | string (s : Text)
  | array (items : List Value)
  | object (members : List (Text × Value))

namespace Value

/-- Of members with one key the last counts. -/
def member? (key : Text) : Value → Option Value
  | .object ms => (ms.reverse.find? (·.1 = key)).map (·.2)
  | _ => none

def item? (i : Nat) : Value → Option Value
  | .array vs => vs[i]?
  | _ => none

def text? : Value → Option Text
  | .string s => some s
  | _ => none

def isNull : Value → Bool
  | .null => true
  | _ => false

end Value

def isSpace (c : Char) : Bool := c = ' ' || c = '\n' || c = '\t' || c = '\r'

def skipSpace (t : Text) : Text := t.dropWhile isSpace

def word : Text → Text → Except Fault Text
  | [], t => .ok t
  | _ :: _, [] => .error .truncated
  | w :: ws, c :: cs => if w = c then word ws cs else .error .malformed

def finish (t : Text) : Except Fault Unit :=
  if skipSpace t = [] then .ok () else .error .malformed

end Json
end CitedReply
