import CitedReply.Json.Number
import CitedReply.Json.Quoted

/-!
# CitedReply.Json.Reader

Reading whole JSON values, passing over values nobody asks for, and the steps of reading an object
or an array member by member.

* `value?` reads a text that is one value; containers nest at most `maxDepth` deep.
* `skipValue` passes over a value of any depth, with a stack of open brackets.
* `nextKey`, `colon`, `text`, `text?` serve readers of records.

`value` and `skipFrom` count down a number of turns. Each bracket takes at most two turns and each
other turn takes a character, so twice the length of the text is enough.
-/

namespace CitedReply
namespace Json

def scalar (t : Text) : Result Value :=
  match skipSpace t with
  | [] => .error .truncated
  | 'n' :: r => (word "ull".toList r).map fun r => (.null, r)
  | 't' :: r => (word "rue".toList r).map fun r => (.bool true, r)
  | 'f' :: r => (word "alse".toList r).map fun r => (.bool false, r)
  | '"' :: r => (unquote r).map fun s => (.string s.1, s.2)
  | c :: r =>
    if c = '-' ∨ c.isDigit then (number (c :: r)).map fun s => (.number s.1, s.2)
    else .error .malformed

/-- Reads the comma before every item or member but the first. -/
def separator (first : Bool) (t : Text) : Except Fault Text :=
  if first then .ok t
  else
    match t with
    | ',' :: r => .ok (skipSpace r)
    | _ => .error .malformed

/-- Reads the key of the next member, or the brace that ends the object. -/
def nextKey (first : Bool) (t : Text) : Result (Option Text) :=
  match skipSpace t with
  | [] => .error .truncated
  | '}' :: r => .ok (none, r)
  | c :: r =>
    match separator first (c :: r) with
    | .error f => .error f
    | .ok [] => .error .truncated
    | .ok ('"' :: r) => (unquote r).map fun s => (some s.1, s.2)
    | .ok (_ :: _) => .error .malformed

def colon (t : Text) : Except Fault Text :=
  match skipSpace t with
  | [] => .error .truncated
  | ':' :: r => .ok r
  | _ :: _ => .error .malformed

mutual

/-- Reads a value inside which containers nest at most `depth` deep. -/
def value : Nat → Nat → Text → Result Value
  | 0, _, _ => .error .truncated
  | turns + 1, depth, t =>
    match skipSpace t with
    | '[' :: r => if depth = 0 then .error .malformed else items turns (depth - 1) [] r
    | '{' :: r => if depth = 0 then .error .malformed else members turns (depth - 1) [] r
    | t => scalar t

/-- Reads on inside an array; `read` holds its items so far, backwards. -/
def items : Nat → Nat → List Value → Text → Result Value
  | 0, _, _, _ => .error .truncated
  | turns + 1, depth, read, t =>
    match skipSpace t with
    | [] => .error .truncated
    | ']' :: r => .ok (.array read.reverse, r)
    | c :: r =>
      match separator read.isEmpty (c :: r) with
      | .error f => .error f
      | .ok r =>
        match value turns depth r with
        | .error f => .error f
        | .ok (v, r) => items turns depth (v :: read) r

/-- Reads on inside an object; `read` holds its members so far, backwards. -/
def members : Nat → Nat → List (Text × Value) → Text → Result Value
  | 0, _, _, _ => .error .truncated
  | turns + 1, depth, read, t =>
    match nextKey read.isEmpty t with
    | .error f => .error f
    | .ok (none, r) => .ok (.object read.reverse, r)
    | .ok (some key, r) =>
      match colon r with
      | .error f => .error f
      | .ok r =>
        match value turns depth r with
        | .error f => .error f
        | .ok (v, r) => members turns depth ((key, v) :: read) r

end

def maxDepth : Nat := 127

def value? (t : Text) : Option Value :=
  match value (2 * t.length + 2) maxDepth t with
  | .ok (v, r) => if skipSpace r = [] then some v else none
  | .error _ => none

/-- What is passed over stands open: an array or an object. -/
inductive Bracket where
  | array
  | object

/-- What comes next in a value that is passed over: a value, the first item or member of the
innermost container, a key, or what follows a value. -/
inductive Expected where
  | value
  | first
  | key
  | next

def skipScalar : Text → Except Fault Text
  | [] => .error .truncated
  | 'n' :: r => word "ull".toList r
  | 't' :: r => word "rue".toList r
  | 'f' :: r => word "alse".toList r
  | '"' :: r => skipQuoted r
  | c :: r => if c = '-' ∨ c.isDigit then skipNumber (c :: r) else .error .malformed

def skipKey : Text → Except Fault Text
  | [] => .error .truncated
  | '"' :: r =>
    match skipQuoted r with
    | .error f => .error f
    | .ok r => colon r
  | _ :: _ => .error .malformed

/-- Passes over the rest of a value; the innermost open container comes first. -/
def skipFrom : Nat → Expected → List Bracket → Text → Except Fault Text
  | 0, _, _, _ => .error .truncated
  | turns + 1, .value, opened, t =>
    match skipSpace t with
    | '[' :: r => skipFrom turns .first (.array :: opened) r
    | '{' :: r => skipFrom turns .first (.object :: opened) r
    | t =>
      match skipScalar t with
      | .error f => .error f
      | .ok r => skipFrom turns .next opened r
  | _ + 1, .first, [], t => .ok t
  | turns + 1, .first, b :: opened, t =>
    match b, skipSpace t with
    | _, [] => .error .truncated
    | .array, ']' :: r => skipFrom turns .next opened r
    | .array, t => skipFrom turns .value (.array :: opened) t
    | .object, '}' :: r => skipFrom turns .next opened r
    | .object, t => skipFrom turns .key (.object :: opened) t
  | turns + 1, .key, opened, t =>
    match skipKey (skipSpace t) with
    | .error f => .error f
    | .ok r => skipFrom turns .value opened r
  | _ + 1, .next, [], t => .ok t
  | turns + 1, .next, b :: opened, t =>
    match b, skipSpace t with
    | _, [] => .error .truncated
    | .array, ',' :: r => skipFrom turns .value (.array :: opened) r
    | .object, ',' :: r => skipFrom turns .key (.object :: opened) r
    | .array, ']' :: r => skipFrom turns .next opened r
    | .object, '}' :: r => skipFrom turns .next opened r
    | _, _ :: _ => .error .malformed

def skipValue (t : Text) : Except Fault Text := skipFrom (2 * t.length + 2) .value [] t

/-- The fault of a value that is not of the kind asked for: a flaw inside a scalar comes first. -/
def misfit (t : Text) : Fault :=
  match t with
  | '[' :: _ => .mismatch
  | '{' :: _ => .mismatch
  | _ =>
    match scalar t with
    | .error f => f
    | .ok _ => .mismatch

def text (t : Text) : Result Text :=
  match skipSpace t with
  | [] => .error .truncated
  | '"' :: r => unquote r
  | t => .error (misfit t)

def text? (t : Text) : Result (Option Text) :=
  match skipSpace t with
  | 'n' :: r => (word "ull".toList r).map fun r => (none, r)
  | t => (text t).map fun s => (some s.1, s.2)

end Json
end CitedReply
