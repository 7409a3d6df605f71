import CitedReply.Citation.Basic
import CitedReply.Json.Reader

/-!
# CitedReply.Citation.Line

A citation as JSON: one line of a citations block, and the record that stands alone.

* `encode` writes the compact object.
* `ofLine?` reads a line of a block, where every field may be missing or `null` but the identifier
  and the address must not be empty.
* `ofJson` reads a record, an object or an array of the fields in order, and says what is wrong.
-/

namespace CitedReply
namespace Citation

inductive Field where
  | id
  | title
  | url
  | snippet
  deriving DecidableEq

namespace Field

/-- In the order in which an array has them. -/
def all : List Field := [.id, .title, .url, .snippet]

def key : Field → Text
  | .id => ['i', 'd']
  | .title => ['t', 'i', 't', 'l', 'e']
  | .url => ['u', 'r', 'l']
  | .snippet => ['s', 'n', 'i', 'p', 'p', 'e', 't']

def ofKey? (key : Text) : Option Field := all.find? (·.key = key)

end Field

structure Draft (α : Type) where
  id : Option α
  title : Option α
  url : Option α
  snippet : Option α

namespace Draft

def empty {α : Type} : Draft α := ⟨none, none, none, none⟩

def get {α : Type} (d : Draft α) : Field → Option α
  | .id => d.id
  | .title => d.title
  | .url => d.url
  | .snippet => d.snippet

def set {α : Type} (d : Draft α) (f : Field) (v : α) : Draft α :=
  match f with
  | .id => { d with id := some v }
  | .title => { d with title := some v }
  | .url => { d with url := some v }
  | .snippet => { d with snippet := some v }

end Draft

/-- Reads the members of an object whose opening brace has been read. A field must not come twice;
other members are passed over. Each turn reads a member, so the length of the text is enough. -/
def members {α : Type} (read : Text → Json.Result α) :
    Nat → Bool → Draft α → Text → Json.Result (Draft α)
  | 0, _, _, _ => .error .truncated
  | turns + 1, first, draft, t =>
    match Json.nextKey first t with
    | .error f => .error f
    | .ok (none, r) => .ok (draft, r)
    | .ok (some key, r) =>
      match Field.ofKey? key with
      | some field =>
        if (draft.get field).isSome then .error .mismatch
        else
          match Json.colon r with
          | .error f => .error f
          | .ok r =>
            match read r with
            | .error f => .error f
            | .ok (v, r) => members read turns false (draft.set field v) r
      | none =>
        match Json.colon r with
        | .error f => .error f
        | .ok r =>
          match Json.skipValue r with
          | .error f => .error f
          | .ok r => members read turns false draft r

/-- Whether another item of an array follows, and where it starts. -/
def nextItem (first : Bool) (t : Text) : Json.Result Bool :=
  match Json.skipSpace t with
  | [] => .error .truncated
  | ']' :: r => .ok (false, ']' :: r)
  | c :: r =>
    match Json.separator first (c :: r) with
    | .error f => .error f
    | .ok [] => .error .truncated
    | .ok (']' :: _) => .error .malformed
    | .ok (c :: r) => .ok (true, c :: r)

/-- Reads the fields of an array in order, as far as there are any. -/
def itemsInto {α : Type} (read : Text → Json.Result α) (first : Bool) (draft : Draft α) :
    List Field → Text → Json.Result (Draft α)
  | [], t => .ok (draft, t)
  | field :: fields, t =>
    match nextItem first t with
    | .error f => .error f
    | .ok (false, r) => .ok (draft, r)
    | .ok (true, r) =>
      match read r with
      | .error f => .error f
      | .ok (v, r) => itemsInto read false (draft.set field v) fields r

def endItems (t : Text) : Except Json.Fault Text :=
  match Json.skipSpace t with
  | [] => .error .truncated
  | ']' :: r => .ok r
  | _ :: _ => .error .malformed

def ofDraft? (d : Draft Text) : Except Json.Fault Citation :=
  match d.id, d.url with
  | some id, some url => .ok ⟨id, d.title.getD [], url, d.snippet.getD []⟩
  | _, _ => .error .mismatch

/-- Reads a record at the head of a text. A field that is missing is noticed before what is wrong
with the end. -/
def record (t : Text) : Json.Result Citation :=
  match Json.skipSpace t with
  | [] => .error .truncated
  | '{' :: r =>
    match members Json.text (r.length + 1) true .empty r with
    | .error f => .error f
    | .ok (d, r) => (ofDraft? d).map fun c => (c, r)
  | '[' :: r =>
    match itemsInto Json.text true .empty Field.all r with
    | .error f => .error f
    | .ok (d, r) =>
      match ofDraft? d with
      | .error f => .error f
      | .ok c => (endItems r).map fun r => (c, r)
  | t => .error (Json.misfit t)

def ofJson (t : Text) : Except Json.Fault Citation :=
  match record t with
  | .error f => .error f
  | .ok (c, r) => (Json.finish r).map fun _ => c

/-- What a line gives for a field: `null` is no better than nothing. -/
def fieldOf (v : Option (Option Text)) : Text := (v.getD none).getD []

/-- Reads a line of a block. Whatever is not a whole object with an identifier and an address is no
citation. -/
def ofLine? (line : Text) : Option Citation :=
  match Text.trim line with
  | '{' :: r =>
    match members Json.text? (r.length + 1) true .empty r with
    | .error _ => none
    | .ok (d, rest) =>
      let c : Citation := ⟨fieldOf d.id, fieldOf d.title, fieldOf d.url, fieldOf d.snippet⟩
      if Json.skipSpace rest = [] ∧ c.id ≠ [] ∧ c.url ≠ [] then some c else none
  | _ => none

def encodeMember (field : Field) (v : Text) : Text := Json.quote field.key ++ ':' :: Json.quote v

def encode (c : Citation) : Text :=
  '{' :: (encodeMember .id c.id ++ ',' :: encodeMember .title c.title ++
    ',' :: encodeMember .url c.url ++ ',' :: encodeMember .snippet c.snippet ++ ['}'])

end Citation
end CitedReply
