import CitedReply.Json.Reader
import CitedReply.Text.Blank
import CitedReply.Text.Decimal
import CitedReply.Text.Utf8

/-!
# CitedReply.Completion.EventStream

The events of a streamed completion. The bytes arrive in pieces that may end anywhere; only whole
lines are decoded, and a line that grows too long ends the stream with a failure.
-/

namespace CitedReply
namespace EventStream

inductive Event where
  | delta (text : Text)
  | failure (message : Text)
  | done
  deriving DecidableEq

def reportedError? (payload : Json.Value) : Option Text :=
  match payload.member? "error".toList with
  | some e =>
    if e.isNull then none
    else some (((e.member? "message".toList).bind Json.Value.text?).getD "unknown error".toList)
  | none => none

/-- The text that the first choice of a payload adds, if it adds any. -/
def content? (payload : Json.Value) : Option Text := do
  let choices ← payload.member? "choices".toList
  let choice ← choices.item? 0
  let delta ← choice.member? "delta".toList
  let content ← delta.member? "content".toList
  let text ← content.text?
  if text = [] then none else some text

def ofPayload? (payload : Json.Value) : Option Event :=
  match reportedError? payload with
  | some m => some (.failure m)
  | none => (content? payload).map .delta

/-- The event of a line. Other fields, comments and what is no JSON give none. -/
def ofLine? (line : Text) : Option Event :=
  match Text.dropPrefix? "data:".toList (Text.trim line) with
  | none => none
  | some rest =>
    let payload := Text.trim rest
    if payload = [] then none
    else if payload = "[DONE]".toList then some .done
    else (Json.value? payload).bind ofPayload?

def ofBytes? (line : Bytes) : Option Event := ofLine? (Utf8.decodeLossy line)

def lineFeed : UInt8 := 10

def maxLineBytes : Nat := 1024 * 1024

/-- A line, its line feed included, must not be longer than this. -/
def overflow (maxLine : Nat) : Event :=
  .failure ("SSE line exceeds ".toList ++ Text.ofNat maxLine ++ " bytes".toList)

theorem length_lt_of_dropWhile {p : UInt8 → Bool} {b : UInt8} {bytes rest : Bytes}
    (h : bytes.dropWhile p = b :: rest) : rest.length < bytes.length := by
  have hs := (List.dropWhile_suffix (l := bytes) p).length_le
  rw [h, List.length_cons] at hs
  omega

/-- Decodes the whole lines at the head, and gives the events, those in `read` first, and the bytes
that are left. -/
def drain (maxLine : Nat) (read : List Event) (bytes : Bytes) : List Event × Bytes :=
  match _ : bytes.dropWhile (· != lineFeed) with
  | [] =>
    if bytes.length > maxLine then ((overflow maxLine :: read).reverse, [])
    else (read.reverse, bytes)
  | b :: rest =>
    let line := bytes.takeWhile (· != lineFeed) ++ [b]
    if line.length > maxLine then ((overflow maxLine :: read).reverse, [])
    else drain maxLine ((ofBytes? line).toList ++ read) rest
termination_by bytes.length
decreasing_by exact length_lt_of_dropWhile ‹_›

/-- The decoder between two pieces: the start of a line that is not whole yet. -/
structure Decoder where
  maxLine : Nat
  pending : Bytes

namespace Decoder

def ofMaxLine (maxLine : Nat) : Decoder := ⟨maxLine, []⟩

def push (d : Decoder) (piece : Bytes) : List Event × Decoder :=
  let (events, pending) := drain d.maxLine [] (d.pending ++ piece)
  (events, { d with pending })

end Decoder
end EventStream
end CitedReply
