import CitedReply.Proofs.Feed
import CitedReply.Proofs.Json.Quoted
import CitedReply.Proofs.Text.Decoding
import CitedReply.Proofs.Text.Trimming

/-!
# CitedReply.Proofs.Delta

A text that a piece of the stream adds arrives as it is.

The text stands in a payload of objects with one member each, where it is quoted. Whatever it says,
the payload is one line, and a reader comes to the text through every layer, since each is read in
the same way whatever follows it (`Reads`).

* `value?_addition`: the payload is read as the value it was made of.
* `lineEvents_additionLine`: its line adds the text, if it is not longer than a line may be.
* `received_adding`: so a piece with that line brings the text before what follows it.
-/

namespace CitedReply

/-! ## Containers of one value -/

namespace Json

/-- A text is read as a value, whatever comes behind it. -/
def Reads (turns depth : Nat) (t : Text) (v : Value) : Prop :=
  ∀ r, value turns depth (t ++ r) = .ok (v, r)

def writtenMember (key t : Text) : Text := '{' :: (quote key ++ ':' :: (t ++ ['}']))

def writtenItem (t : Text) : Text := '[' :: (t ++ [']'])

theorem quote_append (s r : Text) : ∃ t, quote s ++ r = '"' :: t ∧ unquote t = .ok (s, r) :=
  ⟨s.flatMap quoteChar ++ '"' :: r, by simp [quote], unquote_quoted s r⟩

theorem reads_quote (turns depth : Nat) (s : Text) :
    Reads (turns + 1) depth (quote s) (.string s) := by
  intro r
  obtain ⟨t, ht, hread⟩ := quote_append s r
  rw [ht]
  simp [value, skipSpace, isSpace, scalar, hread, Except.map]

theorem nextKey_quote (key r : Text) : nextKey true (quote key ++ r) = .ok (some key, r) := by
  obtain ⟨t, ht, hread⟩ := quote_append key r
  rw [ht]
  simp [nextKey, skipSpace, isSpace, separator, hread, Except.map]

theorem Reads.member {turns depth : Nat} {t : Text} {v : Value} (h : Reads (turns + 1) depth t v)
    (key : Text) : Reads (turns + 3) (depth + 1) (writtenMember key t) (.object [(key, v)]) := by
  intro r
  have hopen : value (turns + 3) (depth + 1) (writtenMember key t ++ r) =
      members (turns + 2) depth [] (quote key ++ ':' :: (t ++ '}' :: r)) := by
    rw [value]
    simp [writtenMember, skipSpace, isSpace]
  have hcolon : colon (':' :: (t ++ '}' :: r)) = .ok (t ++ '}' :: r) := by
    simp [colon, skipSpace, isSpace]
  have hvalue := h ('}' :: r)
  have hclose : members (turns + 1) depth [(key, v)] ('}' :: r) = .ok (.object [(key, v)], r) := by
    simp [members, nextKey, skipSpace, isSpace]
  rw [hopen, members, List.isEmpty_nil, nextKey_quote]
  simp only [hcolon, hvalue, hclose]

/-- The item is an object, so that it neither closes the array nor starts with white space. -/
theorem Reads.item {turns depth : Nat} {key t : Text} {v : Value}
    (h : Reads (turns + 1) depth (writtenMember key t) v) :
    Reads (turns + 3) (depth + 1) (writtenItem (writtenMember key t)) (.array [v]) := by
  intro r
  have hopen : value (turns + 3) (depth + 1) (writtenItem (writtenMember key t) ++ r) =
      items (turns + 2) depth [] (writtenMember key t ++ ']' :: r) := by
    rw [value]
    simp [writtenItem, skipSpace, isSpace]
  have hitem : items (turns + 2) depth [] (writtenMember key t ++ ']' :: r) =
      items (turns + 1) depth [v] (']' :: r) := by
    have hvalue := h (']' :: r)
    obtain ⟨u, hu⟩ : ∃ u, writtenMember key t ++ ']' :: r = '{' :: u := ⟨_, rfl⟩
    rw [hu] at hvalue ⊢
    rw [items]
    simp [skipSpace, isSpace, separator, hvalue]
  rw [hopen, hitem]
  simp [items, skipSpace, isSpace]

theorem newline_not_mem_quote (s : Text) : '\n' ∉ quote s := by
  have hs := newline_not_mem_quoted s
  simp [quote, hs]

theorem writtenMember_eq (key t : Text) :
    writtenMember key t = '{' :: (quote key ++ ':' :: t ++ ['}']) := by
  simp [writtenMember]

theorem byteSize_writtenMember (key t : Text) :
    Text.byteSize (writtenMember key t) = Text.byteSize (quote key) + Text.byteSize t + 3 := by
  have hsigns : Char.utf8Size '{' = 1 ∧ Char.utf8Size ':' = 1 ∧ Char.utf8Size '}' = 1 := by decide
  simp only [writtenMember, Text.byteSize_cons, Text.byteSize_append, Text.byteSize_nil, hsigns]
  omega

theorem byteSize_writtenItem (t : Text) :
    Text.byteSize (writtenItem t) = Text.byteSize t + 2 := by
  have hsigns : Char.utf8Size '[' = 1 ∧ Char.utf8Size ']' = 1 := by decide
  simp only [writtenItem, Text.byteSize_cons, Text.byteSize_append, Text.byteSize_nil, hsigns]
  omega

/-- A rough bound, for which no letter of an escape has to be looked at. -/
theorem byteSize_quoteChar_le (c : Char) : Text.byteSize (quoteChar c) ≤ 12 * c.utf8Size := by
  have hpos := c.utf8Size_pos
  have hslash : Char.utf8Size '\\' = 1 := by decide
  unfold quoteChar
  cases shortEscape? c with
  | some e =>
    have he := e.utf8Size_le_four
    simp only [Text.byteSize_cons, Text.byteSize_nil, hslash]
    omega
  | none =>
    dsimp only
    split
    · have hu : Char.utf8Size 'u' = 1 := by decide
      have hzero : Char.utf8Size '0' = 1 := by decide
      have hhigh := (Text.hexDigit (c.toNat / 16)).utf8Size_le_four
      have hlow := (Text.hexDigit (c.toNat % 16)).utf8Size_le_four
      simp only [Text.byteSize_cons, Text.byteSize_nil, hslash, hu, hzero]
      omega
    · simp only [Text.byteSize_cons, Text.byteSize_nil]
      omega

theorem byteSize_quote_le (s : Text) : Text.byteSize (quote s) ≤ 12 * Text.byteSize s + 2 := by
  have hbody : Text.byteSize (s.flatMap quoteChar) ≤ 12 * Text.byteSize s := by
    induction s with
    | nil => exact Nat.le_refl 0
    | cons c s ih =>
      have hc := byteSize_quoteChar_le c
      rw [List.flatMap_cons, Text.byteSize_append, Text.byteSize_cons]
      omega
  have hmark : Char.utf8Size '"' = 1 := by decide
  simp only [quote, Text.byteSize_cons, Text.byteSize_append, Text.byteSize_nil, hmark]
  omega

end Json

/-! ## The line of a text -/

namespace EventStream

/-- The payload that adds a text. -/
def addition (text : Text) : Text :=
  Json.writtenMember "choices".toList (Json.writtenItem (Json.writtenMember "delta".toList
    (Json.writtenMember "content".toList (Json.quote text))))

def additionValue (text : Text) : Json.Value :=
  .object [("choices".toList, .array [.object [("delta".toList,
    .object [("content".toList, .string text)])]])]

theorem reads_addition (turns depth : Nat) (text : Text) :
    Json.Reads (turns + 9) (depth + 4) (addition text) (additionValue text) :=
  ((((Json.reads_quote turns depth text).member "content".toList).member
    "delta".toList).item.member "choices".toList)

theorem value?_addition (text : Text) :
    Json.value? (addition text) = some (additionValue text) := by
  obtain ⟨turns, hturns⟩ : ∃ turns, 2 * (addition text).length + 2 = turns + 9 := by
    refine ⟨2 * (addition text).length + 2 - 9, ?_⟩
    have hkey : (Json.quote "choices".toList).length = 9 := by decide
    simp only [addition, Json.writtenMember, List.length_cons, List.length_append]
    omega
  have hdepth : Json.maxDepth = 123 + 4 := rfl
  have hread := reads_addition turns 123 text []
  rw [List.append_nil] at hread
  rw [Json.value?, hturns, hdepth, hread]
  rfl

theorem ofPayload?_additionValue {text : Text} (h : text ≠ []) :
    ofPayload? (additionValue text) = some (.delta text) := by
  have herror : reportedError? (additionValue text) = none := rfl
  have hcontent : content? (additionValue text) = if text = [] then none else some text := rfl
  rw [ofPayload?, herror, hcontent, if_neg h]
  rfl

/-- The line of a payload, but for its line feed. -/
def additionLine (text : Text) : Text := "data: ".toList ++ addition text

theorem additionLine_eq (text : Text) : additionLine text = "data: ".toList ++ addition text := rfl

theorem ofLine?_additionLine {text : Text} (h : text ≠ []) :
    ofLine? (additionLine text ++ ['\n']) = some (.delta text) := by
  have hpayload : Text.trim (' ' :: addition text) = addition text := by
    have hspace : Text.trim (' ' :: addition text) = Text.trim (addition text) := rfl
    rw [hspace, addition, Json.writtenMember_eq]
    exact Text.trim_of_ends _ (by decide) (by decide)
  have hline : Text.trim (additionLine text ++ ['\n']) = additionLine text := by
    rw [Text.trim_append_of_isBlank rfl, additionLine_eq, addition, Json.writtenMember_eq]
    exact Text.trim_of_ends ("ata: ".toList ++ '{' :: _) (by decide) (by decide)
  have hrest : Text.dropPrefix? "data:".toList (additionLine text) = some (' ' :: addition text) :=
    Text.dropPrefix?_append _ _
  have hne : addition text ≠ [] := List.cons_ne_nil _ _
  have hdone : addition text ≠ "[DONE]".toList := by
    intro he
    exact absurd (List.cons.inj he).1 (by decide)
  rw [ofLine?, hline, hrest]
  simp only [hpayload]
  rw [if_neg hne, if_neg hdone, value?_addition, Option.bind_some, ofPayload?_additionValue h]

theorem lineFeed_not_mem_additionLine (text : Text) :
    lineFeed ∉ Utf8.encode (additionLine text) := by
  have hquote := Json.newline_not_mem_quote
  have hline : '\n' ∉ additionLine text := by
    simp only [additionLine_eq, addition, Json.writtenMember, Json.writtenItem, List.mem_append,
      List.mem_cons, hquote]
    decide
  exact mt (Utf8.toUInt8_mem_encode_iff (c := '\n') (by decide)).1 hline

theorem byteSize_additionLine_le (text : Text) :
    Text.byteSize (additionLine text) ≤ 12 * Text.byteSize text + 44 := by
  have hquote := Json.byteSize_quote_le text
  have hfield : Text.byteSize "data: ".toList = 6 := by decide
  have hchoices : Text.byteSize (Json.quote "choices".toList) = 9 := by decide
  have hdelta : Text.byteSize (Json.quote "delta".toList) = 7 := by decide
  have hcontent : Text.byteSize (Json.quote "content".toList) = 9 := by decide
  simp only [additionLine_eq, addition, Text.byteSize_append, Json.byteSize_writtenMember,
    Json.byteSize_writtenItem, hfield, hchoices, hdelta, hcontent]
  omega

theorem lineEvents_additionLine {text : Text} (h : text ≠ [])
    (hfits : Text.byteSize (additionLine text) < maxLineBytes) :
    lineEvents maxLineBytes (Utf8.encode (additionLine text) ++ [lineFeed]) = [.delta text] := by
  have hfeed : Utf8.encode (additionLine text) ++ [lineFeed] =
      Utf8.encode (additionLine text ++ ['\n']) := by
    rw [Utf8.encode_append]
    rfl
  have hlen : ¬ (Utf8.encode (additionLine text) ++ [lineFeed]).length > maxLineBytes := by
    rw [List.length_append, Utf8.length_encode, List.length_singleton]
    omega
  rw [lineEvents, if_neg hlen, hfeed, ofBytes?, Utf8.decodeLossy_encode, ofLine?_additionLine h]
  rfl

end EventStream

/-! ## The piece of a text -/

namespace Completion

open EventStream

/-- A piece that adds a text: its line, and a line with nothing on it. -/
def Piece.adding (wait : Nat) (text : Text) : Piece :=
  ⟨wait, some (Utf8.encode (additionLine text ++ ['\n', '\n']))⟩

/-- Unless its line is too long, a piece brings its text, whatever that says. -/
theorem received_adding {text : Text} (h : text ≠ [])
    (hfits : Text.byteSize (additionLine text) < maxLineBytes) (wait : Nat) (pieces : List Piece) :
    received (.adding wait text :: pieces) =
      (text ++ (received pieces).1, (received pieces).2) := by
  have hbytes : Utf8.encode (additionLine text ++ ['\n', '\n']) ++ (arrived pieces).1.flatten =
      Utf8.encode (additionLine text) ++
        lineFeed :: ([] ++ lineFeed :: (arrived pieces).1.flatten) := by
    rw [Utf8.encode_append, List.append_assoc]
    rfl
  have hempty : lineEvents maxLineBytes ([] ++ [lineFeed]) = [] := by decide
  have hdecoded : decoded maxLineBytes
      (Utf8.encode (additionLine text ++ ['\n', '\n']) ++ (arrived pieces).1.flatten) =
        .delta text :: decoded maxLineBytes (arrived pieces).1.flatten := by
    rw [hbytes, decoded_line _ _ (lineFeed_not_mem_additionLine text),
      lineEvents_additionLine h hfits, decoded_line _ _ List.not_mem_nil, hempty]
    rfl
  simp only [received, arrived, Piece.adding, List.flatten_cons, hdecoded, told]

end Completion
end CitedReply
