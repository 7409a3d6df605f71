import CitedReply.Completion.EventStream
import Mathlib.Data.List.TakeWhile

/-!
# CitedReply.Proofs.EventStream

Where the pieces of a stream are cut does not matter.

The reference is `decoded`: the whole stream cut into lines (`cutLines`), each line decoded, with an
overflow for a line or a tail that is too long. The decoder clears its buffer at an overflow, so it
agrees with the reference only up to the first event that ends the stream (`untilEnd`), which is all
that anybody reads of it.

* `untilEnd_drain_append`: draining `a ++ b` is draining `a`, then `b` behind what `a` left.
* `Decoder.pushAll_decodes`: pieces in any cut give the reference of their concatenation, and what is
  kept between pieces is the start of one line and fits.
-/

namespace CitedReply
namespace EventStream

/-! ## The reference -/

/-- The whole lines of a stream, each with its line feed, and what follows the last of them. -/
def cutLines (stream : Bytes) : List Bytes × Bytes :=
  ((stream.splitOn lineFeed).dropLast.map (· ++ [lineFeed]),
    (stream.splitOn lineFeed).getLast (List.splitOn_ne_nil lineFeed stream))

/-- What a whole line, its line feed included, gives. -/
def lineEvents (maxLine : Nat) (line : Bytes) : List Event :=
  if line.length > maxLine then [overflow maxLine] else (ofBytes? line).toList

/-- What the start of a line gives that never ends. -/
def tailEvents (maxLine : Nat) (tail : Bytes) : List Event :=
  if tail.length > maxLine then [overflow maxLine] else []

/-- The events of a whole stream, line by line. -/
def decoded (maxLine : Nat) (stream : Bytes) : List Event :=
  (cutLines stream).1.flatMap (lineEvents maxLine) ++ tailEvents maxLine (cutLines stream).2

/-- No event after this one is read. -/
def Event.isEnd : Event → Bool
  | .delta _ => false
  | _ => true

/-- The events up to the first that ends the stream, that one included. -/
def untilEnd : List Event → List Event
  | [] => []
  | e :: es => if e.isEnd then [e] else e :: untilEnd es

theorem cutLines_tail {tail : Bytes} (h : lineFeed ∉ tail) : cutLines tail = ([], tail) := by
  simp [cutLines, List.splitOn_eq_singleton h]

theorem cutLines_line {line : Bytes} (rest : Bytes) (h : lineFeed ∉ line) :
    cutLines (line ++ lineFeed :: rest) =
      ((line ++ [lineFeed]) :: (cutLines rest).1, (cutLines rest).2) := by
  have hne := List.splitOn_ne_nil lineFeed rest
  simp [cutLines, List.splitOn_append_cons_self_of_not_mem h, List.dropLast_cons_of_ne_nil hne,
    List.getLast_cons hne]

theorem decoded_line (maxLine : Nat) {line : Bytes} (rest : Bytes) (h : lineFeed ∉ line) :
    decoded maxLine (line ++ lineFeed :: rest) =
      lineEvents maxLine (line ++ [lineFeed]) ++ decoded maxLine rest := by
  rw [decoded, cutLines_line rest h, List.flatMap_cons, List.append_assoc]
  rfl

/-- A stream is the start of a line, or a whole line and a stream. -/
theorem line_induction {P : Bytes → Prop} (tail : ∀ t, lineFeed ∉ t → P t)
    (line : ∀ l rest, lineFeed ∉ l → P rest → P (l ++ lineFeed :: rest)) (stream : Bytes) :
    P stream := by
  induction h : stream.length using Nat.strongRecOn generalizing stream with
  | _ n ih =>
    by_cases hm : lineFeed ∈ stream
    · obtain ⟨l, rest, rfl, hl⟩ := List.eq_append_cons_of_mem hm
      refine line l rest hl (ih rest.length ?_ rest rfl)
      simp only [List.length_append, List.length_cons] at h
      omega
    · exact tail stream hm

/-! ## Up to the first end -/

@[simp] theorem isEnd_overflow (maxLine : Nat) : (overflow maxLine).isEnd = true := rfl

theorem untilEnd_append_congr (es : List Event) {fs gs : List Event}
    (h : untilEnd fs = untilEnd gs) : untilEnd (es ++ fs) = untilEnd (es ++ gs) := by
  induction es with
  | nil => exact h
  | cons e es ih => simp only [List.cons_append, untilEnd, ih]

/-! ## Draining -/

theorem dropWhile_of_no_feed {t : Bytes} (h : lineFeed ∉ t) :
    t.dropWhile (· != lineFeed) = [] := by
  rw [List.dropWhile_eq_nil_iff]
  intro b hb
  have : b ≠ lineFeed := fun he => h (he ▸ hb)
  simpa using this

theorem span_of_line {line : Bytes} (rest : Bytes) (h : lineFeed ∉ line) :
    (line ++ lineFeed :: rest).dropWhile (· != lineFeed) = lineFeed :: rest ∧
      (line ++ lineFeed :: rest).takeWhile (· != lineFeed) = line := by
  have hl : ∀ b ∈ line, (b != lineFeed) = true := by
    intro b hb
    have : b ≠ lineFeed := fun he => h (he ▸ hb)
    simpa using this
  rw [List.dropWhile_append_of_pos hl, List.takeWhile_append_of_pos hl]
  simp

theorem drain_tail (maxLine : Nat) (read : List Event) {t : Bytes} (h : lineFeed ∉ t) :
    drain maxLine read t =
      if t.length > maxLine then ((overflow maxLine :: read).reverse, [])
      else (read.reverse, t) := by
  rw [drain]
  split
  · rfl
  · rename_i hd
    rw [dropWhile_of_no_feed h] at hd
    cases hd

theorem drain_line (maxLine : Nat) (read : List Event) {line : Bytes} (rest : Bytes)
    (h : lineFeed ∉ line) :
    drain maxLine read (line ++ lineFeed :: rest) =
      if (line ++ [lineFeed]).length > maxLine then ((overflow maxLine :: read).reverse, [])
      else drain maxLine ((ofBytes? (line ++ [lineFeed])).toList ++ read) rest := by
  conv => lhs; rw [drain]
  obtain ⟨hdrop, htake⟩ := span_of_line rest h
  split
  · rename_i hd
    rw [hdrop] at hd
    cases hd
  · rename_i b r hd
    rw [hdrop] at hd
    cases hd
    rw [htake]

theorem drain_read (maxLine : Nat) (read : List Event) (bytes : Bytes) :
    drain maxLine read bytes =
      (read.reverse ++ (drain maxLine [] bytes).1, (drain maxLine [] bytes).2) := by
  induction bytes using line_induction generalizing read with
  | tail t h =>
    rw [drain_tail _ _ h, drain_tail _ _ h]
    split <;> simp
  | line l rest h ih =>
    rw [drain_line _ _ _ h, drain_line _ _ _ h]
    split
    · simp
    · rw [ih, ih ((ofBytes? (l ++ [lineFeed])).toList ++ [])]
      cases ofBytes? (l ++ [lineFeed]) <;> simp

theorem drain_line_fits {maxLine : Nat} {line : Bytes} (rest : Bytes) (h : lineFeed ∉ line)
    (hf : (line ++ [lineFeed]).length ≤ maxLine) :
    drain maxLine [] (line ++ lineFeed :: rest) =
      ((ofBytes? (line ++ [lineFeed])).toList ++ (drain maxLine [] rest).1,
        (drain maxLine [] rest).2) := by
  rw [drain_line _ _ _ h, if_neg (by omega), drain_read]
  cases ofBytes? (line ++ [lineFeed]) <;> simp

theorem drain_line_overflows {maxLine : Nat} {line : Bytes} (rest : Bytes) (h : lineFeed ∉ line)
    (hf : (line ++ [lineFeed]).length > maxLine) :
    drain maxLine [] (line ++ lineFeed :: rest) = ([overflow maxLine], []) := by
  rw [drain_line _ _ _ h, if_pos hf]
  rfl

/-- A start of a line that is too long overflows, whatever comes behind it. -/
theorem drain_overlong {maxLine : Nat} {t : Bytes} (b : Bytes) (h : lineFeed ∉ t)
    (hl : t.length > maxLine) : (drain maxLine [] (t ++ b)).1 = [overflow maxLine] := by
  by_cases hb : lineFeed ∈ b
  · obtain ⟨l, rest, rfl, hn⟩ := List.eq_append_cons_of_mem hb
    have hline : lineFeed ∉ t ++ l := by simp [h, hn]
    rw [← List.append_assoc, drain_line_overflows rest hline]
    simp only [List.length_append, List.length_cons, List.length_nil]
    omega
  · have htail : lineFeed ∉ t ++ b := by simp [h, hb]
    rw [drain_tail _ _ htail, if_pos]
    · rfl
    · simp only [List.length_append]
      omega

/-- Draining two pieces at once or one after the other reads the same. The induction is on the lines
of the first piece; its tail either fits, and then stays, or overflows both ways. -/
theorem untilEnd_drain_append (maxLine : Nat) (a b : Bytes) :
    untilEnd (drain maxLine [] (a ++ b)).1 =
      untilEnd ((drain maxLine [] a).1 ++ (drain maxLine [] ((drain maxLine [] a).2 ++ b)).1) := by
  induction a using line_induction with
  | tail t h =>
    rw [drain_tail _ _ h]
    split
    · rename_i hl
      rw [drain_overlong b h hl]
      simp [untilEnd]
    · simp
  | line l rest h ih =>
    rw [List.append_assoc, List.cons_append]
    by_cases hf : (l ++ [lineFeed]).length ≤ maxLine
    · rw [drain_line_fits _ h hf, drain_line_fits _ h hf, List.append_assoc]
      exact untilEnd_append_congr _ ih
    · rw [drain_line_overflows _ h (by omega), drain_line_overflows _ h (by omega)]
      simp [untilEnd]

theorem untilEnd_drain (maxLine : Nat) (bytes : Bytes) :
    untilEnd (drain maxLine [] bytes).1 = untilEnd (decoded maxLine bytes) := by
  induction bytes using line_induction with
  | tail t h =>
    rw [drain_tail _ _ h, decoded, cutLines_tail h]
    simp only [List.flatMap_nil, List.nil_append, tailEvents]
    split <;> rfl
  | line l rest h ih =>
    rw [decoded_line maxLine rest h]
    by_cases hf : (l ++ [lineFeed]).length ≤ maxLine
    · rw [drain_line_fits _ h hf, lineEvents, if_neg (by omega)]
      exact untilEnd_append_congr _ ih
    · rw [drain_line_overflows _ h (by omega), lineEvents, if_pos (by omega)]
      simp [untilEnd]

theorem drain_pending (maxLine : Nat) (bytes : Bytes) :
    lineFeed ∉ (drain maxLine [] bytes).2 ∧ (drain maxLine [] bytes).2.length ≤ maxLine := by
  induction bytes using line_induction with
  | tail t h =>
    rw [drain_tail _ _ h]
    split
    · simp
    · rename_i hl
      exact ⟨h, Nat.le_of_not_lt hl⟩
  | line l rest h ih =>
    by_cases hf : (l ++ [lineFeed]).length ≤ maxLine
    · rw [drain_line_fits _ h hf]
      exact ih
    · rw [drain_line_overflows _ h (by omega)]
      simp

/-! ## Pieces -/

namespace Decoder

/-- The events of pieces that come in one after the other, and the decoder after them. -/
def pushAll (d : Decoder) : List Bytes → List Event × Decoder
  | [] => ([], d)
  | piece :: rest => ((d.push piece).1 ++ ((d.push piece).2.pushAll rest).1,
      ((d.push piece).2.pushAll rest).2)

/-- What is pending is the start of one line, and it fits. -/
def Settled (d : Decoder) : Prop := lineFeed ∉ d.pending ∧ d.pending.length ≤ d.maxLine

theorem settled_ofMaxLine (maxLine : Nat) : (ofMaxLine maxLine).Settled := by
  simp [Settled, ofMaxLine]

theorem settled_push (d : Decoder) (piece : Bytes) : (d.push piece).2.Settled :=
  drain_pending d.maxLine (d.pending ++ piece)

theorem maxLine_pushAll (d : Decoder) (pieces : List Bytes) :
    (d.pushAll pieces).2.maxLine = d.maxLine := by
  induction pieces generalizing d with
  | nil => rfl
  | cons p ps ih => exact ih _

theorem settled_pushAll {d : Decoder} (h : d.Settled) (pieces : List Bytes) :
    (d.pushAll pieces).2.Settled := by
  induction pieces generalizing d with
  | nil => exact h
  | cons p ps ih => exact ih (d.settled_push p)

theorem untilEnd_pushAll {d : Decoder} (h : d.Settled) (pieces : List Bytes) :
    untilEnd (d.pushAll pieces).1 =
      untilEnd (drain d.maxLine [] (d.pending ++ pieces.flatten)).1 := by
  induction pieces generalizing d with
  | nil =>
    rw [List.flatten_nil, List.append_nil, drain_tail _ _ h.1, if_neg (by have := h.2; omega)]
    rfl
  | cons p ps ih =>
    rw [List.flatten_cons, ← List.append_assoc, untilEnd_drain_append]
    exact untilEnd_append_congr _ (ih (d.settled_push p))

theorem untilEnd_pushAll_ofMaxLine (maxLine : Nat) (pieces : List Bytes) :
    untilEnd ((ofMaxLine maxLine).pushAll pieces).1 =
      untilEnd (decoded maxLine pieces.flatten) := by
  rw [untilEnd_pushAll (settled_ofMaxLine maxLine), ← untilEnd_drain]
  rfl

/-- Two cuts of one stream read the same up to the first end, and both read as the reference does;
between pieces no line feed is kept and never more than `maxLine` bytes. -/
theorem pushAll_decodes (maxLine : Nat) (pieces pieces' : List Bytes)
    (h : pieces'.flatten = pieces.flatten) :
    untilEnd ((ofMaxLine maxLine).pushAll pieces).1 =
        untilEnd ((ofMaxLine maxLine).pushAll pieces').1 ∧
      untilEnd ((ofMaxLine maxLine).pushAll pieces).1 =
        untilEnd (decoded maxLine pieces.flatten) ∧
      lineFeed ∉ ((ofMaxLine maxLine).pushAll pieces).2.pending ∧
      ((ofMaxLine maxLine).pushAll pieces).2.pending.length ≤ maxLine := by
  have hs := settled_pushAll (settled_ofMaxLine maxLine) pieces
  rw [untilEnd_pushAll_ofMaxLine, untilEnd_pushAll_ofMaxLine, h]
  refine ⟨rfl, rfl, hs.1, ?_⟩
  have hm := hs.2
  rw [maxLine_pushAll] at hm
  exact hm

/-- The two bytes of `é` come apart in one cut and stay together in the other; the line that they
stand in has one byte too many. -/
theorem pushAll_decodes_inside_character :
    [[0xC3, 0xA9], [], [10, 120]].flatten = [[0xC3], [0xA9, 10, 120]].flatten ∧
      untilEnd ((ofMaxLine 2).pushAll [[0xC3], [0xA9, 10, 120]]).1 =
          untilEnd ((ofMaxLine 2).pushAll [[0xC3, 0xA9], [], [10, 120]]).1 ∧
        untilEnd ((ofMaxLine 2).pushAll [[0xC3], [0xA9, 10, 120]]).1 =
          untilEnd (decoded 2 [[0xC3], [0xA9, 10, 120]].flatten) ∧
        lineFeed ∉ ((ofMaxLine 2).pushAll [[0xC3], [0xA9, 10, 120]]).2.pending ∧
        ((ofMaxLine 2).pushAll [[0xC3], [0xA9, 10, 120]]).2.pending.length ≤ 2 :=
  ⟨rfl, pushAll_decodes 2 [[0xC3], [0xA9, 10, 120]] [[0xC3, 0xA9], [], [10, 120]] rfl⟩

end Decoder

end EventStream
end CitedReply
