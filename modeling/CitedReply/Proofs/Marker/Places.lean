import CitedReply.Proofs.Marker.Scan
import CitedReply.Proofs.Text.Encoding

/-!
# CitedReply.Proofs.Marker.Places

The places of the markers of a text, in its bytes.

A marker is made of characters of one byte and its first bracket begins no other one. So the bytes
of a text read like a marker exactly where the text has one (`standsIn_iff`), and a scan that goes
on behind each marker comes to all of them (`mem_find_iff`), from left to right (`pairwise_find`).

* `find_exact`: the scan finds each place where a marker stands, once and in order, and no other.
-/

namespace CitedReply
namespace Marker

/-! ## What the scan finds -/

theorem located_append (offset : Nat) (ps qs : List Piece) :
    located offset (ps ++ qs) =
      located offset ps ++ located (offset + Text.byteSize (ps.flatMap Piece.text)) qs := by
  induction ps generalizing offset with
  | nil => rfl
  | cons p ps ih =>
    cases p with
    | char c =>
      simp only [List.cons_append, located, ih, List.flatMap_cons, Piece.text, Text.byteSize_append,
        Text.byteSize_cons, Text.byteSize_nil, Nat.zero_add, Nat.add_assoc]
    | marker digits =>
      simp only [List.cons_append, located, ih, List.flatMap_cons, Piece.text, Text.byteSize_append,
        Nat.add_assoc]

/-- The scan may be cut before the bracket of a marker, and so it comes to the marker. -/
theorem mem_find {digits b : Text} (h : IsNumber digits) (hb : b.head? ≠ some '(') (a : Text) :
    ⟨Text.byteSize a, Text.byteSize (a ++ written digits), idOf digits⟩ ∈
      find (a ++ written digits ++ b) := by
  have hmarker : pieces ('[' :: (idStart ++ digits ++ [']'] ++ b)) =
      .marker digits :: pieces b := pieces_of_marker (atHead?_written h hb)
  have hpieces : pieces (a ++ written digits ++ b) = pieces a ++ .marker digits :: pieces b := by
    rw [← hmarker, ← pieces_append_inert (by decide), written_eq, List.append_assoc,
      List.cons_append]
  rw [find, hpieces, located_append, text_pieces, Nat.zero_add, located, Text.byteSize_append]
  exact List.mem_append_right _ List.mem_cons_self

theorem mem_find_iff {t : Text} {m : Found} :
    m ∈ find t ↔
      ∃ a digits b, t = a ++ written digits ++ b ∧ IsNumber digits ∧ b.head? ≠ some '(' ∧
        m = ⟨Text.byteSize a, Text.byteSize (a ++ written digits), idOf digits⟩ := by
  constructor
  · exact eq_of_mem_find
  · rintro ⟨a, digits, b, rfl, hn, hb, rfl⟩
    exact mem_find hn hb a

theorem byteSize_written_pos (digits : Text) : 0 < Text.byteSize (written digits) := by
  have := Char.utf8Size_pos '['
  rw [written_eq, Text.byteSize_cons]
  omega

theorem le_start_of_mem_located {offset : Nat} {ps : List Piece} {m : Found}
    (h : m ∈ located offset ps) : offset ≤ m.start := by
  induction ps generalizing offset with
  | nil => cases h
  | cons p ps ih =>
    cases p with
    | char c => exact (Nat.le_add_right _ _).trans (ih h)
    | marker digits =>
      rcases List.mem_cons.1 h with rfl | h
      · exact Nat.le_refl _
      · exact (Nat.le_add_right _ _).trans (ih h)

theorem pairwise_located (offset : Nat) (ps : List Piece) :
    (located offset ps).Pairwise fun m n => m.start < n.start ∧ m.stop ≤ n.start := by
  induction ps generalizing offset with
  | nil => exact .nil
  | cons p ps ih =>
    cases p with
    | char c => exact ih _
    | marker digits =>
      refine .cons ?_ (ih _)
      intro n hn
      have hstop : offset + Text.byteSize (written digits) ≤ n.start := le_start_of_mem_located hn
      have := byteSize_written_pos digits
      exact ⟨show offset < n.start by omega, hstop⟩

theorem pairwise_find (t : Text) :
    (find t).Pairwise fun m n => m.start < n.start ∧ m.stop ≤ n.start :=
  pairwise_located 0 (pieces t)

/-! ## Digits in bytes -/

def IsDigitByte (b : UInt8) : Prop := 0x30 ≤ b ∧ b ≤ 0x39

theorem isDigit_iff {c : Char} : c.isDigit = true ↔ 48 ≤ c.toNat ∧ c.toNat ≤ 57 := by
  simp [Char.isDigit, UInt32.le_iff_toNat_le]

theorem utf8Size_of_isDigit {c : Char} (h : c.isDigit = true) : c.utf8Size = 1 := by
  rw [Char.utf8Size_eq_one_iff, UInt32.le_iff_toNat_le]
  exact (isDigit_iff.1 h).2.trans (by decide)

theorem isDigitByte_toUInt8 {c : Char} (h : c.isDigit = true) : IsDigitByte c.toUInt8 := by
  obtain ⟨hlow, hhigh⟩ := isDigit_iff.1 h
  have hbyte : c.toUInt8.toNat = c.toNat :=
    (UInt32.toNat_toUInt8 c.val).trans (Nat.mod_eq_of_lt (show c.toNat < 256 by omega))
  simp [IsDigitByte, UInt8.le_iff_toNat_le, hbyte, hlow, hhigh]

theorem exists_digit_of_byte {b : UInt8} (h : IsDigitByte b) :
    ∃ c : Char, c.isDigit = true ∧ c.toUInt8 = b := by
  have hb : 48 ≤ b.toNat ∧ b.toNat ≤ 57 := by
    simpa [IsDigitByte, UInt8.le_iff_toNat_le] using h
  exact ⟨Char.ofUInt8 b, isDigit_iff.2 hb, UInt8.toUInt8_toUInt32 b⟩

theorem isNumber_iff {digits : Text} :
    IsNumber digits ↔ Utf8.encode digits ≠ [] ∧ ∀ b ∈ Utf8.encode digits, IsDigitByte b := by
  rw [IsNumber, ne_eq, ne_eq, Utf8.encode_eq_nil_iff]
  refine and_congr_right fun _ => ?_
  constructor
  · intro h b hb
    obtain ⟨c, hc, hbc⟩ := List.mem_flatMap.1 hb
    rw [String.utf8EncodeChar_eq_singleton (utf8Size_of_isDigit (h c hc)),
      List.mem_singleton] at hbc
    rw [hbc]
    exact isDigitByte_toUInt8 (h c hc)
  · intro h c hc
    -- the first byte of the character is that of a digit, which is then the character
    obtain ⟨b, y, hby⟩ := List.exists_cons_of_ne_nil (String.utf8EncodeChar_ne_nil (c := c))
    have hb : b ∈ Utf8.encode digits := List.mem_flatMap.2 ⟨c, hc, by simp [hby]⟩
    obtain ⟨d, hd, rfl⟩ := exists_digit_of_byte (h b hb)
    have hmem : d.toUInt8 ∈ Utf8.encode [c] := by simp [hby]
    rw [Utf8.toUInt8_mem_encode_iff (utf8Size_of_isDigit hd), List.mem_singleton] at hmem
    exact hmem ▸ hd

/-! ## Markers in bytes -/

/-- The bytes of a marker: the opener, digits, and a closing bracket. -/
def IsWritten (mark : Bytes) : Prop :=
  ∃ digits, mark = Utf8.encode opener ++ digits ++ [']'.toUInt8] ∧
    digits ≠ [] ∧ ∀ b ∈ digits, IsDigitByte b

/-- From the start of what is found to its stop the bytes read like a marker, and no parenthesis
follows. The identifier is what stands between the brackets. -/
def StandsIn (bytes : Bytes) (m : Found) : Prop :=
  ∃ mark after, bytes.drop m.start = mark ++ after ∧ IsWritten mark ∧
    after.head? ≠ some '('.toUInt8 ∧ m.stop = m.start + mark.length ∧
    Utf8.encode m.id = mark.tail.dropLast

theorem encode_written (digits : Text) :
    Utf8.encode (written digits) =
      Utf8.encode opener ++ Utf8.encode digits ++ [']'.toUInt8] := by
  rw [written, Utf8.encode_append, Utf8.encode_append, Utf8.encode_singleton (by decide)]

theorem tail_dropLast_written (digits : Text) :
    (Utf8.encode (written digits)).tail.dropLast = Utf8.encode (idOf digits) := by
  have hsplit : written digits = '[' :: (idOf digits ++ [']']) := by rw [written_eq, idOf]
  rw [hsplit, Utf8.encode_cons_of_size_one (by decide), Utf8.encode_append,
    Utf8.encode_singleton (by decide), List.tail_cons, List.dropLast_concat]

/-- Bytes of a text that read like a marker are those of a marker in it. -/
theorem exists_of_isWritten {t : Text} {x mark after : Bytes}
    (h : Utf8.encode t = x ++ (mark ++ after)) (hm : IsWritten mark) :
    ∃ a digits b, t = a ++ written digits ++ b ∧ IsNumber digits ∧ Utf8.encode a = x ∧
      Utf8.encode (written digits) = mark ∧ Utf8.encode b = after := by
  obtain ⟨ds, rfl, hds⟩ := hm
  have hopener : Utf8.encode opener = '['.toUInt8 :: Utf8.encode idStart := by decide
  have hbytes : Utf8.encode t =
      x ++ '['.toUInt8 :: (Utf8.encode idStart ++ (ds ++ ']'.toUInt8 :: after)) := by
    rw [h, hopener]
    simp
  obtain ⟨a, v, rfl, ha, hv⟩ := (Utf8.encode_eq_append_iff (by decide)).1 hbytes
  obtain ⟨w, rfl, hw⟩ := Utf8.eq_append_of_encode hv
  obtain ⟨digits, b, rfl, rfl, hb⟩ := (Utf8.encode_eq_append_iff (by decide)).1 hw
  exact ⟨a, digits, b, by simp [written_eq], isNumber_iff.2 hds, ha, encode_written digits, hb⟩

theorem standsIn_iff {t : Text} {m : Found} :
    StandsIn (Utf8.encode t) m ↔
      ∃ a digits b, t = a ++ written digits ++ b ∧ IsNumber digits ∧ b.head? ≠ some '(' ∧
        m = ⟨Text.byteSize a, Text.byteSize (a ++ written digits), idOf digits⟩ := by
  constructor
  · rintro ⟨mark, after, hdrop, hmark, hafter, hstop, hid⟩
    have hbytes : Utf8.encode t = (Utf8.encode t).take m.start ++ (mark ++ after) := by
      rw [← hdrop, List.take_append_drop]
    obtain ⟨a, digits, b, rfl, hn, ha, rfl, rfl⟩ := exists_of_isWritten hbytes hmark
    refine ⟨a, digits, b, rfl, hn, mt (Utf8.head?_encode_iff (by decide)).2 hafter, ?_⟩
    have hstart : m.start = Text.byteSize a := by
      have hlen := congrArg List.length hdrop
      have hpos := byteSize_written_pos digits
      rw [List.length_drop, List.length_append, Utf8.length_encode, Utf8.length_encode,
        Utf8.length_encode] at hlen
      rw [← Utf8.length_encode, ha, List.length_take, Utf8.length_encode]
      omega
    rw [tail_dropLast_written, Utf8.encode_inj] at hid
    rw [Utf8.length_encode, hstart, ← Text.byteSize_append] at hstop
    rw [← hstart, ← hstop, ← hid]
  · rintro ⟨a, digits, b, rfl, hn, hb, rfl⟩
    refine ⟨Utf8.encode (written digits), Utf8.encode b, ?_, ?_, ?_, ?_, ?_⟩
    · rw [Utf8.encode_append, Utf8.encode_append, List.append_assoc]
      exact List.drop_left' (Utf8.length_encode a)
    · exact ⟨_, encode_written digits, isNumber_iff.1 hn⟩
    · rwa [ne_eq, Utf8.head?_encode_iff (by decide)]
    · rw [Utf8.length_encode, Text.byteSize_append]
    · exact (tail_dropLast_written digits).symm

/-- The scan finds exactly what stands in the bytes of the text, from left to right. -/
theorem find_exact (t : Text) :
    (∀ m, m ∈ find t ↔ StandsIn (Utf8.encode t) m) ∧
      (find t).Pairwise fun m n => m.start < n.start ∧ m.stop ≤ n.start := by
  refine ⟨?_, pairwise_find t⟩
  intro m
  rw [mem_find_iff, standsIn_iff]

/-- No marker is passed over behind one that is not finished or is the text of a link. -/
example : (find "é[cite-[cite-1][cite-1[cite-2][cite-3]([cite-4]".toList).map
    (fun m => (m.start, m.stop, m.id)) =
      [(8, 16, "cite-1".toList), (23, 31, "cite-2".toList), (40, 48, "cite-4".toList)] := by
  decide +kernel

end Marker
end CitedReply
