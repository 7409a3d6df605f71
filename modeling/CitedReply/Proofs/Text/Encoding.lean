import CitedReply.Text.Utf8

/-!
# CitedReply.Proofs.Text.Encoding

Places in the bytes of a text.

A character ends where a byte that begins one comes next, so the bytes of a text fall apart only
where its characters do (`isBoundary_iff`). A character of one byte is its own byte and no part of
another character, so a text can be cut at it in its bytes as well (`encode_eq_append_iff`).

* `isBoundary_iff`: the places that no character goes across are the ends of the starts of the text.
* `encode_eq_append_iff`: where a byte below 128 stands, the character stands.
* `eq_append_of_encode`: bytes that begin like a text are those of a text that begins like it.
-/

namespace CitedReply
namespace Utf8

@[simp] theorem encode_nil : encode [] = [] := rfl

@[simp] theorem encode_cons (c : Char) (t : Text) :
    encode (c :: t) = String.utf8EncodeChar c ++ encode t := rfl

@[simp] theorem encode_append (s t : Text) : encode (s ++ t) = encode s ++ encode t :=
  List.flatMap_append

@[simp] theorem length_encode (t : Text) : (encode t).length = Text.byteSize t := by
  induction t with
  | nil => rfl
  | cons c t ih => simp [ih]

theorem encode_eq_nil_iff {t : Text} : encode t = [] ↔ t = [] := by
  cases t with
  | nil => simp
  | cons c t => simp [String.utf8EncodeChar_ne_nil]

/-! ## Characters in bytes -/

theorem firstByte_of_utf8EncodeChar {c : Char} {b : UInt8} {y : Bytes}
    (h : String.utf8EncodeChar c = b :: y) : b.IsUTF8FirstByte := by
  have hfirst := UInt8.isUTF8FirstByte_getElem_zero_utf8EncodeChar (c := c)
  simpa [h] using hfirst

/-- No character begins inside another one. -/
theorem eq_nil_of_utf8EncodeChar {c : Char} {x y : Bytes} {b : UInt8}
    (h : String.utf8EncodeChar c = x ++ b :: y) (hb : b.IsUTF8FirstByte) : x = [] := by
  have hlt : x.length < (String.utf8EncodeChar c).length := by
    rw [h, List.length_append, List.length_cons]
    omega
  have hget : (String.utf8EncodeChar c)[x.length] = b := by simp [h]
  rw [← hget, UInt8.isUTF8FirstByte_getElem_utf8EncodeChar] at hb
  exact List.length_eq_zero_iff.1 hb

/-- Where a byte stands that begins a character, a character begins. -/
theorem eq_append_of_firstByte {t : Text} {x y : Bytes} {b : UInt8} (h : encode t = x ++ b :: y)
    (hb : b.IsUTF8FirstByte) : ∃ u v, t = u ++ v ∧ encode u = x ∧ encode v = b :: y := by
  induction t generalizing x with
  | nil => simp at h
  | cons c t ih =>
    by_cases hx : x = []
    · subst hx
      exact ⟨[], c :: t, rfl, rfl, h⟩
    · rw [encode_cons] at h
      rcases List.append_eq_append_iff.1 h with ⟨w, rfl, hw⟩ | ⟨w, hc, hw⟩
      · obtain ⟨u, v, rfl, hu, hv⟩ := ih hw
        exact ⟨c :: u, v, rfl, by rw [encode_cons, hu], hv⟩
      · cases w with
        | nil => exact ⟨[c], t, rfl, by simpa using hc, hw.symm⟩
        | cons b' w =>
          obtain ⟨rfl, -⟩ := List.cons.inj hw
          exact absurd (eq_nil_of_utf8EncodeChar hc hb) hx

theorem eq_append_of_encode {t u : Text} {y : Bytes} (h : encode t = encode u ++ y) :
    ∃ v, t = u ++ v ∧ encode v = y := by
  have hbytes : u.utf8Encode ++ y.toByteArray = t.utf8Encode := by
    rw [List.utf8Encode, List.utf8Encode, ← List.toByteArray_append]
    exact congrArg List.toByteArray h.symm
  obtain ⟨v, rfl⟩ := List.isPrefix_of_utf8Encode_append_eq_utf8Encode _ hbytes
  rw [encode_append, List.append_cancel_left_eq] at h
  exact ⟨v, rfl, h⟩

theorem encode_inj {s t : Text} : encode s = encode t ↔ s = t := by
  constructor
  · intro h
    obtain ⟨v, rfl, hv⟩ := eq_append_of_encode (u := t) (y := []) (by rw [h, List.append_nil])
    rw [encode_eq_nil_iff.1 hv, List.append_nil]
  · rintro rfl
    rfl

/-! ## Boundaries -/

/-- A place in the bytes of a text that no character goes across. -/
def IsBoundary (bytes : Bytes) (place : Nat) : Prop :=
  place = bytes.length ∨ ∃ b ∈ bytes[place]?, b.IsUTF8FirstByte

instance (bytes : Bytes) (place : Nat) : Decidable (IsBoundary bytes place) :=
  inferInstanceAs (Decidable (_ ∨ ∃ b ∈ bytes[place]?, b.IsUTF8FirstByte))

theorem isBoundary_iff {t : Text} {place : Nat} :
    IsBoundary (encode t) place ↔ ∃ u, u <+: t ∧ Text.byteSize u = place := by
  constructor
  · rintro (rfl | ⟨b, hb, hfirst⟩)
    · exact ⟨t, List.prefix_refl t, (length_encode t).symm⟩
    · obtain ⟨hlt, rfl⟩ := List.getElem?_eq_some_iff.1 hb
      have hcut : encode t =
          (encode t).take place ++ (encode t)[place] :: (encode t).drop (place + 1) := by
        rw [← List.drop_eq_getElem_cons hlt, List.take_append_drop]
      obtain ⟨u, v, rfl, hu, -⟩ := eq_append_of_firstByte hcut hfirst
      refine ⟨u, List.prefix_append u v, ?_⟩
      rw [← length_encode, hu, List.length_take]
      omega
  · rintro ⟨u, ⟨v, rfl⟩, rfl⟩
    cases v with
    | nil => exact .inl (by simp)
    | cons c v =>
      obtain ⟨b, y, hby⟩ := List.exists_cons_of_ne_nil (String.utf8EncodeChar_ne_nil (c := c))
      refine .inr ⟨b, ?_, firstByte_of_utf8EncodeChar hby⟩
      rw [encode_append, ← length_encode, List.getElem?_append_right (Nat.le_refl _), Nat.sub_self,
        encode_cons, hby]
      rfl

theorem isBoundary_of_eq {w u v : Text} {place : Nat} (h : w = u ++ v)
    (hplace : place = Text.byteSize u) : IsBoundary (encode w) place :=
  isBoundary_iff.2 ⟨u, ⟨v, h.symm⟩, hplace.symm⟩

theorem isBoundary_flatten {w : Text} {sent left : List Text} (h : w = (sent ++ left).flatten) :
    IsBoundary (encode w) (Text.byteSize sent.flatten) :=
  isBoundary_of_eq (h.trans List.flatten_append) rfl

/-! ## Characters of one byte -/

theorem encode_singleton {c : Char} (h : c.utf8Size = 1) : encode [c] = [c.toUInt8] := by
  rw [encode_cons, encode_nil, List.append_nil, String.utf8EncodeChar_eq_singleton h]
  rfl

theorem encode_cons_of_size_one {c : Char} (h : c.utf8Size = 1) (t : Text) :
    encode (c :: t) = c.toUInt8 :: encode t := by
  rw [← List.singleton_append, encode_append, encode_singleton h]
  rfl

theorem encode_eq_cons_iff {c : Char} (h : c.utf8Size = 1) {t : Text} {y : Bytes} :
    encode t = c.toUInt8 :: y ↔ ∃ v, t = c :: v ∧ encode v = y := by
  constructor
  · intro ht
    refine eq_append_of_encode (u := [c]) ?_
    rw [ht, encode_singleton h]
    rfl
  · rintro ⟨v, rfl, rfl⟩
    exact encode_cons_of_size_one h v

theorem encode_eq_append_iff {c : Char} (h : c.utf8Size = 1) {t : Text} {x y : Bytes} :
    encode t = x ++ c.toUInt8 :: y ↔ ∃ u v, t = u ++ c :: v ∧ encode u = x ∧ encode v = y := by
  constructor
  · intro ht
    have hfirst := firstByte_of_utf8EncodeChar (String.utf8EncodeChar_eq_singleton h)
    obtain ⟨u, w, rfl, hu, hw⟩ := eq_append_of_firstByte ht hfirst
    obtain ⟨v, rfl, hv⟩ := (encode_eq_cons_iff h).1 hw
    exact ⟨u, v, rfl, hu, hv⟩
  · rintro ⟨u, v, rfl, rfl, rfl⟩
    rw [encode_append, encode_cons_of_size_one h]

theorem toUInt8_mem_encode_iff {c : Char} (h : c.utf8Size = 1) {t : Text} :
    c.toUInt8 ∈ encode t ↔ c ∈ t := by
  constructor
  · intro hm
    obtain ⟨x, y, hxy⟩ := List.append_of_mem hm
    obtain ⟨u, v, rfl, -, -⟩ := (encode_eq_append_iff h).1 hxy
    simp
  · intro hm
    obtain ⟨u, v, rfl⟩ := List.append_of_mem hm
    rw [encode_append, encode_cons_of_size_one h]
    simp

theorem ne_of_mem_utf8EncodeChar {c d : Char} (hd : d.utf8Size = 1) (h : c ≠ d) {b : UInt8}
    (hb : b ∈ String.utf8EncodeChar c) : b ≠ d.toUInt8 := by
  rintro rfl
  have hmem : d.toUInt8 ∈ encode [c] := by simpa using hb
  rw [toUInt8_mem_encode_iff hd, List.mem_singleton] at hmem
  exact h hmem.symm

/-- Behind its first byte a character has no byte that is a character by itself. -/
theorem ne_of_mem_tail {c d : Char} (hd : d.utf8Size = 1) {b : UInt8}
    (hb : b ∈ (String.utf8EncodeChar c).tail) : b ≠ d.toUInt8 := by
  by_cases h : c = d
  · rw [h, String.utf8EncodeChar_eq_singleton hd] at hb
    cases hb
  · exact ne_of_mem_utf8EncodeChar hd h (List.mem_of_mem_tail hb)

theorem head?_encode_iff {c : Char} (h : c.utf8Size = 1) {t : Text} :
    (encode t).head? = some c.toUInt8 ↔ t.head? = some c := by
  rw [List.head?_eq_some_iff, List.head?_eq_some_iff]
  constructor
  · rintro ⟨y, hy⟩
    obtain ⟨v, rfl, -⟩ := (encode_eq_cons_iff h).1 hy
    exact ⟨v, rfl⟩
  · rintro ⟨v, rfl⟩
    exact ⟨_, encode_cons_of_size_one h v⟩

theorem getLast?_encode_iff {c : Char} (h : c.utf8Size = 1) {t : Text} :
    (encode t).getLast? = some c.toUInt8 ↔ t.getLast? = some c := by
  rw [List.getLast?_eq_some_iff, List.getLast?_eq_some_iff]
  constructor
  · rintro ⟨x, hx⟩
    obtain ⟨u, v, rfl, -, hv⟩ := (encode_eq_append_iff h).1 hx
    rw [encode_eq_nil_iff.1 hv]
    exact ⟨u, rfl⟩
  · rintro ⟨u, rfl⟩
    exact ⟨encode u, by rw [encode_append, encode_singleton h]⟩

end Utf8
end CitedReply
