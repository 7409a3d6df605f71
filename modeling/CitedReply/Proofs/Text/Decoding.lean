import CitedReply.Proofs.Text.Encoding

/-!
# CitedReply.Proofs.Text.Decoding

What is written in UTF-8 is read back.

The first byte of a character says how many follow and bounds the next of them, the others bring six
bits each. In what is written the bounds are kept, since no character is written longer than it has
to be and none is a surrogate.

* `lead?_of_two`, `lead?_of_three`, `lead?_of_four`: where the reader stands behind a first byte.
* `step_inside`: what it makes of a byte that goes on with a character.
* `decodeLossy_encode`: so nothing is replaced.
-/

namespace CitedReply
namespace Utf8

/-! ## The bytes of a character -/

theorem toNat_ofNat_of_lt {n : Nat} (h : n < 256) : (UInt8.ofNat n).toNat = n := by
  rw [UInt8.toNat_ofNat']
  exact Nat.mod_eq_of_lt h

theorem lead?_ofNat {n : Nat} (h : n < 256) :
    lead? (.ofNat n) =
      if 194 ≤ n ∧ n ≤ 223 then some (.inside 1 0x80 0xBF (n % 32))
      else if n = 224 then some (.inside 2 0xA0 0xBF 0)
      else if n = 237 then some (.inside 2 0x80 0x9F 13)
      else if 225 ≤ n ∧ n ≤ 239 then some (.inside 2 0x80 0xBF (n % 16))
      else if n = 240 then some (.inside 3 0x90 0xBF 0)
      else if 241 ≤ n ∧ n ≤ 243 then some (.inside 3 0x80 0xBF (n % 8))
      else if n = 244 then some (.inside 3 0x80 0x8F 4)
      else none := by
  simp only [lead?, UInt8.le_iff_toNat_le, ← UInt8.toNat_inj, toNat_ofNat_of_lt h,
    UInt8.reduceToNat]

theorem start_of_lt {n : Nat} (h : n < 128) (read : Text) :
    start read (.ofNat n) = (Char.ofNat n :: read, .between) := by
  have hn : (UInt8.ofNat n).toNat = n := toNat_ofNat_of_lt (by omega)
  rw [start, if_pos (UInt8.lt_iff_toNat_lt.2 (by rw [hn]; exact h)), hn]

theorem start_of_lead {n : Nat} (hlow : 128 ≤ n) (hhigh : n < 256) {place : Place}
    (h : lead? (.ofNat n) = some place) (read : Text) : start read (.ofNat n) = (read, place) := by
  have hn : ¬ UInt8.ofNat n < 0x80 := by
    rw [UInt8.lt_iff_toNat_lt, toNat_ofNat_of_lt hhigh]
    exact Nat.not_lt.2 hlow
  rw [start, if_neg hn, h]

/-- Six bits of a character, in a byte that may come next. -/
structure Continues (lo hi : UInt8) (bits : Nat) : Prop where
  low : lo.toNat ≤ bits + 128
  high : bits + 128 ≤ hi.toNat
  lt : bits < 64

theorem continues_of_lt {bits : Nat} (h : bits < 64) : Continues 0x80 0xBF bits :=
  ⟨Nat.le_add_left 128 bits, show bits + 128 ≤ 191 by omega, h⟩

theorem step_inside {lo hi : UInt8} {bits : Nat} (h : Continues lo hi bits) (left value : Nat)
    (read : Text) :
    step (read, .inside left lo hi value) (.ofNat (bits + 128)) =
      if left ≤ 1 then (Char.ofNat (64 * value + bits) :: read, .between)
      else (read, .inside (left - 1) 0x80 0xBF (64 * value + bits)) := by
  obtain ⟨hlow, hhigh, hlt⟩ := h
  have hb : (UInt8.ofNat (bits + 128)).toNat = bits + 128 := toNat_ofNat_of_lt (by omega)
  have hbits : (bits + 128) % 64 = bits := by omega
  have hbetween : lo ≤ .ofNat (bits + 128) ∧ .ofNat (bits + 128) ≤ hi := by
    rw [UInt8.le_iff_toNat_le, UInt8.le_iff_toNat_le, hb]
    exact ⟨hlow, hhigh⟩
  rw [step, if_pos hbetween, hb, hbits]

theorem lead?_of_two {v : Nat} (hlow : 127 < v) (hhigh : v ≤ 2047) :
    lead? (.ofNat (v / 64 % 32 + 192)) = some (.inside 1 0x80 0xBF (v / 64)) := by
  rw [lead?_ofNat (by omega), if_pos (by omega), show (v / 64 % 32 + 192) % 32 = v / 64 by omega]

/-- The bounds of the second byte keep out what has a shorter form, and surrogates. -/
theorem lead?_of_three {v : Nat} (hlow : 2047 < v) (hhigh : v ≤ 65535)
    (hscalar : v < 55296 ∨ 57343 < v) :
    ∃ lo hi, lead? (.ofNat (v / 4096 % 16 + 224)) = some (.inside 2 lo hi (v / 4096)) ∧
      Continues lo hi (v / 64 % 64) := by
  rw [lead?_ofNat (by omega), if_neg (by omega)]
  by_cases hfirst : v / 4096 = 0
  · rw [if_pos (by omega), hfirst]
    exact ⟨_, _, rfl, show 160 ≤ _ by omega, show _ ≤ 191 by omega, by omega⟩
  · rw [if_neg (by omega)]
    by_cases hsurrogate : v / 4096 = 13
    · rw [if_pos (by omega), hsurrogate]
      exact ⟨_, _, rfl, show 128 ≤ _ by omega, show _ ≤ 159 by omega, by omega⟩
    · have hvalue : (v / 4096 % 16 + 224) % 16 = v / 4096 := by omega
      rw [if_neg (by omega), if_pos (by omega), hvalue]
      exact ⟨_, _, rfl, continues_of_lt (by omega)⟩

/-- The bounds of the second byte keep out what has a shorter form, and what is no character. -/
theorem lead?_of_four {v : Nat} (hlow : 65535 < v) (hhigh : v < 1114112) :
    ∃ lo hi, lead? (.ofNat (v / 262144 % 8 + 240)) = some (.inside 3 lo hi (v / 262144)) ∧
      Continues lo hi (v / 4096 % 64) := by
  rw [lead?_ofNat (by omega), if_neg (by omega), if_neg (by omega), if_neg (by omega),
    if_neg (by omega)]
  by_cases hfirst : v / 262144 = 0
  · rw [if_pos (by omega), hfirst]
    exact ⟨_, _, rfl, show 144 ≤ _ by omega, show _ ≤ 191 by omega, by omega⟩
  · rw [if_neg (by omega)]
    by_cases hlast : v / 262144 = 4
    · rw [if_neg (by omega), if_pos (by omega), hlast]
      exact ⟨_, _, rfl, show 128 ≤ _ by omega, show _ ≤ 143 by omega, by omega⟩
    · have hvalue : (v / 262144 % 8 + 240) % 8 = v / 262144 := by omega
      rw [if_pos (by omega), hvalue]
      exact ⟨_, _, rfl, continues_of_lt (by omega)⟩

/-! ## Texts -/

/-- The cases are those of the width of the character. -/
theorem foldl_utf8EncodeChar (read : Text) (c : Char) :
    (String.utf8EncodeChar c).foldl step (read, .between) = (c :: read, .between) := by
  have hscalar : c.toNat < 55296 ∨ 57343 < c.toNat ∧ c.toNat < 1114112 := c.valid
  have hchar : ∀ n, n = c.toNat →
      (Char.ofNat n :: read, Place.between) = (c :: read, .between) := by
    rintro n rfl
    rw [Char.ofNat_toNat]
  have hv : c.val.toNat = c.toNat := rfl
  rw [String.utf8EncodeChar, hv]
  generalize c.toNat = v at *
  split
  · rename_i hone
    exact (start_of_lt (by omega) read).trans (hchar v rfl)
  · rename_i hone
    split
    · rename_i htwo
      have hlead := lead?_of_two (by omega) htwo
      have h := continues_of_lt (show v % 64 < 64 by omega)
      rw [List.foldl_cons, step, start_of_lead (by omega) (by omega) hlead, List.foldl_cons,
        step_inside h, if_pos (Nat.le_refl 1)]
      exact hchar _ (by omega)
    · rename_i htwo
      have hlast := continues_of_lt (show v % 64 < 64 by omega)
      split
      · rename_i hthree
        obtain ⟨lo, hi, hlead, hsecond⟩ := lead?_of_three (by omega) hthree (by omega)
        rw [List.foldl_cons, step, start_of_lead (by omega) (by omega) hlead, List.foldl_cons,
          step_inside hsecond, if_neg (by omega), List.foldl_cons, step_inside hlast,
          if_pos (Nat.le_refl 1)]
        exact hchar _ (by omega)
      · rename_i hthree
        obtain ⟨lo, hi, hlead, hsecond⟩ := lead?_of_four (Nat.not_le.1 hthree) (by omega)
        have hthird := continues_of_lt (show v / 64 % 64 < 64 by omega)
        rw [List.foldl_cons, step, start_of_lead (by omega) (by omega) hlead, List.foldl_cons,
          step_inside hsecond, if_neg (by omega), List.foldl_cons, step_inside hthird,
          if_neg (by omega), List.foldl_cons, step_inside hlast, if_pos (Nat.le_refl 1)]
        exact hchar _ (by omega)

theorem foldl_encode (read t : Text) :
    (encode t).foldl step (read, .between) = (t.reverse ++ read, .between) := by
  induction t generalizing read with
  | nil => rfl
  | cons c t ih =>
    rw [encode_cons, List.foldl_append, foldl_utf8EncodeChar, ih, List.reverse_cons,
      List.append_assoc, List.singleton_append]

/-- What is written is read back. -/
theorem decodeLossy_encode (t : Text) : decodeLossy (encode t) = t := by
  rw [decodeLossy, foldl_encode]
  simp

end Utf8
end CitedReply
