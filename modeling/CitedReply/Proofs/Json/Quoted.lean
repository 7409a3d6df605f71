import CitedReply.Json.Quoted

/-!
# CitedReply.Proofs.Json.Quoted

JSON strings: what is written is read back, unless it is cut, and what is read can be passed over.

* `unquote_quoted`: a text between quotes is read as the text it was.
* `unquote_of_cut`: the start of a string is not read, only the whole of it.
* `skipQuoted_of_unquote`: a string that is read is passed over to the same place.
-/

namespace CitedReply
namespace Json

/-! ## Passing over -/

/-- Where one stands in a string that is passed over when the reader stands at a place. -/
def Place.skip : Place → SkipPlace
  | .plain => .plain
  | .escape => .escape
  | .hex left _ _ => .hex left
  | .leadRead _ => .plain
  | .leadEscape _ => .escape

theorem skipQuotedFrom_of_unquoteFrom {read s t r : Text} {place : Place}
    (h : unquoteFrom read place t = .ok (s, r)) : skipQuotedFrom place.skip t = .ok r := by
  fun_induction unquoteFrom read place t <;> simp_all [skipQuotedFrom, Place.skip]
  -- a digit of an escape that is not its last
  rw [if_neg (Nat.not_le.2 ‹1 < _›)]
  assumption

theorem skipQuoted_of_unquote {s t r : Text} (h : unquote t = .ok (s, r)) : skipQuoted t = .ok r :=
  skipQuotedFrom_of_unquoteFrom h

theorem length_lt_of_skipQuotedFrom {t r : Text} {place : SkipPlace}
    (h : skipQuotedFrom place t = .ok r) : r.length < t.length := by
  fun_induction skipQuotedFrom place t <;> simp_all <;> omega

/-! ## Reading back -/

theorem unescape?_of_shortEscape? {c e : Char} (h : shortEscape? c = some e) :
    unescape? e = some c ∧ e ≠ 'u' := by
  unfold shortEscape? at h
  repeat' split at h
  all_goals
    cases h
    try (subst c; decide)

theorem ne_of_shortEscape? {c : Char} (h : shortEscape? c = none) : c ≠ '"' ∧ c ≠ '\\' := by
  constructor <;> (rintro rfl; cases h)

theorem unquoteFrom_hex (read : Text) {c : Char} (hc : c.toNat < 0x20) (r : Text) :
    unquoteFrom read (.hex 4 0 none)
        ('0' :: '0' :: Text.hexDigit (c.toNat / 16) :: Text.hexDigit (c.toNat % 16) :: r) =
      unquoteFrom (c :: read) .plain r := by
  have hhigh := Text.hexValue?_hexDigit (show c.toNat / 16 < 16 by omega)
  have hlow := Text.hexValue?_hexDigit (show c.toNat % 16 < 16 by omega)
  have hzero : Text.hexValue? '0' = some 0 := by decide
  have hn : 16 * (c.toNat / 16) + c.toNat % 16 = c.toNat := by omega
  have htrail : isTrail c.toNat = false := by
    simp only [isTrail, Bool.and_eq_false_imp, decide_eq_true_eq]
    omega
  have hlead : isLead c.toNat = false := by
    simp only [isLead, Bool.and_eq_false_imp, decide_eq_true_eq]
    omega
  simp [unquoteFrom, hzero, hhigh, hlow, hn, htrail, hlead, Char.ofNat_toNat]

theorem unquoteFrom_quoteChar (read : Text) (c : Char) (r : Text) :
    unquoteFrom read .plain (quoteChar c ++ r) = unquoteFrom (c :: read) .plain r := by
  unfold quoteChar
  cases h : shortEscape? c with
  | some e =>
    obtain ⟨he, hu⟩ := unescape?_of_shortEscape? h
    simp [unquoteFrom, he, hu]
  | none =>
    obtain ⟨hquote, hslash⟩ := ne_of_shortEscape? h
    by_cases hc : c.toNat < 0x20
    · have hhex : ¬ lacksHex
          ('0' :: '0' :: Text.hexDigit (c.toNat / 16) :: Text.hexDigit (c.toNat % 16) :: r) := by
        have h1 := Char.utf8Size_pos (Text.hexDigit (c.toNat / 16))
        have h2 := Char.utf8Size_pos (Text.hexDigit (c.toNat % 16))
        have h0 : Char.utf8Size '0' = 1 := by decide
        simp [lacksHex, h0]
        omega
      simp only [hc, if_true, List.cons_append, List.nil_append]
      rw [← unquoteFrom_hex read hc r]
      simp [unquoteFrom, hhex]
    · simp [unquoteFrom, hc, hquote, hslash]

theorem unquoteFrom_quoted (read s r : Text) :
    unquoteFrom read .plain (s.flatMap quoteChar ++ '"' :: r) = .ok (read.reverse ++ s, r) := by
  induction s generalizing read with
  | nil => simp [unquoteFrom]
  | cons c s ih =>
    rw [List.flatMap_cons, List.append_assoc, unquoteFrom_quoteChar, ih]
    simp

theorem unquote_quoted (s r : Text) : unquote (s.flatMap quoteChar ++ '"' :: r) = .ok (s, r) :=
  unquoteFrom_quoted [] s r

/-! ## What is written -/

theorem hexDigit_ne {n : Nat} (h : n < 16) : Text.hexDigit n ≠ '<' ∧ Text.hexDigit n ≠ '\n' := by
  have all : ∀ n < 16, Text.hexDigit n ≠ '<' ∧ Text.hexDigit n ≠ '\n' := by decide
  exact all n h

theorem shortEscape?_ne {c e : Char} (h : shortEscape? c = some e) : e ≠ '<' ∧ e ≠ '\n' := by
  unfold shortEscape? at h
  repeat' split at h
  all_goals
    cases h
    try decide

/-- A character is written as it is, or behind a backslash, where neither an angle bracket nor a
line feed is written. -/
theorem quoteChar_cases (c : Char) :
    (quoteChar c = [c] ∧ c ≠ '\n') ∨ ∃ u, quoteChar c = '\\' :: u ∧ '<' ∉ u ∧ '\n' ∉ u := by
  unfold quoteChar
  cases h : shortEscape? c with
  | some e =>
    obtain ⟨h1, h2⟩ := shortEscape?_ne h
    exact .inr ⟨[e], rfl, by simpa using h1.symm, by simpa using h2.symm⟩
  | none =>
    by_cases hc : c.toNat < 0x20
    · obtain ⟨h1, h2⟩ := hexDigit_ne (show c.toNat / 16 < 16 by omega)
      obtain ⟨h3, h4⟩ := hexDigit_ne (show c.toNat % 16 < 16 by omega)
      refine .inr ⟨['u', '0', '0', Text.hexDigit (c.toNat / 16), Text.hexDigit (c.toNat % 16)],
        by simp only [hc, if_true], ?_, ?_⟩
      · simp [h1.symm, h3.symm]
      · simp [h2.symm, h4.symm]
    · refine .inl ⟨by simp only [hc, if_false], ?_⟩
      rintro rfl
      exact hc (by decide)

theorem newline_not_mem_quoted (s : Text) : '\n' ∉ s.flatMap quoteChar := by
  intro hm
  obtain ⟨c, _, hc⟩ := List.mem_flatMap.1 hm
  rcases quoteChar_cases c with ⟨hq, hne⟩ | ⟨u, hq, _, hu⟩
  · rw [hq, List.mem_singleton] at hc
    exact hne hc.symm
  · rw [hq, List.mem_cons] at hc
    rcases hc with hc | hc
    · exact absurd hc (by decide)
    · exact hu hc

/-! ## Cut strings -/

theorem lacksHex_append {t : Text} (h : ¬ lacksHex t = true) (x : Text) :
    ¬ lacksHex (t ++ x) = true := by
  simp only [lacksHex, decide_eq_true_eq, Nat.not_lt] at h ⊢
  rw [List.take_append, Text.byteSize_append]
  omega

theorem unquoteFrom_append {read s t r : Text} {place : Place}
    (h : unquoteFrom read place t = .ok (s, r)) (x : Text) :
    unquoteFrom read place (t ++ x) = .ok (s, r ++ x) := by
  fun_induction unquoteFrom read place t
  case case16 hd n hmore ih =>
    -- a digit of an escape that is not its last
    rw [List.cons_append, unquoteFrom, hd]
    simp only [if_neg hmore]
    exact ih h
  all_goals simp_all +zetaDelta [unquoteFrom, lacksHex_append]

/-- Reading the start of a string either fails or has seen all of it. -/
theorem unquote_of_cut {s t rest : Text} (h : t <+: s.flatMap quoteChar ++ '"' :: rest) :
    (∃ f, unquote t = .error f) ∨ ∃ r, t = s.flatMap quoteChar ++ '"' :: r ∧ r <+: rest := by
  cases hu : unquote t with
  | error f => exact .inl ⟨f, rfl⟩
  | ok m =>
    obtain ⟨s', r⟩ := m
    obtain ⟨x, hx⟩ := h
    have hread := unquoteFrom_append hu x
    rw [hx] at hread
    have hwhole := unquote_quoted s rest
    rw [unquote, hread] at hwhole
    cases hwhole
    refine .inr ⟨r, ?_, List.prefix_append r x⟩
    have hx' : t ++ x = (s.flatMap quoteChar ++ '"' :: r) ++ x := by simpa using hx
    exact List.append_cancel_right hx'

end Json
end CitedReply
