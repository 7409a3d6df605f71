import CitedReply.Proofs.Link.Reading

/-!
# CitedReply.Proofs.Link.Writing

The link of a citation, written down and read back.

The writer and the reader are two programs. The writer puts a backslash before what would end the
link text early, but a line feed has no escape. It puts angle brackets around a target that would
end early without them; a target in angle brackets in turn ends at the first `>` or line feed, and
a bare one that starts with `<` is taken for one in angle brackets.

* `atHead?_link`: what is read at the head of a text that starts with the link of a citation.
* `link_recovered_iff`: the link is read back as it was written exactly if nothing of that is in the
  way.
-/

namespace CitedReply
namespace Link

open Citation (needsAngles)

/-! ## The target -/

theorem length_writtenTarget (angled : Bool) (href : Text) :
    (writtenTarget angled href).length = href.length + if angled then 2 else 0 := by
  cases angled <;> simp [writtenTarget]

theorem angledTarget?_iff {href r : Text} :
    angledTarget? (href ++ '>' :: ')' :: r) = some (href, r) ↔
      href ≠ [] ∧ '>' ∉ href ∧ '\n' ∉ href := by
  constructor
  · intro h
    simp only [angledTarget?] at h
    split at h
    · split at h
      · cases h
      · rename_i hne
        have htake := (Prod.mk.inj (Option.some.inj h)).1
        have hall : ∀ c ∈ href, c ≠ '>' ∧ c ≠ '\n' := by
          intro c hc
          rw [← htake] at hc
          simpa using List.mem_takeWhile_imp hc
        exact ⟨htake ▸ hne, fun hc => (hall _ hc).1 rfl, fun hc => (hall _ hc).2 rfl⟩
    · cases h
  · rintro ⟨hne, hgt, hfeed⟩
    have hall : ∀ c ∈ href, (decide (c ≠ '>' ∧ c ≠ '\n')) = true := by
      intro c hc
      refine decide_eq_true ⟨?_, ?_⟩
      · rintro rfl
        exact hgt hc
      · rintro rfl
        exact hfeed hc
    rw [angledTarget?]
    simp only [List.takeWhile_append_of_pos hall, List.dropWhile_append_of_pos hall]
    simp [hne]

theorem target?_angled_iff {href r : Text} :
    target? (writtenTarget true href ++ ')' :: r) = some (true, href, r) ↔
      href ≠ [] ∧ '>' ∉ href ∧ '\n' ∉ href := by
  have hangled : writtenTarget true href ++ ')' :: r = '<' :: (href ++ '>' :: ')' :: r) := by
    simp [writtenTarget]
  rw [← angledTarget?_iff (r := r), hangled, target?]
  simp

/-- The angle brackets, or their absence, let a reader come to the whole address. -/
def IsRecoverable (url : Text) : Prop :=
  (∃ x ∈ url, x = '(' ∨ x = ')' ∨ Text.isSpace x = true) ∧ '>' ∉ url ∧ '\n' ∉ url ∨
    (∀ x ∈ url, x ≠ '(' ∧ x ≠ ')' ∧ Text.isSpace x = false) ∧ url.head? ≠ some '<'

theorem target?_target_iff {url : Text} (hne : url ≠ []) (r : Text) :
    target? (Citation.target url ++ ')' :: r) = some (needsAngles url, url, r) ↔
      IsRecoverable url := by
  rw [IsRecoverable, ← Citation.needsAngles_iff, ← Citation.needsAngles_eq_false_iff]
  cases hn : needsAngles url with
  | true =>
    rw [Citation.target_eq, hn, target?_angled_iff]
    simp [hne]
  | false =>
    have hbare : Citation.target url ++ ')' :: r = url ++ ')' :: r := by
      rw [Citation.target, hn, if_neg (by decide)]
    have hiff : target? (url ++ ')' :: r) = some (false, url, r) ↔ url.head? ≠ some '<' := by
      constructor
      · intro hread
        exact (target?_bare_iff.1 hread).2.1
      · intro hhead
        exact target?_append (isBare_of_needsAngles hn hne hhead) r
    rw [hbare, hiff]
    simp

/-- What is read for the address that was written has the angle brackets that were written. -/
theorem angled_of_target? {url r : Text} {angled : Bool}
    (h : target? (Citation.target url ++ ')' :: r) = some (angled, url, r)) :
    angled = needsAngles url := by
  have hlen := congrArg List.length (List.append_cancel_right (eq_of_target? h))
  rw [Citation.target_eq, length_writtenTarget, length_writtenTarget] at hlen
  cases angled <;> cases hn : needsAngles url <;> simp [hn] at hlen ⊢

/-! ## The link -/

theorem atHead?_link {before : Option Char} (hb : before ≠ some '\\') (c : Citation)
    (after : Text) :
    atHead? before (c.link ++ after) =
      if '\n' ∈ c.label then none
      else (target? (Citation.target c.url ++ ')' :: after)).map fun s =>
        (⟨false, escape c.label, s.1, s.2.1⟩, s.2.2) := by
  have hlink : c.link ++ after =
      '[' :: (escape c.label ++ ']' :: '(' :: (Citation.target c.url ++ ')' :: after)) := by
    simp [Citation.link]
  rw [hlink, atHead?, if_neg hb, afterBracket?_escape]

theorem next?_nil_iff {before : Option Char} {t r : Text} {l : Link} :
    next? before t = some ([], l, r) ↔ atHead? before t = some (l, r) := by
  cases t with
  | nil => exact iff_of_false (by simp [next?]) (by simp [atHead?])
  | cons c t =>
    rw [next?]
    cases atHead? before (c :: t) with
    | some m => simp [Prod.ext_iff]
    | none => simp

/-- The link of a citation is read back, whatever follows it, exactly if its label stays on one line
and its address is recoverable. -/
theorem link_recovered_iff {c : Citation} (hne : c.url ≠ []) (after : Text) :
    (∃ l, next? none (c.link ++ after) = some ([], l, after) ∧ l.image = false ∧
        unescape l.label = c.label ∧ l.href = c.url) ↔
      '\n' ∉ c.label ∧ IsRecoverable c.url := by
  constructor
  · rintro ⟨l, hnext, -, -, hurl⟩
    rw [next?_nil_iff, atHead?_link (by simp)] at hnext
    split at hnext
    · cases hnext
    · rename_i hfeed
      obtain ⟨⟨angled, href, r⟩, hread, hl⟩ := Option.map_eq_some_iff.1 hnext
      obtain ⟨rfl, rfl⟩ := Prod.mk.inj hl
      obtain rfl : href = c.url := hurl
      rw [angled_of_target? hread] at hread
      exact ⟨hfeed, (target?_target_iff hne _).1 hread⟩
  · rintro ⟨hfeed, hurl⟩
    refine ⟨c.asLink, ?_, rfl, unescape_escape c.label, rfl⟩
    rw [next?_nil_iff, atHead?_link (by simp), if_neg hfeed, (target?_target_iff hne after).2 hurl]
    rfl

def bracketed : Citation :=
  ⟨"cite-1".toList, "Rust [2024]".toList, "https://x.com/Rust_(language)".toList, []⟩

/-- Brackets in the title, parentheses in the address, and another one behind the link. -/
theorem link_recovered_bracketed :
    bracketed.url ≠ [] ∧
      (∃ l, next? none (bracketed.link ++ "(see)".toList) = some ([], l, "(see)".toList) ∧
        l.image = false ∧ unescape l.label = bracketed.label ∧ l.href = bracketed.url) ∧
      bracketed.link = "[Rust \\[2024\\]](<https://x.com/Rust_(language)>)".toList := by
  have hne : bracketed.url ≠ [] := by decide
  have hfeed : '\n' ∉ bracketed.label := by decide
  have hurl : IsRecoverable bracketed.url :=
    .inl ⟨⟨'(', by decide, .inl rfl⟩, by decide, by decide⟩
  exact ⟨hne, (link_recovered_iff hne _).2 ⟨hfeed, hurl⟩, by decide⟩

end Link
end CitedReply
