import CitedReply.Proofs.Link.Readable
import CitedReply.Proofs.Text.Encoding

/-!
# CitedReply.Proofs.Link.Grammar

The grammar of links, in bytes.

All that makes a link is of one byte, and a backslash takes one byte along, which may be the first
of a wider character. The others of that character are plain link text, so a reader that takes the
whole character along comes to the same end (`labelBytes_encode_escaped_iff`). In a target without
angle brackets the parentheses are those of a balanced text (`balanced_iff`), for which a reader
counts them.

* `label?_iff`, `target?_iff`: link text and targets are read if they are those of the grammar.
* `isReadable_iff`: so a link is readable if its bytes are a link.
-/

namespace CitedReply
namespace Link

/-! ## Link text -/

/-- A byte that stands for itself in link text. -/
def IsLabelByte (b : UInt8) : Prop :=
  b ≠ '['.toUInt8 ∧ b ≠ ']'.toUInt8 ∧ b ≠ '\n'.toUInt8 ∧ b ≠ '\\'.toUInt8

/-- Link text. A backslash takes the next byte along, whatever it is. -/
inductive LabelBytes : Bytes → Prop where
  | nil : LabelBytes []
  | escaped (b : UInt8) {x : Bytes} : LabelBytes x → LabelBytes ('\\'.toUInt8 :: b :: x)
  | plain {b : UInt8} {x : Bytes} : IsLabelByte b → LabelBytes x → LabelBytes (b :: x)

theorem labelBytes_plain_iff {b : UInt8} (h : IsLabelByte b) {x : Bytes} :
    LabelBytes (b :: x) ↔ LabelBytes x := by
  constructor
  · intro hx
    cases hx with
    | escaped => exact absurd rfl h.2.2.2
    | plain _ hx => exact hx
  · exact .plain h

theorem labelBytes_append_iff {u x : Bytes} (h : ∀ b ∈ u, IsLabelByte b) :
    LabelBytes (u ++ x) ↔ LabelBytes x := by
  induction u with
  | nil => rfl
  | cons b u ih =>
    rw [List.cons_append, labelBytes_plain_iff (h b List.mem_cons_self)]
    exact ih fun d hd => h d (List.mem_cons_of_mem b hd)

theorem labelBytes_escaped_iff {b : UInt8} {x : Bytes} :
    LabelBytes ('\\'.toUInt8 :: b :: x) ↔ LabelBytes x := by
  constructor
  · intro hx
    cases hx with
    | escaped _ hx => exact hx
    | plain hb => exact absurd rfl hb.2.2.2
  · exact .escaped b

theorem not_labelBytes_cons {b : UInt8} (h : b = '['.toUInt8 ∨ b = ']'.toUInt8 ∨ b = '\n'.toUInt8)
    (x : Bytes) : ¬ LabelBytes (b :: x) := by
  intro hx
  cases hx with
  | escaped => rcases h with h | h | h <;> exact absurd h (by decide)
  | plain hb =>
    rcases h with h | h | h
    · exact hb.1 h
    · exact hb.2.1 h
    · exact hb.2.2.1 h

theorem not_labelBytes_backslash : ¬ LabelBytes ['\\'.toUInt8] := by
  intro hx
  cases hx with
  | plain hb => exact hb.2.2.2 rfl

theorem labelBytes_encode_cons_iff {c : Char}
    (h : c ≠ '[' ∧ c ≠ ']' ∧ c ≠ '\n' ∧ c ≠ '\\') (t : Text) :
    LabelBytes (Utf8.encode (c :: t)) ↔ LabelBytes (Utf8.encode t) := by
  refine labelBytes_append_iff fun b hb => ⟨?_, ?_, ?_, ?_⟩
  · exact Utf8.ne_of_mem_utf8EncodeChar (by decide) h.1 hb
  · exact Utf8.ne_of_mem_utf8EncodeChar (by decide) h.2.1 hb
  · exact Utf8.ne_of_mem_utf8EncodeChar (by decide) h.2.2.1 hb
  · exact Utf8.ne_of_mem_utf8EncodeChar (by decide) h.2.2.2 hb

/-- A backslash takes a whole character along, and be it only its first byte. -/
theorem labelBytes_encode_escaped_iff (c : Char) (t : Text) :
    LabelBytes (Utf8.encode ('\\' :: c :: t)) ↔ LabelBytes (Utf8.encode t) := by
  obtain ⟨b, y, hby⟩ := List.exists_cons_of_ne_nil (String.utf8EncodeChar_ne_nil (c := c))
  have htail : ∀ d ∈ y, IsLabelByte d := by
    intro d hd
    have hmem : d ∈ (String.utf8EncodeChar c).tail := by rwa [hby]
    exact ⟨Utf8.ne_of_mem_tail (by decide) hmem, Utf8.ne_of_mem_tail (by decide) hmem,
      Utf8.ne_of_mem_tail (by decide) hmem, Utf8.ne_of_mem_tail (by decide) hmem⟩
  rw [Utf8.encode_cons_of_size_one (by decide), Utf8.encode_cons, hby, List.cons_append,
    labelBytes_escaped_iff, labelBytes_append_iff htail]

theorem label?_iff {label r : Text} :
    label? (label ++ ']' :: r) = some (label, r) ↔ LabelBytes (Utf8.encode label) := by
  induction label using label?.induct with
  | case1 => exact iff_of_true rfl .nil
  | case2 c t ih =>
    rw [labelBytes_encode_escaped_iff, ← ih]
    simp [label?, Prod.ext_iff]
  | case3 t =>
    refine iff_of_false (by simp [label?]) ?_
    rw [Utf8.encode_cons_of_size_one (by decide)]
    exact not_labelBytes_cons (.inr (.inl rfl)) _
  | case4 c t hlast hc hstop =>
    rcases hstop with rfl | rfl | rfl
    · refine iff_of_false (by simp [label?]) ?_
      rw [Utf8.encode_cons_of_size_one (by decide)]
      exact not_labelBytes_cons (.inl rfl) _
    · refine iff_of_false (by simp [label?]) ?_
      rw [Utf8.encode_cons_of_size_one (by decide)]
      exact not_labelBytes_cons (.inr (.inr rfl)) _
    · cases t with
      | cons d t => exact (hlast d t rfl rfl).elim
      | nil => exact iff_of_false (by simp [label?]) not_labelBytes_backslash
  | case5 c t hlast hc hstop ih =>
    simp only [not_or] at hstop
    rw [labelBytes_encode_cons_iff ⟨hstop.1, hc, hstop.2.1, hstop.2.2⟩, ← ih]
    simp [label?, Prod.ext_iff, hc, hstop]

/-! ## Parentheses -/

/-- Each parenthesis is closed, and none is closed that was not opened. -/
inductive Balanced : Bytes → Prop where
  | nil : Balanced []
  | plain {b : UInt8} {x : Bytes} : b ≠ '('.toUInt8 → b ≠ ')'.toUInt8 → Balanced x →
      Balanced (b :: x)
  | nested {x y : Bytes} : Balanced x → Balanced y →
      Balanced ('('.toUInt8 :: (x ++ ')'.toUInt8 :: y))

/-- How many parentheses are open behind some bytes, if `depth` are open before them and none is
closed that is not open. -/
def openAfter? (depth : Nat) : Bytes → Option Nat
  | [] => some depth
  | b :: x =>
    if b = '('.toUInt8 then openAfter? (depth + 1) x
    else if b = ')'.toUInt8 then if depth = 0 then none else openAfter? (depth - 1) x
    else openAfter? depth x

theorem openAfter?_append_of_balanced {x : Bytes} (h : Balanced x) (depth : Nat) (y : Bytes) :
    openAfter? depth (x ++ y) = openAfter? depth y := by
  induction h generalizing depth y with
  | nil => rfl
  | plain hopen hclose _ ih => rw [List.cons_append, openAfter?, if_neg hopen, if_neg hclose, ih]
  | nested _ _ ihx ihy =>
    have hne : ')'.toUInt8 ≠ '('.toUInt8 := by decide
    rw [List.cons_append, List.append_assoc, openAfter?, if_pos rfl, ihx, List.cons_append,
      openAfter?, if_neg hne, if_pos rfl, if_neg (Nat.succ_ne_zero depth), ihy,
      Nat.add_sub_cancel]

/-- Balanced bytes, one row more than there are parentheses to be closed between them. -/
def ClosedBy : Nat → Bytes → Prop
  | 0, x => Balanced x
  | depth + 1, x => ∃ y z, x = y ++ ')'.toUInt8 :: z ∧ Balanced y ∧ ClosedBy depth z

theorem closedBy_append {u : Bytes} (hu : ∀ y, Balanced y → Balanced (u ++ y)) {depth : Nat}
    {x : Bytes} (h : ClosedBy depth x) : ClosedBy depth (u ++ x) := by
  cases depth with
  | zero => exact hu x h
  | succ depth =>
    obtain ⟨y, z, rfl, hy, hz⟩ := h
    exact ⟨u ++ y, z, by rw [List.append_assoc], hu y hy, hz⟩

theorem closedBy_of_openAfter? {depth : Nat} {x : Bytes} (h : openAfter? depth x = some 0) :
    ClosedBy depth x := by
  induction x generalizing depth with
  | nil =>
    obtain rfl : depth = 0 := Option.some.inj h
    exact .nil
  | cons b x ih =>
    rw [openAfter?] at h
    split at h
    · rename_i hb
      obtain ⟨y, z, rfl, hy, hz⟩ := ih h
      have hgroup : b :: (y ++ ')'.toUInt8 :: z) = ('('.toUInt8 :: (y ++ [')'.toUInt8])) ++ z := by
        rw [hb]
        simp
      rw [hgroup]
      refine closedBy_append (fun w hw => ?_) hz
      simpa using Balanced.nested hy hw
    · split at h
      · rename_i hb
        split at h
        · cases h
        · rename_i hdepth
          obtain ⟨depth, rfl⟩ := Nat.exists_eq_succ_of_ne_zero hdepth
          exact ⟨[], x, by rw [hb]; rfl, .nil, ih h⟩
      · rename_i hopen hclose
        exact closedBy_append (u := [b]) (fun w hw => .plain hopen hclose hw) (ih h)

theorem balanced_iff {x : Bytes} : Balanced x ↔ openAfter? 0 x = some 0 := by
  constructor
  · intro h
    have := openAfter?_append_of_balanced h 0 []
    rwa [List.append_nil] at this
  · exact closedBy_of_openAfter?

/-! ## Targets -/

def IsSpaceByte (b : UInt8) : Prop := b ∈ [' ', '\t', '\n', '\x0c', '\r'].map Char.toUInt8

/-- The address in a target. In angle brackets it goes on to the first `>`, without them to a
parenthesis that closes none of its own. -/
inductive TargetBytes : Bool → Bytes → Prop where
  | angled {x : Bytes} : x ≠ [] → '>'.toUInt8 ∉ x → '\n'.toUInt8 ∉ x → TargetBytes true x
  | bare {x : Bytes} : x ≠ [] → x.head? ≠ some '<'.toUInt8 → (∀ b ∈ x, ¬ IsSpaceByte b) →
      Balanced x → TargetBytes false x

theorem isAsciiSpace_iff {c : Char} :
    isAsciiSpace c = true ↔ c ∈ [' ', '\t', '\n', '\x0c', '\r'] := by
  simp [isAsciiSpace, or_assoc]

theorem isSpaceByte_iff {b : UInt8} :
    IsSpaceByte b ↔ ∃ c : Char, isAsciiSpace c = true ∧ c.toUInt8 = b := by
  simp only [IsSpaceByte, List.mem_map, isAsciiSpace_iff]

theorem utf8Size_of_isAsciiSpace {c : Char} (h : isAsciiSpace c = true) : c.utf8Size = 1 := by
  have hmem := isAsciiSpace_iff.1 h
  simp only [List.mem_cons, List.not_mem_nil, or_false] at hmem
  rcases hmem with rfl | rfl | rfl | rfl | rfl <;> decide

theorem noSpaceByte_iff {t : Text} :
    (∀ b ∈ Utf8.encode t, ¬ IsSpaceByte b) ↔ ∀ c ∈ t, isAsciiSpace c = false := by
  constructor
  · intro h c hc
    rw [← Bool.not_eq_true]
    intro hspace
    have hmem := (Utf8.toUInt8_mem_encode_iff (utf8Size_of_isAsciiSpace hspace)).2 hc
    exact h _ hmem (isSpaceByte_iff.2 ⟨c, hspace, rfl⟩)
  · intro h b hb hspace
    obtain ⟨c, hc, rfl⟩ := isSpaceByte_iff.1 hspace
    rw [Utf8.toUInt8_mem_encode_iff (utf8Size_of_isAsciiSpace hc)] at hb
    rw [h c hb] at hc
    cases hc

theorem openAfter?_append {u : Bytes} (hu : ∀ b ∈ u, b ≠ '('.toUInt8 ∧ b ≠ ')'.toUInt8)
    (depth : Nat) (x : Bytes) : openAfter? depth (u ++ x) = openAfter? depth x := by
  induction u with
  | nil => rfl
  | cons b u ih =>
    obtain ⟨hopen, hclose⟩ := hu b List.mem_cons_self
    rw [List.cons_append, openAfter?, if_neg hopen, if_neg hclose]
    exact ih fun d hd => hu d (List.mem_cons_of_mem b hd)

theorem openAfter?_encode_cons (depth : Nat) (c : Char) (t : Text) :
    openAfter? depth (Utf8.encode (c :: t)) =
      if c = '(' then openAfter? (depth + 1) (Utf8.encode t)
      else if c = ')' then if depth = 0 then none else openAfter? (depth - 1) (Utf8.encode t)
      else openAfter? depth (Utf8.encode t) := by
  by_cases hopen : c = '('
  · rw [if_pos hopen, hopen, Utf8.encode_cons_of_size_one (by decide), openAfter?, if_pos rfl]
  · by_cases hclose : c = ')'
    · rw [if_neg hopen, if_pos hclose, hclose, Utf8.encode_cons_of_size_one (by decide), openAfter?,
        if_neg (by decide), if_pos rfl]
    · rw [if_neg hopen, if_neg hclose]
      refine openAfter?_append (fun b hb => ⟨?_, ?_⟩) depth _
      · exact Utf8.ne_of_mem_utf8EncodeChar (by decide) hopen hb
      · exact Utf8.ne_of_mem_utf8EncodeChar (by decide) hclose hb

theorem bareTarget?_iff {depth : Nat} {href r : Text} :
    bareTarget? depth (href ++ ')' :: r) = some (href, r) ↔
      (∀ c ∈ href, isAsciiSpace c = false) ∧ openAfter? depth (Utf8.encode href) = some 0 := by
  induction href generalizing depth with
  | nil =>
    by_cases hdepth : depth = 0
    · simp [bareTarget?, openAfter?, hdepth]
    · simp [bareTarget?, openAfter?, hdepth, Prod.ext_iff, show isAsciiSpace ')' = false by decide]
  | cons c href ih =>
    rw [List.cons_append, bareTarget?, openAfter?_encode_cons, List.forall_mem_cons]
    by_cases hend : c = ')' ∧ depth = 0
    · obtain ⟨rfl, rfl⟩ := hend
      simp
    · rw [if_neg hend]
      cases hspace : isAsciiSpace c with
      | true => simp
      | false =>
        have hcons : ∀ o : Option (Text × Text),
            (o.map fun s => (c :: s.1, s.2)) = some (c :: href, r) ↔ o = some (href, r) := by
          simp [Prod.ext_iff]
        rw [if_neg Bool.false_ne_true, hcons, ih, and_iff_right rfl]
        refine and_congr_right fun _ => ?_
        by_cases hopen : c = '('
        · rw [if_pos hopen, if_pos hopen]
        · rw [if_neg hopen, if_neg hopen]
          by_cases hclose : c = ')'
          · rw [if_pos hclose, if_pos hclose, if_neg fun hdepth => hend ⟨hclose, hdepth⟩]
          · rw [if_neg hclose, if_neg hclose]

theorem target?_iff {angled : Bool} {href r : Text} :
    target? (writtenTarget angled href ++ ')' :: r) = some (angled, href, r) ↔
      TargetBytes angled (Utf8.encode href) := by
  cases angled with
  | true =>
    rw [target?_angled_iff, ← Utf8.toUInt8_mem_encode_iff (c := '>') (by decide),
      ← Utf8.toUInt8_mem_encode_iff (c := '\n') (by decide), ne_eq, ← Utf8.encode_eq_nil_iff]
    constructor
    · rintro ⟨hne, hgt, hfeed⟩
      exact .angled hne hgt hfeed
    · intro h
      cases h with
      | angled hne hgt hfeed => exact ⟨hne, hgt, hfeed⟩
  | false =>
    have hbare : writtenTarget false href = href := rfl
    rw [hbare, target?_bare_iff, bareTarget?_iff, ← balanced_iff, ← noSpaceByte_iff, ne_eq, ne_eq,
      ← Utf8.encode_eq_nil_iff, ← Utf8.head?_encode_iff (c := '<') (by decide)]
    constructor
    · rintro ⟨hne, hhead, hspace, hbalanced⟩
      exact .bare hne hhead hspace hbalanced
    · intro h
      cases h with
      | bare hne hhead hspace hbalanced => exact ⟨hne, hhead, hspace, hbalanced⟩

theorem isReadable_iff {l : Link} :
    l.IsReadable ↔
      LabelBytes (Utf8.encode l.label) ∧ TargetBytes l.angled (Utf8.encode l.href) := by
  rw [← label?_iff (r := []), ← target?_iff (r := [])]
  exact ⟨fun h => ⟨h.label, h.target⟩, fun h => ⟨h.1, h.2⟩⟩

end Link
end CitedReply
