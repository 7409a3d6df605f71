import CitedReply.Proofs.Link.Grammar

/-!
# CitedReply.Proofs.Link.Leftmost

The next link, told from the bytes of a text alone.

A link of the grammar may stand in the bytes of a text (`StandsIn`); at each bracket there is at
most one (`StandsIn.unique`). Its brackets and parentheses are characters of the text, so the text
has the same link (`standsIn_iff`). The reader finds the leftmost of those whose bracket it has not
passed.

* `next?_leftmost`: from the start of a text, or from behind a link, the reader finds the leftmost
  link of the grammar, if there is one.
-/

namespace CitedReply
namespace Link

/-! ## Links in bytes -/

/-- A link in some bytes: what comes before its bracket, its parts, and what follows it. -/
structure Standing where
  before : Bytes
  label : Bytes
  angled : Bool
  href : Bytes
  after : Bytes

namespace Standing

def target (s : Standing) : Bytes :=
  if s.angled then '<'.toUInt8 :: (s.href ++ ['>'.toUInt8]) else s.href

def bytes (s : Standing) : Bytes :=
  s.before ++ '['.toUInt8 ::
    (s.label ++ ']'.toUInt8 :: '('.toUInt8 :: (s.target ++ ')'.toUInt8 :: s.after))

/-- There is no backslash directly before the bracket, and the parts are those of the grammar. -/
structure Legal (s : Standing) : Prop where
  before : s.before.getLast? ≠ some '\\'.toUInt8
  label : LabelBytes s.label
  target : TargetBytes s.angled s.href

end Standing

/-- The bytes have the link, with its bracket at `start` or behind. -/
structure StandsIn (bytes : Bytes) (start : Nat) (s : Standing) : Prop where
  bytes_eq : s.bytes = bytes
  behind : start ≤ s.before.length
  legal : s.Legal

structure IsLeftmost (bytes : Bytes) (start : Nat) (s : Standing) : Prop where
  stands : StandsIn bytes start s
  first : ∀ s', StandsIn bytes start s' → s.before.length ≤ s'.before.length

/-- Where a link stands, its text and its address, in bytes. -/
structure Span where
  start : Nat
  label : Nat × Nat
  href : Nat × Nat
  stop : Nat
  image : Bool
  deriving DecidableEq

def Span.places (p : Span) : List Nat :=
  [p.start, p.label.1, p.label.2, p.href.1, p.href.2, p.stop]

/-- The parts of a link one after the other, from its bracket on. An image starts a byte before. -/
def spanAt (bracket label href : Nat) (angled image : Bool) : Span :=
  let close := bracket + 1 + label
  let address := close + 2 + if angled then 1 else 0
  { start := if image then bracket - 1 else bracket
    label := (bracket + 1, close)
    href := (address, address + href)
    stop := address + href + if angled then 2 else 1
    image }

/-- An exclamation mark that was not passed makes an image. -/
def Standing.span (start : Nat) (s : Standing) : Span :=
  spanAt s.before.length s.label.length s.href.length s.angled
    (start < s.before.length ∧ s.before.getLast? = some '!'.toUInt8)

/-! ## Links in bytes of a text -/

def standing (u : Text) (l : Link) (r : Text) : Standing :=
  ⟨Utf8.encode u, Utf8.encode l.label, l.angled, Utf8.encode l.href, Utf8.encode r⟩

theorem encode_writtenTarget (angled : Bool) (href : Text) :
    Utf8.encode (writtenTarget angled href) =
      if angled then '<'.toUInt8 :: (Utf8.encode href ++ ['>'.toUInt8]) else Utf8.encode href := by
  cases angled with
  | true =>
    have hangled : writtenTarget true href = '<' :: (href ++ ['>']) := rfl
    rw [hangled, Utf8.encode_cons_of_size_one (by decide), Utf8.encode_append,
      Utf8.encode_singleton (by decide), if_pos rfl]
  | false => rfl

theorem bytes_standing {l : Link} (h : l.image = false) (u r : Text) :
    (standing u l r).bytes = Utf8.encode (u ++ (l.text ++ r)) := by
  have htext : l.text ++ r =
      '[' :: (l.label ++ ']' :: '(' :: (writtenTarget l.angled l.href ++ ')' :: r)) := by
    simp [text, h]
  have htarget : (standing u l r).target = Utf8.encode (writtenTarget l.angled l.href) :=
    (encode_writtenTarget l.angled l.href).symm
  rw [Standing.bytes, htarget, htext, Utf8.encode_append, Utf8.encode_cons_of_size_one (by decide),
    Utf8.encode_append, Utf8.encode_cons_of_size_one (by decide),
    Utf8.encode_cons_of_size_one (by decide), Utf8.encode_append,
    Utf8.encode_cons_of_size_one (by decide)]
  rfl

/-- What closes a target closes it in the text as well. -/
theorem exists_of_target {t : Text} {angled : Bool} {x y : Bytes}
    (h : Utf8.encode t =
      (if angled then '<'.toUInt8 :: (x ++ ['>'.toUInt8]) else x) ++ ')'.toUInt8 :: y) :
    ∃ href r, t = writtenTarget angled href ++ ')' :: r ∧ Utf8.encode href = x ∧
      Utf8.encode r = y := by
  obtain ⟨target, r, rfl, htarget, hr⟩ := (Utf8.encode_eq_append_iff (by decide)).1 h
  cases angled with
  | false => exact ⟨target, r, rfl, htarget, hr⟩
  | true =>
    rw [if_pos rfl] at htarget
    obtain ⟨v, rfl, hv⟩ := (Utf8.encode_eq_cons_iff (by decide)).1 htarget
    obtain ⟨href, w, rfl, hhref, hw⟩ := (Utf8.encode_eq_append_iff (by decide)).1 hv
    rw [Utf8.encode_eq_nil_iff.1 hw]
    exact ⟨href, r, by simp [writtenTarget], hhref, hr⟩

theorem span_standing (start : Nat) (u : Text) (l : Link) (r : Text) :
    (standing u l r).span start = spanAt (Text.byteSize u) (Text.byteSize l.label)
      (Text.byteSize l.href) l.angled (start < Text.byteSize u ∧ u.getLast? = some '!') := by
  have hmark := Utf8.getLast?_encode_iff (show Char.utf8Size '!' = 1 by decide) (t := u)
  simp only [Standing.span, standing, Utf8.length_encode, hmark]

theorem exists_of_bytes {w : Text} {s : Standing} (h : s.bytes = Utf8.encode w) :
    ∃ u l r, w = u ++ (l.text ++ r) ∧ l.image = false ∧ s = standing u l r := by
  obtain ⟨u, v, rfl, hu, hv⟩ := (Utf8.encode_eq_append_iff (by decide)).1 h.symm
  obtain ⟨label, x, rfl, hlabel, hx⟩ := (Utf8.encode_eq_append_iff (by decide)).1 hv
  obtain ⟨y, rfl, hy⟩ := (Utf8.encode_eq_cons_iff (by decide)).1 hx
  obtain ⟨href, r, rfl, hhref, hr⟩ := exists_of_target hy
  refine ⟨u, ⟨false, label, s.angled, href⟩, r, by simp [text], rfl, ?_⟩
  rw [standing, hu, hlabel, hhref, hr]

theorem legal_standing_iff {u r : Text} {l : Link} :
    (standing u l r).Legal ↔ u.getLast? ≠ some '\\' ∧ l.IsReadable := by
  rw [isReadable_iff, ne_eq, ← Utf8.getLast?_encode_iff (by decide)]
  exact ⟨fun h => ⟨h.before, h.label, h.target⟩, fun h => ⟨h.1, h.2.1, h.2.2⟩⟩

theorem standsIn_iff {pre t : Text} {s : Standing} :
    StandsIn (Utf8.encode (pre ++ t)) (Text.byteSize pre) s ↔
      ∃ u l r, t = u ++ (l.text ++ r) ∧ l.image = false ∧ l.IsReadable ∧
        (pre ++ u).getLast? ≠ some '\\' ∧ s = standing (pre ++ u) l r := by
  constructor
  · rintro ⟨hbytes, hbehind, hlegal⟩
    obtain ⟨u, l, r, hw, himage, rfl⟩ := exists_of_bytes hbytes
    obtain ⟨hbefore, hl⟩ := legal_standing_iff.1 hlegal
    have hle : Text.byteSize pre ≤ Text.byteSize u := by
      rw [← Utf8.length_encode u]
      exact hbehind
    obtain ⟨v, rfl⟩ := Text.prefix_of_byteSize_le (List.prefix_append pre t) ⟨_, hw.symm⟩ hle
    rw [List.append_assoc, List.append_cancel_left_eq] at hw
    exact ⟨v, l, r, hw, himage, hl, hbefore, rfl⟩
  · rintro ⟨u, l, r, rfl, himage, hl, hbefore, rfl⟩
    refine ⟨?_, ?_, legal_standing_iff.2 ⟨hbefore, hl⟩⟩
    · rw [bytes_standing himage, List.append_assoc]
    · rw [standing, Utf8.length_encode, Text.byteSize_append]
      exact Nat.le_add_right _ _

/-- At each bracket there is at most one link. -/
theorem StandsIn.unique {pre t : Text} {s s' : Standing}
    (h : StandsIn (Utf8.encode (pre ++ t)) (Text.byteSize pre) s)
    (h' : StandsIn (Utf8.encode (pre ++ t)) (Text.byteSize pre) s')
    (hlen : s.before.length = s'.before.length) : s = s' := by
  obtain ⟨u, l, r, ht, himage, hl, -, rfl⟩ := standsIn_iff.1 h
  obtain ⟨u', l', r', ht', himage', hl', -, rfl⟩ := standsIn_iff.1 h'
  have hsize : Text.byteSize u = Text.byteSize u' := by
    simpa [standing] using hlen
  obtain rfl : u = u' := Text.eq_of_byteSize_eq ⟨_, ht.symm⟩ ⟨_, ht'.symm⟩ hsize
  rw [ht, List.append_cancel_left_eq] at ht'
  have hread : atHead? none (l.text ++ r) = some (l, r) :=
    atHead?_eq_some_iff.2 ⟨rfl, hl, .inr (by simp)⟩
  have hread' : atHead? none (l.text ++ r) = some (l', r') :=
    atHead?_eq_some_iff.2 ⟨ht', hl', .inr (by simp)⟩
  rw [hread] at hread'
  cases hread'
  rfl

/-! ## The leftmost link -/

/-- What makes an image of a link. -/
def mark (l : Link) : Text := if l.image then ['!'] else []

/-- The link by itself, of which an image is made. -/
def unmarked (l : Link) : Link := { l with image := false }

theorem text_eq_unmarked (l : Link) : l.text = l.mark ++ l.unmarked.text := by
  cases himage : l.image <;> simp [text, mark, unmarked, himage]

theorem isReadable_unmarked_iff {l : Link} : l.unmarked.IsReadable ↔ l.IsReadable := by
  rw [isReadable_iff, isReadable_iff]
  rfl

/-- A link that can be read is found, unless another one is whose bracket is before its own. -/
theorem next?_of_isReadable {u r : Text} {l : Link} (himage : l.image = false) (hl : l.IsReadable)
    (hu : u.getLast? ≠ some '\\') :
    ∃ gap l' r', next? none (u ++ (l.text ++ r)) = some (gap, l', r') ∧ gap ++ l'.mark <+: u := by
  have hread : atHead? (u.getLast?.or none) (l.text ++ r) = some (l, r) := by
    rw [Option.or_none]
    exact atHead?_eq_some_iff.2 ⟨rfl, hl, .inr hu⟩
  obtain ⟨gap, l', r', hnext, ⟨rfl, rfl, rfl⟩ | hlt⟩ := next?_of_readable hread
  · exact ⟨gap, l', r', hnext, by simp [mark, himage]⟩
  · refine ⟨gap, l', r', hnext, ?_⟩
    have hstart : gap ++ l'.mark <+: u ++ (l.text ++ r) := by
      rw [eq_of_next? hnext, text_eq_unmarked]
      exact ⟨l'.unmarked.text ++ r', by simp⟩
    refine List.prefix_of_prefix_length_le hstart (List.prefix_append u _) ?_
    have hmark : l'.mark.length ≤ 1 := by
      unfold mark
      split <;> simp
    rw [List.length_append]
    omega

/-- The mark of an image is not passed over. -/
theorem image_iff_of_next? {t gap r : Text} {l : Link} (h : next? none t = some (gap, l, r)) :
    l.image = true ↔ (gap ++ l.mark).getLast? = some '!' := by
  cases himage : l.image with
  | true => simp [mark, himage]
  | false =>
    refine iff_of_false Bool.false_ne_true fun hlast => ?_
    have hgap : gap ++ l.mark = gap := by simp [mark, himage]
    rw [hgap, List.getLast?_eq_some_iff] at hlast
    obtain ⟨g, rfl⟩ := hlast
    obtain ⟨ht, hl, -⟩ := atHead?_eq_some_iff.1 (atHead?_of_next? h)
    -- with the mark the link would be an image, and it would be found before its bracket
    have hmarked : (Link.mk true l.label l.angled l.href).text = '!' :: l.text := by
      simp [text, himage]
    have hread : atHead? (g.getLast?.or none) ('!' :: l.text ++ r) =
        some (⟨true, l.label, l.angled, l.href⟩, r) := by
      rw [← hmarked]
      exact atHead?_eq_some_iff.2 ⟨rfl, ⟨hl.label, hl.target⟩, .inl rfl⟩
    obtain ⟨gap', l', r', hnext, hplace⟩ := next?_of_readable hread
    have ht' : t = g ++ ('!' :: l.text ++ r) := by
      rw [eq_of_next? h]
      simp
    rw [← ht', h] at hnext
    cases hnext
    have hlen : (g ++ ['!']).length = g.length + 1 := List.length_append
    rcases hplace with ⟨heq, -, -⟩ | hlt
    · rw [heq] at hlen
      omega
    · omega

/-- Where a reader may begin: at the start of a text, or right behind a link. -/
def IsStart (pre : Text) : Prop := pre = [] ∨ ∃ (u : Text) (l : Link), pre = u ++ l.text

theorem getLast?_text (l : Link) : l.text.getLast? = some ')' := by
  rw [text_eq_opened, ← List.append_assoc, List.getLast?_concat]

theorem IsStart.getLast?_append {pre : Text} (h : IsStart pre) {u : Text} :
    (pre ++ u).getLast? = some '\\' ↔ u.getLast? = some '\\' := by
  have hpre : pre.getLast? ≠ some '\\' := by
    rcases h with rfl | ⟨v, l, rfl⟩
    · simp
    · simp [List.getLast?_append, getLast?_text]
  rw [List.getLast?_append]
  cases hu : u.getLast? with
  | none => simpa using hpre
  | some c => simp

/-- What the reader says of a link it finds, with `start` bytes behind it when it began. -/
def spanOf (start : Nat) (gap : Text) (l : Link) : Span :=
  spanAt (start + Text.byteSize (gap ++ l.mark)) (Text.byteSize l.label) (Text.byteSize l.href)
    l.angled l.image

/-- What the reader answers for `t`, with `pre` behind it when it begins: the leftmost link of the
grammar in the bytes of the whole, with its places, or nothing if there is none. -/
structure ReadsLeftmost (pre t : Text) : Prop where
  found : ∀ gap l r, next? none t = some (gap, l, r) →
    ∃ s, IsLeftmost (Utf8.encode (pre ++ t)) (Text.byteSize pre) s ∧
      s.label = Utf8.encode l.label ∧ s.href = Utf8.encode l.href ∧
      spanOf (Text.byteSize pre) gap l = s.span (Text.byteSize pre) ∧
      ∀ place ∈ (s.span (Text.byteSize pre)).places,
        Utf8.IsBoundary (Utf8.encode (pre ++ t)) place
  none_iff : next? none t = none ↔
    ∀ s, ¬ StandsIn (Utf8.encode (pre ++ t)) (Text.byteSize pre) s
  unique : ∀ s s', StandsIn (Utf8.encode (pre ++ t)) (Text.byteSize pre) s →
    StandsIn (Utf8.encode (pre ++ t)) (Text.byteSize pre) s' →
    s.before.length = s'.before.length → s = s'

section Leftmost

variable {pre t gap r : Text} {l : Link}

/-- What is found is a link of the grammar, once the mark of an image is taken off. -/
theorem standsIn_of_next? (h : IsStart pre) (hnext : next? none t = some (gap, l, r)) :
    StandsIn (Utf8.encode (pre ++ t)) (Text.byteSize pre)
      (standing (pre ++ (gap ++ l.mark)) l.unmarked r) := by
  obtain ⟨-, hl, hb⟩ := atHead?_eq_some_iff.1 (atHead?_of_next? hnext)
  refine standsIn_iff.2
    ⟨gap ++ l.mark, l.unmarked, r, ?_, rfl, isReadable_unmarked_iff.2 hl, ?_, rfl⟩
  · rw [eq_of_next? hnext, text_eq_unmarked]
    simp
  · rw [ne_eq, h.getLast?_append]
    intro hlast
    cases himage : l.image with
    | true =>
      rw [(image_iff_of_next? hnext).1 himage] at hlast
      cases hlast
    | false =>
      have hgap : (gap.getLast?.or none) ≠ some '\\' := hb.resolve_left (by simp [himage])
      rw [Option.or_none] at hgap
      simp [mark, himage, hgap] at hlast

theorem isLeftmost_of_next? (h : IsStart pre) (hnext : next? none t = some (gap, l, r)) :
    IsLeftmost (Utf8.encode (pre ++ t)) (Text.byteSize pre)
      (standing (pre ++ (gap ++ l.mark)) l.unmarked r) := by
  refine ⟨standsIn_of_next? h hnext, ?_⟩
  intro s' hs'
  obtain ⟨u, l', r', rfl, himage, hl', hu, rfl⟩ := standsIn_iff.1 hs'
  obtain ⟨gap', l'', r'', hnext', hstart⟩ :=
    next?_of_isReadable himage hl' (mt h.getLast?_append.2 hu)
  rw [hnext] at hnext'
  cases hnext'
  simp only [standing, Utf8.length_encode]
  exact Text.byteSize_le_of_prefix ((List.prefix_append_right_inj pre).2 hstart)

theorem unpassed_mark_iff {pre u : Text} :
    Text.byteSize pre < Text.byteSize (pre ++ u) ∧ (pre ++ u).getLast? = some '!' ↔
      u.getLast? = some '!' := by
  rw [Text.byteSize_append, List.getLast?_append]
  cases hlast : u.getLast? with
  | none =>
    rw [List.getLast?_eq_none_iff.1 hlast]
    simp
  | some c =>
    have hne : Text.byteSize u ≠ 0 := by
      intro hzero
      rw [Text.byteSize_eq_zero_iff.1 hzero] at hlast
      cases hlast
    rw [Option.some_or, and_iff_right (by omega)]

theorem span_of_next? (hnext : next? none t = some (gap, l, r)) :
    spanOf (Text.byteSize pre) gap l =
      (standing (pre ++ (gap ++ l.mark)) l.unmarked r).span (Text.byteSize pre) := by
  have himage : l.image = decide (Text.byteSize pre < Text.byteSize (pre ++ (gap ++ l.mark)) ∧
      (pre ++ (gap ++ l.mark)).getLast? = some '!') := by
    rw [Bool.eq_iff_iff, decide_eq_true_iff, unpassed_mark_iff, image_iff_of_next? hnext]
  rw [spanOf, span_standing, ← himage, ← Text.byteSize_append]
  rfl

end Leftmost

/-- The signs between a text and its address and behind that, and how many bytes they have. -/
theorem exists_signs (angled : Bool) (href : Text) :
    ∃ opening closing : Text,
      ']' :: '(' :: (writtenTarget angled href ++ [')']) = opening ++ href ++ closing ∧
      Text.byteSize opening = (2 + if angled then 1 else 0) ∧
      Text.byteSize closing = if angled then 2 else 1 := by
  cases angled with
  | true =>
    exact ⟨[']', '(', '<'], ['>', ')'], by simp [writtenTarget], by decide, by decide⟩
  | false => exact ⟨[']', '('], [')'], rfl, by decide, by decide⟩

/-- The places of a link are those between its parts. -/
theorem isBoundary_places {u r : Text} {l : Link} (himage : l.image = false) {start place : Nat}
    (h : place ∈ ((standing u l r).span start).places) :
    Utf8.IsBoundary (Utf8.encode (u ++ (l.text ++ r))) place := by
  obtain ⟨opening, closing, hsigns, hopening, hclosing⟩ := exists_signs l.angled l.href
  obtain ⟨parts, hparts⟩ : ∃ parts, parts = [u, ['['], l.label, opening, l.href, closing, r] :=
    ⟨_, rfl⟩
  have hflatten : u ++ (l.text ++ r) = parts.flatten := by
    have htext : l.text = '[' :: (l.label ++ (opening ++ l.href ++ closing)) := by
      rw [← hsigns]
      simp [text, himage]
    simp [hparts, htext]
  have hcut : ∀ k, Utf8.IsBoundary (Utf8.encode (u ++ (l.text ++ r)))
      (Text.byteSize (parts.take k).flatten) := fun k =>
    Utf8.isBoundary_flatten (by rw [List.take_append_drop, hflatten])
  have hbracket : Char.utf8Size '[' = 1 := by decide
  rw [span_standing] at h
  simp only [spanAt, Span.places, List.mem_cons, List.not_mem_nil, or_false] at h
  rcases h with rfl | rfl | rfl | rfl | rfl | rfl
  · split
    · rename_i hmark
      obtain ⟨v, rfl⟩ := List.getLast?_eq_some_iff.1 (of_decide_eq_true hmark).2
      have hsize : Char.utf8Size '!' = 1 := by decide
      exact Utf8.isBoundary_of_eq (u := v) (v := '!' :: (l.text ++ r)) (by simp) (by simp [hsize])
    · exact Utf8.isBoundary_of_eq rfl rfl
  · simpa [hparts, hbracket] using hcut 2
  · simpa [hparts, hbracket, Nat.add_assoc] using hcut 3
  · simpa [hparts, hbracket, hopening, Nat.add_assoc] using hcut 4
  · simpa [hparts, hbracket, hopening, Nat.add_assoc] using hcut 5
  · simpa [hparts, hbracket, hopening, hclosing, Nat.add_assoc] using hcut 6

/-- Where the text has a link behind the start, the reader finds the leftmost one. -/
theorem next?_leftmost {pre : Text} (h : IsStart pre) (t : Text) : ReadsLeftmost pre t := by
  refine ⟨?_, ?_, ?_⟩
  · intro gap l r hnext
    refine ⟨_, isLeftmost_of_next? h hnext, rfl, rfl, span_of_next? hnext, ?_⟩
    intro place hplace
    have hw : pre ++ t = pre ++ (gap ++ l.mark) ++ (l.unmarked.text ++ r) := by
      rw [eq_of_next? hnext, text_eq_unmarked]
      simp
    rw [hw]
    exact isBoundary_places rfl hplace
  · constructor
    · intro hnone s hs
      obtain ⟨u, l, r, rfl, himage, hl, hu, -⟩ := standsIn_iff.1 hs
      obtain ⟨gap, l', r', hnext, -⟩ :=
        next?_of_isReadable himage hl (mt h.getLast?_append.2 hu)
      rw [hnone] at hnext
      cases hnext
    · intro hno
      cases hnext : next? none t with
      | none => rfl
      | some m => exact absurd (standsIn_of_next? h hnext) (hno _)
  · intro s s' hs hs'
    exact hs.unique hs'

/-- Behind a link the reader passes over a target with a space, and comes to the image in it. -/
theorem next?_leftmost_behind_link :
    IsStart "[a](b)".toList ∧ ReadsLeftmost "[a](b)".toList "[x](y ![\\é](<z>)".toList ∧
      (next? none "[x](y ![\\é](<z>)".toList).map (fun m => spanOf 6 m.1 m.2.1) =
        some ⟨12, (14, 17), (20, 21), 23, true⟩ :=
  have hstart : IsStart "[a](b)".toList :=
    .inr ⟨[], ⟨false, "a".toList, false, "b".toList⟩, by decide⟩
  ⟨hstart, next?_leftmost hstart _, by decide +kernel⟩

end Link
end CitedReply
