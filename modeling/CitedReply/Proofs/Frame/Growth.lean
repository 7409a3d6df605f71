import CitedReply.Frame.Basic
import CitedReply.Proofs.Citation.Block

/-!
# CitedReply.Proofs.Frame.Growth

What a growing reply shows is never taken back, and is never part of a tag or a marker.

A tag and a marker have one opening character each, the first. So what is held back is the end from
the last such character on, if that end is `Open`: if it can still grow into the piece. `Held` says
this of both in the same words.

* `Held.isPrefix`: of a text that has grown more is kept.
* `Held.starts_behind`: a piece that the growth completes starts behind what is kept.
* `showing_stable`: both for the reply as it is shown.
-/

namespace CitedReply

namespace HoldBack

variable {c : Char} {Open : Text → Prop} {t k : Text}

/-- `Held c Open t k`: from the last `c` of `t` on an end is taken off if it is `Open`, and `k` is
what is kept. -/
inductive Held (c : Char) (Open : Text → Prop) : Text → Text → Prop
  | cut {u w : Text} : c ∉ w → Open (c :: w) → Held c Open (u ++ c :: w) u
  | whole {t : Text} : (∀ u w, t = u ++ c :: w → c ∉ w → ¬ Open (c :: w)) → Held c Open t t

theorem Held.prefix_kept (h : Held c Open t k) : k <+: t := by
  cases h with
  | cut _ _ => exact List.prefix_append _ _
  | whole _ => exact List.prefix_refl _

/-- Where a text ends in something open, that is what is taken off. -/
theorem Held.eq_of_open {u w : Text} (h : Held c Open (u ++ c :: w) k) (hw : c ∉ w)
    (ho : Open (c :: w)) : k = u := by
  generalize ht : u ++ c :: w = t at h
  cases h with
  | cut hw' _ => exact (Text.eq_of_last hw hw' ht).1.symm
  | whole hn => exact absurd ho (hn u w ht.symm hw)

theorem Held.isPrefix {s k' : Text} (hopen : ∀ x y, Open (c :: x ++ y) → Open (c :: x))
    (h : Held c Open t k) (h' : Held c Open (t ++ s) k') : k <+: k' := by
  have hk := h.prefix_kept
  generalize ht : t ++ s = t' at h'
  cases h' with
  | whole _ => exact ht ▸ hk.trans (List.prefix_append t s)
  | @cut u w hw ho =>
    rcases List.append_eq_append_iff.1 ht with ⟨x, rfl, _⟩ | ⟨x, rfl, hx⟩
    · exact hk.trans (List.prefix_append t x)
    · cases x with
      | nil => rwa [List.append_nil] at hk
      | cons y x =>
        -- the end that is open began before the growth, and was open then
        obtain ⟨rfl, rfl⟩ := List.cons.inj hx
        have hx' : c ∉ x := fun hm => hw (List.mem_append_left _ hm)
        obtain rfl := h.eq_of_open hx' (hopen x s ho)
        exact List.prefix_refl _

/-- A piece that begins with `c`, has no other and is open as long as it is not complete: in a text
that has grown it was there before, or it starts behind what was kept. -/
theorem Held.starts_behind {z a b s : Text} (h : Held c Open t k) (hz : c ∉ z)
    (hopen : ∀ x y, z = x ++ y → y ≠ [] → Open (c :: x)) (he : t ++ s = a ++ c :: z ++ b) :
    (∃ b', t = a ++ c :: z ++ b' ∧ b = b' ++ s) ∨ k <+: a := by
  have hk := h.prefix_kept
  rcases List.append_eq_append_iff.1 he with ⟨x, hx, hs⟩ | ⟨x, hx, hb⟩
  · rcases List.append_eq_append_iff.1 hx with ⟨y, rfl, hy⟩ | ⟨y, rfl, _⟩
    · cases y with
      | nil => exact .inr (by rwa [List.append_nil] at hk)
      | cons d y =>
        obtain ⟨rfl, rfl⟩ := List.cons.inj hy
        by_cases hx0 : x = []
        · subst hx0
          exact .inl ⟨[], by simp, by simpa using hs.symm⟩
        · have hy' : c ∉ y := fun hm => hz (List.mem_append_left _ hm)
          rw [h.eq_of_open hy' (hopen y x rfl hx0)]
          exact .inr (List.prefix_refl _)
    · exact .inr (hk.trans (List.prefix_append _ _))
  · exact .inl ⟨x, hx, hb⟩

/-! ## Tags and markers -/

/-- The start of an opening tag, without its end. -/
def IsPartialTag (t : Text) : Prop := t <+: Block.openTag ∧ t.length < Block.openTag.length

theorem IsPartialTag.of_append {x y : Text} (h : IsPartialTag (x ++ y)) : IsPartialTag x := by
  obtain ⟨hp, hl⟩ := h
  rw [List.length_append] at hl
  exact ⟨(List.prefix_append x y).trans hp, by omega⟩

theorem isPartialTag_of_openTag {x y : Text} (h : Block.openTag.tail = x ++ y) (hy : y ≠ []) :
    IsPartialTag ('<' :: x) := by
  have htag : Block.openTag = '<' :: x ++ y := by
    rw [List.cons_append, ← h]
    rfl
  have := List.length_pos_iff.2 hy
  refine ⟨⟨y, htag.symm⟩, ?_⟩
  rw [htag, List.length_append]
  omega

theorem held_withoutTag (t : Text) : Held '<' IsPartialTag t (withoutTag t) := by
  simp only [withoutTag]
  have hlengths : ∀ n, n ∈ (List.range Block.openTag.length).reverse.filter (0 < ·) ↔
      0 < n ∧ n < Block.openTag.length := by
    intro n
    simp [and_comm]
  have htake : ∀ n, Block.openTag.take (n + 1) = '<' :: Block.openTag.tail.take n := fun _ => rfl
  cases hf : ((List.range Block.openTag.length).reverse.filter (0 < ·)).findSome? fun n =>
      Text.dropSuffix? (Block.openTag.take n) t with
  | some r =>
    obtain ⟨n, hn, hr⟩ := List.exists_of_findSome?_eq_some hf
    obtain ⟨hpos, hlt⟩ := (hlengths n).1 hn
    obtain ⟨m, rfl⟩ := Nat.exists_eq_succ_of_ne_zero hpos.ne'
    rw [Text.dropSuffix?_eq_some_iff] at hr
    have hno : '<' ∉ Block.openTag.tail.take m := fun hm =>
      absurd (List.mem_of_mem_take hm) (by decide)
    have hopen : IsPartialTag ('<' :: Block.openTag.tail.take m) := by
      rw [← htake]
      exact ⟨List.take_prefix _ _, by rw [List.length_take]; omega⟩
    rw [hr, htake]
    exact .cut hno hopen
  | none =>
    refine .whole fun u w ht hw ho => ?_
    have hn := (hlengths (w.length + 1)).2 ⟨Nat.succ_pos _, ho.2⟩
    have hnone := List.findSome?_eq_none_iff.1 hf _ hn
    rw [← List.length_cons (a := '<'), ← List.prefix_iff_eq_take.1 ho.1, ht] at hnone
    have hsome := Text.dropSuffix?_eq_some_iff.2 (show u ++ '<' :: w = u ++ '<' :: w from rfl)
    rw [hsome] at hnone
    cases hnone

theorem isPartialMarker_iff {t : Text} :
    isPartialMarker t = true ↔
      ∃ digits : Text, (∀ d ∈ digits, d.isDigit = true) ∧ t <+: Marker.opener ++ digits := by
  have hstart : Text.startsWith t Marker.opener = true ↔ t <+: Marker.opener := by
    simp only [Text.startsWith, Option.isSome_iff_exists, Text.dropPrefix?_eq_some_iff]
    exact ⟨fun ⟨r, hr⟩ => ⟨r, hr.symm⟩, fun ⟨r, hr⟩ => ⟨r, hr.symm⟩⟩
  rw [isPartialMarker, Bool.or_eq_true, hstart]
  constructor
  · rintro (h | h)
    · exact ⟨[], by simp, by simpa using h⟩
    · obtain ⟨r, hr, hd⟩ := (Option.any_eq_true _ _).1 h
      rw [Text.dropPrefix?_eq_some_iff.1 hr]
      exact ⟨r, List.all_eq_true.1 hd, List.prefix_refl _⟩
  · rintro ⟨digits, hd, hp⟩
    rcases List.prefix_or_prefix_of_prefix hp (List.prefix_append _ _) with h | ⟨r, rfl⟩
    · exact .inl h
    · have hr : r <+: digits := (List.prefix_append_right_inj _).1 hp
      refine .inr ?_
      rw [Text.dropPrefix?_append, Option.any_some, List.all_eq_true]
      exact fun d hm => hd d (hr.subset hm)

theorem isPartialMarker_of_append {x y : Text} (h : isPartialMarker (x ++ y) = true) :
    isPartialMarker x = true := by
  obtain ⟨digits, hd, hp⟩ := isPartialMarker_iff.1 h
  exact isPartialMarker_iff.2 ⟨digits, hd, (List.prefix_append x y).trans hp⟩

theorem isPartialMarker_of_written {digits x y : Text} (hd : Marker.IsNumber digits)
    (h : Marker.idStart ++ digits ++ [']'] = x ++ y) (hy : y ≠ []) :
    isPartialMarker ('[' :: x) = true := by
  refine isPartialMarker_iff.2 ⟨digits, hd.2, ?_⟩
  rw [← List.dropLast_concat_getLast hy, ← List.append_assoc] at h
  have hx := (List.append_inj' h rfl).1
  refine ⟨y.dropLast, ?_⟩
  rw [List.cons_append, ← hx]
  rfl

theorem held_withoutMarker (t : Text) :
    Held '[' (isPartialMarker · = true) t (withoutMarker t) := by
  unfold withoutMarker atLastBracket?
  cases hp : Text.throughLast? '[' t with
  | none =>
    refine .whole fun u w ht _ _ => Text.throughLast?_eq_none hp ?_
    rw [ht]
    simp
  | some p =>
    obtain ⟨u, v, rfl, rfl, hv⟩ := Text.throughLast?_eq_some hp
    have htail : (u ++ '[' :: v).drop ((u ++ ['[']).length - 1) = '[' :: v := by simp
    simp only [Option.map_some, List.dropLast_concat, htail]
    split
    · rename_i ho
      exact .cut hv ho
    · rename_i hn
      refine .whole fun u' w ht hw ho => hn ?_
      rw [(Text.eq_of_last hv hw ht).2]
      exact ho

/-! ## What is held back -/

theorem prefix_withoutTag (t : Text) : withoutTag t <+: t := (held_withoutTag t).prefix_kept

theorem prefix_withoutMarker (t : Text) : withoutMarker t <+: t := (held_withoutMarker t).prefix_kept

theorem prefix_holdBack (t : Text) : holdBack t <+: t :=
  (Text.prefix_trimEnd _).trans ((prefix_withoutMarker _).trans (prefix_withoutTag t))

theorem isPrefix_holdBack {s t : Text} (h : s <+: t) : holdBack s <+: holdBack t := by
  obtain ⟨x, rfl⟩ := h
  obtain ⟨y, hy⟩ := (held_withoutTag s).isPrefix (fun _ _ => IsPartialTag.of_append)
    (held_withoutTag (s ++ x))
  have hmarker := (held_withoutMarker (withoutTag s)).isPrefix
    (fun _ _ => isPartialMarker_of_append) (held_withoutMarker (withoutTag s ++ y))
  rw [hy] at hmarker
  exact Text.isPrefix_trimEnd hmarker

/-- A tag that the growth of a text without tags completes starts behind what is shown of it. -/
theorem holdBack_prefix_of_tag {t s a b : Text} (ht : ¬ Block.openTag <:+: t)
    (h : t ++ s = a ++ Block.openTag ++ b) : holdBack t <+: a := by
  rcases (held_withoutTag t).starts_behind (z := Block.openTag.tail) (by decide)
      (fun _ _ => isPartialTag_of_openTag) h with ⟨b', hb', _⟩ | hk
  · exact absurd ⟨a, b', hb'.symm⟩ ht
  · exact (Text.prefix_trimEnd _).trans ((prefix_withoutMarker _).trans hk)

/-- So does a marker that the growth of a text without markers completes. -/
theorem holdBack_prefix_of_marker {t s a digits b : Text} (ht : Marker.ids t = [])
    (hd : Marker.IsNumber digits) (hb : b.head? ≠ some '(')
    (h : t ++ s = a ++ Marker.written digits ++ b) : holdBack t <+: a := by
  obtain ⟨p, hp⟩ := prefix_withoutTag t
  rw [← hp, List.append_assoc] at h
  have hbracket : '[' ∉ Marker.idStart ++ digits ++ [']'] := Marker.bracket_not_mem_written hd
  rcases (held_withoutMarker (withoutTag t)).starts_behind hbracket
      (fun _ _ => isPartialMarker_of_written hd) h with ⟨b', hb', hrest⟩ | hk
  · have hhead : (b' ++ p).head? ≠ some '(' := by
      intro hc
      rw [← List.append_assoc] at hrest
      rw [hrest, List.head?_append, hc] at hb
      exact hb rfl
    have hmem := Marker.idOf_mem_ids hd hhead a
    have hwhole : a ++ Marker.written digits ++ (b' ++ p) = t := by
      rw [← List.append_assoc, Marker.written_eq, ← hb', hp]
    rw [hwhole, ht] at hmem
    cases hmem
  · exact (Text.prefix_trimEnd _).trans hk

end HoldBack

/-! ## The reply as it is shown -/

namespace Frame

/-- What is shown of a reply while it grows, before its links are annotated. -/
def showing (raw : Text) : Text := shown (Reading.ofText raw).clean true

/-- A reply that may be shown while it grows has neither tags nor markers yet. -/
theorem of_not_applies {raw : Text}
    (h : Suppression.applies raw (Reading.ofText raw).clean true = false) :
    ¬ Block.openTag <:+: raw ∧ Marker.ids raw = [] := by
  simp only [Suppression.applies, Suppression.isUnresolved, Bool.true_and, Bool.or_eq_false_iff,
    Bool.not_eq_false', List.isEmpty_iff] at h
  obtain ⟨hids, hblock⟩ := h
  have hopen : ¬ Block.openTag <:+: raw := by
    rw [← Text.cut?_eq_none_iff]
    simpa [Suppression.hasBlock, Text.contains] using hblock
  rw [Reading.ofText_of_no_open hopen, Marker.ids_trim] at hids
  exact ⟨hopen, hids⟩

theorem clean_of_not_applies {raw : Text}
    (h : Suppression.applies raw (Reading.ofText raw).clean true = false) :
    (Reading.ofText raw).clean = Text.trim raw := by
  rw [Reading.ofText_of_no_open (of_not_applies h).1]

theorem showing_of_not_applies {raw : Text}
    (h : Suppression.applies raw (Reading.ofText raw).clean true = false) :
    showing raw = HoldBack.holdBack (Text.trim raw) := by
  rw [showing, clean_of_not_applies h]
  rfl

/-- Nothing that is shown of a growing reply is part of a tag or a marker, now or once it has grown
by `s`, and if it may still be shown then, what was shown stays and is text that has been read. -/
theorem showing_stable {raw : Text}
    (h : Suppression.applies raw (Reading.ofText raw).clean true = false) (s : Text) :
    showing raw <+: Text.trimStart raw ∧
      (∀ a b, Text.trimStart (raw ++ s) = a ++ Block.openTag ++ b →
        Text.byteSize (showing raw) ≤ Text.byteSize a) ∧
      (∀ m ∈ Marker.find (Text.trimStart (raw ++ s)), Text.byteSize (showing raw) ≤ m.start) ∧
      (Suppression.applies (raw ++ s) (Reading.ofText (raw ++ s)).clean true = false →
        showing raw <+: showing (raw ++ s) ∧ showing raw <+: (Reading.ofText (raw ++ s)).clean) := by
  obtain ⟨hopen, hids⟩ := of_not_applies h
  rw [showing_of_not_applies h]
  have hkept := HoldBack.prefix_holdBack (Text.trim raw)
  have hread : Text.trim raw <+: Text.trimStart raw := Text.prefix_trimEnd _
  have hgrown : Text.trim raw <+: Text.trimStart (raw ++ s) :=
    hread.trans (Text.isPrefix_trimStart (List.prefix_append raw s))
  have hopen' : ¬ Block.openTag <:+: Text.trim raw := fun ho => hopen (ho.trans (Text.trim_infix raw))
  have hids' : Marker.ids (Text.trim raw) = [] := by rw [Marker.ids_trim, hids]
  obtain ⟨s', hs'⟩ := hgrown
  refine ⟨hkept.trans hread, ?_, ?_, ?_⟩
  · intro a b hab
    rw [← hs'] at hab
    exact Text.byteSize_le_of_prefix (HoldBack.holdBack_prefix_of_tag hopen' hab)
  · intro m hm
    obtain ⟨a, digits, b, hab, hd, hb, rfl⟩ := Marker.eq_of_mem_find hm
    rw [← hs'] at hab
    exact Text.byteSize_le_of_prefix (HoldBack.holdBack_prefix_of_marker hids' hd hb hab)
  · intro h'
    have hclean : Text.trim raw <+: Text.trim (raw ++ s) :=
      Text.isPrefix_trim (List.prefix_append raw s)
    rw [showing_of_not_applies h', clean_of_not_applies h']
    exact ⟨HoldBack.isPrefix_holdBack hclean, hkept.trans hclean⟩

/-- It ends in what may become a tag, and before that in what may become a marker. -/
def tornAnswer : Text := "  So [cite-1<cit".toList

def tornAnswerGrown : Text := tornAnswer ++ "e> [1](https://a.com) <".toList

/-- Both are held back and turn out to be neither. -/
theorem showing_stable_behind_partial_marker :
    Suppression.applies tornAnswer (Reading.ofText tornAnswer).clean true = false ∧
      Suppression.applies tornAnswerGrown (Reading.ofText tornAnswerGrown).clean true = false ∧
      showing tornAnswer = "So".toList ∧
      showing tornAnswerGrown = "So [cite-1<cite> [1](https://a.com)".toList ∧
      showing tornAnswer <+: showing tornAnswerGrown := by
  have h : Suppression.applies tornAnswer (Reading.ofText tornAnswer).clean true = false := by
    decide +kernel
  have h' :
      Suppression.applies tornAnswerGrown (Reading.ofText tornAnswerGrown).clean true = false := by
    decide +kernel
  have hstable := (showing_stable h "e> [1](https://a.com) <".toList).2.2.2 h'
  exact ⟨h, h', by decide +kernel, by decide +kernel, hstable.1⟩

end Frame
end CitedReply
