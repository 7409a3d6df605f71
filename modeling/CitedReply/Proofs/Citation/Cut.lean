import CitedReply.Citation.Block
import CitedReply.Proofs.Citation.Line

/-!
# CitedReply.Proofs.Citation.Cut

Citations as they are written, and lines that are cut.

A written citation holds no line feed, and a tag only if one of its fields does. The reader asks for
the closing brace, and every part of the object before it begins with a character that says what is
to come; so a line that is cut gives nothing.

* `unread_of_cut`: the start of the members of an object is not read.
* `ofLine?_of_cut`: the start of a written citation is no citation.
-/

namespace CitedReply
namespace Citation

/-! ## Members -/

/-- The members of an object up to the brace that ends it. -/
def writtenMembers : Field × Text → List (Field × Text) → Text
  | m, [] => encodeMember m.1 m.2 ++ ['}']
  | m, m' :: ms => encodeMember m.1 m.2 ++ ',' :: writtenMembers m' ms

theorem encode_eq_members (c : Citation) :
    encode c = '{' :: writtenMembers (.id, c.id)
      [(.title, c.title), (.url, c.url), (.snippet, c.snippet)] := by
  simp [encode, writtenMembers]

theorem writtenMembers_head (m : Field × Text) (ms : List (Field × Text)) :
    ∃ r, writtenMembers m ms = '"' :: r := by
  cases ms <;> exact ⟨_, rfl⟩

theorem encodeMember_append (f : Field) (v r : Text) :
    encodeMember f v ++ r =
      '"' :: (f.key.flatMap Json.quoteChar ++
        '"' :: ':' :: '"' :: (v.flatMap Json.quoteChar ++ '"' :: r)) := by
  simp [encodeMember, Json.quote]

/-- However many turns are taken, nothing is read. -/
def Unread (first : Bool) (draft : Draft (Option Text)) (t : Text) : Prop :=
  ∀ turns, ∃ f, members Json.text? turns first draft t = .error f

variable {draft : Draft (Option Text)}

theorem members_of_encodeMember {f : Field} (hd : draft.get f = none) (v r : Text) (turns : Nat) :
    members Json.text? (turns + 1) true draft (encodeMember f v ++ r) =
      members Json.text? turns false (draft.set f (some v)) r := by
  cases member_encodeMember f v r with
  | string hk hs hu =>
    obtain ⟨w, hw, hc⟩ := Json.nextKey_of_keyed hk
    simp [members, hw, Field.ofKey?_key, hd, hc, Json.text?_of_string hs hu]

theorem skipSpace_quote (t : Text) : Json.skipSpace ('"' :: t) = '"' :: t := rfl

/-- A member that is cut is not read: in its key, before or behind its colon, or in its value. -/
theorem unread_of_cut_member {f : Field} {v t rest : Text} (hd : draft.get f = none)
    (h : t <+: encodeMember f v ++ rest) :
    Unread true draft t ∨ ∃ r, t = encodeMember f v ++ r ∧ r <+: rest := by
  have fail : (∀ turns, ∃ e, members Json.text? (turns + 1) true draft t = .error e) →
      Unread true draft t := by
    intro hall turns
    cases turns with
    | zero => exact ⟨_, rfl⟩
    | succ turns => exact hall turns
  rw [encodeMember_append] at h
  rcases List.prefix_cons_iff.1 h with rfl | ⟨t₁, rfl, h₁⟩
  · exact .inl (fail fun _ => ⟨_, rfl⟩)
  rcases Json.unquote_of_cut h₁ with ⟨e, he⟩ | ⟨t₂, rfl, h₂⟩
  · exact .inl (fail fun _ => ⟨e, by simp [members, Json.nextKey, skipSpace_quote, Json.separator, he,
      Except.map]⟩)
  have hkey : Json.nextKey true ('"' :: (f.key.flatMap Json.quoteChar ++ '"' :: t₂)) =
      .ok (some f.key, t₂) := by
    simp [Json.nextKey, skipSpace_quote, Json.separator, Json.unquote_quoted, Except.map]
  rcases List.prefix_cons_iff.1 h₂ with rfl | ⟨t₃, rfl, h₃⟩
  · refine .inl (fail fun _ => ⟨.truncated, ?_⟩)
    simp [members, hkey, Field.ofKey?_key, hd, Json.colon, Json.skipSpace]
  have hcolon : Json.colon (':' :: t₃) = .ok t₃ := rfl
  rcases List.prefix_cons_iff.1 h₃ with rfl | ⟨t₄, rfl, h₄⟩
  · refine .inl (fail fun _ => ⟨.truncated, ?_⟩)
    simp [members, hkey, Field.ofKey?_key, hd, hcolon, Json.text?, Json.text, Json.skipSpace, Except.map]
  rcases Json.unquote_of_cut h₄ with ⟨e, he⟩ | ⟨r, rfl, hr⟩
  · refine .inl (fail fun _ => ⟨e, ?_⟩)
    simp [members, hkey, Field.ofKey?_key, hd, hcolon, Json.text?, Json.text, skipSpace_quote, he,
      Except.map]
  · exact .inr ⟨r, (encodeMember_append f v r).symm, hr⟩

theorem unread_comma {t : Text} (ht : t = [] ∨ ∃ r, t = '"' :: r) (h : Unread true draft t) :
    Unread false draft (',' :: t) := by
  intro turns
  cases turns with
  | zero => exact ⟨_, rfl⟩
  | succ turns =>
    rcases ht with rfl | ⟨r, rfl⟩
    · exact ⟨_, rfl⟩
    · obtain ⟨e, he⟩ := h (turns + 1)
      refine ⟨e, ?_⟩
      rw [← he, members, members]
      rfl

theorem unread_nil (first : Bool) : Unread first draft [] := by
  intro turns
  cases turns with
  | zero => exact ⟨_, rfl⟩
  | succ turns => exact ⟨_, rfl⟩

theorem unread_member {f : Field} {v : Text} {r : Text} (hd : draft.get f = none)
    (h : Unread false (draft.set f (some v)) r) : Unread true draft (encodeMember f v ++ r) := by
  intro turns
  cases turns with
  | zero => exact ⟨_, rfl⟩
  | succ turns =>
    rw [members_of_encodeMember hd]
    exact h turns

/-- The start of the members of an object is not read. -/
theorem unread_of_cut {m : Field × Text} {ms : List (Field × Text)} {t : Text}
    (hfields : (m :: ms).Pairwise (·.1 ≠ ·.1)) (hd : ∀ m' ∈ m :: ms, draft.get m'.1 = none)
    (h : t <+: writtenMembers m ms) (hne : t ≠ writtenMembers m ms) : Unread true draft t := by
  induction ms generalizing m draft t with
  | nil =>
    rcases unread_of_cut_member (hd m List.mem_cons_self) h with hu | ⟨r, rfl, hr⟩
    · exact hu
    · rcases List.prefix_cons_iff.1 hr with rfl | ⟨r', rfl, hr'⟩
      · exact unread_member (hd m List.mem_cons_self) (unread_nil false)
      · rw [List.prefix_nil.1 hr'] at hne
        exact absurd rfl hne
  | cons m' ms ih =>
    rcases unread_of_cut_member (hd m List.mem_cons_self) h with hu | ⟨r, rfl, hr⟩
    · exact hu
    · have hm := hd m List.mem_cons_self
      obtain ⟨hother, hrest⟩ := List.pairwise_cons.1 hfields
      rcases List.prefix_cons_iff.1 hr with rfl | ⟨r', rfl, hr'⟩
      · exact unread_member hm (unread_nil false)
      · have hne' : r' ≠ writtenMembers m' ms := by
          rintro rfl
          exact hne rfl
        have hd' : ∀ m'' ∈ m' :: ms, (draft.set m.1 (some m.2)).get m''.1 = none := by
          intro m'' hm''
          rw [Draft.get_set, if_neg (hother m'' hm'')]
          exact hd m'' (List.mem_cons_of_mem _ hm'')
        have hhead : r' = [] ∨ ∃ x, r' = '"' :: x := by
          obtain ⟨x, hx⟩ := writtenMembers_head m' ms
          rw [hx] at hr'
          exact (List.prefix_cons_iff.1 hr').imp_right fun ⟨y, hy, _⟩ => ⟨y, hy⟩
        exact unread_member hm (unread_comma hhead (ih hrest hd' hr' hne'))

/-! ## Lines -/

/-- The start of a written citation is no citation. -/
theorem ofLine?_of_cut {c : Citation} {t : Text} (h : t <+: encode c) (hne : t ≠ encode c) :
    ofLine? t = none := by
  rw [encode_eq_members] at h hne
  rcases List.prefix_cons_iff.1 h with rfl | ⟨u, rfl, hu⟩
  · rfl
  · have htrim : Text.trim ('{' :: u) = '{' :: Text.trimEnd u := Text.trim_cons (by decide) u
    have hcut := (Text.prefix_trimEnd u).trans hu
    have hne' : Text.trimEnd u ≠ writtenMembers (.id, c.id)
        [(.title, c.title), (.url, c.url), (.snippet, c.snippet)] := by
      intro he
      have hall := Text.prefix_trimEnd u
      rw [he] at hall
      exact hne (by rw [hu.eq_of_length_le hall.length_le])
    have hfields : [(Field.id, c.id), (Field.title, c.title), (Field.url, c.url),
        (Field.snippet, c.snippet)].Pairwise (·.1 ≠ ·.1) := by
      simp
    have hempty : ∀ f : Field, (Draft.empty : Draft (Option Text)).get f = none := by
      intro f
      cases f <;> rfl
    obtain ⟨e, he⟩ := unread_of_cut hfields (fun m _ => hempty m.1) hcut hne'
      ((Text.trimEnd u).length + 1)
    simp only [ofLine?, htrim, he]

theorem ofLine?_of_no_brace {line : Text} (h : '{' ∉ line) : ofLine? line = none := by
  have ht : '{' ∉ Text.trim line := fun hm => h ((Text.trim_infix line).subset hm)
  unfold ofLine?
  split
  · rename_i r hr
    rw [hr] at ht
    exact absurd List.mem_cons_self ht
  · rfl

theorem filterMap_lines_of_no_brace {t : Text} (h : '{' ∉ t) :
    (Text.lines t).filterMap ofLine? = [] := by
  rw [List.filterMap_eq_nil_iff]
  intro line hline
  exact ofLine?_of_no_brace fun hm => h (Text.mem_of_mem_fields hline hm)

theorem newline_not_mem_encode (c : Citation) : '\n' ∉ encode c := by
  have hmember : ∀ f v, '\n' ∉ encodeMember f v := by
    intro f v
    have hkey := Json.newline_not_mem_quoted f.key
    have hv := Json.newline_not_mem_quoted v
    simp [encodeMember, Json.quote, hkey, hv]
  simp [encode, hmember]

theorem closeTag_infix_of_quote {v : Text} (h : Block.closeTag <:+: Json.quote v) :
    Block.closeTag <:+: v := by
  rw [Json.quote, Text.infix_cons_iff_of_not_mem (by decide) (by decide),
    Text.infix_append_cons_iff (by decide)] at h
  rcases h with h | h
  · refine Text.infix_of_infix_flatMap (e := '\\') (by decide) (fun c => ?_) h
    rcases Json.quoteChar_cases c with hplain | ⟨u, hu, hangle, _⟩
    · exact .inl hplain.1
    · exact .inr ⟨u, hu, hangle⟩
  · exact absurd h (by decide)

theorem closeTag_infix_of_encodeMember {f : Field} {v : Text}
    (h : Block.closeTag <:+: encodeMember f v) : Block.closeTag <:+: v := by
  have hkey : ¬ Block.closeTag <:+: f.key := by cases f <;> decide
  rw [encodeMember, Text.infix_append_cons_iff (by decide)] at h
  rcases h with h | h
  · exact absurd (closeTag_infix_of_quote h) hkey
  · exact closeTag_infix_of_quote h

theorem closeTag_infix_of_encode {c : Citation} (h : Block.closeTag <:+: encode c) :
    ∃ f, Block.closeTag <:+: c.get f := by
  have hcomma : ',' ∉ Block.closeTag := by decide
  have hbrace : '}' ∉ Block.closeTag := by decide
  rw [encode_eq, Text.infix_cons_iff_of_not_mem (by decide) (by decide),
    Text.infix_append_cons_iff hcomma, Text.infix_append_cons_iff hcomma,
    Text.infix_append_cons_iff hcomma, Text.infix_append_cons_iff hbrace] at h
  rcases h with h | h | h | h | h
  · exact ⟨.id, closeTag_infix_of_encodeMember h⟩
  · exact ⟨.title, closeTag_infix_of_encodeMember h⟩
  · exact ⟨.url, closeTag_infix_of_encodeMember h⟩
  · exact ⟨.snippet, closeTag_infix_of_encodeMember h⟩
  · exact absurd h (by decide)

end Citation
end CitedReply
