import CitedReply.Citation.Line
import CitedReply.Proofs.Json.Grammar
import CitedReply.Proofs.Text.Search
import CitedReply.Proofs.Text.Trimming

/-!
# CitedReply.Proofs.Citation.Line

Lines of a citations block, read as what they say.

`Describes` is what a writer of lines is asked for: a JSON object with the four fields as strings,
in any order and among other members of any kind. The reader fills a draft as it goes along; `Fits`
says that the draft and the members still to come make up the citation together.

* `ofLine?_of_describes`: a line that describes a citation is read as that citation.
* `describes_encode`: the compact object describes the citation it was made from.
-/

namespace CitedReply
namespace Json

/-! ## Members -/

/-- A key and its colon at the head of a text. -/
def Keyed (key t r : Text) : Prop :=
  ∃ u v, skipSpace t = '"' :: u ∧ unquote u = .ok (key, v) ∧ colon v = .ok r

/-- A member at the head of a text: its key and, if its value is a string, what that says. -/
inductive Member : Text × Option Text → Text → Text → Prop
  | string {key s t u v r : Text} :
      Keyed key t u → skipSpace u = '"' :: v → unquote v = .ok (s, r) → Member (key, some s) t r
  | other {key t u r : Text} : Keyed key t u → Begins .value u r → Member (key, none) t r

/-- The members of an object up to the brace that ends it. -/
inductive Members : List (Text × Option Text) → Text → Text → Prop
  | last {m : Text × Option Text} {t u r : Text} :
      Member m t u → skipSpace u = '}' :: r → Members [m] t r
  | more {m : Text × Option Text} {ms : List (Text × Option Text)} {t u v r : Text} :
      Member m t u → skipSpace u = ',' :: v → Members ms v r → Members (m :: ms) t r

theorem Members.head {ms : List (Text × Option Text)} {t r : Text} (h : Members ms t r) :
    ∃ m u, Member m t u := by
  cases h with
  | last hm _ => exact ⟨_, _, hm⟩
  | more hm _ _ => exact ⟨_, _, hm⟩

theorem begins_of_string {s t u r : Text} (h : skipSpace t = '"' :: u)
    (hs : unquote u = .ok (s, r)) : Begins .value t r := by
  refine .scalar ?_
  rw [h]
  exact skipQuoted_of_unquote hs

theorem Member.keyed {m : Text × Option Text} {t r : Text} (h : Member m t r) :
    ∃ u, Keyed m.1 t u ∧ Begins .value u r := by
  cases h with
  | string hk hs hu => exact ⟨_, hk, begins_of_string hs hu⟩
  | other hk hv => exact ⟨_, hk, hv⟩

theorem Keyed.length_lt {key t r : Text} (h : Keyed key t r) : r.length < t.length := by
  obtain ⟨u, v, ht, hu, hv⟩ := h
  have h1 := length_lt_of_skipSpace ht
  have h2 := length_lt_of_skipQuotedFrom (skipQuoted_of_unquote hu)
  have h3 := length_lt_of_colon hv
  omega

theorem Member.length_lt {m : Text × Option Text} {t r : Text} (h : Member m t r) :
    r.length < t.length := by
  obtain ⟨u, hk, hv⟩ := h.keyed
  exact (length_lt_of_begins hv).trans hk.length_lt

theorem nextKey_of_keyed {key t r : Text} (h : Keyed key t r) :
    ∃ u, nextKey true t = .ok (some key, u) ∧ colon u = .ok r := by
  obtain ⟨u, v, ht, hu, hv⟩ := h
  exact ⟨v, by simp [nextKey, ht, separator, hu, Except.map], hv⟩

theorem nextKey_of_comma {t u : Text} (h : skipSpace t = ',' :: u) {key r : Text}
    (hk : Keyed key u r) : nextKey false t = nextKey true u := by
  obtain ⟨v, w, hu, hv, _⟩ := hk
  simp [nextKey, h, hu, separator, hv]

theorem text?_of_string {s t u r : Text} (h : skipSpace t = '"' :: u)
    (hs : unquote u = .ok (s, r)) : text? t = .ok (some s, r) := by
  have hskip : skipSpace ('"' :: u) = '"' :: u := by rw [← h, skipSpace_skipSpace]
  simp [text?, text, h, hskip, hs, Except.map]

end Json

namespace Citation

/-! ## Fields -/

def get (c : Citation) : Field → Text
  | .id => c.id
  | .title => c.title
  | .url => c.url
  | .snippet => c.snippet

theorem Field.ofKey?_key (f : Field) : ofKey? f.key = some f := by
  cases f <;> decide

theorem Field.key_of_ofKey? {key : Text} {f : Field} (h : ofKey? key = some f) : f.key = key := by
  simpa using List.find?_some h

theorem Field.eq_of_key_eq {f g : Field} (h : f.key = g.key) : f = g := by
  simpa [ofKey?_key] using congrArg ofKey? h

theorem Draft.get_set {α : Type} (d : Draft α) (f g : Field) (v : α) :
    (d.set f v).get g = if f = g then some v else d.get g := by
  cases f <;> cases g <;> rfl

/-- What has been read of a citation and what is still to be read are the fields of it, each once. -/
def Fits (c : Citation) (draft : Draft (Option Text)) (ms : List (Text × Option Text)) : Prop :=
  ∀ f : Field,
    (draft.get f = none ∧ ms.filter (·.1 = f.key) = [(f.key, some (c.get f))]) ∨
      (draft.get f = some (some (c.get f)) ∧ ms.filter (·.1 = f.key) = [])

theorem Fits.get {c : Citation} {draft : Draft (Option Text)} (h : Fits c draft []) (f : Field) :
    draft.get f = some (some (c.get f)) := by
  rcases h f with ⟨_, hf⟩ | ⟨hd, _⟩
  · cases hf
  · exact hd

theorem Fits.field {c : Citation} {draft : Draft (Option Text)} {f : Field} {v : Option Text}
    {ms : List (Text × Option Text)} (h : Fits c draft ((f.key, v) :: ms)) :
    draft.get f = none ∧ v = some (c.get f) ∧ Fits c (draft.set f v) ms := by
  rcases h f with ⟨hd, hf⟩ | ⟨_, hf⟩
  · rw [List.filter_cons_of_pos (by simp)] at hf
    obtain ⟨hv, hms⟩ := List.cons.inj hf
    have hv : v = some (c.get f) := (Prod.mk.inj hv).2
    refine ⟨hd, hv, fun g => ?_⟩
    rw [Draft.get_set]
    by_cases hg : f = g
    · subst hg
      exact .inr ⟨by rw [if_pos rfl, hv], hms⟩
    · have hkey : f.key ≠ g.key := fun he => hg (Field.eq_of_key_eq he)
      have hrest := h g
      rw [List.filter_cons_of_neg (by simpa using hkey)] at hrest
      rw [if_neg hg]
      exact hrest
  · rw [List.filter_cons_of_pos (by simp)] at hf
    cases hf

theorem Fits.other {c : Citation} {draft : Draft (Option Text)} {m : Text × Option Text}
    {ms : List (Text × Option Text)} (h : Fits c draft (m :: ms))
    (hm : Field.ofKey? m.1 = none) : Fits c draft ms := by
  intro f
  have hkey : m.1 ≠ f.key := fun he => by
    rw [he, Field.ofKey?_key] at hm
    cases hm
  have hrest := h f
  rw [List.filter_cons_of_neg (by simpa using hkey)] at hrest
  exact hrest

/-! ## Reading a line -/

theorem members_of_member {c : Citation} {m : Text × Option Text} {t r : Text}
    (h : Json.Member m t r) {draft : Draft (Option Text)} {ms : List (Text × Option Text)}
    (hfit : Fits c draft (m :: ms)) :
    ∃ draft', Fits c draft' ms ∧ ∀ turns,
      members Json.text? (turns + 1) true draft t = members Json.text? turns false draft' r := by
  cases hm : Field.ofKey? m.1 with
  | some f =>
    obtain ⟨key, v⟩ := m
    have hkey : f.key = key := Field.key_of_ofKey? hm
    subst hkey
    obtain ⟨hd, rfl, hrest⟩ := hfit.field
    cases h with
    | string hk hs hu =>
      obtain ⟨w, hw, hc⟩ := Json.nextKey_of_keyed hk
      refine ⟨_, hrest, fun turns => ?_⟩
      simp [members, hw, Field.ofKey?_key, hd, hc, Json.text?_of_string hs hu]
  | none =>
    obtain ⟨u, hk, hv⟩ := h.keyed
    obtain ⟨w, hw, hc⟩ := Json.nextKey_of_keyed hk
    refine ⟨draft, hfit.other hm, fun turns => ?_⟩
    simp [members, hw, hm, hc, Json.skipValue_of_begins hv]

theorem members_of_comma {α : Type} (read : Text → Json.Result α) {m : Text × Option Text}
    {t u r : Text} (h : Json.skipSpace t = ',' :: u) (hm : Json.Member m u r) (turns : Nat)
    (draft : Draft α) : members read turns false draft t = members read turns true draft u := by
  obtain ⟨v, hk, _⟩ := hm.keyed
  cases turns with
  | zero => rfl
  | succ turns => rw [members, members, Json.nextKey_of_comma h hk]

theorem members_of_end {α : Type} (read : Text → Json.Result α) {t r : Text}
    (h : Json.skipSpace t = '}' :: r) (turns : Nat) (draft : Draft α) :
    members read (turns + 1) false draft t = .ok (draft, r) := by
  simp [members, Json.nextKey, h]

theorem members_of_members {c : Citation} {ms : List (Text × Option Text)} {t r : Text}
    (h : Json.Members ms t r) {draft : Draft (Option Text)} (hfit : Fits c draft ms) {turns : Nat}
    (hturns : t.length < turns) :
    ∃ d, members Json.text? turns true draft t = .ok (d, r) ∧ Fits c d [] := by
  induction h generalizing draft turns with
  | last hm hr =>
    obtain ⟨d, hd, hstep⟩ := members_of_member hm hfit
    have hlen := hm.length_lt
    -- one turn for the member and one for the brace
    obtain ⟨n, rfl⟩ : ∃ n, turns = n + 2 := ⟨turns - 2, by omega⟩
    exact ⟨d, by rw [hstep, members_of_end _ hr], hd⟩
  | more hm hv hms ih =>
    obtain ⟨d, hd, hstep⟩ := members_of_member hm hfit
    have hlen := hm.length_lt
    have hlen' := Json.length_lt_of_skipSpace hv
    obtain ⟨n, rfl⟩ : ∃ n, turns = n + 1 := ⟨turns - 1, by omega⟩
    obtain ⟨m', u', hm'⟩ := hms.head
    obtain ⟨d', hrun, hd'⟩ := ih hd (show _ < n by omega)
    exact ⟨d', by rw [hstep, members_of_comma _ hv hm', hrun], hd'⟩

/-- A line that is a JSON object and has each field once, as a string. It may have other members. -/
def Describes (line : Text) (c : Citation) : Prop :=
  ∃ t ms r, Text.trim line = '{' :: t ∧ Json.Members ms t r ∧ Json.skipSpace r = [] ∧
    ∀ f : Field, ms.filter (·.1 = f.key) = [(f.key, some (c.get f))]

theorem ofLine?_of_describes {line : Text} {c : Citation} (h : Describes line c) (hid : c.id ≠ [])
    (hurl : c.url ≠ []) : ofLine? line = some c := by
  obtain ⟨t, ms, r, ht, hms, hr, hfields⟩ := h
  have hfit : Fits c .empty ms := fun f => .inl ⟨by cases f <;> rfl, hfields f⟩
  obtain ⟨d, hd, hfull⟩ := members_of_members hms hfit (Nat.lt_succ_self t.length)
  have h1 : d.id = some (some c.id) := hfull.get .id
  have h2 : d.title = some (some c.title) := hfull.get .title
  have h3 : d.url = some (some c.url) := hfull.get .url
  have h4 : d.snippet = some (some c.snippet) := hfull.get .snippet
  simp [ofLine?, ht, hd, h1, h2, h3, h4, fieldOf, hr, hid, hurl]

theorem ne_nil_of_ofLine? {line : Text} {c : Citation} (h : ofLine? line = some c) :
    c.id ≠ [] ∧ c.url ≠ [] := by
  unfold ofLine? at h
  split at h
  · split at h
    · cases h
    · dsimp only at h
      split at h
      · rename_i hsound
        cases h
        exact hsound.2
      · cases h
  · cases h

theorem ofLine?_of_isBlank {line : Text} (h : Text.isBlank line = true) : ofLine? line = none := by
  simp only [ofLine?, Text.trim_of_isBlank h]

/-! ## Writing a line -/

theorem member_encodeMember (f : Field) (v r : Text) :
    Json.Member (f.key, some v) (encodeMember f v ++ r) r := by
  have hkey : Json.Keyed f.key (encodeMember f v ++ r)
      ('"' :: (v.flatMap Json.quoteChar ++ '"' :: r)) := by
    refine ⟨f.key.flatMap Json.quoteChar ++
      '"' :: ':' :: '"' :: (v.flatMap Json.quoteChar ++ '"' :: r), _, ?_, Json.unquote_quoted _ _, ?_⟩
    · simp [encodeMember, Json.quote, Json.skipSpace, Json.isSpace]
    · simp [Json.colon, Json.skipSpace, Json.isSpace]
  exact .string hkey (by simp [Json.skipSpace, Json.isSpace]) (Json.unquote_quoted v r)

theorem encode_eq (c : Citation) : encode c =
    '{' :: (encodeMember .id c.id ++ ',' :: (encodeMember .title c.title ++
      ',' :: (encodeMember .url c.url ++ ',' :: (encodeMember .snippet c.snippet ++ ['}'])))) := by
  simp [encode]

theorem trim_encode (c : Citation) : Text.trim (encode c) = encode c :=
  Text.trim_of_ends _ (by decide) (by decide)

theorem describes_encode (c : Citation) : Describes (encode c) c := by
  refine ⟨_, [(Field.id.key, some c.id), (Field.title.key, some c.title),
    (Field.url.key, some c.url), (Field.snippet.key, some c.snippet)], [],
    (trim_encode c).trans (encode_eq c), ?_, rfl, ?_⟩
  · exact .more (member_encodeMember .id c.id _) rfl
      (.more (member_encodeMember .title c.title _) rfl
        (.more (member_encodeMember .url c.url _) rfl
          (.last (member_encodeMember .snippet c.snippet _) rfl)))
  · intro f
    cases f <;> rfl

end Citation
end CitedReply
