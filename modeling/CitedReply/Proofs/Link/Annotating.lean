import CitedReply.Proofs.Directory
import CitedReply.Proofs.Link.Reading

/-!
# CitedReply.Proofs.Link.Annotating

What the annotation of a text changes, and what it leaves alone.

A reader comes to the links of a text one after the other (`Successive`); the gaps between them and
the links are the whole text, and the annotation writes its text along the same row. Of a link only
two things count: whether it stays as it is (`Stays`), and the citation it is written for if not
(`cited`).

* `successive_split`: a text has such a row of links.
* `annotate_successive`: the gaps and the links that stay are copied, each other link is written
  anew for its own address, and the sources are the citations of those, each address once.
-/

namespace CitedReply
namespace Link

/-- The links that a reader comes to, who goes on behind each of them, and the gap before each; at
last the gap in which there is no link. -/
inductive Successive : Text → List (Text × Link) → Text → Prop where
  | done {t : Text} : next? none t = none → Successive t [] t
  | link {t gap rest last : Text} {l : Link} {links : List (Text × Link)} :
      next? none t = some (gap, l, rest) → Successive rest links last →
      Successive t ((gap, l) :: links) last

theorem successive_split (t : Text) : Successive t (split t).links (split t).gap := by
  fun_induction split t with
  | case1 t h => exact .done h
  | case2 t gap l rest h ih => exact .link h ih

/-- No part of the text is left out between two links, and none is read twice. -/
theorem Successive.text_eq {t last : Text} {links : List (Text × Link)}
    (h : Successive t links last) : t = links.flatMap (fun p => p.1 ++ p.2.text) ++ last := by
  induction h with
  | done => rfl
  | link hnext _ ih =>
    rw [List.flatMap_cons, List.append_assoc, ← ih]
    exact eq_of_next? hnext

variable (d : Directory) (synthetic : Bool)

/-- An image stays as it is, and so does a link to an address that is not known, unless citations
are made up for addresses on the web and it is one. -/
def Stays (l : Link) : Prop :=
  l.image = true ∨
    d.get? l.href = none ∧ ¬ (synthetic = true ∧ Url.isExternal l.href = true)

instance (l : Link) : Decidable (Stays d synthetic l) :=
  inferInstanceAs (Decidable (_ ∨ _ ∧ ¬ (_ ∧ _)))

/-- The citation that a link is written for if it does not stay: the known one with its address,
else one made up for it. -/
def cited (l : Link) : Citation :=
  (d.get? l.href).getD (Citation.synthetic l.href (unescape l.label))

/-- What stands in the place of a link. -/
def standIn (l : Link) : Text :=
  if Stays d synthetic l then l.text
  else "[".toList ++ escape (displayText (some (cited d l)) (unescape l.label) l.href) ++
    "](<".toList ++ l.href ++ ">)".toList

theorem citation?_eq (l : Link) :
    citation? d synthetic l = if Stays d synthetic l then none else some (cited d l) := by
  by_cases h : Stays d synthetic l
  · rw [if_pos h]
    rcases h with himage | ⟨hunknown, hweb⟩
    · simp [citation?, himage]
    · simp only [citation?, hunknown, Bool.and_eq_true, if_neg hweb, ite_self]
  · rw [if_neg h]
    rw [Stays, not_or] at h
    obtain ⟨himage, hknown⟩ := h
    cases hd : d.get? l.href with
    | some c => simp [citation?, himage, cited, hd]
    | none =>
      have hweb : synthetic = true ∧ Url.isExternal l.href = true :=
        Decidable.byContradiction fun hweb => hknown ⟨hd, hweb⟩
      simp [citation?, himage, cited, hd, hweb]

theorem annotated_eq_standIn (l : Link) : annotated d synthetic l = standIn d synthetic l := by
  rw [annotated, citation?_eq, standIn]
  by_cases h : Stays d synthetic l
  · rw [if_pos h, if_pos h]
  · rw [if_neg h, if_neg h]
    simp [written]

/-- The links that are written anew. -/
def renewed (links : List (Text × Link)) : List Link :=
  (links.map (·.2)).filter fun l => ¬ Stays d synthetic l

theorem filterMap_citation? (links : List (Text × Link)) :
    (links.filterMap fun p => citation? d synthetic p.2) =
      (renewed d synthetic links).map (cited d) := by
  induction links with
  | nil => rfl
  | cons p links ih =>
    simp only [renewed, List.map_cons, List.filterMap_cons, citation?_eq] at ih ⊢
    by_cases h : Stays d synthetic p.2
    · simp [h, ih]
    · simp [h, ih]

variable {d}

theorem url_cited (h : d.Keyed) (l : Link) : (cited d l).url = l.href := by
  unfold cited
  cases hd : d.get? l.href with
  | some c => exact h _ _ hd
  | none => rfl

variable (d)

/-- What an annotation is, of a text that is a row of links and gaps. -/
structure Annotates (t : Text) (links : List (Text × Link)) (last : Text) (a : Annotation) :
    Prop where
  read : t = links.flatMap (fun p => p.1 ++ p.2.text) ++ last
  written : a.text = links.flatMap (fun p => p.1 ++ standIn d synthetic p.2) ++ last
  sources : a.sources =
    ((renewed d synthetic links).map (cited d)).eraseDupsBy fun c e => c.url = e.url
  inOrder : a.sources.map (·.url) = ((renewed d synthetic links).map (·.href)).eraseDups
  distinct : (a.sources.map (·.url)).Nodup

theorem annotates_split (h : d.Keyed) (t : Text) :
    Annotates d synthetic t (split t).links (split t).gap (annotate d synthetic t) := by
  have hsources : (annotate d synthetic t).sources =
      Citation.firstPerUrl ((renewed d synthetic (split t).links).map (cited d)) := by
    rw [annotate, filterMap_citation?]
  refine ⟨(successive_split t).text_eq, ?_, ?_, ?_, ?_⟩
  · simp only [annotate, annotated_eq_standIn]
  · rw [hsources, Citation.firstPerUrl_eq_eraseDupsBy]
  · rw [hsources, Citation.map_url_firstPerUrl, List.map_map]
    simp only [Function.comp_def, url_cited h]
  · rw [hsources]
    exact Citation.nodup_firstPerUrl _

theorem standIn_of_empty (l : Link) : standIn .empty false l = l.text := by
  have hstays : Stays .empty false l := .inr ⟨rfl, by simp⟩
  rw [standIn, if_pos hstays]

/-- The annotation of a text by the citations that are known changes links to known addresses and,
where `synthetic` is set, to pages on the web; with nothing known it changes nothing. -/
theorem annotate_successive (cs : List Citation) (synthetic : Bool) (t : Text) :
    (∃ links last, Successive t links last ∧
      Annotates (.ofList cs) synthetic t links last (annotate (.ofList cs) synthetic t)) ∧
      (annotate (.ofList []) false t).text = t := by
  refine ⟨⟨_, _, successive_split t, annotates_split _ _ (Directory.keyed_ofList cs) t⟩, ?_⟩
  have hnone := annotates_split (.ofList []) false (Directory.keyed_ofList []) t
  rw [hnone.written]
  conv => rhs; rw [hnone.read]
  simp only [Directory.ofList, List.foldl_nil, standIn_of_empty]

end Link
end CitedReply
