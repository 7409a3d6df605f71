import CitedReply.Citation.Basic
import Mathlib.Data.List.Induction

/-!
# CitedReply.Proofs.Directory

Citations by address: what is kept where addresses repeat, that a directory has each citation
under its own address, and that none is lost whose address no other one has.

* `firstPerUrl_eq_leading`: a citation is kept exactly where its address comes up first.
* `get?_ofList_iff`: a directory of citations with different addresses holds these and no others.
-/

namespace CitedReply

theorem Citation.mem_of_mem_firstPerUrl {c : Citation} {cs : List Citation}
    (h : c ∈ firstPerUrl cs) : c ∈ cs := by
  induction cs with
  | nil => exact h
  | cons x cs ih =>
    rcases List.mem_cons.1 h with rfl | h
    · exact List.mem_cons_self
    · exact List.mem_cons_of_mem _ (ih (List.mem_filter.1 h).1)

theorem Citation.mem_firstPerUrl_iff {c : Citation} {cs : List Citation} :
    c ∈ firstPerUrl cs ↔
      ∃ earlier later, cs = earlier ++ c :: later ∧ ∀ e ∈ earlier, e.url ≠ c.url := by
  induction cs with
  | nil => simp [firstPerUrl]
  | cons x cs ih =>
    rw [firstPerUrl, List.mem_cons, List.mem_filter, ih]
    constructor
    · rintro (rfl | ⟨⟨earlier, later, rfl, he⟩, hx⟩)
      · exact ⟨[], cs, rfl, by simp⟩
      · have hx : x.url ≠ c.url := fun h => by simp [h] at hx
        exact ⟨x :: earlier, later, rfl, by simpa [hx] using he⟩
    · rintro ⟨_ | ⟨e, earlier⟩, later, h, he⟩
      · exact .inl (List.cons.inj h).1.symm
      · obtain ⟨rfl, rfl⟩ := List.cons.inj h
        have hx : c.url ≠ x.url := (he x List.mem_cons_self).symm
        have hrest : ∀ e ∈ earlier, e.url ≠ c.url := fun e h => he e (List.mem_cons_of_mem _ h)
        exact .inr ⟨⟨earlier, later, rfl, hrest⟩, by simpa using hx⟩

theorem Citation.firstPerUrl_prefix {cs ds : List Citation} (h : cs <+: ds) :
    firstPerUrl cs <+: firstPerUrl ds := by
  induction cs generalizing ds with
  | nil => exact List.nil_prefix
  | cons c cs ih =>
    obtain ⟨more, rfl⟩ := h
    have hrest : firstPerUrl cs <+: firstPerUrl (cs ++ more) := ih (List.prefix_append cs more)
    exact (List.prefix_cons_inj c).2 (hrest.filter _)

/-- A citation whose address no other one has is kept. -/
theorem Citation.mem_firstPerUrl {c : Citation} {cs : List Citation} (h : c ∈ cs)
    (hu : ∀ e ∈ cs, e.url = c.url → e = c) : c ∈ firstPerUrl cs := by
  induction cs with
  | nil => cases h
  | cons x cs ih =>
    by_cases hx : x.url = c.url
    · rw [hu x List.mem_cons_self hx]
      exact List.mem_cons_self
    · have hc : c ∈ cs := by
        rcases List.mem_cons.1 h with rfl | hc
        · exact absurd rfl hx
        · exact hc
      have hrest := ih hc fun e he => hu e (List.mem_cons_of_mem x he)
      exact List.mem_cons_of_mem x (List.mem_filter.2 ⟨hrest, by simpa using Ne.symm hx⟩)

theorem Citation.eq_of_mem_firstPerUrl {c e : Citation} {cs : List Citation}
    (hc : c ∈ firstPerUrl cs) (he : e ∈ firstPerUrl cs) (hu : e.url = c.url) : e = c := by
  induction cs with
  | nil => cases hc
  | cons x cs ih =>
    rcases List.mem_cons.1 hc with rfl | hc
    · rcases List.mem_cons.1 he with rfl | he
      · rfl
      · have := (List.mem_filter.1 he).2
        simp [hu] at this
    · rcases List.mem_cons.1 he with rfl | he
      · have := (List.mem_filter.1 hc).2
        simp [hu] at this
      · exact ih (List.mem_filter.1 hc).1 (List.mem_filter.1 he).1

theorem Citation.filter_firstPerUrl (p : Text → Bool) (cs : List Citation) :
    (firstPerUrl cs).filter (fun c => p c.url) = firstPerUrl (cs.filter fun c => p c.url) := by
  induction cs with
  | nil => rfl
  | cons c cs ih =>
    by_cases hp : p c.url = true
    · rw [List.filter_cons_of_pos (by exact hp), firstPerUrl, firstPerUrl,
        List.filter_cons_of_pos (by exact hp), ← ih, List.filter_filter, List.filter_filter]
      simp only [Bool.and_comm]
    · -- a citation that `p` lets pass has another address than `c`
      rw [List.filter_cons_of_neg (by exact hp), firstPerUrl, List.filter_cons_of_neg (by exact hp),
        ← ih, List.filter_filter]
      refine List.filter_congr fun x _ => ?_
      by_cases hx : x.url = c.url
      · simp [hx, hp]
      · simp [hx]

/-- Those of the citations that have another address. -/
def Citation.others (c : Citation) (cs : List Citation) : List Citation :=
  cs.filter fun e => e.url ≠ c.url

theorem Citation.firstPerUrl_cons (c : Citation) (cs : List Citation) :
    firstPerUrl (c :: cs) = c :: firstPerUrl (c.others cs) :=
  congrArg (c :: ·) (filter_firstPerUrl (fun url => decide (url ≠ c.url)) cs)

/-- Induction along the addresses: each step leaves out every citation of one. -/
theorem Citation.others_induction {motive : List Citation → Prop} (nil : motive [])
    (cons : ∀ c cs, motive (c.others cs) → motive (c :: cs)) (cs : List Citation) : motive cs := by
  match cs with
  | [] => exact nil
  | c :: cs =>
    have hlen : (c.others cs).length ≤ cs.length := List.length_filter_le _ cs
    exact cons c cs (others_induction nil cons (c.others cs))
termination_by cs.length
decreasing_by exact Nat.lt_succ_of_le hlen

theorem Citation.firstPerUrl_eq_eraseDupsBy (cs : List Citation) :
    firstPerUrl cs = cs.eraseDupsBy fun c e => c.url = e.url := by
  induction cs using others_induction with
  | nil => rfl
  | cons c cs ih =>
    rw [firstPerUrl_cons, ih, List.eraseDupsBy_cons]
    simp [others]

theorem Citation.map_url_firstPerUrl (cs : List Citation) :
    (firstPerUrl cs).map (·.url) = (cs.map (·.url)).eraseDups := by
  induction cs using others_induction with
  | nil => rfl
  | cons c cs ih =>
    have hsame : ((fun url => !url == c.url) ∘ fun e : Citation => e.url) =
        fun e => decide (e.url ≠ c.url) := by
      funext e
      by_cases he : e.url = c.url <;> simp [he]
    rw [firstPerUrl_cons, List.map_cons, ih, List.map_cons, List.eraseDups_cons, List.filter_map,
      hsame, others]

theorem Citation.nodup_firstPerUrl (cs : List Citation) :
    ((firstPerUrl cs).map (·.url)).Nodup := by
  induction cs using others_induction with
  | nil => exact List.nodup_nil
  | cons c cs ih =>
    rw [firstPerUrl_cons, List.map_cons, List.nodup_cons]
    refine ⟨?_, ih⟩
    intro hc
    obtain ⟨e, he, hurl⟩ := List.mem_map.1 hc
    have hother := (List.mem_filter.1 (mem_of_mem_firstPerUrl he)).2
    simp [hurl] at hother

/-- An address that none of the citations has. -/
def Citation.IsNew (cs : List Citation) (url : Text) : Prop := ∀ e ∈ cs, e.url ≠ url

instance (cs : List Citation) (url : Text) : Decidable (Citation.IsNew cs url) :=
  inferInstanceAs (Decidable (∀ e ∈ cs, e.url ≠ url))

/-- The citations that stand where their address is new. -/
def Citation.leading (cs : List Citation) : List Citation :=
  (cs.zipIdx.filter fun p => IsNew (cs.take p.2) p.1.url).map (·.1)

theorem Citation.firstPerUrl_concat (cs : List Citation) (c : Citation) :
    firstPerUrl (cs ++ [c]) = firstPerUrl cs ++ if IsNew cs c.url then [c] else [] := by
  induction cs with
  | nil => rfl
  | cons x cs ih =>
    have hnew : IsNew (x :: cs) c.url ↔ x.url ≠ c.url ∧ IsNew cs c.url := List.forall_mem_cons
    rw [List.cons_append, firstPerUrl, ih, firstPerUrl, List.filter_append, List.cons_append]
    by_cases hcs : IsNew cs c.url
    · by_cases hx : x.url = c.url
      · simp [hnew, hx, hcs]
      · simp [hnew, hx, hcs, Ne.symm hx]
    · simp [hnew, hcs]

theorem Citation.leading_concat (cs : List Citation) (c : Citation) :
    leading (cs ++ [c]) = leading cs ++ if IsNew cs c.url then [c] else [] := by
  have hbefore : (cs.zipIdx.filter fun p => IsNew ((cs ++ [c]).take p.2) p.1.url) =
      cs.zipIdx.filter fun p => IsNew (cs.take p.2) p.1.url := by
    refine List.filter_congr fun p hp => ?_
    rw [List.take_append_of_le_length (Nat.le_of_lt (by simpa using List.snd_lt_of_mem_zipIdx hp))]
  rw [leading, List.zipIdx_append, List.filter_append, hbefore, List.map_append]
  by_cases hnew : IsNew cs c.url <;> simp [leading, hnew]

theorem Citation.firstPerUrl_eq_leading (cs : List Citation) : firstPerUrl cs = leading cs := by
  induction cs using List.reverseRecOn with
  | nil => rfl
  | append_singleton cs c ih => rw [firstPerUrl_concat, leading_concat, ih]

namespace Directory

def Keyed (d : Directory) : Prop := ∀ url c, d.get? url = some c → c.url = url

theorem keyed_insert {d : Directory} (h : d.Keyed) (c : Citation) : (d.insert c).Keyed := by
  intro url x hx
  rw [get?_insert] at hx
  split at hx
  · rename_i hu
    cases hx
    exact hu.symm
  · exact h url x hx

theorem keyed_foldl {d : Directory} (h : d.Keyed) (cs : List Citation) :
    (cs.foldl insert d).Keyed := by
  induction cs generalizing d with
  | nil => exact h
  | cons c cs ih => exact ih (keyed_insert h c)

theorem get?_foldl {c : Citation} {cs : List Citation} (hu : ∀ e ∈ cs, e.url = c.url → e = c)
    {d : Directory} (h : c ∈ cs ∨ d.get? c.url = some c) :
    (cs.foldl insert d).get? c.url = some c := by
  induction cs generalizing d with
  | nil =>
    rcases h with h | h
    · cases h
    · exact h
  | cons x cs ih =>
    refine ih (fun e he => hu e (List.mem_cons_of_mem x he)) ?_
    rw [get?_insert]
    by_cases hx : c.url = x.url
    · rw [if_pos hx, hu x List.mem_cons_self hx.symm]
      exact .inr rfl
    · rw [if_neg hx]
      rcases h with h | h
      · rcases List.mem_cons.1 h with rfl | hc
        · exact absurd rfl hx
        · exact .inl hc
      · exact .inr h

theorem get?_ofList {c : Citation} {cs : List Citation} (h : c ∈ cs)
    (hu : ∀ e ∈ cs, e.url = c.url → e = c) : (ofList cs).get? c.url = some c :=
  get?_foldl hu (.inl h)

theorem mem_of_get?_foldl {cs : List Citation} {d : Directory} {url : Text} {c : Citation}
    (h : (cs.foldl insert d).get? url = some c) : c ∈ cs ∨ d.get? url = some c := by
  induction cs generalizing d with
  | nil => exact .inr h
  | cons x cs ih =>
    rcases ih h with hc | hd
    · exact .inl (List.mem_cons_of_mem x hc)
    · rw [get?_insert] at hd
      split at hd
      · cases hd
        exact .inl List.mem_cons_self
      · exact .inr hd

theorem mem_of_get?_ofList {cs : List Citation} {url : Text} {c : Citation}
    (h : (ofList cs).get? url = some c) : c ∈ cs :=
  (mem_of_get?_foldl h).resolve_right fun hd => by cases hd

theorem keyed_ofList (cs : List Citation) : (ofList cs).Keyed :=
  keyed_foldl (fun _ _ h => by cases h) cs

/-- Where each address comes up once, the directory of a list holds what the list holds. -/
theorem get?_ofList_iff {cs : List Citation} (hu : ∀ c ∈ cs, ∀ e ∈ cs, e.url = c.url → e = c)
    {url : Text} {c : Citation} : (ofList cs).get? url = some c ↔ c ∈ cs ∧ c.url = url := by
  constructor
  · intro h
    exact ⟨mem_of_get?_ofList h, keyed_ofList cs url c h⟩
  · rintro ⟨hc, rfl⟩
    exact get?_ofList hc (hu c hc)

end Directory
end CitedReply
