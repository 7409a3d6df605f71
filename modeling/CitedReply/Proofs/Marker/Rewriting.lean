import CitedReply.Proofs.Marker.Substitution

/-!
# CitedReply.Proofs.Marker.Rewriting

The text that comes of putting links in the place of markers.

Two laws say what becomes of a text (`Simultaneous`): one without markers stays as it is, and a
marker anywhere in a text gives way on its own, whatever stands to the left of it and to the right.
A text with a marker falls into two shorter ones at it, so the laws leave nothing open.

* `substitute_simultaneous`: the substitution obeys both, and nothing else does.
* `find_substitute`: the markers that a second scan finds, in order.
-/

namespace CitedReply
namespace Marker

theorem substitute_of_no_marker (cs : List Citation) {t : Text} (h : find t = []) :
    substitute cs t = t := by
  have hids : ids t = [] := by rw [← map_id_find, h, List.map_nil]
  clear h
  induction t using pieces.induct with
  | case1 => simp [substitute, pieces]
  | case2 c r digits after hm ih =>
    rw [ids_of_marker hm] at hids
    cases hids
  | case3 c r hm ih =>
    rw [ids_of_char hm] at hids
    rw [substitute_of_char cs hm, ih hids]

/-- Each marker gives way to the link of the first citation with its identifier, or stays where
there is none, and all else stays. -/
structure Simultaneous (cs : List Citation) (f : Text → Text) : Prop where
  verbatim : ∀ t, find t = [] → f t = t
  marker : ∀ a digits b, IsNumber digits → b.head? ≠ some '(' →
    f (a ++ written digits ++ b) =
      f a ++ (match cs.find? (·.id = idOf digits) with
        | some c => c.link
        | none => written digits) ++ f b

/-- The induction is on the length of the text: what stands on either side of a marker is shorter
than the text. -/
theorem Simultaneous.eq_substitute {cs : List Citation} {f : Text → Text}
    (h : Simultaneous cs f) (t : Text) : f t = substitute cs t := by
  cases hf : find t with
  | nil => rw [h.verbatim t hf, substitute_of_no_marker cs hf]
  | cons m ms =>
    have hm : m ∈ find t := by
      rw [hf]
      exact List.mem_cons_self
    obtain ⟨a, digits, b, ht, hn, hb, -⟩ := eq_of_mem_find hm
    have hlen : t.length = a.length + (written digits).length + b.length := by
      rw [ht, List.length_append, List.length_append]
    have hpos : 0 < (written digits).length := by simp [written_eq]
    have ha := h.eq_substitute a
    have hb' := h.eq_substitute b
    rw [ht, h.marker a digits b hn hb, ha, hb', substitute_append_marker cs hn hb,
      List.append_assoc]
    rfl
termination_by t.length

/-- The substitution is the one function that leaves texts without markers alone and treats each
marker on its own. -/
theorem substitute_simultaneous (cs : List Citation) :
    Simultaneous cs (substitute cs) ∧ ∀ f, Simultaneous cs f → f = substitute cs := by
  constructor
  · constructor
    · intro t h
      exact substitute_of_no_marker cs h
    · intro a digits b hn hb
      rw [substitute_append_marker cs hn hb, List.append_assoc]
      rfl
  · intro f h
    funext t
    exact h.eq_substitute t

/-- Two citations with one identifier, of which the first counts. -/
def rivals : List Citation :=
  [⟨"cite-1".toList, "A [1".toList, "https://a.com".toList, []⟩,
    ⟨"cite-1".toList, "B".toList, "https://b.com".toList, []⟩]

/-- A known marker between the beginning of one and an unknown one. -/
theorem substitute_simultaneous_rivals :
    IsNumber ['1'] ∧ "[cite-7] [cite-1".toList.head? ≠ some '(' ∧
      Simultaneous rivals (substitute rivals) ∧
      substitute rivals ("[cite-".toList ++ written ['1'] ++ "[cite-7] [cite-1".toList) =
        "[cite-[A \\[1](https://a.com)[cite-7] [cite-1".toList := by
  have hn : IsNumber ['1'] := ⟨by decide, by simp⟩
  have hb : "[cite-7] [cite-1".toList.head? ≠ some '(' := by decide
  obtain ⟨hlaws, -⟩ := substitute_simultaneous rivals
  refine ⟨hn, hb, hlaws, ?_⟩
  rw [hlaws.marker _ _ _ hn hb]
  decide +kernel

/-- Of the markers found in a text those that are not known are found again, and in the place of
each other one the markers in the target of its link. -/
theorem find_substitute (cs : List Citation) (t : Text) :
    (find (substitute cs t)).map Found.id =
      (find t).flatMap fun m =>
        match cs.find? (·.id = m.id) with
        | some c => (find (Citation.target c.url ++ [')'])).map Found.id
        | none => [m.id] := by
  have htarget : ∀ c : Citation,
      (find (Citation.target c.url ++ [')'])).map Found.id = ids c.url := by
    intro c
    rw [map_id_find, ids_append_inert (by decide), ids_cons_ne (by decide), ids_nil,
      List.append_nil, Citation.target_eq, ids_writtenTarget]
  rw [map_id_find, ids_substitute, ← map_id_find, List.flatMap_map]
  refine congrArg (fun f => (find t).flatMap f) (funext fun m => ?_)
  rw [leftover]
  cases cs.find? (·.id = m.id) with
  | some c => exact (htarget c).symm
  | none => rfl

/-- The beginning of a marker in a title is escaped; the marker in an address is left to be found. -/
example :
    (find (substitute [⟨"cite-1".toList, "[cite-5".toList, "https://a.com/[cite-2]".toList, []⟩]
      "[cite-1]] [cite-3]".toList)).map Found.id = ["cite-2".toList, "cite-3".toList] := by
  decide +kernel

end Marker
end CitedReply
