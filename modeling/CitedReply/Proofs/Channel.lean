import CitedReply.Bot.Channel

/-!
# CitedReply.Proofs.Channel

What a channel has on record of its calls, and what becomes of calls that have to succeed.

* `Heeded`: calls in a row of which the first that is refused is the last, and is the error.
* `requests_heeded`: so are calls that have to succeed.
* `Kept`: a call is on record as refused exactly if its number is among the refusals.
-/

namespace CitedReply
namespace Bot

/-- Calls that have to succeed, the first of them numbered `n`, and the error they end with. -/
inductive Heeded : Nat → List Call → Option CommandError → Prop where
  | nil {n : Nat} : Heeded n [] none
  | refused {n : Nat} {c : Call} : c.refused = true → Heeded n [c] (some (.callRefused n))
  | accepted {n : Nat} {c : Call} {cs : List Call} {error : Option CommandError} :
      c.refused = false → Heeded (n + 1) cs error → Heeded n (c :: cs) error

theorem Heeded.error_ne_none_iff {n : Nat} {cs : List Call} {error : Option CommandError}
    (h : Heeded n cs error) : error ≠ none ↔ ∃ c ∈ cs, c.refused = true := by
  induction h with
  | nil => simp
  | refused hr => simp [hr]
  | accepted hr _ ih => simp [ih, hr]

theorem Heeded.accepted_of_none {n : Nat} {cs : List Call} (h : Heeded n cs none) :
    ∀ c ∈ cs, c.refused = false := by
  intro c hc
  rw [← Bool.not_eq_true]
  intro hr
  exact h.error_ne_none_iff.2 ⟨c, hc, hr⟩ rfl

theorem Heeded.eq_of_error {n : Nat} {cs : List Call} {e : CommandError}
    (h : Heeded n cs (some e)) :
    ∃ front c, cs = front ++ [c] ∧ c.refused = true ∧ (∀ d ∈ front, d.refused = false) ∧
      e = .callRefused (n + front.length) := by
  generalize he : some e = error at h
  induction h with
  | nil => cases he
  | @refused n c hr =>
    cases he
    exact ⟨[], c, rfl, hr, by simp, rfl⟩
  | @accepted n c cs error hr _ ih =>
    obtain ⟨front, d, rfl, hd, hfront, hn⟩ := ih he
    refine ⟨c :: front, d, rfl, hd, ?_, ?_⟩
    · intro x hx
      rcases List.mem_cons.1 hx with rfl | hx
      · exact hr
      · exact hfront x hx
    · rw [hn, List.length_cons, Nat.add_right_comm, Nat.add_assoc]

namespace Channel

/-- Calls that have to succeed are made in order as far as the first that is refused. -/
theorem requests_heeded (ch : Channel) (wanted : List (CallKind × Text)) :
    ∃ made : List Call, (ch.requests wanted).1.calls.reverse = ch.calls.reverse ++ made ∧
      made.map (fun c => (c.kind, c.text)) <+: wanted ∧ Heeded ch.next made (ch.requests wanted).2 ∧
      ((ch.requests wanted).2 = none → made.map (fun c => (c.kind, c.text)) = wanted) := by
  induction wanted generalizing ch with
  | nil => exact ⟨[], by simp [requests], List.prefix_refl _, .nil, fun _ => rfl⟩
  | cons w ws ih =>
    obtain ⟨kind, text⟩ := w
    by_cases hr : ch.refusesNext = true
    · refine ⟨[⟨ch.now, kind, text, false, ch.refusesNext⟩], ?_, ⟨ws, rfl⟩, ?_, ?_⟩
      · simp [requests, request, hr, call]
      · simpa [requests, request, hr] using Heeded.refused (n := ch.next) rfl
      · simp [requests, request, hr]
    · simp only [requests, request, hr, Bool.false_eq_true, if_false]
      obtain ⟨made, hcalls, hprefix, hheeded, hall⟩ := ih (ch.call kind text false)
      refine ⟨⟨ch.now, kind, text, false, ch.refusesNext⟩ :: made, ?_, ?_, ?_, ?_⟩
      · rw [hcalls]
        simp [call]
      · exact (List.prefix_cons_inj (kind, text)).2 hprefix
      · exact .accepted (by simpa using hr) hheeded
      · intro h
        rw [List.map_cons, hall h]

theorem requests_of_no_refusals {ch : Channel} (h : ch.refusals = [])
    (wanted : List (CallKind × Text)) : (ch.requests wanted).2 = none := by
  induction wanted generalizing ch with
  | nil => rfl
  | cons w ws ih =>
    obtain ⟨kind, text⟩ := w
    have hr : ch.refusesNext = false := by simp [refusesNext, h]
    simp only [requests, request, hr, Bool.false_eq_true, if_false]
    exact ih h

/-- What the record says of a call is what was laid down for its number, which is how many calls came
before it. -/
def Kept (ch : Channel) : Prop :=
  ∀ later c earlier, ch.calls = later ++ c :: earlier →
    (c.refused = true ↔ earlier.length ∈ ch.refusals)

theorem kept_start (latency : Nat → Nat) (refusals : List Nat) : (start latency refusals).Kept := by
  intro later c earlier h
  simp [start] at h

theorem Kept.call {ch : Channel} (h : ch.Kept) (kind : CallKind) (text : Text) (ephemeral : Bool) :
    (ch.call kind text ephemeral).Kept := by
  intro later c earlier hc
  cases later with
  | nil =>
    obtain ⟨rfl, rfl⟩ := List.cons.inj hc
    simp [Channel.call, refusesNext, next]
  | cons d later => exact h later c earlier (List.cons.inj hc).2

theorem Kept.requests {ch : Channel} (h : ch.Kept) (wanted : List (CallKind × Text)) :
    (ch.requests wanted).1.Kept ∧ (ch.requests wanted).1.refusals = ch.refusals := by
  induction wanted generalizing ch with
  | nil => exact ⟨h, rfl⟩
  | cons w ws ih =>
    obtain ⟨kind, text⟩ := w
    have hcall := h.call kind text false
    by_cases hr : ch.refusesNext = true
    · simp only [Channel.requests, request, hr, if_true]
      exact ⟨hcall, rfl⟩
    · simp only [Channel.requests, request, hr, Bool.false_eq_true, if_false]
      exact ih hcall

/-- In the order of the calls. -/
theorem Kept.refused_iff {ch : Channel} (h : ch.Kept) {before after : List Call} {c : Call}
    (hc : ch.calls.reverse = before ++ c :: after) :
    c.refused = true ↔ before.length ∈ ch.refusals := by
  have hcalls : ch.calls = after.reverse ++ c :: before.reverse := by
    simpa using congrArg List.reverse hc
  simpa using h _ _ _ hcalls

end Channel
end Bot
end CitedReply
