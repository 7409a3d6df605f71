import CitedReply.Proofs.Session.Calls

/-!
# CitedReply.Proofs.Session.Pace

How often a message is edited while a stream runs. No frame is taken before it is due, and the next
one is due a period later, counted from when this one was due if it is hardly late. So there are as
many periods between two edits as edits from one to the other, less one tolerance.

* `Paced`: edits in a row that keep to the times at which frames are due.
* `paced_of_steps`: the edits that a session makes from any moment on are paced. A frame that makes
  no edit puts the next one off, so it can only widen a gap.
* `streamed_spaced`: the bound, for any two edits of a run.
-/

namespace CitedReply
namespace Bot

open Completion

/-- Edits in a row. The frame of the first is due at `deadline`, that of the one behind it at
`next`. -/
inductive Paced (period : Nat) : Nat → List Call → Prop where
  | nil {deadline : Nat} : Paced period deadline []
  | cons {deadline next : Nat} {c : Call} {cs : List Call} :
      deadline ≤ c.time → deadline + period ≤ next → c.time + period ≤ next + tolerance →
      Paced period next cs → Paced period deadline (c :: cs)

section

variable {period : Nat}

theorem Paced.weaken {deadline deadline' : Nat} {cs : List Call} (hl : deadline ≤ deadline')
    (h : Paced period deadline' cs) : Paced period deadline cs := by
  cases h with
  | nil => exact .nil
  | cons hdue hnext htime h => exact .cons (by omega) (by omega) htime h

theorem Paced.le_time {deadline : Nat} {cs : List Call} (h : Paced period deadline cs) {k : Nat}
    (hk : k < cs.length) : deadline + k * period ≤ cs[k].time := by
  induction h generalizing k with
  | nil => simp at hk
  | cons hdue hnext _ _ ih =>
    cases k with
    | zero => simpa using hdue
    | succ k =>
      have hlater := ih (Nat.lt_of_succ_lt_succ hk)
      rw [List.getElem_cons_succ, Nat.succ_mul]
      omega

/-- The tolerance counts once: the deadlines behind the first edit are a period apart, whatever the
edits are late by. -/
theorem Paced.spaced {deadline : Nat} {cs : List Call} (h : Paced period deadline cs) {i k : Nat}
    (hk : i + k < cs.length) : cs[i].time + k * period ≤ cs[i + k].time + tolerance := by
  induction h generalizing i with
  | nil => simp at hk
  | @cons deadline next c cs hdue hnext htime h ih =>
    cases i with
    | succ i =>
      have hlater := ih (i := i) (by simp at hk; omega)
      simpa [Nat.succ_add] using hlater
    | zero =>
      cases k with
      | zero => simp
      | succ k =>
        have hlater := h.le_time (k := k) (by simpa using hk)
        simp only [Nat.zero_add, List.getElem_cons_zero, List.getElem_cons_succ, Nat.succ_mul]
        omega

end

namespace Session

theorem period_le_nextDeadline (s : Session) :
    s.deadline + s.period ≤ s.nextDeadline ∧ s.now + s.period ≤ s.nextDeadline + tolerance := by
  unfold nextDeadline
  split <;> omega

/-- An edit that a frame makes keeps the pace of those behind it. -/
theorem paced_frame {s : Session} (hdue : s.deadline ≤ s.now) {made : List Call}
    (hmade : Paced s.period s.showFrame.deadline made) :
    ∃ made', s.showFrame.channel.calls.reverse ++ made = s.channel.calls.reverse ++ made' ∧
      Paced s.period s.deadline made' := by
  obtain ⟨hnext, htime⟩ := s.period_le_nextDeadline
  have hedit : ∀ c : Call, c.time = s.now → Paced s.period s.nextDeadline made →
      Paced s.period s.deadline (c :: made) := by
    intro c hc hmade
    exact .cons (by omega) hnext (by omega) hmade
  rcases s.showFrame_cases with ⟨-, hs⟩ | ⟨-, -, hs⟩ | ⟨-, -, hs⟩
  · rw [hs] at hmade ⊢
    exact ⟨made, rfl, hmade.weaken (Nat.le_trans (Nat.le_add_right _ _) hnext)⟩
  · rw [hs] at hmade ⊢
    exact ⟨⟨s.now, .edit, s.frameText.1, false, s.channel.refusesNext⟩ :: made,
      by simp [Channel.call, now], hedit _ rfl hmade⟩
  · rw [hs] at hmade ⊢
    exact ⟨⟨s.now, .edit, s.frameText.1, false, s.channel.refusesNext⟩ :: made,
      by simp [Channel.call, now], hedit _ rfl hmade⟩

@[simp] theorem period_showFrame (s : Session) : s.showFrame.period = s.period := by
  rcases s.showFrame_cases with ⟨-, h⟩ | ⟨-, -, h⟩ | ⟨-, -, h⟩ <;> rw [h] <;> rfl

theorem paced_of_steps {s s' : Session} (hs : Steps s s') :
    ∃ made, s'.channel.calls.reverse = s.channel.calls.reverse ++ made ∧
      Paced s.period s.deadline made := by
  induction hs with
  | refl => exact ⟨[], by simp, .nil⟩
  | @cons s s₁ s' hstep _ ih =>
    obtain ⟨made, hcalls, hmade⟩ := ih
    rcases hstep.unframed_or_frame with hu | ⟨t, ht, rfl⟩
    · rw [hu.calls_eq] at hcalls
      rw [hu.period_eq, hu.deadline_eq] at hmade
      exact ⟨made, hcalls, hmade⟩
    · obtain ⟨-, now, -, hdue, rfl⟩ := eq_of_turn_frame ht
      rw [period_showFrame] at hmade
      obtain ⟨made', hcalls', hmade'⟩ :=
        paced_frame (s := s.refreshed.atTime now) hdue hmade
      exact ⟨made', hcalls.trans hcalls', hmade'⟩

end Session

theorem paced_streamed (st : State) {inv : Invocation} (question : Text) {pieces : List Piece}
    (hopen : opened inv.response = .ok pieces) :
    Paced (max st.settings.frameInterval minFrameInterval) (acknowledged inv).now
      (streamed st inv question pieces) := by
  by_cases h : inv.channel.refusesNext = true
  · rw [(parts_of_unacknowledged st question pieces h).1]
    exact .nil
  · rw [Bool.not_eq_true] at h
    obtain ⟨last, hs, hcalls⟩ := steps_of_streamed st question h hopen
    obtain ⟨made, hmade, hpaced⟩ := Session.paced_of_steps hs
    obtain ⟨-, rfl⟩ := List.cons.inj (hcalls.symm.trans hmade)
    exact hpaced

/-- From one edit while a stream runs to the `k`th behind it, at least `k` frame intervals pass,
less one tolerance. -/
theorem streamed_spaced (st : State) {inv : Invocation} (question : Text) {pieces : List Piece}
    (hopen : opened inv.response = .ok pieces) :
    (ask st inv question).1.calls.reverse =
        acknowledgement inv :: (streamed st inv question pieces ++ closing st inv question pieces) ∧
      ∀ (i k : Nat) (h : i + k < (streamed st inv question pieces).length),
        (streamed st inv question pieces)[i].time + k * max st.settings.frameInterval 250 ≤
          (streamed st inv question pieces)[i + k].time + 5 :=
  ⟨(calls_of_opened st question hopen).1, fun _ _ h => (paced_streamed st question hopen).spaced h⟩

/-- The first frame is taken as late as the tolerance allows, and its edit is refused; the second is
taken in time, so the gap between their edits is the least that there can be. -/
theorem streamed_spaced_slow :
    opened slowInvocation.response = .ok slowPieces ∧
      (streamed quietState slowInvocation [] slowPieces).map (fun c => c.time) =
        [15, 15 + 1200 - 5, 2410] ∧
      ∀ (i k : Nat) (h : i + k < (streamed quietState slowInvocation [] slowPieces).length),
        (streamed quietState slowInvocation [] slowPieces)[i].time + k * max 1200 250 ≤
          (streamed quietState slowInvocation [] slowPieces)[i + k].time + 5 := by
  have htimes : (streamed quietState slowInvocation [] slowPieces).map (fun c => c.time) =
      [15, 15 + 1200 - 5, 2410] := by
    decide +kernel
  exact ⟨rfl, htimes, (streamed_spaced quietState [] rfl).2⟩

end Bot
end CitedReply
