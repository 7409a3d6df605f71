import CitedReply.Bot.Session
import CitedReply.Proofs.Channel

/-!
# CitedReply.Proofs.Session.Run

The run of a session as a row of steps. `turn` is taken apart once, in the four lemmas
`eq_of_turn_*`; an invariant then needs one case for each constructor of `Step`, and `Steps.preserves`
carries it along the run.

* `run_steps`: `run` is steps up to the last turn, and that turn.
-/

namespace CitedReply
namespace Bot
namespace Session

open Completion

/-! ## What a turn is -/

/-- The session with its feed brought up to the present, one turn later. -/
def refreshed (s : Session) : Session :=
  { s with feed := s.feed.advance s.now, turns := s.turns + 1 }

theorem eq_of_turn_take {s s' : Session} {signal : Signal} (h : s.turn = .take signal s') :
    ∃ rest, s.refreshed.feed.queue = signal :: rest ∧
      s' = { s.refreshed with feed := s.refreshed.feed.take s.now } := by
  simp only [turn] at h
  split at h
  · rename_i sig rest hq
    split at h
    · cases h
    · cases h
      exact ⟨rest, hq, rfl⟩
  · split at h
    · split at h <;> cases h
    · split at h <;> cases h

theorem eq_of_turn_frame {s s' : Session} (h : s.turn = .frame s') :
    s.dirty = true ∧ ∃ now, s.now ≤ now ∧ s.deadline ≤ now ∧ s' = s.refreshed.atTime now := by
  have due : s.isDue = true → s.dirty = true ∧ s.deadline ≤ s.now := by
    intro hd
    simpa [isDue] using hd
  simp only [turn] at h
  split at h
  · split at h
    · rename_i hd
      cases h
      rw [Bool.and_eq_true] at hd
      exact ⟨(due hd.1).1, s.now, Nat.le_refl _, (due hd.1).2, rfl⟩
    · cases h
  · split at h
    · split at h
      · rename_i hd
        cases h
        have hdue : s.deadline ≤ s.deadline + s.lag s.turns := Nat.le_add_right _ _
        exact ⟨hd.1, _, Nat.le_max_left _ _, Nat.le_trans hdue (Nat.le_max_right _ _), rfl⟩
      · cases h
    · split at h
      · rename_i hd
        cases h
        rw [Bool.and_eq_true] at hd
        exact ⟨(due hd.1).1, s.now, Nat.le_refl _, (due hd.1).2, rfl⟩
      · cases h

theorem eq_of_turn_sleep {s s' : Session} (h : s.turn = .sleep s') :
    ∃ ms steps, s.refreshed.feed.queue = [] ∧ s.refreshed.feed.steps = .wait ms :: steps ∧
      s' = { s.refreshed with feed := ⟨s.refreshed.feed.ready + ms, steps, []⟩ }.atTime
        (s.refreshed.feed.ready + ms) := by
  simp only [turn] at h
  split at h
  · split at h <;> cases h
  · rename_i hq
    split at h
    · rename_i ms steps hs
      split at h
      · cases h
      · cases h
        exact ⟨ms, steps, hq, hs, rfl⟩
    · split at h <;> cases h

theorem eq_of_turn_stop {s s' : Session} (h : s.turn = .stop s') :
    s.refreshed.feed.queue = [] ∧ (∀ ms steps, s.refreshed.feed.steps ≠ .wait ms :: steps) ∧
      s' = s.refreshed := by
  simp only [turn] at h
  split at h
  · split at h <;> cases h
  · rename_i hq
    split at h
    · split at h <;> cases h
    · rename_i hs
      split at h
      · cases h
      · cases h
        exact ⟨hq, hs, rfl⟩

/-! ## What a frame changes -/

/-- The session with its frame taken, and no edit made. -/
def framed (s : Session) : Session :=
  { s with renderer := s.frameText.2, deadline := s.nextDeadline, dirty := false }

/-- A frame makes no edit, one that is refused, or one that is accepted. -/
theorem showFrame_cases (s : Session) :
    (s.needsEdit s.frameText.1 = false ∧ s.showFrame = s.framed) ∨
    (s.needsEdit s.frameText.1 = true ∧ s.channel.refusesNext = true ∧
      s.showFrame = { s.framed with
        channel := s.channel.call .edit s.frameText.1 false
        dirty := true }) ∨
    (s.needsEdit s.frameText.1 = true ∧ s.channel.refusesNext = false ∧
      s.showFrame = { s.framed with
        channel := s.channel.call .edit s.frameText.1 false
        shown := s.frameText.1 }) := by
  have h : s.showFrame =
      if s.needsEdit s.frameText.1 then
        if s.channel.refusesNext then
          { s.framed with channel := s.channel.call .edit s.frameText.1 false, dirty := true }
        else { s.framed with channel := s.channel.call .edit s.frameText.1 false
                             shown := s.frameText.1 }
      else s.framed := rfl
  rw [h]
  split
  · rename_i he
    split
    · rename_i hr
      exact .inr (.inl ⟨he, hr, rfl⟩)
    · rename_i hr
      exact .inr (.inr ⟨he, by simpa using hr, rfl⟩)
  · rename_i he
    exact .inl ⟨by simpa using he, rfl⟩

@[simp] theorem raw_showFrame (s : Session) : s.showFrame.raw = s.raw := by
  rcases s.showFrame_cases with ⟨-, h⟩ | ⟨-, -, h⟩ | ⟨-, -, h⟩ <;> rw [h] <;> rfl

@[simp] theorem feed_showFrame (s : Session) : s.showFrame.feed = s.feed := by
  rcases s.showFrame_cases with ⟨-, h⟩ | ⟨-, -, h⟩ | ⟨-, -, h⟩ <;> rw [h] <;> rfl

@[simp] theorem renderer_showFrame (s : Session) :
    s.showFrame.renderer = (s.renderer.render s.raw true).2 := by
  rcases s.showFrame_cases with ⟨-, h⟩ | ⟨-, -, h⟩ | ⟨-, -, h⟩ <;> rw [h] <;> rfl

/-! ## Steps -/

/-- A turn after which the run goes on. -/
inductive Step : Session → Session → Prop where
  | delta {s s' : Session} {text : Text} :
      s.turn = .take (.delta text) s' → Step s (s'.append text)
  | frame {s s' : Session} : s.turn = .frame s' → Step s s'.showFrame
  | sleep {s s' : Session} : s.turn = .sleep s' → Step s s'

/-- The last turn: the session after it, and what broke the stream off, if anything did. -/
inductive Ends : Session → Session → Option StreamFailure → Prop where
  | failure {s s' : Session} {reason : StreamFailure} :
      s.turn = .take (.failure reason) s' → Ends s s' (some reason)
  | stop {s s' : Session} : s.turn = .stop s' → Ends s s' none

inductive Steps : Session → Session → Prop where
  | refl {s : Session} : Steps s s
  | cons {s s' s'' : Session} : Step s s' → Steps s' s'' → Steps s s''

theorem run_steps (s : Session) : ∃ last, Steps s last ∧ Ends last s.run.1 s.run.2 := by
  fun_induction run s with
  | case1 s text s' h ih =>
    obtain ⟨last, hs, he⟩ := ih
    exact ⟨last, .cons (.delta h) hs, he⟩
  | case2 s reason s' h => exact ⟨s, .refl, .failure h⟩
  | case3 s s' h ih =>
    obtain ⟨last, hs, he⟩ := ih
    exact ⟨last, .cons (.frame h) hs, he⟩
  | case4 s s' h ih =>
    obtain ⟨last, hs, he⟩ := ih
    exact ⟨last, .cons (.sleep h) hs, he⟩
  | case5 s s' h => exact ⟨s, .refl, .stop h⟩

theorem Steps.snoc {s s' s'' : Session} (hs : Steps s s') (h : Step s' s'') : Steps s s'' := by
  induction hs with
  | refl => exact .cons h .refl
  | cons hstep _ ih => exact .cons hstep (ih h)

theorem Steps.preserves {P : Session → Prop} (h : ∀ s s', P s → Step s s' → P s')
    {s s' : Session} (hs : Steps s s') (hp : P s) : P s' := by
  induction hs with
  | refl => exact hp
  | cons hstep _ ih => exact ih (h _ _ hp hstep)

/-- What a turn without a frame leaves as it was. -/
structure Unframed (s s' : Session) : Prop where
  calls_eq : s'.channel.calls = s.channel.calls
  refusals_eq : s'.channel.refusals = s.channel.refusals
  renderer_eq : s'.renderer = s.renderer
  shown_eq : s'.shown = s.shown
  deadline_eq : s'.deadline = s.deadline
  period_eq : s'.period = s.period

theorem Step.unframed_or_frame {s s' : Session} (h : Step s s') :
    Unframed s s' ∨ ∃ t, s.turn = .frame t ∧ s' = t.showFrame := by
  cases h with
  | delta ht =>
    obtain ⟨rest, -, rfl⟩ := eq_of_turn_take ht
    exact .inl ⟨rfl, rfl, rfl, rfl, rfl, rfl⟩
  | frame ht => exact .inr ⟨_, ht, rfl⟩
  | sleep ht =>
    obtain ⟨ms, steps, -, -, rfl⟩ := eq_of_turn_sleep ht
    exact .inl ⟨rfl, rfl, rfl, rfl, rfl, rfl⟩

theorem Step.refusals_eq {s s' : Session} (h : Step s s') :
    s'.channel.refusals = s.channel.refusals := by
  rcases h.unframed_or_frame with hu | ⟨t, ht, rfl⟩
  · exact hu.refusals_eq
  · obtain ⟨-, now, -, -, rfl⟩ := eq_of_turn_frame ht
    rcases (s.refreshed.atTime now).showFrame_cases with ⟨-, hs⟩ | ⟨-, -, hs⟩ | ⟨-, -, hs⟩ <;>
      rw [hs] <;> rfl

theorem Step.kept {s s' : Session} (h : Step s s') (hk : s.channel.Kept) : s'.channel.Kept := by
  rcases h.unframed_or_frame with hu | ⟨t, ht, rfl⟩
  · rw [Channel.Kept, hu.calls_eq, hu.refusals_eq]
    exact hk
  · obtain ⟨-, now, -, -, rfl⟩ := eq_of_turn_frame ht
    have hk' : (s.refreshed.atTime now).channel.Kept := hk
    rcases (s.refreshed.atTime now).showFrame_cases with ⟨-, hs⟩ | ⟨-, -, hs⟩ | ⟨-, -, hs⟩
    · rw [hs]
      exact hk'
    · rw [hs]
      exact hk'.call .edit _ false
    · rw [hs]
      exact hk'.call .edit _ false

theorem Ends.channel_eq {s s' : Session} {failure : Option StreamFailure} (h : Ends s s' failure) :
    s'.channel = s.channel := by
  cases h with
  | failure ht =>
    obtain ⟨rest, -, rfl⟩ := eq_of_turn_take ht
    rfl
  | stop ht =>
    obtain ⟨-, -, rfl⟩ := eq_of_turn_stop ht
    rfl

theorem Ends.renderer_eq {s s' : Session} {failure : Option StreamFailure}
    (h : Ends s s' failure) : s'.renderer = s.renderer := by
  cases h with
  | failure ht =>
    obtain ⟨rest, -, rfl⟩ := eq_of_turn_take ht
    rfl
  | stop ht =>
    obtain ⟨-, -, rfl⟩ := eq_of_turn_stop ht
    rfl

theorem refusals_run (s : Session) : s.run.1.channel.refusals = s.channel.refusals := by
  obtain ⟨last, hs, he⟩ := run_steps s
  rw [he.channel_eq]
  exact hs.preserves (P := fun s' => s'.channel.refusals = s.channel.refusals)
    (fun _ _ hp hstep => hstep.refusals_eq.trans hp) rfl

theorem kept_run {s : Session} (h : s.channel.Kept) : s.run.1.channel.Kept := by
  obtain ⟨last, hs, he⟩ := run_steps s
  rw [he.channel_eq]
  exact hs.preserves (P := fun s => s.channel.Kept) (fun _ _ hp hstep => hstep.kept hp) h

end Session
end Bot
end CitedReply
