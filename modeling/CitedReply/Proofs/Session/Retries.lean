import CitedReply.Proofs.Session.Edits

/-!
# CitedReply.Proofs.Session.Retries

An edit that is refused while a stream runs is made up for at the next frame.

* `Quiet`: the turns until the next frame. They change neither what was accepted last nor that there is
  something to show (`Quiet.kept`), and they do not go past the time of that frame.
* `Retries`: what a refused edit leaves, and what comes of it (`Faithful.retries`).
* `Traced`: every edit is that of a frame, taken when the edits before it have been made and the last
  one accepted among them is what is shown.
-/

namespace CitedReply
namespace Bot

open Completion

/-- What is shown of a text while more may come. -/
def frameOf (options : Options) (raw : Text) : Text :=
  Message.truncate Message.limit
    ((Frame.ofReading options raw (Reading.ofText raw) true).message options)

namespace Session

/-! ## Until the next frame -/

/-- Turns in a row none of which takes a frame. -/
inductive Quiet : Session → Session → Prop where
  | refl {s : Session} : Quiet s s
  | delta {s s' s'' : Session} {text : Text} :
      s.turn = .take (.delta text) s' → Quiet (s'.append text) s'' → Quiet s s''
  | sleep {s s' s'' : Session} : s.turn = .sleep s' → Quiet s' s'' → Quiet s s''

theorem Quiet.kept {s s' : Session} (h : Quiet s s') (hd : s.dirty = true) :
    s'.dirty = true ∧ s'.shown = s.shown ∧ s'.channel.calls = s.channel.calls := by
  induction h with
  | refl => exact ⟨hd, rfl, rfl⟩
  | delta ht _ ih =>
    obtain ⟨rest, -, rfl⟩ := eq_of_turn_take ht
    exact ih rfl
  | sleep ht _ ih =>
    obtain ⟨ms, steps, -, -, rfl⟩ := eq_of_turn_sleep ht
    exact ih hd

theorem Quiet.steps {s s' : Session} (h : Quiet s s') : Steps s s' := by
  induction h with
  | refl => exact .refl
  | delta ht _ ih => exact .cons (.delta ht) ih
  | sleep ht _ ih => exact .cons (.sleep ht) ih

/-- While there is something to show, a frame that is due is not slept through. -/
theorem now_of_turn_sleep {s s' : Session} (h : s.turn = .sleep s') (hd : s.dirty = true) :
    s'.now ≤ s.deadline + s.lag s.turns := by
  simp only [turn] at h
  split at h
  · split at h <;> cases h
  · split at h
    · split at h
      · cases h
      · rename_i hdue
        cases h
        have hwake : ¬ s.deadline + s.lag s.turns < (s.feed.advance s.now).ready + _ :=
          fun hlt => hdue ⟨hd, .inl hlt⟩
        exact Nat.le_of_not_lt hwake
    · split at h <;> cases h

/-! ## Behind a refused edit -/

/-- `s` takes the frame `t`, whose edit is refused. -/
structure Retries (options : Options) (s t : Session) : Prop where
  goes_on : Step s t.showFrame
  raw_eq : t.showFrame.raw = s.raw
  shown_eq : t.showFrame.shown = s.shown
  dirty : t.showFrame.dirty = true
  quiet : ∀ u, Quiet t.showFrame u →
    u.dirty = true ∧ u.shown = s.shown ∧ u.channel.calls = t.showFrame.channel.calls
  due : ∀ u v, Quiet t.showFrame u → u.turn = .sleep v → v.now ≤ u.deadline + u.lag u.turns
  again : ∀ u v, Quiet t.showFrame u → u.turn = .frame v →
    Text.isBlank (frameOf options u.raw) = false → frameOf options u.raw ≠ s.shown →
      v.showFrame.channel.calls =
        ⟨v.now, .edit, frameOf options u.raw, false, v.channel.refusesNext⟩ ::
          t.showFrame.channel.calls

variable {options : Options} {whole : Text × Option StreamFailure}

theorem Faithful.frameText_eq {s : Session} (h : Faithful options whole s) :
    s.frameText.1 = frameOf options s.raw := by
  simp only [frameText, frameOf, Renderer.render_eq h.coherent, h.options_eq]

theorem Faithful.of_steps {s s' : Session} (h : Faithful options whole s) (hs : Steps s s') :
    Faithful options whole s' :=
  hs.preserves (P := Faithful options whole) (fun _ _ hp hstep => hp.step hstep) h

/-- A frame that is to be shown is shown. -/
theorem Faithful.calls_frame {s t : Session} (h : Faithful options whole s) (ht : s.turn = .frame t)
    (hvisible : Text.isBlank (frameOf options s.raw) = false)
    (hchanged : frameOf options s.raw ≠ s.shown) :
    t.showFrame.channel.calls =
      ⟨t.now, .edit, frameOf options s.raw, false, t.channel.refusesNext⟩ :: s.channel.calls := by
  obtain ⟨-, now, -, -, rfl⟩ := eq_of_turn_frame ht
  have htext : (s.refreshed.atTime now).frameText.1 = frameOf options s.raw :=
    (h.refreshed.atTime now).frameText_eq
  have hne : frameOf options s.raw ≠ (s.refreshed.atTime now).shown := hchanged
  have hneeds : (s.refreshed.atTime now).needsEdit (frameOf options s.raw) = true := by
    simpa [needsEdit, hvisible] using hne
  rw [← htext] at hneeds ⊢
  rcases (s.refreshed.atTime now).showFrame_cases with ⟨hno, -⟩ | ⟨-, -, hs⟩ | ⟨-, -, hs⟩
  · rw [hneeds] at hno
    cases hno
  · rw [hs]
    rfl
  · rw [hs]
    rfl

theorem Faithful.retries {s t : Session} {c : Call} (h : Faithful options whole s)
    (ht : s.turn = .frame t) (hc : t.showFrame.channel.calls = c :: s.channel.calls)
    (hr : c.refused = true) : Retries options s t := by
  have hstep : Step s t.showFrame := .frame ht
  have hkept : t.showFrame.shown = s.shown ∧ t.showFrame.dirty = true := by
    obtain ⟨-, now, -, -, rfl⟩ := eq_of_turn_frame ht
    rcases (s.refreshed.atTime now).showFrame_cases with ⟨-, hs⟩ | ⟨-, -, hs⟩ | ⟨-, hno, hs⟩
    · rw [hs] at hc
      exact absurd (congrArg List.length hc) (Nat.ne_of_lt (Nat.lt_succ_self _))
    · rw [hs]
      exact ⟨rfl, rfl⟩
    · rw [hs] at hc
      rw [← (List.cons.inj hc).1] at hr
      exact absurd (hno.symm.trans hr) Bool.false_ne_true
  obtain ⟨hshown, hdirty⟩ := hkept
  have hquiet : ∀ u, Quiet t.showFrame u →
      u.dirty = true ∧ u.shown = s.shown ∧ u.channel.calls = t.showFrame.channel.calls := by
    intro u hu
    obtain ⟨hd, hs, hcalls⟩ := hu.kept hdirty
    exact ⟨hd, hs.trans hshown, hcalls⟩
  refine ⟨hstep, ?_, hshown, hdirty, hquiet, ?_, ?_⟩
  · rw [raw_showFrame]
    obtain ⟨-, now, -, -, rfl⟩ := eq_of_turn_frame ht
    rfl
  · intro u v hu hv
    exact now_of_turn_sleep hv (hquiet u hu).1
  · intro u v hu hv hvisible hchanged
    obtain ⟨-, hs, hcalls⟩ := hquiet u hu
    rw [← hs] at hchanged
    rw [← hcalls]
    exact ((h.step hstep).of_steps hu.steps).calls_frame hv hvisible hchanged

/-! ## Where the edits come from -/

/-- The edit `c` is that of a frame which is taken when `before` have been made since `s₀`. -/
def MadeBehind (s₀ : Session) (before : List Call) (c : Call) : Prop :=
  ∃ s t, Steps s₀ s ∧ s.turn = .frame t ∧ t.showFrame.channel.calls = c :: s.channel.calls ∧
    s.channel.calls.reverse = s₀.channel.calls.reverse ++ before ∧
    s.shown = lastAccepted s₀.shown before

/-- A session some turns after `s₀`, and the edits made in them. -/
structure Traced (s₀ s : Session) (made : List Call) : Prop where
  steps : Steps s₀ s
  calls_eq : s.channel.calls.reverse = s₀.channel.calls.reverse ++ made
  shown_eq : s.shown = lastAccepted s₀.shown made
  frames : ∀ before c after, made = before ++ c :: after → MadeBehind s₀ before c

theorem Traced.refl (s₀ : Session) : Traced s₀ s₀ [] where
  steps := .refl
  calls_eq := by simp
  shown_eq := rfl
  frames := by simp

theorem Traced.frame {s₀ s t : Session} {made : List Call} (h : Traced s₀ s made)
    (ht : s.turn = .frame t) : ∃ made', Traced s₀ t.showFrame made' := by
  have hsteps := h.steps.snoc (.frame ht)
  have hback : t.channel.calls = s.channel.calls ∧ t.shown = s.shown := by
    obtain ⟨-, now, -, -, rfl⟩ := eq_of_turn_frame ht
    exact ⟨rfl, rfl⟩
  obtain ⟨hcalls, hshown⟩ := hback
  have hedit : ∀ c : Call, t.showFrame.channel.calls = c :: s.channel.calls →
      t.showFrame.shown = lastAccepted s.shown [c] → Traced s₀ t.showFrame (made ++ [c]) := by
    intro c hc hlast
    refine ⟨hsteps, by rw [hc, List.reverse_cons, h.calls_eq, List.append_assoc], ?_, ?_⟩
    · rw [hlast, h.shown_eq]
      simp [lastAccepted]
    · intro before d after he
      rcases List.eq_nil_or_concat after with rfl | ⟨after, e, rfl⟩
      · obtain ⟨rfl, hd⟩ := List.append_inj' he rfl
        cases hd
        exact ⟨s, t, h.steps, ht, hc, h.calls_eq, h.shown_eq⟩
      · rw [List.concat_eq_append, ← List.cons_append, ← List.append_assoc] at he
        obtain ⟨rfl, -⟩ := List.append_inj' he rfl
        exact h.frames before d after rfl
  rcases t.showFrame_cases with ⟨-, hs⟩ | ⟨-, hr, hs⟩ | ⟨-, hr, hs⟩
  · refine ⟨made, hsteps, ?_, ?_, h.frames⟩
    · rw [hs, ← h.calls_eq, ← hcalls]
      rfl
    · rw [hs, ← h.shown_eq, ← hshown]
      rfl
  · refine ⟨_, hedit ⟨t.now, .edit, t.frameText.1, false, t.channel.refusesNext⟩ ?_ ?_⟩
    · rw [hs, ← hcalls]
      rfl
    · have hframed : t.framed.shown = s.shown := hshown
      rw [hs]
      simpa [lastAccepted, hr] using hframed
  · refine ⟨_, hedit ⟨t.now, .edit, t.frameText.1, false, t.channel.refusesNext⟩ ?_ ?_⟩
    · rw [hs, ← hcalls]
      rfl
    · rw [hs]
      simp [lastAccepted, hr]

theorem Traced.step {s₀ s s' : Session} {made : List Call} (h : Traced s₀ s made)
    (hs : Step s s') : ∃ made', Traced s₀ s' made' := by
  rcases hs.unframed_or_frame with hu | ⟨t, ht, rfl⟩
  · refine ⟨made, h.steps.snoc hs, ?_, ?_, h.frames⟩
    · rw [hu.calls_eq, h.calls_eq]
    · rw [hu.shown_eq, h.shown_eq]
  · exact h.frame ht

theorem traced_of_steps {s₀ s : Session} (hs : Steps s₀ s) : ∃ made, Traced s₀ s made :=
  hs.preserves (P := fun s => ∃ made, Traced s₀ s made) (fun _ _ ⟨_, hp⟩ hstep => hp.step hstep)
    ⟨[], .refl s₀⟩

end Session
end Bot
end CitedReply
