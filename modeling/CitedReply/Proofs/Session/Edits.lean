import CitedReply.Proofs.Message
import CitedReply.Proofs.Session.Closing
import Mathlib.Data.List.Chain
import Mathlib.Data.List.Forall2

/-!
# CitedReply.Proofs.Session.Edits

The edits that are made while a stream runs. Each shows the frame of so many deltas; the number never
falls, and it grows behind an edit that was accepted.

* `Caught`: the deltas so far make up the text, and the others are still to come.
* `edits_of_steps`: so from any such session the edits to come are in order (`Edits`). The text is
  dirty only if a delta has come since the last accepted edit, so a clean session takes one more
  delta at least before its next edit.
* `Edits.accepted_le`: at most one edit is accepted for each delta.
-/

namespace CitedReply
namespace Bot

open Completion

/-- What is shown of the first `k` deltas while more may come. -/
def snapshot (options : Options) (deltas : List Text) (k : Nat) : Text :=
  let raw := (deltas.take k).flatten
  Message.truncate Message.limit
    ((Frame.ofReading options raw (Reading.ofText raw) true).message options)

/-- An edit that shows the first `k` deltas, `low` of them at least, where `shown` is the text last
accepted. -/
structure Shows (options : Options) (deltas : List Text) (low : Nat) (shown : Text) (c : Call)
    (k : Nat) : Prop where
  low_le : low ≤ k
  le_length : k ≤ deltas.length
  kind_eq : c.kind = .edit
  text_eq : c.text = snapshot options deltas k
  visible : Text.isBlank c.text = false
  changed : c.text ≠ shown

/-- Edits in a row. Behind one that is refused the same deltas may be shown again; behind one that is
accepted there is another delta. -/
inductive Edits (options : Options) (deltas : List Text) : Nat → Text → List Call → Prop where
  | nil {low : Nat} {shown : Text} : Edits options deltas low shown []
  | refused {low k : Nat} {shown : Text} {c : Call} {cs : List Call} :
      Shows options deltas low shown c k → c.refused = true → Edits options deltas k shown cs →
      Edits options deltas low shown (c :: cs)
  | accepted {low k : Nat} {shown : Text} {c : Call} {cs : List Call} :
      Shows options deltas low shown c k → c.refused = false →
      Edits options deltas (k + 1) c.text cs → Edits options deltas low shown (c :: cs)

section

variable {options : Options} {deltas : List Text}

theorem Shows.weaken {low low' k : Nat} {shown : Text} {c : Call} (hl : low ≤ low')
    (h : Shows options deltas low' shown c k) : Shows options deltas low shown c k :=
  { h with low_le := Nat.le_trans hl h.low_le }

theorem Edits.weaken {low low' : Nat} {shown : Text} {cs : List Call} (hl : low ≤ low')
    (h : Edits options deltas low' shown cs) : Edits options deltas low shown cs := by
  cases h with
  | nil => exact .nil
  | refused hs hr h => exact .refused (hs.weaken hl) hr h
  | accepted hs hr h => exact .accepted (hs.weaken hl) hr h

/-- Every edit takes up a delta that no accepted edit before it has shown. -/
theorem Edits.accepted_le {low : Nat} {shown : Text} {cs : List Call}
    (h : Edits options deltas low shown cs) (hl : low ≤ deltas.length + 1) :
    low + (cs.filter fun c => !c.refused).length ≤ deltas.length + 1 := by
  induction h with
  | nil => exact hl
  | refused hs hr _ ih =>
    have hlow := hs.low_le
    have hk := hs.le_length
    have := ih (by omega)
    simp only [hr, List.filter_cons_of_neg, Bool.not_true, Bool.false_eq_true, not_false_eq_true]
    omega
  | accepted hs hr _ ih =>
    have hlow := hs.low_le
    have hk := hs.le_length
    have := ih (by omega)
    simp only [hr, List.filter_cons_of_pos, Bool.not_false, List.length_cons]
    omega

theorem Edits.shows {low : Nat} {shown : Text} {cs : List Call}
    (h : Edits options deltas low shown cs) :
    ∀ c ∈ cs, ∃ low shown k, Shows options deltas low shown c k := by
  induction h with
  | nil => intro c hc; cases hc
  | refused hs _ _ ih =>
    intro c hc
    rcases List.mem_cons.1 hc with rfl | hc
    · exact ⟨_, _, _, hs⟩
    · exact ih c hc
  | accepted hs _ _ ih =>
    intro c hc
    rcases List.mem_cons.1 hc with rfl | hc
    · exact ⟨_, _, _, hs⟩
    · exact ih c hc

/-- The numbers of deltas that edits in a row show. -/
theorem Edits.counts {low : Nat} {shown : Text} {cs : List Call}
    (h : Edits options deltas low shown cs) :
    ∃ counts, List.Forall₂ (fun c k => c.kind = .edit ∧ k ≤ deltas.length ∧
          c.text = snapshot options deltas k) cs counts ∧
      ((cs.zip counts).IsChain fun a b => a.2 ≤ b.2 ∧ (a.1.refused = false → a.2 < b.2)) ∧
      ∀ k ∈ counts.head?, low ≤ k := by
  induction h with
  | nil => exact ⟨[], .nil, .nil, by simp⟩
  | @refused low k shown c cs hs hr _ ih =>
    obtain ⟨counts, hall, hchain, hhead⟩ := ih
    refine ⟨k :: counts, .cons ⟨hs.kind_eq, hs.le_length, hs.text_eq⟩ hall, ?_, ?_⟩
    · cases hall with
      | nil => exact .singleton _
      | cons _ _ =>
        refine .cons_cons ⟨hhead _ rfl, fun ha => ?_⟩ hchain
        rw [hr] at ha
        cases ha
    · rintro _ ⟨⟩
      exact hs.low_le
  | @accepted low k shown c cs hs hr _ ih =>
    obtain ⟨counts, hall, hchain, hhead⟩ := ih
    refine ⟨k :: counts, .cons ⟨hs.kind_eq, hs.le_length, hs.text_eq⟩ hall, ?_, ?_⟩
    · cases hall with
      | nil => exact .singleton _
      | cons _ _ => exact .cons_cons ⟨Nat.le_of_lt (hhead _ rfl), fun _ => hhead _ rfl⟩ hchain
    · rintro _ ⟨⟩
      exact hs.low_le

/-- The text that was accepted last, which is `shown` if none of the calls was accepted. -/
def lastAccepted (shown : Text) (calls : List Call) : Text :=
  calls.foldl (fun text c => if c.refused then text else c.text) shown

theorem Edits.fresh {low : Nat} {shown : Text} {cs : List Call}
    (h : Edits options deltas low shown cs) {earlier later : List Call} {c : Call}
    (he : cs = earlier ++ c :: later) : c.text ≠ lastAccepted shown earlier := by
  induction h generalizing earlier with
  | nil => simp at he
  | refused hs hr _ ih =>
    cases earlier with
    | nil =>
      obtain ⟨rfl, -⟩ := List.cons.inj he
      exact hs.changed
    | cons x earlier =>
      obtain ⟨rfl, hrest⟩ := List.cons.inj he
      have := ih hrest
      simpa [lastAccepted, hr] using this
  | accepted hs hr _ ih =>
    cases earlier with
    | nil =>
      obtain ⟨rfl, -⟩ := List.cons.inj he
      exact hs.changed
    | cons x earlier =>
      obtain ⟨rfl, hrest⟩ := List.cons.inj he
      have := ih hrest
      simpa [lastAccepted, hr] using this

/-- Edits while a stream runs, and the numbers of deltas that they show. -/
structure InOrder (options : Options) (deltas : List Text) (edits : List Call) (counts : List Nat) :
    Prop where
  contents : List.Forall₂ (fun c k => c.kind = .edit ∧ k ≤ deltas.length ∧
    c.text = snapshot options deltas k) edits counts
  growing : (edits.zip counts).IsChain fun a b => a.2 ≤ b.2 ∧ (a.1.refused = false → a.2 < b.2)
  fresh : ∀ earlier c later, edits = earlier ++ c :: later → c.text ≠ lastAccepted [] earlier
  few : (edits.filter fun c => !c.refused).length ≤ deltas.length

theorem Edits.inOrder {edits : List Call} (h : Edits options deltas 1 [] edits) :
    ∃ counts, InOrder options deltas edits counts := by
  obtain ⟨counts, hcontents, hgrowing, -⟩ := h.counts
  refine ⟨counts, hcontents, hgrowing, fun _ _ _ he => h.fresh he, ?_⟩
  have := h.accepted_le (by omega)
  omega

end

namespace Session

/-- The first `n` deltas have been taken, and the renderer can be trusted. -/
structure Caught (options : Options) (deltas : List Text) (n : Nat) (s : Session) : Prop where
  raw_eq : s.raw = (deltas.take n).flatten
  coming : heard s.feed.pending = deltas.drop n
  taken : n ≤ deltas.length
  options_eq : s.renderer.options = options
  coherent : s.renderer.Coherent

/-- How many deltas the next edit shows at least, if `n` have been taken. -/
def low (n : Nat) (s : Session) : Nat := if s.dirty then n else n + 1

theorem low_of_dirty {s : Session} (h : s.dirty = true) (n : Nat) : s.low n = n := if_pos h

theorem le_low (n : Nat) (s : Session) : n ≤ s.low n := by
  unfold low
  split <;> omega

theorem low_le (n : Nat) (s : Session) : s.low n ≤ n + 1 := by
  unfold low
  split <;> omega

variable {options : Options} {deltas : List Text} {n : Nat}

theorem Caught.opening (settings : Settings) (frameFirst : Nat → Bool) (lag : Nat → Nat)
    (pieces : List Piece) (channel : Channel) :
    Caught settings.options (Completion.deltas pieces) 0
      (Session.opening settings frameFirst lag pieces channel) where
  raw_eq := rfl
  coming := heard_stepsOfPieces pieces
  taken := Nat.zero_le _
  options_eq := rfl
  coherent := Renderer.coherent_ofOptions _

theorem Caught.refreshed {s : Session} (h : Caught options deltas n s) :
    Caught options deltas n s.refreshed := by
  refine { h with coming := ?_ }
  rw [← h.coming]
  simp [Session.refreshed]

theorem Caught.atTime {s : Session} (h : Caught options deltas n s) (now : Nat) :
    Caught options deltas n (s.atTime now) := { h with }

theorem Caught.showFrame {s : Session} (h : Caught options deltas n s) :
    Caught options deltas n s.showFrame where
  raw_eq := by rw [raw_showFrame, h.raw_eq]
  coming := by rw [feed_showFrame, h.coming]
  taken := h.taken
  options_eq := by rw [renderer_showFrame, Renderer.options_render, h.options_eq]
  coherent := by
    rw [renderer_showFrame]
    exact Renderer.coherent_render h.coherent _ _

theorem Caught.frameText_eq {s : Session} (h : Caught options deltas n s) :
    s.frameText.1 = snapshot options deltas n := by
  simp only [frameText, snapshot, Renderer.render_eq h.coherent, h.options_eq, h.raw_eq]

theorem Caught.append {s s' : Session} {text : Text} (h : Caught options deltas n s)
    (ht : s.turn = .take (.delta text) s') :
    Caught options deltas (n + 1) (s'.append text) := by
  have hr := h.refreshed
  obtain ⟨rest, hq, rfl⟩ := eq_of_turn_take ht
  have hcoming := hr.coming
  rw [Feed.pending_take hq s.now, heard] at hcoming
  have hn : n < deltas.length := by
    rw [← Nat.not_le]
    intro hle
    rw [List.drop_eq_nil_of_le hle] at hcoming
    cases hcoming
  rw [List.drop_eq_getElem_cons hn] at hcoming
  obtain ⟨htext, hrest⟩ := List.cons.inj hcoming
  refine ⟨?_, hrest, hn, hr.options_eq, hr.coherent⟩
  calc s.raw ++ text = (deltas.take n ++ [deltas[n]]).flatten := by
        rw [h.raw_eq, htext, List.flatten_append, List.flatten_singleton]
    _ = (deltas.take (n + 1)).flatten := by rw [List.take_append_getElem hn]

/-- What a frame leaves to be done: the edits behind it follow on the one that it makes. -/
theorem Caught.edits_frame {s : Session} (h : Caught options deltas n s) {made : List Call}
    (hmade : Edits options deltas (s.showFrame.low n) s.showFrame.shown made) :
    ∃ made', s.showFrame.channel.calls.reverse ++ made = s.channel.calls.reverse ++ made' ∧
      Edits options deltas n s.shown made' := by
  have hshows : s.needsEdit s.frameText.1 = true → ∀ c : Call, c.kind = .edit →
      c.text = s.frameText.1 → Shows options deltas n s.shown c n := by
    intro he c hkind htext
    simp only [needsEdit, Bool.and_eq_true, Bool.not_eq_true', bne_iff_ne, ne_eq] at he
    rw [← htext] at he
    exact ⟨Nat.le_refl n, h.taken, hkind, htext.trans h.frameText_eq, he.1, he.2⟩
  rcases s.showFrame_cases with ⟨-, hs⟩ | ⟨he, hr, hs⟩ | ⟨he, hr, hs⟩
  · rw [hs] at hmade ⊢
    exact ⟨made, rfl, hmade.weaken (le_low n s.framed)⟩
  · rw [hs] at hmade ⊢
    refine ⟨⟨s.channel.now, .edit, s.frameText.1, false, s.channel.refusesNext⟩ :: made, ?_, ?_⟩
    · simp [Channel.call]
    · exact .refused (hshows he _ rfl rfl) hr hmade
  · rw [hs] at hmade ⊢
    refine ⟨⟨s.channel.now, .edit, s.frameText.1, false, s.channel.refusesNext⟩ :: made, ?_, ?_⟩
    · simp [Channel.call]
    · exact .accepted (hshows he _ rfl rfl) hr hmade

theorem edits_of_steps {s s' : Session} (hs : Steps s s') (h : Caught options deltas n s) :
    ∃ made, s'.channel.calls.reverse = s.channel.calls.reverse ++ made ∧
      Edits options deltas (s.low n) s.shown made := by
  induction hs generalizing n with
  | refl => exact ⟨[], by simp, .nil⟩
  | @cons s s₁ s' hstep _ ih =>
    have hr := h.refreshed
    cases hstep with
    | delta ht =>
      obtain ⟨made, hcalls, hmade⟩ := ih (h.append ht)
      obtain ⟨rest, -, rfl⟩ := eq_of_turn_take ht
      rw [low_of_dirty rfl] at hmade
      exact ⟨made, hcalls, hmade.weaken (low_le n s)⟩
    | frame ht =>
      obtain ⟨hdirty, now, -, -, rfl⟩ := eq_of_turn_frame ht
      obtain ⟨made, hcalls, hmade⟩ := ih (hr.atTime now).showFrame
      obtain ⟨made', hcalls', hmade'⟩ := (hr.atTime now).edits_frame hmade
      rw [low_of_dirty hdirty]
      exact ⟨made', hcalls.trans hcalls', hmade'⟩
    | sleep ht =>
      obtain ⟨ms, steps, hq, hw, rfl⟩ := eq_of_turn_sleep ht
      have hslept : Caught options deltas n ({ s.refreshed with
          feed := ⟨s.refreshed.feed.ready + ms, steps, []⟩ }.atTime
            (s.refreshed.feed.ready + ms)) := by
        refine ⟨hr.raw_eq, ?_, hr.taken, hr.options_eq, hr.coherent⟩
        rw [← hr.coming]
        simp [Session.atTime, Feed.pending, hq, hw]
      exact ih hslept

theorem run_edits {s : Session} (h : Caught options deltas n s) :
    ∃ made, s.run.1.channel.calls.reverse = s.channel.calls.reverse ++ made ∧
      Edits options deltas (s.low n) s.shown made := by
  obtain ⟨last, hs, he⟩ := run_steps s
  rw [he.channel_eq]
  exact edits_of_steps hs h

end Session
end Bot
end CitedReply
