import CitedReply.Proofs.Session.Calls

/-!
# CitedReply.Proofs.Preview

A preview shows the frame that a reply in progress would show of the same text.

A preview reads the text once and has no memory; a reply in progress has a renderer that remembers.
`renderer_of_steps` says of that renderer that it is one which has met some demands, so what it gives
is what any renderer of these options gives, whatever that was asked for before.

* `preview_call`: a preview says one line about the text, and below it the frame.
* `frames_agree`: no memory can be seen, neither of a reply in progress nor beside a preview.
-/

namespace CitedReply
namespace Bot

open Completion

theorem feed_not_mem_ofNat (n : Nat) : '\n' ∉ Text.ofNat n := by
  intro h
  have hdigit := Nat.isDigit_of_mem_toDigits (b := 10) (by decide) (by decide) h
  exact absurd hdigit (by decide)

theorem feed_not_mem_yesNo (b : Bool) : '\n' ∉ yesNo b := by
  cases b <;> decide

theorem previewText_eq (options : Options) (raw : Text) (streaming : Bool) :
    ∃ head, '\n' ∉ head ∧ previewText options raw streaming = head ++ "\n\n".toList ++
      (Frame.ofReading options raw (Reading.ofText raw) streaming).message options := by
  refine ⟨_, ?_, rfl⟩
  simp only [List.mem_append, feed_not_mem_ofNat, feed_not_mem_yesNo, or_false]
  decide

theorem preview_call (st : State) (ch : Channel) (text : Option Text) (streaming : Bool)
    (ds : List Renderer.Demand) :
    ∃ head, '\n' ∉ head ∧ (preview st ch text streaming).1.calls =
      ⟨ch.now, .send, Message.truncate Message.limit (head ++ "\n\n".toList ++
        ((Renderer.after st.settings.options ds).render ((text.map unescapeLines).getD [])
          streaming).1.message st.settings.options), true, ch.refusesNext⟩ :: ch.calls := by
  obtain ⟨head, hhead, htext⟩ :=
    previewText_eq st.settings.options ((text.map unescapeLines).getD []) streaming
  refine ⟨head, hhead, ?_⟩
  rw [Renderer.render_after, ← htext]
  rfl

theorem Session.renderer_of_steps {settings : Settings} {frameFirst : Nat → Bool} {lag : Nat → Nat}
    {pieces : List Piece} {channel : Channel} {s : Session}
    (hs : Steps (opening settings frameFirst lag pieces channel) s) :
    ∃ ds, s.renderer = Renderer.after settings.options ds := by
  refine hs.preserves (P := fun s => ∃ ds, s.renderer = Renderer.after settings.options ds) ?_
    ⟨[], rfl⟩
  rintro s s' ⟨ds, hds⟩ hstep
  rcases hstep.unframed_or_frame with hu | ⟨t, ht, rfl⟩
  · exact ⟨ds, hu.renderer_eq.trans hds⟩
  · obtain ⟨-, now, -, -, rfl⟩ := eq_of_turn_frame ht
    refine ⟨ds ++ [.frame s.raw true], ?_⟩
    have hrenderer : (s.refreshed.atTime now).renderer = s.renderer := rfl
    rw [renderer_showFrame, hrenderer, hds, Renderer.after, Renderer.after, Renderer.answers_concat]
    rfl

theorem Session.renderer_of_run (settings : Settings) (frameFirst : Nat → Bool) (lag : Nat → Nat)
    (pieces : List Piece) (channel : Channel) :
    ∃ ds, (opening settings frameFirst lag pieces channel).run.1.renderer =
      Renderer.after settings.options ds := by
  obtain ⟨last, hs, he⟩ := run_steps (opening settings frameFirst lag pieces channel)
  rw [he.renderer_eq]
  exact renderer_of_steps hs

/-- What a renderer remembers cannot be seen in its answers. So a preview shows of a text what a
renderer shows of it that has met any demands, and so does a reply in progress or at its end. -/
theorem frames_agree (options : Options) (ds : List Renderer.Demand) :
    ((Renderer.ofOptions options).answers ds).1 = ds.map (Renderer.fresh options) ∧
      (∀ (st : State) (ch : Channel) (text : Option Text) (streaming : Bool),
        st.settings.options = options →
        ∃ head, '\n' ∉ head ∧ (preview st ch text streaming).1.calls =
          ⟨ch.now, .send, Message.truncate Message.limit (head ++ "\n\n".toList ++
            ((Renderer.after options ds).render ((text.map unescapeLines).getD [])
              streaming).1.message options), true, ch.refusesNext⟩ :: ch.calls) ∧
      ∀ (settings : Settings) (frameFirst : Nat → Bool) (lag : Nat → Nat) (pieces : List Piece)
        (channel : Channel) (s : Session), settings.options = options →
        Session.Steps (Session.opening settings frameFirst lag pieces channel) s ∨
          s = (Session.opening settings frameFirst lag pieces channel).run.1 →
        ∀ streaming, (s.renderer.render s.raw streaming).1 =
          ((Renderer.after options ds).render s.raw streaming).1 := by
  refine ⟨Renderer.answers_eq (Renderer.coherent_ofOptions options) ds, ?_, ?_⟩
  · rintro st ch text streaming rfl
    exact preview_call st ch text streaming ds
  · rintro settings frameFirst lag pieces channel s rfl hs streaming
    have hafter : ∃ earlier, s.renderer = Renderer.after settings.options earlier := by
      rcases hs with hs | rfl
      · exact Session.renderer_of_steps hs
      · exact Session.renderer_of_run settings frameFirst lag pieces channel
    obtain ⟨earlier, hearlier⟩ := hafter
    rw [hearlier, Renderer.render_after, Renderer.render_after]

/-- A renderer that has met a longer text, a shorter one and the text itself, beside that of a reply at
its end. -/
theorem frames_agree_slow :
    (atEnd quietState slowInvocation slowPieces).raw = "Hi there".toList ∧
      ((atEnd quietState slowInvocation slowPieces).renderer.last.map fun l => l.1) =
        some "Hi there".toList ∧
      ∀ streaming, ((atEnd quietState slowInvocation slowPieces).renderer.render
          (atEnd quietState slowInvocation slowPieces).raw streaming).1 =
        ((Renderer.after Settings.default.options [.frame "Hi there [cite-1]".toList true,
            .reading "Hi".toList, .frame "Hi there".toList true]).render
          (atEnd quietState slowInvocation slowPieces).raw streaming).1 := by
  have hraw : (atEnd quietState slowInvocation slowPieces).raw = "Hi there".toList := by
    decide +kernel
  have hlast : ((atEnd quietState slowInvocation slowPieces).renderer.last.map fun l => l.1) =
      some "Hi there".toList := by
    decide +kernel
  exact ⟨hraw, hlast, (frames_agree Settings.default.options _).2.2 Settings.default
    slowInvocation.frameFirst slowInvocation.lag slowPieces (acknowledged slowInvocation) _ rfl
    (.inr rfl)⟩

end Bot
end CitedReply
