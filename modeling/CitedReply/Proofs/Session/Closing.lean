import CitedReply.Bot.Command
import CitedReply.Proofs.Channel
import CitedReply.Proofs.Citation.Block
import CitedReply.Proofs.Feed
import CitedReply.Proofs.Link.Reading
import CitedReply.Proofs.Renderer
import CitedReply.Proofs.Session.Run

/-!
# CitedReply.Proofs.Session.Closing

The reply that stands in the channel at the end is fixed by what the stream brought and by the
options. Pieces, waits, latency, late frames, their interval, ties and refused frames leave no trace
in it.

* `Faithful`: the text taken so far and the signals still to come make up what the stream brings,
  and the renderer remembers nothing false. Each step keeps it (`Faithful.step`).
* `run_received`: so a run ends with exactly the text and the failure of the stream.
* `closing_delivers`: the calls after the stream are one edit and then messages, and their texts in a
  row are `finalText`.
-/

namespace CitedReply
namespace Bot

open Completion

namespace Session

/-- Nothing of what the stream brings has been lost, doubled or moved, and the renderer can be
trusted. -/
structure Faithful (options : Options) (whole : Text × Option StreamFailure) (s : Session) : Prop where
  split : (s.raw ++ (outcome s.feed.pending).1, (outcome s.feed.pending).2) = whole
  options_eq : s.renderer.options = options
  coherent : s.renderer.Coherent

variable {options : Options} {whole : Text × Option StreamFailure}

theorem Faithful.refreshed {s : Session} (h : Faithful options whole s) :
    Faithful options whole s.refreshed := by
  refine ⟨?_, h.options_eq, h.coherent⟩
  rw [← h.split]
  simp [Session.refreshed]

theorem Faithful.opening (settings : Settings) (frameFirst : Nat → Bool) (lag : Nat → Nat)
    (pieces : List Piece) (channel : Channel) :
    Faithful settings.options (received pieces)
      (Session.opening settings frameFirst lag pieces channel) := by
  refine ⟨?_, rfl, Renderer.coherent_ofOptions _⟩
  rw [← outcome_stepsOfPieces]
  rfl

theorem Faithful.showFrame {s : Session} (h : Faithful options whole s) :
    Faithful options whole s.showFrame := by
  refine ⟨?_, ?_, ?_⟩
  · rw [raw_showFrame, feed_showFrame]
    exact h.split
  · rw [renderer_showFrame, Renderer.options_render]
    exact h.options_eq
  · rw [renderer_showFrame]
    exact Renderer.coherent_render h.coherent _ _

theorem Faithful.atTime {s : Session} (h : Faithful options whole s) (now : Nat) :
    Faithful options whole (s.atTime now) := ⟨h.split, h.options_eq, h.coherent⟩

theorem Faithful.step {s s' : Session} (h : Faithful options whole s) (hs : Step s s') :
    Faithful options whole s' := by
  have hr := h.refreshed
  cases hs with
  | delta ht =>
    obtain ⟨rest, hq, rfl⟩ := eq_of_turn_take ht
    refine ⟨?_, hr.options_eq, hr.coherent⟩
    rw [← hr.split, Feed.pending_take hq s.now]
    simp [append, outcome]
  | frame ht =>
    obtain ⟨_, now, _, _, rfl⟩ := eq_of_turn_frame ht
    exact (hr.atTime now).showFrame
  | sleep ht =>
    obtain ⟨ms, steps, hq, hw, rfl⟩ := eq_of_turn_sleep ht
    refine ⟨?_, hr.options_eq, hr.coherent⟩
    rw [← hr.split]
    simp [Session.atTime, Feed.pending, hq, hw]

theorem Faithful.ends {s s' : Session} {failure : Option StreamFailure}
    (h : Faithful options whole s) (he : Ends s s' failure) :
    (s'.raw, failure) = whole ∧ s'.renderer.options = options ∧ s'.renderer.Coherent := by
  have hr := h.refreshed
  cases he with
  | failure ht =>
    obtain ⟨rest, hq, rfl⟩ := eq_of_turn_take ht
    refine ⟨?_, hr.options_eq, hr.coherent⟩
    rw [← hr.split, Feed.pending_take hq s.now]
    simp [outcome]
  | stop ht =>
    obtain ⟨hq, hw, rfl⟩ := eq_of_turn_stop ht
    refine ⟨?_, hr.options_eq, hr.coherent⟩
    have hp : s.refreshed.feed.pending = [] := by
      have hf : s.feed.pending = [] := Feed.pending_of_idle hq hw
      simpa [Session.refreshed] using hf
    rw [← hr.split, hp]
    simp [outcome]

theorem run_received {s : Session} (h : Faithful options whole s) :
    (s.run.1.raw, s.run.2) = whole ∧ s.run.1.renderer.options = options ∧
      s.run.1.renderer.Coherent := by
  obtain ⟨last, hs, he⟩ := run_steps s
  have hl : Faithful options whole last :=
    hs.preserves (P := Faithful options whole) (fun _ _ hp hstep => hp.step hstep) h
  exact hl.ends he

end Session

/-! ## The calls at the end -/

/-- The whole reply: what is shown of it when nothing more comes, a note if it was broken off, and a
fixed text in the place of one that is blank. -/
def finalText (options : Options) (raw : Text) (failure : Option StreamFailure) : Text :=
  let body := (Frame.ofReading options raw (Reading.ofText raw) false).message options
  let note := failure.elim [] fun reason =>
    "\n\n*Reply interrupted: ".toList ++ reason.message ++ "*".toList
  if Text.isBlank (body ++ note) then "*The agent returned an empty reply.*".toList
  else body ++ note

theorem closingText_eq (options : Options) (raw : Text) (failure : Option StreamFailure) :
    closingText options (Frame.ofReading options raw (Reading.ofText raw) false) failure =
      finalText options raw failure := by
  cases failure <;> rfl

theorem finalText_ne_nil (options : Options) (raw : Text) (failure : Option StreamFailure) :
    finalText options raw failure ≠ [] := by
  simp only [finalText]
  split
  · decide
  · rename_i hb
    intro he
    rw [he] at hb
    exact hb rfl

/-- A reply without brackets, tags and white space at its ends is put in place as it stands. -/
theorem finalText_of_plain (options : Options) {raw : Text} (hbracket : '[' ∉ raw)
    (htag : '<' ∉ raw) (ht : Text.Trimmed raw) (hvisible : Text.isBlank raw = false) :
    finalText options raw none = raw := by
  have hopen : ¬ Block.openTag <:+: raw := fun h => htag (h.subset (by decide))
  have hreading : Reading.ofText raw = ⟨[], raw⟩ := by
    rw [Reading.ofText_of_no_open hopen, Text.trim_of_trimmed ht]
  have hshown : Suppression.applies raw raw false = false := by
    simp [Suppression.applies, Suppression.isUnresolved, Marker.ids_of_no_bracket hbracket]
  have hframe : Frame.ofReading options raw ⟨[], raw⟩ false = .body raw := by
    simp [Frame.ofReading, hshown, Frame.shown, Frame.bodyText, Link.annotate,
      Link.split_of_none (Link.next?_of_no_bracket hbracket), Citation.firstPerUrl]
  simp only [finalText, hreading, hframe, Frame.message]
  simp [hvisible]

/-- The channel when the question has been acknowledged. -/
def acknowledged (inv : Invocation) : Channel :=
  (inv.channel.request .say thinking false).1

/-- The session when its stream has ended. -/
def atEnd (st : State) (inv : Invocation) (pieces : List Piece) : Session :=
  (Session.opening st.settings inv.frameFirst inv.lag pieces (acknowledged inv)).run.1

/-- The calls that a question leads to once its stream has ended. -/
def closing (st : State) (inv : Invocation) (question : Text) (pieces : List Piece) : List Call :=
  (ask st inv question).1.calls.reverse.drop (atEnd st inv pieces).channel.calls.length

/-- The channel when the whole reply has been put in place, and whether that was refused. -/
def atClose (st : State) (inv : Invocation) (pieces : List Piece) : Channel × Option CommandError :=
  (atEnd st inv pieces).channel.requests
    (closingCalls (finalText st.settings.options (received pieces).1 (received pieces).2))

theorem streamReply_eq (st : State) (inv : Invocation) (pieces : List Piece) :
    streamReply st.settings inv.frameFirst inv.lag pieces (acknowledged inv) =
      atClose st inv pieces := by
  obtain ⟨hr, ho, hc⟩ := Session.run_received
    (Session.Faithful.opening st.settings inv.frameFirst inv.lag pieces (acknowledged inv))
  simp only [streamReply]
  rw [Renderer.render_eq hc, ho, atClose, ← closingText_eq, ← hr]
  rfl

theorem request_thinking (inv : Invocation) :
    inv.channel.request .say thinking false =
      (acknowledged inv, if inv.channel.refusesNext then some (.callRefused 0) else none) := rfl

theorem ask_of_unacknowledged {st : State} {inv : Invocation} {question : Text}
    (h : inv.channel.refusesNext = true) :
    ask st inv question = (acknowledged inv, some (.callRefused 0), none) := by
  rw [ask, request_thinking, if_pos h]

theorem ask_of_streamed {st : State} {inv : Invocation} {question : Text} {pieces : List Piece}
    (h : inv.channel.refusesNext = false) (hopen : opened inv.response = .ok pieces) :
    ask st inv question =
      ((atClose st inv pieces).1, (atClose st inv pieces).2, some (st.service.request question)) := by
  rw [← streamReply_eq, ask, request_thinking, h, hopen]
  rfl

theorem ask_of_opened {st : State} {inv : Invocation} {question : Text} {pieces : List Piece}
    (hopen : opened inv.response = .ok pieces) (hok : (ask st inv question).2.1 = none) :
    (atClose st inv pieces).2 = none ∧ (ask st inv question).1 = (atClose st inv pieces).1 := by
  by_cases h : inv.channel.refusesNext = true
  · rw [ask_of_unacknowledged h] at hok
    cases hok
  · rw [ask_of_streamed (by simpa using h) hopen] at hok ⊢
    exact ⟨hok, rfl⟩

theorem closing_calls {st : State} {inv : Invocation} {question : Text} {pieces : List Piece}
    (hopen : opened inv.response = .ok pieces) (hok : (ask st inv question).2.1 = none) :
    (ask st inv question).1.calls.reverse =
        (atEnd st inv pieces).channel.calls.reverse ++ closing st inv question pieces ∧
      (closing st inv question pieces).map (fun c => (c.kind, c.text)) =
        closingCalls (finalText st.settings.options (received pieces).1 (received pieces).2) ∧
      ∀ c ∈ closing st inv question pieces, c.refused = false := by
  obtain ⟨hnone, hch⟩ := ask_of_opened hopen hok
  obtain ⟨made, hcalls, -, hheeded, hmade⟩ := Channel.requests_heeded (atEnd st inv pieces).channel
    (closingCalls (finalText st.settings.options (received pieces).1 (received pieces).2))
  rw [← atClose] at hcalls hheeded hmade
  rw [← hch] at hcalls
  rw [hnone] at hheeded
  have hclosing : closing st inv question pieces = made := by
    rw [closing, hcalls, ← List.length_reverse, List.drop_left]
  rw [hclosing]
  exact ⟨hcalls, hmade hnone, hheeded.accepted_of_none⟩

theorem closingCalls_texts (text : Text) : ((closingCalls text).map (·.2)).flatten = text := by
  have hsplit := Message.flatten_split Message.limit text
  unfold closingCalls
  split
  · rename_i hs
    rw [hs] at hsplit
    exact hsplit
  · rename_i first rest hs
    rw [hs] at hsplit
    simpa [Function.comp_def] using hsplit

theorem closingCalls_kinds {text : Text} (h : text ≠ []) :
    ∃ n, (closingCalls text).map (·.1) = .edit :: List.replicate n .say := by
  have hsplit := Message.flatten_split Message.limit text
  unfold closingCalls
  split
  · rename_i hs
    rw [hs] at hsplit
    exact absurd hsplit.symm h
  · rename_i first rest hs
    exact ⟨rest.length, by simp [Function.comp_def, List.map_const']⟩

/-- The calls after the end of the stream put a text in place: one edit and then messages, all of
them accepted, that say it in a row. -/
structure PutInPlace (st : State) (inv : Invocation) (question : Text) (pieces : List Piece)
    (text : Text) : Prop where
  appended : (ask st inv question).1.calls.reverse =
    (atEnd st inv pieces).channel.calls.reverse ++ closing st inv question pieces
  kinds : ∃ n, (closing st inv question pieces).map (·.kind) = .edit :: List.replicate n .say
  accepted : ∀ c ∈ closing st inv question pieces, c.refused = false
  texts : ((closing st inv question pieces).map (·.text)).flatten = text

theorem putInPlace_finalText {st : State} {inv : Invocation} {question : Text} {pieces : List Piece}
    (hopen : opened inv.response = .ok pieces) (hok : (ask st inv question).2.1 = none) :
    PutInPlace st inv question pieces
      (finalText st.settings.options (received pieces).1 (received pieces).2) := by
  obtain ⟨happended, hcalls, haccepted⟩ := closing_calls hopen hok
  refine ⟨happended, ?_, haccepted, ?_⟩
  · obtain ⟨n, hn⟩ := closingCalls_kinds
      (finalText_ne_nil st.settings.options (received pieces).1 (received pieces).2)
    rw [← hcalls, List.map_map] at hn
    exact ⟨n, hn⟩
  · rw [← closingCalls_texts (finalText _ _ _), ← hcalls, List.map_map]
    rfl

/-- A question that is answered ends with the final text for what its stream brought. Any other one
whose stream brings the same, under the same options, ends with the same text, whatever its pieces,
waits, latency, frames and refusals are. -/
theorem closing_delivers {st : State} {inv : Invocation} {question : Text} {pieces : List Piece}
    (hopen : opened inv.response = .ok pieces) (hok : (ask st inv question).2.1 = none) :
    PutInPlace st inv question pieces
        (finalText st.settings.options (received pieces).1 (received pieces).2) ∧
      ∀ (st' : State) (inv' : Invocation) (question' : Text) (pieces' : List Piece),
        opened inv'.response = .ok pieces' → (ask st' inv' question').2.1 = none →
        st'.settings.options = st.settings.options → received pieces' = received pieces →
        PutInPlace st' inv' question' pieces'
          (finalText st.settings.options (received pieces).1 (received pieces).2) := by
  refine ⟨putInPlace_finalText hopen hok, ?_⟩
  intro st' inv' question' pieces' hopen' hok' hoptions hreceived
  rw [← hoptions, ← hreceived]
  exact putInPlace_finalText hopen' hok'

def brokenPieces : List Piece :=
  [⟨5, some (Utf8.encode
      "data: \x7b\"choices\":[\x7b\"delta\":\x7b\"content\":\"Hi\"\x7d\x7d]\x7d\n".toList)⟩,
    ⟨5, none⟩]

def brokenInvocation : Invocation where
  command := .ask (some [])
  user := 1
  latency := 10
  delay := fun n => n
  refusals := [1]
  response := .stream brokenPieces
  frameFirst := fun _ => true
  lag := fun _ => 1

def quietState : State := ⟨⟨[], [], none, 300⟩, [], Settings.default⟩

/-- The only frame is refused, and then the connection breaks. -/
theorem closing_delivers_broken :
    opened brokenInvocation.response = .ok brokenPieces ∧
      (ask quietState brokenInvocation []).2.1 = none ∧
      PutInPlace quietState brokenInvocation [] brokenPieces
        "Hi\n\n*Reply interrupted: LLM stream interrupted*".toList := by
  have hok : (ask quietState brokenInvocation []).2.1 = none := by decide +kernel
  have htext : finalText quietState.settings.options (received brokenPieces).1
      (received brokenPieces).2 = "Hi\n\n*Reply interrupted: LLM stream interrupted*".toList := by
    decide +kernel
  refine ⟨rfl, hok, ?_⟩
  rw [← htext]
  exact (closing_delivers rfl hok).1

end Bot
end CitedReply
