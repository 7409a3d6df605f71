import CitedReply.Proofs.Session.Edits

/-!
# CitedReply.Proofs.Session.Calls

The calls that a question leads to: its acknowledgement, then either the note that the request has
failed, or the edits while the stream runs and the calls that put the whole reply in place. Nothing
follows a refused acknowledgement.

* `calls_of_failed`, `calls_of_opened`: the calls of every run.
* `streamed_inOrder`: the edits while the stream runs keep up with its deltas.
-/

namespace CitedReply
namespace Bot

open Completion

/-- The first call. -/
def acknowledgement (inv : Invocation) : Call := ⟨0, .say, thinking, false, inv.channel.refusesNext⟩

theorem calls_acknowledged (inv : Invocation) :
    (acknowledged inv).calls = [acknowledgement inv] := rfl

/-- The text of the edit that says that a request has failed. -/
def failureText (failure : RequestFailure) : Text := "Request failed: ".toList ++ failure.message

variable {st : State} {inv : Invocation} {question : Text}

theorem ask_of_failed {failure : RequestFailure} (h : inv.channel.refusesNext = false)
    (hf : opened inv.response = .error failure) :
    ask st inv question =
      (((acknowledged inv).request .edit (failureText failure) false).1,
        ((acknowledged inv).request .edit (failureText failure) false).2,
        some (st.service.request question)) := by
  rw [ask, request_thinking, h, hf]
  rfl

theorem calls_of_failed (st : State) {inv : Invocation} (question : Text)
    {failure : RequestFailure} (hf : opened inv.response = .error failure) :
    ∃ note, (ask st inv question).1.calls.reverse = acknowledgement inv :: note ∧
      note.map (fun c => (c.kind, c.text)) =
        if inv.channel.refusesNext then [] else [(.edit, failureText failure)] := by
  by_cases h : inv.channel.refusesNext = true
  · refine ⟨[], ?_, by rw [if_pos h]; rfl⟩
    rw [ask_of_unacknowledged h, calls_acknowledged]
    rfl
  · rw [ask_of_failed (by simpa using h) hf, if_neg h]
    exact ⟨_, rfl, rfl⟩

/-- What a question has to say that fails. -/
theorem forall_calls_of_failed_iff {failure : RequestFailure}
    (hf : opened inv.response = .error failure) {P : Text → Prop} (hp : P thinking) :
    (∀ c ∈ (ask st inv question).1.calls, P c.text) ↔
      (inv.channel.refusesNext = false → P (failureText failure)) := by
  obtain ⟨note, hcalls, hnote⟩ := calls_of_failed st question hf
  have hack : P (acknowledgement inv).text := hp
  have hmem : ∀ c, c ∈ (ask st inv question).1.calls ↔ c = acknowledgement inv ∨ c ∈ note := by
    intro c
    rw [← List.mem_reverse, hcalls, List.mem_cons]
  simp only [hmem, forall_eq_or_imp, hack, true_and]
  cases hr : inv.channel.refusesNext with
  | true =>
    rw [hr, if_pos rfl, List.map_eq_nil_iff] at hnote
    simp [hnote]
  | false =>
    rw [hr, if_neg (by decide)] at hnote
    obtain ⟨c, rfl, hc⟩ := List.map_eq_singleton_iff.1 hnote
    have htext : c.text = failureText failure := (Prod.mk.inj hc).2
    simp [htext]

/-- The edits that are made while a stream runs. -/
def streamed (st : State) (inv : Invocation) (question : Text) (pieces : List Piece) : List Call :=
  ((ask st inv question).1.calls.reverse.take (atEnd st inv pieces).channel.calls.length).tail

theorem calls_atEnd (st : State) (inv : Invocation) (pieces : List Piece) :
    ∃ made, (atEnd st inv pieces).channel.calls.reverse = acknowledgement inv :: made ∧
      Edits st.settings.options (deltas pieces) 1 [] made :=
  Session.run_edits (Session.Caught.opening st.settings inv.frameFirst inv.lag pieces
    (acknowledged inv))

/-- Behind a refused acknowledgement no stream is run. -/
theorem parts_of_unacknowledged (st : State) {inv : Invocation} (question : Text)
    (pieces : List Piece) (h : inv.channel.refusesNext = true) :
    streamed st inv question pieces = [] ∧ closing st inv question pieces = [] := by
  obtain ⟨made, hmade, -⟩ := calls_atEnd st inv pieces
  have hlength : (atEnd st inv pieces).channel.calls.length = made.length + 1 := by
    rw [← List.length_reverse, hmade, List.length_cons]
  rw [streamed, closing, ask_of_unacknowledged h, hlength, calls_acknowledged]
  simp

/-- Where the stream runs, the calls of its end come behind those made so far. -/
theorem parts_of_streamed {st : State} {inv : Invocation} (question : Text) {pieces : List Piece}
    (h : inv.channel.refusesNext = false) (hopen : opened inv.response = .ok pieces)
    {closed : List Call}
    (hclosed : (atClose st inv pieces).1.calls.reverse =
      (atEnd st inv pieces).channel.calls.reverse ++ closed) :
    acknowledgement inv :: streamed st inv question pieces =
        (atEnd st inv pieces).channel.calls.reverse ∧
      closing st inv question pieces = closed := by
  obtain ⟨made, hmade, -⟩ := calls_atEnd st inv pieces
  rw [streamed, closing, ask_of_streamed h hopen, hclosed, ← List.length_reverse, hmade]
  simp

/-- The turns that a stream is run by, up to the last one, and the calls made in them. -/
theorem steps_of_streamed (st : State) {inv : Invocation} (question : Text) {pieces : List Piece}
    (h : inv.channel.refusesNext = false) (hopen : opened inv.response = .ok pieces) :
    ∃ last, Session.Steps
        (Session.opening st.settings inv.frameFirst inv.lag pieces (acknowledged inv)) last ∧
      last.channel.calls.reverse = acknowledgement inv :: streamed st inv question pieces := by
  obtain ⟨last, hs, he⟩ := Session.run_steps
    (Session.opening st.settings inv.frameFirst inv.lag pieces (acknowledged inv))
  obtain ⟨closed, hclosed, -⟩ := (atEnd st inv pieces).channel.requests_heeded
    (closingCalls (finalText st.settings.options (received pieces).1 (received pieces).2))
  refine ⟨last, hs, ?_⟩
  rw [(parts_of_streamed question h hopen hclosed).1, atEnd, he.channel_eq]

theorem calls_of_opened (st : State) {inv : Invocation} (question : Text) {pieces : List Piece}
    (hopen : opened inv.response = .ok pieces) :
    (ask st inv question).1.calls.reverse =
        acknowledgement inv :: (streamed st inv question pieces ++ closing st inv question pieces) ∧
      Edits st.settings.options (deltas pieces) 1 [] (streamed st inv question pieces) ∧
      (closing st inv question pieces).map (fun c => (c.kind, c.text)) <+:
        closingCalls (finalText st.settings.options (received pieces).1 (received pieces).2) := by
  by_cases h : inv.channel.refusesNext = true
  · obtain ⟨hstreamed, hclosing⟩ := parts_of_unacknowledged st question pieces h
    rw [hstreamed, hclosing, ask_of_unacknowledged h, calls_acknowledged]
    exact ⟨rfl, .nil, List.nil_prefix⟩
  · rw [Bool.not_eq_true] at h
    obtain ⟨made, hmade, hedits⟩ := calls_atEnd st inv pieces
    obtain ⟨closed, hclosed, hprefix, -⟩ := (atEnd st inv pieces).channel.requests_heeded
      (closingCalls (finalText st.settings.options (received pieces).1 (received pieces).2))
    obtain ⟨hstreamed, hclosing⟩ := parts_of_streamed question h hopen hclosed
    obtain ⟨-, rfl⟩ := List.cons.inj (hstreamed.trans hmade)
    rw [hclosing, ask_of_streamed h hopen, atClose, hclosed, hmade]
    exact ⟨rfl, hedits, hprefix⟩

theorem mem_calls_of_opened_iff {pieces : List Piece} (hopen : opened inv.response = .ok pieces)
    {c : Call} :
    c ∈ (ask st inv question).1.calls ↔ c = acknowledgement inv ∨
      c ∈ streamed st inv question pieces ∨ c ∈ closing st inv question pieces := by
  rw [← List.mem_reverse, (calls_of_opened st question hopen).1, List.mem_cons, List.mem_append]

/-- A question that is refused no call is answered. -/
theorem ask_accepted (st : State) {inv : Invocation} (question : Text) {pieces : List Piece}
    (hopen : opened inv.response = .ok pieces) (hr : inv.refusals = []) :
    (ask st inv question).2.1 = none := by
  have hack : inv.channel.refusesNext = false := by
    simp [Invocation.channel, Channel.start, Channel.refusesNext, hr]
  have hend : (atEnd st inv pieces).channel.refusals = [] := (Session.refusals_run _).trans hr
  rw [ask_of_streamed hack hopen]
  exact Channel.requests_of_no_refusals hend _

/-- While a stream runs, each edit shows the deltas that have come so far, and one more at least than
the last that was accepted. -/
theorem streamed_inOrder (st : State) {inv : Invocation} (question : Text) {pieces : List Piece}
    (hopen : opened inv.response = .ok pieces) :
    (ask st inv question).1.calls.reverse =
        acknowledgement inv :: (streamed st inv question pieces ++ closing st inv question pieces) ∧
      ∃ counts, InOrder st.settings.options (deltas pieces) (streamed st inv question pieces)
        counts := by
  obtain ⟨hcalls, hedits, -⟩ := calls_of_opened st question hopen
  exact ⟨hcalls, hedits.inOrder⟩

/-- A piece of one line, which adds a text that needs no escapes. -/
def saying (wait : Nat) (content : String) : Piece :=
  ⟨wait, some (Utf8.encode (("data: \x7b\"choices\":[\x7b\"delta\":\x7b\"content\":\"" ++ content ++
    "\"\x7d\x7d]\x7d\n").toList))⟩

def slowPieces : List Piece := [saying 5 "Hi", saying 2000 " there", ⟨2000, some []⟩]

def slowInvocation : Invocation where
  command := .ask (some [])
  user := 1
  latency := 10
  refusals := [1]
  response := .stream slowPieces
  frameFirst := fun _ => false

/-- The first edit is refused and made again before more has come. -/
theorem streamed_inOrder_slow :
    opened slowInvocation.response = .ok slowPieces ∧
      (streamed quietState slowInvocation [] slowPieces).map (fun c => (c.text, c.refused)) =
        [("Hi".toList, true), ("Hi".toList, false), ("Hi there".toList, false)] ∧
      ∃ counts, InOrder quietState.settings.options (deltas slowPieces)
        (streamed quietState slowInvocation [] slowPieces) counts := by
  have hstreamed : (streamed quietState slowInvocation [] slowPieces).map
      (fun c => (c.text, c.refused)) =
        [("Hi".toList, true), ("Hi".toList, false), ("Hi there".toList, false)] := by
    decide +kernel
  exact ⟨rfl, hstreamed, (streamed_inOrder quietState [] rfl).2⟩

end Bot
end CitedReply
