import CitedReply.Proofs.Session.Calls
import CitedReply.Proofs.Session.Retries

/-!
# CitedReply.Proofs.Session.Refusals

What becomes of a question if the channel refuses some of its calls. The acknowledgement, the note on
a failed request, the edit that puts the reply in place and the messages behind it have to succeed;
an edit while the stream runs does not.

* `FailsAtFirst`: the error of a command is that of the first of its `essential` calls that is
  refused, and no call follows.
* `GetsOver`: an answer that streams in goes on behind refused edits, and ends with a note on what
  broke its stream off.
* `ask_fails_at_first`: both, for every question and all refusals.
-/

namespace CitedReply
namespace Bot

open Completion

/-- What a command is made to fail by, where some of its calls have to succeed: the first of these
that is refused. -/
structure FailsAtFirst (calls essential : List Call) (error : Option CommandError) : Prop where
  fails_iff : error ≠ none ↔ ∃ c ∈ essential, c.refused = true
  first : ∀ e, error = some e → ∃ made front c, calls = made ++ [c] ∧ essential = front ++ [c] ∧
    c.refused = true ∧ (∀ d ∈ front, d.refused = false) ∧ e = .callRefused made.length

/-- The calls that have to succeed may come behind others, if those that have to succeed among the
others did. -/
theorem Heeded.failsAtFirst {made ending : List Call} {error : Option CommandError}
    (h : Heeded made.length ending error) (kept : List Call) (hkept : ∀ c ∈ kept, c.refused = false) :
    FailsAtFirst (made ++ ending) (kept ++ ending) error where
  fails_iff := by
    rw [h.error_ne_none_iff]
    constructor
    · rintro ⟨c, hc, hr⟩
      exact ⟨c, List.mem_append_right _ hc, hr⟩
    · rintro ⟨c, hc, hr⟩
      rcases List.mem_append.1 hc with hc | hc
      · rw [hkept c hc] at hr
        cases hr
      · exact ⟨c, hc, hr⟩
  first := by
    rintro e rfl
    obtain ⟨front, c, rfl, hr, hfront, he⟩ := h.eq_of_error
    refine ⟨made ++ front, kept ++ front, c, by simp, by simp, hr, ?_, by simp [he]⟩
    intro d hd
    rcases List.mem_append.1 hd with hd | hd
    · exact hkept d hd
    · exact hfront d hd

/-! ## Questions -/

variable {st : State} {inv : Invocation} {question : Text}

/-- The calls of a question that have to succeed: all but the edits while its stream runs. -/
def essential (st : State) (inv : Invocation) (question : Text) : List Call :=
  match opened inv.response with
  | .error _ => (ask st inv question).1.calls.reverse
  | .ok pieces => acknowledgement inv :: closing st inv question pieces

theorem Channel.requests_singleton (ch : Channel) (kind : CallKind) (text : Text) :
    ch.requests [(kind, text)] = ch.request kind text false := by
  by_cases hr : ch.refusesNext = true <;> simp [requests, request, hr]

theorem kept_ask (st : State) (inv : Invocation) (question : Text) :
    (ask st inv question).1.Kept ∧ (ask st inv question).1.refusals = inv.refusals := by
  have hack : (acknowledged inv).Kept := (Channel.kept_start _ _).call .say thinking false
  by_cases h : inv.channel.refusesNext = true
  · rw [ask_of_unacknowledged h]
    exact ⟨hack, rfl⟩
  · rw [Bool.not_eq_true] at h
    cases ho : opened inv.response with
    | error failure =>
      rw [ask_of_failed h ho]
      exact ⟨hack.call .edit _ false, rfl⟩
    | ok pieces =>
      rw [ask_of_streamed h ho]
      have hend : (atEnd st inv pieces).channel.Kept := Session.kept_run hack
      have hrefusals : (atEnd st inv pieces).channel.refusals = inv.refusals :=
        Session.refusals_run _
      obtain ⟨hkept, heq⟩ := hend.requests
        (closingCalls (finalText st.settings.options (received pieces).1 (received pieces).2))
      exact ⟨hkept, heq.trans hrefusals⟩

theorem failsAtFirst_ask (st : State) (inv : Invocation) (question : Text) :
    FailsAtFirst (ask st inv question).1.calls.reverse (essential st inv question)
      (ask st inv question).2.1 := by
  by_cases h : inv.channel.refusesNext = true
  · have hcalls : (ask st inv question).1.calls.reverse = [acknowledgement inv] := by
      rw [ask_of_unacknowledged h, calls_acknowledged]
      rfl
    have hessential : essential st inv question = [acknowledgement inv] := by
      unfold essential
      split
      · exact hcalls
      · rw [(parts_of_unacknowledged st question _ h).2]
    have hheeded : Heeded ([] : List Call).length [acknowledgement inv]
        (some (.callRefused 0)) := .refused h
    rw [hcalls, hessential, ask_of_unacknowledged h]
    exact hheeded.failsAtFirst [] (by simp)
  · rw [Bool.not_eq_true] at h
    have hkept : ∀ c ∈ [acknowledgement inv], c.refused = false := by simpa [acknowledgement] using h
    cases ho : opened inv.response with
    | error failure =>
      have hessential : essential st inv question = (ask st inv question).1.calls.reverse := by
        rw [essential, ho]
      obtain ⟨note, hnote, -, hheeded, -⟩ :=
        (acknowledged inv).requests_heeded [(.edit, failureText failure)]
      rw [Channel.requests_singleton] at hnote hheeded
      rw [hessential, ask_of_failed h ho, hnote]
      exact hheeded.failsAtFirst _ hkept
    | ok pieces =>
      obtain ⟨closed, hclosed, -, hheeded, -⟩ := (atEnd st inv pieces).channel.requests_heeded
        (closingCalls (finalText st.settings.options (received pieces).1 (received pieces).2))
      obtain ⟨hstreamed, hclosing⟩ := parts_of_streamed question h ho hclosed
      have hessential : essential st inv question = [acknowledgement inv] ++ closed := by
        rw [essential, ho]
        simp [hclosing]
      have hnext : (atEnd st inv pieces).channel.next =
          (atEnd st inv pieces).channel.calls.reverse.length := List.length_reverse.symm
      rw [hnext] at hheeded
      rw [hessential, ask_of_streamed h ho, atClose, hclosed]
      exact hheeded.failsAtFirst _ hkept

theorem request_ask (st : State) (inv : Invocation) (question : Text) :
    (ask st inv question).2.2 =
      if inv.channel.refusesNext then none else some (st.service.request question) := by
  by_cases h : inv.channel.refusesNext = true
  · rw [ask_of_unacknowledged h, if_pos h]
  · rw [if_neg h]
    rw [Bool.not_eq_true] at h
    cases ho : opened inv.response with
    | error failure => rw [ask_of_failed h ho]
    | ok pieces => rw [ask_of_streamed h ho]

/-- The note on what broke a reply off can be seen, so it makes up for a reply that is blank. -/
theorem finalText_of_failure (options : Options) (raw : Text) (reason : StreamFailure) :
    finalText options raw (some reason) =
      (Frame.ofReading options raw (Reading.ofText raw) false).message options ++
        ("\n\n*Reply interrupted: ".toList ++ reason.message ++ "*".toList) := by
  have hvisible : ∀ body : Text, Text.isBlank
      (body ++ ("\n\n*Reply interrupted: ".toList ++ reason.message ++ "*".toList)) = false := by
    intro body
    simp [Text.isBlank, Text.isSpace]
  exact if_neg (by rw [Option.elim_some, hvisible]; decide)

theorem closingCalls_ne_nil {text : Text} (h : text ≠ []) : closingCalls text ≠ [] := by
  intro hnil
  obtain ⟨n, hn⟩ := closingCalls_kinds h
  rw [hnil] at hn
  cases hn

/-- A reply is put in place, or that is tried, whatever edits were refused before. -/
theorem closing_ne_nil {pieces : List Piece} (h : inv.channel.refusesNext = false)
    (hopen : opened inv.response = .ok pieces) : closing st inv question pieces ≠ [] := by
  obtain ⟨closed, hclosed, -, hheeded, hall⟩ := (atEnd st inv pieces).channel.requests_heeded
    (closingCalls (finalText st.settings.options (received pieces).1 (received pieces).2))
  rw [(parts_of_streamed question h hopen hclosed).2]
  rintro rfl
  generalize ((atEnd st inv pieces).channel.requests _).2 = error at hheeded hall
  cases hheeded
  exact closingCalls_ne_nil (finalText_ne_nil _ _ _) (hall rfl).symm

/-- An answer that streams in gets over refused edits, and over the failure of its stream. -/
structure GetsOver (st : State) (inv : Invocation) (question : Text) (pieces : List Piece) :
    Prop where
  calls_eq : (ask st inv question).1.calls.reverse =
    acknowledgement inv :: (streamed st inv question pieces ++ closing st inv question pieces)
  closed : inv.channel.refusesNext = false → closing st inv question pieces ≠ []
  contents : (closing st inv question pieces).map (fun c => (c.kind, c.text)) <+:
    closingCalls (finalText st.settings.options (received pieces).1 (received pieces).2)
  whole : (ask st inv question).2.1 = none → ((closing st inv question pieces).map (·.text)).flatten =
    finalText st.settings.options (received pieces).1 (received pieces).2
  interrupted : ∀ reason, (received pieces).2 = some reason →
    "\n\n*Reply interrupted: ".toList ++ reason.message ++ "*".toList <:+
      finalText st.settings.options (received pieces).1 (received pieces).2
  retried : ∀ before c after, streamed st inv question pieces = before ++ c :: after →
    c.refused = true → ∃ s t, Session.Steps
        (Session.opening st.settings inv.frameFirst inv.lag pieces (acknowledged inv)) s ∧
      s.turn = .frame t ∧ t.showFrame.channel.calls = c :: s.channel.calls ∧
      s.channel.calls.reverse = acknowledgement inv :: before ∧ s.shown = lastAccepted [] before ∧
      Session.Retries st.settings.options s t

theorem retries_of_streamed {pieces : List Piece} (hopen : opened inv.response = .ok pieces)
    {before after : List Call} {c : Call}
    (he : streamed st inv question pieces = before ++ c :: after) (hr : c.refused = true) :
    ∃ s t, Session.Steps
        (Session.opening st.settings inv.frameFirst inv.lag pieces (acknowledged inv)) s ∧
      s.turn = .frame t ∧ t.showFrame.channel.calls = c :: s.channel.calls ∧
      s.channel.calls.reverse = acknowledgement inv :: before ∧ s.shown = lastAccepted [] before ∧
      Session.Retries st.settings.options s t := by
  by_cases h : inv.channel.refusesNext = true
  · rw [(parts_of_unacknowledged st question pieces h).1] at he
    simp at he
  · rw [Bool.not_eq_true] at h
    obtain ⟨last, hs, hcalls⟩ := steps_of_streamed st question h hopen
    obtain ⟨made, hmade⟩ := Session.traced_of_steps hs
    obtain ⟨-, hsame⟩ := List.cons.inj (hcalls.symm.trans hmade.calls_eq)
    obtain ⟨s, t, hsteps, ht, hc, hbefore, hshown⟩ :=
      hmade.frames before c after (hsame.symm.trans he)
    have hfaithful := (Session.Faithful.opening st.settings inv.frameFirst inv.lag pieces
      (acknowledged inv)).of_steps hsteps
    exact ⟨s, t, hsteps, ht, hc, hbefore, hshown, hfaithful.retries ht hc hr⟩

theorem getsOver_ask (st : State) {inv : Invocation} (question : Text) {pieces : List Piece}
    (hopen : opened inv.response = .ok pieces) : GetsOver st inv question pieces where
  calls_eq := (calls_of_opened st question hopen).1
  closed := fun h => closing_ne_nil h hopen
  contents := (calls_of_opened st question hopen).2.2
  whole := fun hok => (putInPlace_finalText hopen hok).texts
  interrupted := by
    intro reason hreason
    rw [hreason, finalText_of_failure]
    exact List.suffix_append _ _
  retried := fun _ _ _ he hr => retries_of_streamed hopen he hr

/-- A question fails exactly by the first of its essential calls that is refused, and makes no call
behind it; nothing is sent to the service unless the acknowledgement is accepted. Neither a refused
edit nor a broken stream makes it fail. -/
theorem ask_fails_at_first (st : State) (inv : Invocation) (question : Text) :
    FailsAtFirst (ask st inv question).1.calls.reverse (essential st inv question)
        (ask st inv question).2.1 ∧
      (∀ before c after, (ask st inv question).1.calls.reverse = before ++ c :: after →
        (c.refused = true ↔ before.length ∈ inv.refusals)) ∧
      ((ask st inv question).2.2 =
        if inv.channel.refusesNext then none else some (st.service.request question)) ∧
      (∀ failure, opened inv.response = .error failure →
        ∃ note, essential st inv question = acknowledgement inv :: note ∧
          note.map (fun c => (c.kind, c.text)) =
            if inv.channel.refusesNext then [] else [(.edit, failureText failure)]) ∧
      ∀ pieces, opened inv.response = .ok pieces →
        essential st inv question = acknowledgement inv :: closing st inv question pieces ∧
          GetsOver st inv question pieces := by
  obtain ⟨hkept, hrefusals⟩ := kept_ask st inv question
  refine ⟨failsAtFirst_ask st inv question, ?_, request_ask st inv question, ?_, ?_⟩
  · intro before c after he
    rw [← hrefusals]
    exact hkept.refused_iff he
  · intro failure hf
    rw [essential, hf]
    exact calls_of_failed st question hf
  · intro pieces hopen
    refine ⟨?_, getsOver_ask st question hopen⟩
    rw [essential, hopen]

def droppedPieces : List Piece := [saying 5 "Hi", ⟨2000, none⟩]

def droppedInvocation : Invocation where
  command := .ask (some [])
  user := 1
  latency := 10
  refusals := [1, 3]
  response := .stream droppedPieces
  frameFirst := fun _ => false

/-- The first edit is refused and made again before the connection breaks; then the edit that puts the
reply in place is refused. -/
theorem ask_fails_at_first_dropped :
    opened droppedInvocation.response = .ok droppedPieces ∧
      (ask quietState droppedInvocation []).1.calls.reverse.map (fun c => (c.text, c.refused)) =
        [(thinking, false), ("Hi".toList, true), ("Hi".toList, false),
          ("Hi\n\n*Reply interrupted: LLM stream interrupted*".toList, true)] ∧
      (ask quietState droppedInvocation []).2.1 = some (.callRefused 3) ∧
      FailsAtFirst (ask quietState droppedInvocation []).1.calls.reverse
        (essential quietState droppedInvocation []) (some (.callRefused 3)) ∧
      ∃ c after, streamed quietState droppedInvocation [] droppedPieces = c :: after ∧
        c.refused = true ∧ ∃ s t, t.showFrame.channel.calls = c :: s.channel.calls ∧
          Session.Retries quietState.settings.options s t := by
  have hcalls : (ask quietState droppedInvocation []).1.calls.reverse.map
      (fun c => (c.text, c.refused)) =
        [(thinking, false), ("Hi".toList, true), ("Hi".toList, false),
          ("Hi\n\n*Reply interrupted: LLM stream interrupted*".toList, true)] := by
    decide +kernel
  have herror : (ask quietState droppedInvocation []).2.1 = some (.callRefused 3) := by
    decide +kernel
  have hstreamed : (streamed quietState droppedInvocation [] droppedPieces).map
      (fun c => c.refused) = [true, false] := by
    decide +kernel
  obtain ⟨hfails, -, -, -, hopened⟩ := ask_fails_at_first quietState droppedInvocation []
  obtain ⟨c, after, he, hr, -⟩ := List.map_eq_cons_iff.1 hstreamed
  obtain ⟨s, t, -, -, hc, -, -, hretries⟩ := (hopened droppedPieces rfl).2.retried [] c after he hr
  rw [herror] at hfails
  exact ⟨rfl, hcalls, herror, hfails, c, after, he, hr, s, t, hc, hretries⟩

end Bot
end CitedReply
