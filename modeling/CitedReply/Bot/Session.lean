import CitedReply.Bot.Channel
import CitedReply.Completion.Feed
import CitedReply.Frame.Settings
import CitedReply.Message

/-!
# CitedReply.Bot.Session

A reply that is shown while it streams in. A `Session` takes what the feed delivers and, when a
frame is due and something new has come, edits the message to show it; a refused edit is made up for
later. When the stream ends, the whole reply is put in place.
-/

namespace CitedReply
namespace Bot

open Completion

/-- Edits do not follow each other faster than this, in milliseconds. -/
def minFrameInterval : Nat := 250

/-- How late a frame may be taken without moving those after it. -/
def tolerance : Nat := 5

/-- A reply on its way. `shown` is the text last accepted, `dirty` says that more has come since, a
frame is due at `deadline`. For each turn, `frameFirst` says which of two things that are due comes
first, and `lag` how late a frame is taken that was waited for. -/
structure Session where
  channel : Channel
  feed : Feed
  renderer : Renderer
  raw : Text
  shown : Text
  dirty : Bool
  period : Nat
  deadline : Nat
  frameFirst : Nat → Bool
  lag : Nat → Nat
  turns : Nat

namespace Session

/-- The session when the stream opens: nothing has come yet, and a frame is due at once. -/
def opening (settings : Settings) (frameFirst : Nat → Bool) (lag : Nat → Nat) (pieces : List Piece)
    (channel : Channel) : Session where
  channel
  feed := ⟨channel.now, stepsOfPieces (.ofMaxLine EventStream.maxLineBytes) pieces, []⟩
  renderer := .ofOptions settings.options
  raw := []
  shown := []
  dirty := false
  period := max settings.frameInterval minFrameInterval
  deadline := channel.now
  frameFirst
  lag
  turns := 0

def now (s : Session) : Nat := s.channel.now

def isDue (s : Session) : Bool := s.dirty && s.deadline ≤ s.now

/-- What happens next, and the session at that moment. -/
inductive Turn where
  | take (signal : Signal) (s : Session)
  | frame (s : Session)
  | sleep (s : Session)
  | stop (s : Session)

def atTime (s : Session) (now : Nat) : Session := { s with channel := { s.channel with now } }

def turn (s : Session) : Turn :=
  let feed := s.feed.advance s.now
  let s' := { s with feed, turns := s.turns + 1 }
  match feed.queue with
  | signal :: _ =>
    if s.isDue && s.frameFirst s.turns then .frame s'
    else .take signal { s' with feed := feed.take s.now }
  | [] =>
    match feed.steps with
    | .wait ms :: steps =>
      let wake := feed.ready + ms
      let due := s.deadline + s.lag s.turns
      if s.dirty ∧ (due < wake ∨ due = wake ∧ s.frameFirst s.turns) then
        .frame (s'.atTime (max s.now due))
      else .sleep ({ s' with feed := ⟨wake, steps, []⟩ }.atTime wake)
    | _ => if s.isDue && s.frameFirst s.turns then .frame s' else .stop s'

def needsEdit (s : Session) (text : Text) : Bool := !Text.isBlank text && text != s.shown

/-- The deadline after a frame that is taken now. -/
def nextDeadline (s : Session) : Nat :=
  if s.now ≤ s.deadline + tolerance then s.deadline + s.period else s.now + s.period

def frameText (s : Session) : Text × Renderer :=
  let (frame, renderer) := s.renderer.render s.raw true
  (Message.truncate Message.limit (frame.message s.renderer.options), renderer)

/-- Takes a frame. Only an accepted edit counts as shown; after a refused one there is still
something to show. -/
def showFrame (s : Session) : Session :=
  let (text, renderer) := s.frameText
  let s := { s with renderer, deadline := s.nextDeadline, dirty := false }
  if s.needsEdit text then
    let channel := s.channel.call .edit text false
    if s.channel.refusesNext then { s with channel, dirty := true }
    else { s with channel, shown := text }
  else s

def append (s : Session) (text : Text) : Session := { s with raw := s.raw ++ text, dirty := true }

/-- Bounds the turns that are left. -/
def budget (s : Session) : Nat :=
  2 * s.feed.size + s.channel.refusalsLeft + (if s.dirty then 1 else 0)

theorem budget_atTime (s : Session) (now : Nat) : (s.atTime now).budget = s.budget := rfl

theorem budget_append_take {s s' : Session} {signal : Signal} (text : Text)
    (h : s.turn = .take signal s') : (s'.append text).budget < s.budget := by
  have hsize := s.feed.size_advance_le s.now
  simp only [turn] at h
  split at h
  · rename_i sig rest hq
    split at h
    · cases h
    · cases h
      have : (s.feed.advance s.now).queue.length = rest.length + 1 := by rw [hq]; rfl
      simp only [budget, append, Feed.size, Feed.take, hq, List.tail_cons, List.length_cons, if_true]
        at hsize ⊢
      omega
  · split at h
    · split at h <;> cases h
    · split at h <;> cases h

theorem budget_sleep {s s' : Session} (h : s.turn = .sleep s') : s'.budget < s.budget := by
  have hsize := s.feed.size_advance_le s.now
  simp only [turn] at h
  split at h
  · split at h <;> cases h
  · rename_i hq
    split at h
    · rename_i ms steps hs
      split at h
      · cases h
      · cases h
        rw [budget_atTime]
        simp only [budget, Feed.size, hq, hs, List.length_cons, List.length_nil] at hsize ⊢
        omega
    · split at h <;> cases h

theorem dirty_of_frame {s s' : Session} (h : s.turn = .frame s') :
    s'.dirty = true ∧ s'.budget ≤ s.budget := by
  have hsize := s.feed.size_advance_le s.now
  simp only [turn] at h
  split at h
  · split at h
    · rename_i hd
      cases h
      simp only [isDue, Bool.and_eq_true] at hd
      refine ⟨hd.1.1, ?_⟩
      simp only [budget]
      omega
    · cases h
  · split at h
    · split at h
      · rename_i hd
        cases h
        refine ⟨hd.1, ?_⟩
        rw [budget_atTime]
        simp only [budget]
        omega
      · cases h
    · split at h
      · rename_i hd
        cases h
        simp only [isDue, Bool.and_eq_true] at hd
        refine ⟨hd.1.1, ?_⟩
        simp only [budget]
        omega
      · cases h

theorem budget_showFrame {s : Session} (h : s.dirty = true) : s.showFrame.budget < s.budget := by
  simp only [showFrame]
  split
  · split
    · rename_i hr
      have := Channel.refusalsLeft_call_lt hr .edit s.frameText.1 false
      simp only [budget, h, if_true]
      omega
    · have := s.channel.refusalsLeft_call_le .edit s.frameText.1 false
      simp only [budget, h, if_true, Bool.false_eq_true, if_false]
      omega
  · simp [budget, h]

/-- Runs to the end of the stream, and says why it ended if it was not in order. -/
def run (s : Session) : Session × Option StreamFailure :=
  match _ : s.turn with
  | .take (.delta text) s' => run (s'.append text)
  | .take (.failure reason) s' => (s', some reason)
  | .frame s' => run s'.showFrame
  | .sleep s' => run s'
  | .stop s' => (s', none)
termination_by s.budget
decreasing_by
  · exact budget_append_take _ ‹_›
  · obtain ⟨hd, hb⟩ := dirty_of_frame ‹_›
    exact Nat.lt_of_lt_of_le (budget_showFrame hd) hb
  · exact budget_sleep ‹_›

end Session

def emptyReply : Text := "*The agent returned an empty reply.*".toList

def closingText (options : Options) (frame : Frame) (failure : Option StreamFailure) : Text :=
  let text := frame.message options ++
    match failure with
    | some reason => "\n\n*Reply interrupted: ".toList ++ reason.message ++ ['*']
    | none => []
  if Text.isBlank text then emptyReply else text

/-- The calls that put a text in place of the message that stands for the reply. -/
def closingCalls (text : Text) : List (CallKind × Text) :=
  match Message.split Message.limit text with
  | [] => []
  | first :: rest => (.edit, first) :: rest.map fun t => (.say, t)

def streamReply (settings : Settings) (frameFirst : Nat → Bool) (lag : Nat → Nat)
    (pieces : List Piece) (channel : Channel) : Channel × Option CommandError :=
  let (s, failure) := (Session.opening settings frameFirst lag pieces channel).run
  let (frame, _) := s.renderer.render s.raw false
  s.channel.requests (closingCalls (closingText settings.options frame failure))

end Bot
end CitedReply
