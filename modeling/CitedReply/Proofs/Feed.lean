import CitedReply.Completion.Feed
import CitedReply.Proofs.EventStream

/-!
# CitedReply.Proofs.Feed

No signal gets lost, doubled or out of order between the stream and the command.

`Feed.pending` is what a feed will still give, the queue first. Advancing the feed keeps it, taking a
signal takes its head. `received` says what a stream brings without any feed: the bytes that arrive,
decoded as a whole, up to the first end.

* `deliveries_stepsOfPieces`: the steps of a reader deliver the signals of the whole stream, so
  what they bring is what `received` says, and their texts are its `deltas`.
-/

namespace CitedReply
namespace Completion

open EventStream

/-- The signals of a row of steps. -/
def deliveries (steps : List Step) : List Signal :=
  steps.filterMap fun
    | .wait _ => none
    | .deliver signal => some signal

@[simp] theorem deliveries_nil : deliveries [] = [] := rfl

@[simp] theorem deliveries_wait (ms : Nat) (steps : List Step) :
    deliveries (.wait ms :: steps) = deliveries steps := rfl

@[simp] theorem deliveries_deliver (signal : Signal) (steps : List Step) :
    deliveries (.deliver signal :: steps) = signal :: deliveries steps := rfl

namespace Feed

/-- The signals that a feed will still give. -/
def pending (f : Feed) : List Signal := f.queue ++ deliveries f.steps

theorem pending_advanceFrom (now ready : Nat) (queue : List Signal) (steps : List Step) :
    (advanceFrom now ready queue steps).pending = queue ++ deliveries steps := by
  induction steps generalizing ready queue with
  | nil => rfl
  | cons step steps ih =>
    cases step with
    | wait ms =>
      simp only [advanceFrom]
      split
      · rw [ih, deliveries_wait]
      · rfl
    | deliver signal =>
      simp only [advanceFrom]
      split
      · rw [ih, deliveries_deliver, List.append_assoc, List.singleton_append]
      · rfl

@[simp] theorem pending_advance (now : Nat) (f : Feed) : (f.advance now).pending = f.pending :=
  pending_advanceFrom now f.ready f.queue f.steps

theorem pending_take {f : Feed} {signal : Signal} {rest : List Signal}
    (h : f.queue = signal :: rest) (now : Nat) : f.pending = signal :: (f.take now).pending := by
  simp [pending, take, h]

/-- A reader that has advanced stands still before a delivery only if there is no room for it. -/
theorem full_of_blocked {now ready : Nat} {queue : List Signal} {steps steps' : List Step}
    {signal : Signal} (h : (advanceFrom now ready queue steps).steps = .deliver signal :: steps') :
    capacity ≤ (advanceFrom now ready queue steps).queue.length := by
  induction steps generalizing ready queue with
  | nil => cases h
  | cons step steps ih =>
    cases step with
    | wait ms =>
      simp only [advanceFrom] at h ⊢
      split at h
      · rename_i hw
        rw [if_pos hw]
        exact ih h
      · cases h
    | deliver s =>
      simp only [advanceFrom] at h ⊢
      split at h
      · rename_i hq
        rw [if_pos hq]
        exact ih h
      · rename_i hq
        rw [if_neg hq]
        exact Nat.le_of_not_lt hq

theorem pending_of_idle {now : Nat} {f : Feed} (hq : (f.advance now).queue = [])
    (hw : ∀ ms steps, (f.advance now).steps ≠ .wait ms :: steps) : f.pending = [] := by
  rw [← pending_advance now, pending, hq]
  cases hs : (f.advance now).steps with
  | nil => rfl
  | cons step steps =>
    cases step with
    | wait ms => exact absurd hs (hw ms steps)
    | deliver signal =>
      have hfull := full_of_blocked hs
      rw [advance] at hq
      rw [hq] at hfull
      cases hfull

end Feed

/-! ## What a stream brings -/

/-- The text of the deltas before the first failure, and that failure. -/
def outcome : List Signal → Text × Option StreamFailure
  | [] => ([], none)
  | .delta text :: signals => (text ++ (outcome signals).1, (outcome signals).2)
  | .failure reason :: _ => ([], some reason)

/-- What events bring when `after` is what comes behind them, unless one of them ends the stream. -/
def told (after : Text × Option StreamFailure) : List Event → Text × Option StreamFailure
  | [] => after
  | .delta text :: es => (text ++ (told after es).1, (told after es).2)
  | .failure message :: _ => ([], some (.reported message))
  | .done :: _ => ([], none)

/-- The bytes of a stream, piece by piece, and whether the connection breaks behind them. -/
def arrived : List Piece → List Bytes × Bool
  | [] => ([], false)
  | p :: ps =>
    match p.bytes with
    | none => ([], true)
    | some bytes => (bytes :: (arrived ps).1, (arrived ps).2)

/-- What comes when the bytes are at an end. -/
def ending (broken : Bool) : Text × Option StreamFailure :=
  ([], if broken then some .interrupted else none)

/-- The text that a stream brings up to its first end, and what that end is if it is not in order.
The bytes count as one, however they are cut. -/
def received (pieces : List Piece) : Text × Option StreamFailure :=
  told (ending (arrived pieces).2) (decoded maxLineBytes (arrived pieces).1.flatten)

/-- The texts of the deltas before the first event that ends the stream. -/
def spoken : List Event → List Text
  | .delta text :: es => text :: spoken es
  | _ => []

/-- The texts that a stream brings one by one. -/
def deltas (pieces : List Piece) : List Text :=
  spoken (decoded maxLineBytes (arrived pieces).1.flatten)

/-- The texts of the deltas before the first failure. -/
def heard : List Signal → List Text
  | .delta text :: signals => text :: heard signals
  | _ => []

/-- The signals that events call for when `after` are those behind them, unless one of them ends the
stream. -/
def signalsOf (after : List Signal) : List Event → List Signal
  | [] => after
  | .delta text :: es => .delta text :: signalsOf after es
  | .failure message :: _ => [.failure (.reported message)]
  | .done :: _ => []

/-- What is signalled when the bytes are at an end. -/
def breaking (broken : Bool) : List Signal := if broken then [.failure .interrupted] else []

theorem signalsOf_append (after : List Signal) (es fs : List Event) :
    signalsOf after (es ++ fs) = signalsOf (signalsOf after fs) es := by
  induction es with
  | nil => rfl
  | cons e es ih =>
    cases e with
    | delta text => simp only [List.cons_append, signalsOf, ih]
    | failure message => rfl
    | done => rfl

theorem signalsOf_untilEnd (after : List Signal) (es : List Event) :
    signalsOf after (untilEnd es) = signalsOf after es := by
  induction es with
  | nil => rfl
  | cons e es ih =>
    cases e with
    | delta text => simp only [untilEnd, Event.isEnd, Bool.false_eq_true, if_false, signalsOf, ih]
    | failure message => rfl
    | done => rfl

theorem deliveries_stepsOfEvents (following : List Step) (es : List Event) :
    deliveries (stepsOfEvents following es) = signalsOf (deliveries following) es := by
  induction es with
  | nil => rfl
  | cons e es ih =>
    cases e with
    | delta text => simp only [stepsOfEvents, deliveries_deliver, signalsOf, ih]
    | failure message => rfl
    | done => rfl

theorem deliveries_pushAll (d : Decoder) (pieces : List Piece) :
    deliveries (stepsOfPieces d pieces) =
      signalsOf (breaking (arrived pieces).2) (d.pushAll (arrived pieces).1).1 := by
  induction pieces generalizing d with
  | nil => rfl
  | cons p ps ih =>
    cases hb : p.bytes with
    | none => simp only [stepsOfPieces, arrived, hb]; rfl
    | some bytes =>
      simp only [stepsOfPieces, arrived, hb, deliveries_wait, deliveries_stepsOfEvents, ih,
        Decoder.pushAll, signalsOf_append]

theorem deliveries_stepsOfPieces (pieces : List Piece) :
    deliveries (stepsOfPieces (.ofMaxLine maxLineBytes) pieces) =
      signalsOf (breaking (arrived pieces).2) (decoded maxLineBytes (arrived pieces).1.flatten) := by
  rw [deliveries_pushAll, ← signalsOf_untilEnd, Decoder.untilEnd_pushAll_ofMaxLine,
    signalsOf_untilEnd]

theorem outcome_signalsOf (after : List Signal) (es : List Event) :
    outcome (signalsOf after es) = told (outcome after) es := by
  induction es with
  | nil => rfl
  | cons e es ih =>
    cases e with
    | delta text => simp only [signalsOf, outcome, told, ih]
    | failure message => rfl
    | done => rfl

theorem outcome_breaking (broken : Bool) : outcome (breaking broken) = ending broken := by
  cases broken <;> rfl

theorem outcome_stepsOfPieces (pieces : List Piece) :
    outcome (deliveries (stepsOfPieces (.ofMaxLine maxLineBytes) pieces)) = received pieces := by
  rw [deliveries_stepsOfPieces, outcome_signalsOf, outcome_breaking, received]

theorem heard_signalsOf {after : List Signal} (h : heard after = []) (es : List Event) :
    heard (signalsOf after es) = spoken es := by
  induction es with
  | nil => exact h
  | cons e es ih =>
    cases e with
    | delta text => simp only [signalsOf, heard, spoken, ih]
    | failure message => rfl
    | done => rfl

theorem heard_breaking (broken : Bool) : heard (breaking broken) = [] := by
  cases broken <;> rfl

theorem heard_stepsOfPieces (pieces : List Piece) :
    heard (deliveries (stepsOfPieces (.ofMaxLine maxLineBytes) pieces)) = deltas pieces := by
  rw [deliveries_stepsOfPieces, heard_signalsOf (heard_breaking _), deltas]

end Completion
end CitedReply
