import CitedReply.Completion.EventStream

/-!
# CitedReply.Completion.Feed

How the pieces of a streamed reply reach the command that waits for them. A reader decodes the
pieces as they arrive and puts what they add into a queue of limited length; while the queue is full
the reader stands still.
-/

namespace CitedReply
namespace Completion

inductive StreamFailure where
  | interrupted
  | reported (message : Text)
  deriving DecidableEq

def StreamFailure.message : StreamFailure → Text
  | .interrupted => "LLM stream interrupted".toList
  | .reported m => "LLM error: ".toList ++ m

inductive Signal where
  | delta (text : Text)
  | failure (reason : StreamFailure)
  deriving DecidableEq

/-- A piece of the body, `wait` milliseconds after the one before it was dealt with. Without bytes
the connection breaks. -/
structure Piece where
  wait : Nat
  bytes : Option Bytes

/-- What the reader does, step by step. -/
inductive Step where
  | wait (ms : Nat)
  | deliver (signal : Signal)
  deriving DecidableEq

/-- The steps that events call for, and those that follow unless an event ends the stream. -/
def stepsOfEvents (following : List Step) : List EventStream.Event → List Step
  | [] => following
  | .delta t :: es => .deliver (.delta t) :: stepsOfEvents following es
  | .failure m :: _ => [.deliver (.failure (.reported m))]
  | .done :: _ => []

def stepsOfPieces (d : EventStream.Decoder) : List Piece → List Step
  | [] => []
  | p :: ps =>
    match p.bytes with
    | none => [.wait p.wait, .deliver (.failure .interrupted)]
    | some bytes =>
      let (events, d) := d.push bytes
      .wait p.wait :: stepsOfEvents (stepsOfPieces d ps) events

/-- The reader and its queue. `ready` is when the reader starts on its next step. -/
structure Feed where
  ready : Nat
  steps : List Step
  queue : List Signal

namespace Feed

def capacity : Nat := 64

def size (f : Feed) : Nat := f.steps.length + f.queue.length

def advanceFrom (now ready : Nat) (queue : List Signal) : List Step → Feed
  | [] => ⟨ready, [], queue⟩
  | .wait ms :: steps =>
    if ready + ms ≤ now then advanceFrom now (ready + ms) queue steps
    else ⟨ready, .wait ms :: steps, queue⟩
  | .deliver s :: steps =>
    if queue.length < capacity then advanceFrom now ready (queue ++ [s]) steps
    else ⟨ready, .deliver s :: steps, queue⟩

/-- Lets the reader do what it can up to a time. -/
def advance (now : Nat) (f : Feed) : Feed := advanceFrom now f.ready f.queue f.steps

theorem size_advanceFrom_le (now ready : Nat) (queue : List Signal) (steps : List Step) :
    (advanceFrom now ready queue steps).size ≤ steps.length + queue.length := by
  induction steps generalizing ready queue with
  | nil => simp [advanceFrom, size]
  | cons s steps ih =>
    cases s with
    | wait ms =>
      simp only [advanceFrom]
      split
      · have := ih (ready + ms) queue
        simp only [List.length_cons]
        omega
      · simp [size]
    | deliver s =>
      simp only [advanceFrom]
      split
      · have := ih ready (queue ++ [s])
        simp only [List.length_cons, List.length_append, List.length_nil] at this ⊢
        omega
      · simp [size]

theorem size_advance_le (now : Nat) (f : Feed) : (f.advance now).size ≤ f.size :=
  size_advanceFrom_le now f.ready f.queue f.steps

def isBlocked (f : Feed) : Bool :=
  match f.steps with
  | .deliver _ :: _ => true
  | _ => false

/-- The feed once the first signal has been taken; a reader that waited for room goes on from
`now`. -/
def take (now : Nat) (f : Feed) : Feed :=
  { f with ready := if f.isBlocked then now else f.ready, queue := f.queue.tail }

end Feed
end Completion
end CitedReply
