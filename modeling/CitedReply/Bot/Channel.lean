import CitedReply.Text.Decimal

/-!
# CitedReply.Bot.Channel

The channel a command answers in. Each call takes its time and may be refused; the channel keeps the
clock of the command and the calls made so far.
-/

namespace CitedReply
namespace Bot

inductive CallKind where
  | say
  | send
  | edit
  deriving DecidableEq

/-- A call as it was begun, at `time` milliseconds into the command. -/
structure Call where
  time : Nat
  kind : CallKind
  text : Text
  ephemeral : Bool
  refused : Bool
  deriving DecidableEq

/-- Calls are numbered from 0: `latency` says what each of them takes, `refusals` which of them will
be refused. `calls` has the last one first. -/
structure Channel where
  now : Nat
  latency : Nat → Nat
  refusals : List Nat
  calls : List Call

inductive CommandError where
  | callRefused (number : Nat)
  | argumentMissing (name : Text)
  deriving DecidableEq

def CommandError.message : CommandError → Text
  | .callRefused n => "discord call ".toList ++ Text.ofNat n ++ " failed".toList
  | .argumentMissing name => "missing argument ".toList ++ name

namespace Channel

def start (latency : Nat → Nat) (refusals : List Nat) : Channel := ⟨0, latency, refusals, []⟩

def next (ch : Channel) : Nat := ch.calls.length

def refusesNext (ch : Channel) : Bool := ch.refusals.contains ch.next

/-- Makes a call. A refused one takes as long. -/
def call (ch : Channel) (kind : CallKind) (text : Text) (ephemeral : Bool) : Channel :=
  { ch with
    now := ch.now + ch.latency ch.next
    calls := ⟨ch.now, kind, text, ephemeral, ch.refusesNext⟩ :: ch.calls }

/-- Makes a call that has to succeed. -/
def request (ch : Channel) (kind : CallKind) (text : Text) (ephemeral : Bool) :
    Channel × Option CommandError :=
  (ch.call kind text ephemeral, if ch.refusesNext then some (.callRefused ch.next) else none)

def requests (ch : Channel) : List (CallKind × Text) → Channel × Option CommandError
  | [] => (ch, none)
  | (kind, text) :: rest =>
    match ch.request kind text false with
    | (ch, some e) => (ch, some e)
    | (ch, none) => ch.requests rest

def refusalsLeft (ch : Channel) : Nat := ch.refusals.countP fun n => ch.next ≤ n

theorem countP_succ_le (k : Nat) (l : List Nat) :
    (l.countP fun n => k + 1 ≤ n) ≤ l.countP fun n => k ≤ n := by
  apply List.countP_mono_left
  intro n _ h
  have := of_decide_eq_true h
  exact decide_eq_true (by omega)

theorem countP_succ_lt {k : Nat} {l : List Nat} (h : k ∈ l) :
    (l.countP fun n => k + 1 ≤ n) < l.countP fun n => k ≤ n := by
  induction l with
  | nil => cases h
  | cons a l ih =>
    have hle := countP_succ_le k l
    simp only [List.countP_cons, decide_eq_true_eq]
    rcases List.mem_cons.1 h with rfl | hl
    · rw [if_neg (by omega), if_pos (by omega)]
      omega
    · have := ih hl
      split <;> split <;> omega

theorem refusalsLeft_call_le (ch : Channel) (kind : CallKind) (text : Text) (ephemeral : Bool) :
    (ch.call kind text ephemeral).refusalsLeft ≤ ch.refusalsLeft :=
  countP_succ_le ch.next ch.refusals

theorem refusalsLeft_call_lt {ch : Channel} (h : ch.refusesNext = true) (kind : CallKind)
    (text : Text) (ephemeral : Bool) :
    (ch.call kind text ephemeral).refusalsLeft < ch.refusalsLeft := by
  have hm : ch.next ∈ ch.refusals := by simpa [refusesNext] using h
  exact countP_succ_lt hm

end Channel
end Bot
end CitedReply
