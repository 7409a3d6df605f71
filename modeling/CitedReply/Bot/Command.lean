import CitedReply.Bot.Session
import CitedReply.Completion.Service

/-!
# CitedReply.Bot.Command

The commands, run one at a time on a bot: asking the service, showing how a reply would look, and
the settings, which only administrators may see and change.
-/

namespace CitedReply
namespace Bot

open Completion

structure State where
  service : Service
  admins : List Nat
  settings : Settings

inductive Command where
  | ask (question : Option Text)
  | preview (text : Option Text) (streaming : Option Bool)
  | config (parameter value : Option Text)
  | group

/-- A command, who gives it, and what it will meet with. Every call takes `latency` milliseconds, and
`delay` more by its number. -/
structure Invocation where
  command : Command
  user : Nat
  latency : Nat
  delay : Nat → Nat := fun _ => 0
  refusals : List Nat
  response : Response
  frameFirst : Nat → Bool
  lag : Nat → Nat := fun _ => 0

def Invocation.channel (inv : Invocation) : Channel :=
  .start (fun n => inv.latency + inv.delay n) inv.refusals

structure Outcome where
  calls : List Call
  error : Option CommandError
  request : Option Request

def thinking : Text := "*Thinking...*".toList

def opened : Response → Except RequestFailure (List Piece)
  | .unreachable => .error .unreachable
  | .status code body => .error (.refused code body)
  | .stream pieces => .ok pieces

def ask (st : State) (inv : Invocation) (question : Text) :
    Channel × Option CommandError × Option Request :=
  match inv.channel.request .say thinking false with
  | (ch, some e) => (ch, some e, none)
  | (ch, none) =>
    let request := st.service.request question
    match opened inv.response with
    | .error failure =>
      let (ch, e) := ch.request .edit ("Request failed: ".toList ++ failure.message) false
      (ch, e, some request)
    | .ok pieces =>
      let (ch, e) := streamReply st.settings inv.frameFirst inv.lag pieces ch
      (ch, e, some request)

/-- A backslash with an `n` is a line feed, as commands have one line only. -/
def unescapeLines : Text → Text
  | '\\' :: 'n' :: r => '\n' :: unescapeLines r
  | c :: r => c :: unescapeLines r
  | [] => []

def yesNo (b : Bool) : Text := if b then "yes".toList else "no".toList

def previewText (options : Options) (raw : Text) (streaming : Bool) : Text :=
  let r := Reading.ofText raw
  let frame := Frame.ofReading options raw r streaming
  "**Citations:** ".toList ++ Text.ofNat r.citations.length ++
    " | **Suppressed:** ".toList ++ yesNo frame.isLoading ++
    " | **Block incomplete:** ".toList ++ yesNo (Suppression.isIncomplete raw) ++
    " | **Streaming:** ".toList ++ yesNo streaming ++ "\n\n".toList ++ frame.message options

def preview (st : State) (ch : Channel) (text : Option Text) (streaming : Bool) :
    Channel × Option CommandError :=
  let report := previewText st.settings.options ((text.map unescapeLines).getD []) streaming
  ch.request .send (Message.truncate Message.limit report) true

/-- The answer to a `config` command of an administrator, and the settings after it. -/
def configure (s : Settings) : Option Text → Option Text → Text × Settings
  | none, _ => (s.describe, s)
  | some _, none =>
    ("Provide both `param` and `value`. Example: `/citeline config sources_footer off`".toList, s)
  | some name, some value =>
    match s.assign name value with
    | .ok s' => ("`".toList ++ name ++ "` set to ".toList ++ Text.trim value, s')
    | .error r => (r.message, s)

def config (st : State) (user : Nat) (parameter value : Option Text) : Text × Settings :=
  if st.admins.contains user then configure st.settings parameter value
  else ("This command is admin-only.".toList, st.settings)

namespace State

/-- Runs a command. A change of the settings stands even if the answer is refused. -/
def run (st : State) (inv : Invocation) : Outcome × State :=
  let ch := inv.channel
  match inv.command with
  | .group => (⟨[], none, none⟩, st)
  | .ask none => (⟨[], some (.argumentMissing "question".toList), none⟩, st)
  | .ask (some question) =>
    let (ch, e, request) := ask st inv question
    (⟨ch.calls.reverse, e, request⟩, st)
  | .preview text streaming =>
    let (ch, e) := preview st ch text (streaming.getD false)
    (⟨ch.calls.reverse, e, none⟩, st)
  | .config parameter value =>
    let (answer, settings) := config st inv.user parameter value
    let (ch, e) := ch.request .say answer false
    (⟨ch.calls.reverse, e, none⟩, { st with settings })

end State
end Bot
end CitedReply
