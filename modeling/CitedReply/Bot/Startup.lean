import CitedReply.Bot.Command
import CitedReply.Text.Blank

/-!
# CitedReply.Bot.Startup

Starting the bot from its environment.
-/

namespace CitedReply
namespace Bot

open Completion

inductive Scope where
  | everywhere
  | guild (id : Nat)

def Scope.text : Scope → Text
  | .everywhere => "global".toList
  | .guild id => "guild ".toList ++ Text.ofNat id

structure CommandTree where
  name : Text
  subcommands : List Text

def commandTree : CommandTree := ⟨"citeline".toList, ["ask", "preview", "config"].map String.toList⟩

/-- What the bot wants to hear of: guilds and the messages in them. -/
def intents : Nat := 1 + 512

structure Started where
  token : Text
  scope : Scope
  state : State

inductive StartFault where
  | tokenMissing
  | guildZero
  | clientRefused (reason : Text)

def StartFault.message : StartFault → Text
  | .tokenMissing => "DISCORD_TOKEN required: EnvVar(NotPresent)".toList
  | .guildZero => "Attempted to call GuildId::new with invalid (0) value".toList
  | .clientRefused reason => "Failed to create client: ".toList ++ reason

/-- Identifiers between commas; what is none is left out. In ascending order, each once. -/
def adminsOf (t : Text) : List Nat :=
  (((Text.fields ',' t).filterMap fun f => Text.word? (Text.trim f)).eraseDups).mergeSort

def serviceOf (lookup : Text → Option Text) : Service where
  baseUrl := (lookup "LLM_BASE_URL".toList).getD "http://localhost:1234/v1".toList
  model := (lookup "LLM_MODEL".toList).getD "qwen/qwen3-8b".toList
  apiKey := (lookup "LLM_API_KEY".toList).filter (· ≠ [])
  timeout := ((lookup "LLM_TIMEOUT_SECS".toList).bind Text.word?).getD 300

def scopeOf (lookup : Text → Option Text) : Except StartFault Scope :=
  match (lookup "DISCORD_GUILD_ID".toList).bind Text.word? with
  | none => .ok .everywhere
  | some id => if id = 0 then .error .guildZero else .ok (.guild id)

/-- Starts the bot. `refusal` is why the client cannot be made, if it cannot. -/
def start (lookup : Text → Option Text) (refusal : Option Text) : Except StartFault Started :=
  match lookup "DISCORD_TOKEN".toList with
  | none => .error .tokenMissing
  | some token =>
    match scopeOf lookup with
    | .error f => .error f
    | .ok scope =>
      match refusal with
      | some reason => .error (.clientRefused reason)
      | none =>
        let admins := adminsOf ((lookup "ADMIN_USER_IDS".toList).getD [])
        .ok ⟨token, scope, ⟨serviceOf lookup, admins, Settings.ofLookup lookup⟩⟩

end Bot
end CitedReply
