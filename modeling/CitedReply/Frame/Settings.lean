import CitedReply.Frame.Basic

/-!
# CitedReply.Frame.Settings

The settings for showing replies: read from the environment, changed by name, and described.
-/

namespace CitedReply

structure Settings where
  frameInterval : Nat
  syntheticExternal : Bool
  sourcesFooter : Bool
  maxPlaceholderTitles : Nat
  deriving DecidableEq

namespace Settings

def default : Settings := ⟨1200, false, true, 8⟩

def options (s : Settings) : Options :=
  ⟨s.syntheticExternal, s.sourcesFooter, s.maxPlaceholderTitles⟩

def flagWords : List (Text × Bool) :=
  [("true".toList, true), ("yes".toList, true), ("on".toList, true), ("1".toList, true),
    ("false".toList, false), ("no".toList, false), ("off".toList, false), ("0".toList, false)]

/-- A switch, in any case and with white space around it. -/
def flag? (t : Text) : Option Bool :=
  let word := (Text.trim t).map Char.toLower
  (flagWords.find? (·.1 = word)).map (·.2)

def number? (t : Text) : Option Nat := Text.word? (Text.trim t)

/-- What can be set, by the name under which it is set. -/
inductive Parameter where
  | frameInterval
  | syntheticExternal
  | sourcesFooter
  | maxPlaceholderTitles
  deriving DecidableEq

namespace Parameter

def all : List Parameter :=
  [.frameInterval, .syntheticExternal, .sourcesFooter, .maxPlaceholderTitles]

def name : Parameter → Text
  | .frameInterval => "frame_interval_ms".toList
  | .syntheticExternal => "synthetic_external".toList
  | .sourcesFooter => "sources_footer".toList
  | .maxPlaceholderTitles => "max_placeholder_titles".toList

def variableName : Parameter → Text
  | .frameInterval => "RENDER_FRAME_MS".toList
  | .syntheticExternal => "RENDER_SYNTHETIC_EXTERNAL".toList
  | .sourcesFooter => "RENDER_SOURCES_FOOTER".toList
  | .maxPlaceholderTitles => "RENDER_MAX_PLACEHOLDER_TITLES".toList

def ofName? (name : Text) : Option Parameter := all.find? (·.name = name)

end Parameter

/-- The defaults, where the environment has nothing or nothing sound. -/
def ofLookup (lookup : Text → Option Text) : Settings where
  frameInterval :=
    ((lookup Parameter.frameInterval.variableName).bind number?).getD default.frameInterval
  syntheticExternal :=
    ((lookup Parameter.syntheticExternal.variableName).bind flag?).getD default.syntheticExternal
  sourcesFooter :=
    ((lookup Parameter.sourcesFooter.variableName).bind flag?).getD default.sourcesFooter
  maxPlaceholderTitles :=
    ((lookup Parameter.maxPlaceholderTitles.variableName).bind number?).getD
      default.maxPlaceholderTitles

inductive Rejection where
  | unknownParameter (name : Text)
  | badValue (value name : Text)

namespace Rejection

def message : Rejection → Text
  | .unknownParameter name =>
    "Unknown param `".toList ++ name ++
      ("`. Valid: `frame_interval_ms`, `synthetic_external`, `sources_footer`, " ++
        "`max_placeholder_titles`").toList
  | .badValue value name => "Invalid value `".toList ++ value ++ "` for `".toList ++ name ++ "`".toList

end Rejection

/-- Gives a parameter the value that a text without white space around it denotes. -/
def set? (s : Settings) (p : Parameter) (value : Text) : Option Settings :=
  match p with
  | .frameInterval => (Text.word? value).map fun n => { s with frameInterval := n }
  | .syntheticExternal => (flag? value).map fun b => { s with syntheticExternal := b }
  | .sourcesFooter => (flag? value).map fun b => { s with sourcesFooter := b }
  | .maxPlaceholderTitles => (Text.word? value).map fun n => { s with maxPlaceholderTitles := n }

def assign (s : Settings) (name value : Text) : Except Rejection Settings :=
  match Parameter.ofName? name with
  | none => .error (.unknownParameter name)
  | some p =>
    match s.set? p (Text.trim value) with
    | some s => .ok s
    | none => .error (.badValue (Text.trim value) name)

def flagText (b : Bool) : Text := if b then "true".toList else "false".toList

def valueText (s : Settings) : Parameter → Text
  | .frameInterval => Text.ofNat s.frameInterval
  | .syntheticExternal => flagText s.syntheticExternal
  | .sourcesFooter => flagText s.sourcesFooter
  | .maxPlaceholderTitles => Text.ofNat s.maxPlaceholderTitles

def describe (s : Settings) : Text :=
  "**Render Configuration:**".toList ++
    Parameter.all.flatMap fun p => "\n`".toList ++ p.name ++ "`: ".toList ++ s.valueText p

end Settings
end CitedReply
