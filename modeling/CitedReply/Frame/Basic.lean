import CitedReply.Citation.Reply
import CitedReply.Frame.HoldBack
import CitedReply.Frame.Suppression
import CitedReply.Link.Annotation

/-!
# CitedReply.Frame.Basic

What is shown of a reply at a moment: its text, or a placeholder that lists the citations so far.
`Frame.ofReading` decides; `Renderer` remembers the last reading, so that a reply that has not grown
is not read again.
-/

namespace CitedReply

structure Options where
  syntheticExternal : Bool
  sourcesFooter : Bool
  maxPlaceholderTitles : Nat
  deriving DecidableEq

inductive Frame where
  | loading (citations : List Citation)
  | body (text : Text)
  deriving DecidableEq

namespace Frame

def isLoading : Frame → Bool
  | .loading _ => true
  | .body _ => false

def placeholderHead (n : Nat) : Text :=
  if n = 0 then "*Loading citations...*".toList
  else if n = 1 then "*Loading 1 citation...*".toList
  else "*Loading ".toList ++ Text.ofNat n ++ " citations...*".toList

/-- The labels of the first citations, and how many more there are. -/
def placeholder (citations : List Citation) (maxTitles : Nat) : Text :=
  placeholderHead citations.length ++
    (citations.take maxTitles).flatMap (fun c => "\n- ".toList ++ c.label) ++
    (if citations.length > maxTitles then
      "\n- ... and ".toList ++ Text.ofNat (citations.length - maxTitles) ++ " more".toList
    else [])

def message (options : Options) : Frame → Text
  | .loading citations => placeholder citations options.maxPlaceholderTitles
  | .body text => text

def shown (clean : Text) (streaming : Bool) : Text :=
  if streaming then HoldBack.holdBack clean else clean

def bodyText (options : Options) (a : Link.Annotation) : Text :=
  if options.sourcesFooter ∧ a.sources ≠ [] then a.text ++ "\n\n".toList ++ Link.footer a.sources
  else a.text

def ofReading (options : Options) (raw : Text) (r : Reading) (streaming : Bool) : Frame :=
  if Suppression.applies raw r.clean streaming then .loading r.citations
  else
    .body (bodyText options
      (Link.annotate r.directory options.syntheticExternal (shown r.clean streaming)))

end Frame

/-- Makes frames of successive states of a reply. -/
structure Renderer where
  options : Options
  last : Option (Text × Reading)

namespace Renderer

def ofOptions (options : Options) : Renderer := ⟨options, none⟩

/-- The reading of a reply, taken from memory where the reply is the last one read. -/
def read (r : Renderer) (raw : Text) : Reading × Renderer :=
  match r.last with
  | some (key, reading) =>
    if key = raw then (reading, r)
    else
      let reading := Reading.ofText raw
      (reading, { r with last := some (raw, reading) })
  | none =>
    let reading := Reading.ofText raw
    (reading, { r with last := some (raw, reading) })

def render (r : Renderer) (raw : Text) (streaming : Bool) : Frame × Renderer :=
  let (reading, r) := r.read raw
  (Frame.ofReading r.options raw reading streaming, r)

end Renderer
end CitedReply
