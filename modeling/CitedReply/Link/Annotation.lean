import CitedReply.Citation.Basic
import CitedReply.Link.Basic
import CitedReply.Text.Blank

/-!
# CitedReply.Link.Annotation

Links to known citations get the label of their citation and a target in angle brackets, for which
no preview is shown; other links stay as they are. The citations so linked make up the footer.
-/

namespace CitedReply
namespace Link

/-- Link texts that say nothing of where the link leads. -/
def genericLabels : List Text := ["Source".toList, "来源".toList]

/-- The title of the citation, else what the link itself says, else the domain. -/
def displayText (c : Option Citation) (label href : Text) : Text :=
  match c.filter (·.title ≠ []) with
  | some c => c.title
  | none =>
    let label := Text.trim label
    if label = [] ∨ genericLabels.contains label then Url.domain href else label

/-- The citation a link leads to. Where `synthetic` is set, one is made up for an address on the web
that is not known. -/
def citation? (d : Directory) (synthetic : Bool) (l : Link) : Option Citation :=
  if l.image then none
  else
    match d.get? l.href with
    | some c => some c
    | none =>
      if synthetic && Url.isExternal l.href then
        some (Citation.synthetic l.href (unescape l.label))
      else none

def written (label href : Text) : Text :=
  '[' :: (escape label ++ ']' :: '(' :: '<' :: (href ++ ['>', ')']))

def annotated (d : Directory) (synthetic : Bool) (l : Link) : Text :=
  match citation? d synthetic l with
  | some c => written (displayText (some c) (unescape l.label) l.href) l.href
  | none => l.text

/-- An annotated text and the citations that are linked from it, in order of first use. -/
structure Annotation where
  text : Text
  sources : List Citation

def annotate (d : Directory) (synthetic : Bool) (t : Text) : Annotation :=
  let parts := split t
  ⟨parts.links.flatMap (fun l => l.1 ++ annotated d synthetic l.2) ++ parts.gap,
    Citation.firstPerUrl (parts.links.filterMap fun l => citation? d synthetic l.2)⟩

def maxSnippet : Nat := 120

def shortened (snippet : Text) : Text :=
  if snippet.length ≤ maxSnippet then snippet else snippet.take maxSnippet ++ "...".toList

def footerLine (c : Citation) : Text :=
  let snippet := Text.trim c.snippet
  "\n- ".toList ++ written (displayText (some c) [] c.url) c.url ++
    (if snippet = [] then [] else ": ".toList ++ shortened snippet)

def footer (sources : List Citation) : Text :=
  "**Sources:**".toList ++ sources.flatMap footerLine

end Link
end CitedReply
