import CitedReply.Digest.Blake3
import CitedReply.Text.Blank
import CitedReply.Url.Basic

/-!
# CitedReply.Citation.Basic

A citation, the label it is shown under, the table of citations by address, and the citation made
up for an address that comes without one.
-/

namespace CitedReply

structure Citation where
  id : Text
  title : Text
  url : Text
  snippet : Text
  deriving DecidableEq

namespace Citation

def label (c : Citation) : Text := if c.title = [] then Url.domain c.url else c.title

/-- The citations whose address has not come up before. -/
def firstPerUrl : List Citation → List Citation
  | [] => []
  | c :: cs => c :: (firstPerUrl cs).filter (·.url ≠ c.url)

/-- The identifier depends on the address alone, so it stays the same from frame to frame. -/
def synthetic (url title : Text) : Citation where
  id := "link-".toList ++ (Blake3.hex (Utf8.encode url)).take 12
  title := if Text.trim title = [] then Url.domain url else Text.trim title
  url
  snippet := []

end Citation

/-- Citations by address, one for each. -/
structure Directory where
  entries : List (Text × Citation)

namespace Directory

def empty : Directory := ⟨[]⟩

def get? (d : Directory) (url : Text) : Option Citation :=
  (d.entries.find? (·.1 = url)).map (·.2)

/-- Puts a citation in the place of the one with its address. -/
def insert (d : Directory) (c : Citation) : Directory :=
  ⟨(c.url, c) :: d.entries.filter (·.1 ≠ c.url)⟩

/-- Of citations with one address the last counts. -/
def ofList (cs : List Citation) : Directory := cs.foldl insert empty

@[simp] theorem get?_empty (url : Text) : empty.get? url = none := rfl

theorem get?_insert (d : Directory) (c : Citation) (url : Text) :
    (d.insert c).get? url = if url = c.url then some c else d.get? url := by
  unfold get? insert
  by_cases h : url = c.url
  · simp [h]
  · have keep : (fun e : Text × Citation => !decide (e.1 = c.url) && decide (e.1 = url)) =
        fun e => decide (e.1 = url) := by
      funext e
      by_cases he : e.1 = url <;> simp [he, h]
    simp [Ne.symm h, h, List.find?_filter, keep]

end Directory
end CitedReply
