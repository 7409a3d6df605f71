import CitedReply.Citation.Block
import CitedReply.Citation.Line
import CitedReply.Citation.Marker

/-!
# CitedReply.Citation.Reply

What is read from a reply: its citations, and its text with the blocks taken out and the markers
turned into links. The text may still be growing; an open block counts as far as it goes.
-/

namespace CitedReply

structure Reading where
  citations : List Citation
  clean : Text
  deriving DecidableEq

namespace Reading

/-- The citations that the lines of the blocks hold, with repetitions. -/
def listed (bodies : List Text) : List Citation :=
  (bodies.flatMap Text.lines).filterMap Citation.ofLine?

def ofText (raw : Text) : Reading :=
  let l := Block.layout raw
  let citations := Citation.firstPerUrl (listed l.bodies)
  ⟨citations, Marker.substitute citations (Text.trim l.outside)⟩

def directory (r : Reading) : Directory := Directory.ofList r.citations

end Reading
end CitedReply
