import CitedReply.Citation.Reply
import CitedReply.Proofs.Citation.Block
import CitedReply.Proofs.Citation.Line
import CitedReply.Proofs.Directory

/-!
# CitedReply.Proofs.Citation.Settled

The citations of a reply that no continuation can change.

The last line of an open block may be cut; all lines before it are settled. They stay the first
lines of the reply wherever it is cut, and the first line of an address and the first citation with
an identifier count, so what they say stands.

* `lines_grow`: the settled lines of a reply are the first lines of any continuation.
* `settled_stable`: so are the settled citations, and a marker that finds one of them finds it again.
-/

namespace CitedReply
namespace Reading

/-- The lines of the blocks, without the last line of an open block if it has not ended. -/
def settledLines (l : Block.Layout) : List Text :=
  (l.closed.map (·.2)).flatMap Text.lines ++ l.dangling.toList.flatMap Block.endedLines

/-- The citations that the settled lines of a reply hold. -/
def settled (raw : Text) : List Citation :=
  Citation.firstPerUrl ((settledLines (Block.layout raw)).filterMap Citation.ofLine?)

theorem lines_grow (raw s : Text) :
    settledLines (Block.layout raw) <+: (Block.layout (raw ++ s)).bodies.flatMap Text.lines := by
  rw [Block.layout_append]
  simp only [settledLines, Block.Layout.bodies, List.map_append, List.append_assoc,
    List.flatMap_append]
  rw [List.prefix_append_right_inj]
  cases hd : (Block.layout raw).dangling with
  | none => exact List.nil_prefix
  | some rest =>
    obtain ⟨hopen, hclose⟩ := Block.cut?_rest_of_dangling hd
    obtain ⟨body, bodies, hbodies, hbody⟩ :=
      Block.bodies_of_open (Text.cut?_append_of_some hopen s)
    have hlines : Block.endedLines rest <+: Text.lines body := Block.endedLines_prefix hclose hbody
    have hall := congrArg (List.flatMap Text.lines) hbodies
    rw [Block.Layout.bodies, List.flatMap_append, List.flatMap_cons] at hall
    rw [hall]
    simpa using hlines.trans (List.prefix_append _ (bodies.flatMap Text.lines))

/-- Where the last line of an open block is empty or has ended, nothing is left out. -/
theorem settled_eq_citations {raw : Text}
    (h : ∀ body, (Block.layout raw).dangling = some body → body = [] ∨ body.getLast? = some '\n') :
    settled raw = (ofText raw).citations := by
  have hlines : ((Block.layout raw).dangling.toList.flatMap Block.endedLines).filterMap
        Citation.ofLine? =
      ((Block.layout raw).dangling.toList.flatMap Text.lines).filterMap Citation.ofLine? := by
    cases hd : (Block.layout raw).dangling with
    | none => rfl
    | some body =>
      have hblank : Citation.ofLine? [] = none := rfl
      simp [Block.lines_of_ended (h body hd), hblank]
  simp only [settled, settledLines, ofText, listed, Block.Layout.bodies, List.flatMap_append,
    List.filterMap_append, hlines]

/-- What the settled lines of a reply say is the beginning of what is read from any continuation of
it, and a marker that is resolved by it is resolved to the same citation then. -/
theorem settled_stable (raw s : Text) :
    settled raw <+: (ofText (raw ++ s)).citations ∧
      (∀ digits c, Marker.resolve? (settled raw) digits = some c →
        Marker.resolve? (ofText (raw ++ s)).citations digits = some c) ∧
      ((∀ body, (Block.layout raw).dangling = some body → body = [] ∨ body.getLast? = some '\n') →
        settled raw = (ofText raw).citations) := by
  have hbegin : settled raw <+: (ofText (raw ++ s)).citations :=
    Citation.firstPerUrl_prefix ((lines_grow raw s).filterMap _)
  refine ⟨hbegin, ?_, settled_eq_citations⟩
  intro digits c hc
  exact List.IsPrefix.find?_eq_some hbegin hc

/-- Cut in its closing tag. -/
def tornReply : Text :=
  "<citations>\n\x7b\"id\":\"cite-1\",\"url\":\"https://a.com\"\x7d\n</cita".toList

theorem settled_stable_tornReply :
    Marker.resolve? (settled tornReply) ['1'] =
        some ⟨"cite-1".toList, [], "https://a.com".toList, []⟩ ∧
      Marker.resolve? (ofText (tornReply ++ "tions>\nSeen [cite-1]".toList)).citations ['1'] =
        some ⟨"cite-1".toList, [], "https://a.com".toList, []⟩ := by
  have h : Marker.resolve? (settled tornReply) ['1'] =
      some ⟨"cite-1".toList, [], "https://a.com".toList, []⟩ := by
    decide +kernel
  exact ⟨h, (settled_stable _ _).2.1 _ _ h⟩

end Reading
end CitedReply
