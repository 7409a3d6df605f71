import CitedReply.Citation.Reply
import CitedReply.Proofs.Citation.Line
import CitedReply.Proofs.Directory

/-!
# CitedReply.Proofs.Citation.Distinct

The citations of a reply are the lines of its blocks, each where its address first comes up.

They are kept in a list and looked up in a directory. Where an address repeats the list keeps the
first citation and the directory the last; of citations with different addresses both hold the same.

* `citations_leading`: what the list is, and that the directory holds the same.
-/

namespace CitedReply
namespace Reading

/-- A citation that is read has an identifier and an address. -/
theorem ne_nil_of_mem_citations {raw : Text} {c : Citation} (h : c ∈ (ofText raw).citations) :
    c.id ≠ [] ∧ c.url ≠ [] := by
  obtain ⟨line, -, hline⟩ := List.mem_filterMap.1 (Citation.mem_of_mem_firstPerUrl h)
  exact Citation.ne_nil_of_ofLine? hline

/-- Of the lines that hold a citation, in closed blocks and then in an open one, those are kept
whose address is new. So each address has one citation, and it is found under it. -/
theorem citations_leading (raw : Text) :
    (ofText raw).citations =
        Citation.leading (((Block.layout raw).bodies.flatMap Text.lines).filterMap
          Citation.ofLine?) ∧
      ((ofText raw).citations.map (·.url)).Nodup ∧
      (∀ c ∈ (ofText raw).citations, c.id ≠ [] ∧ c.url ≠ []) ∧
      ∀ url c, (ofText raw).directory.get? url = some c ↔
        c ∈ (ofText raw).citations ∧ c.url = url := by
  refine ⟨Citation.firstPerUrl_eq_leading _, Citation.nodup_firstPerUrl _,
    fun c hc => ne_nil_of_mem_citations hc, ?_⟩
  intro url c
  have hdistinct : ∀ c ∈ (ofText raw).citations, ∀ e ∈ (ofText raw).citations,
      e.url = c.url → e = c := fun _ hc _ he hu => Citation.eq_of_mem_firstPerUrl hc he hu
  exact Directory.get?_ofList_iff hdistinct

/-- An address that comes up in a block and once more in an open one. -/
def repeatedAddress : Text :=
  ("<citations>\x7b\"id\":\"a\",\"url\":\"/a\"\x7d</citations>So.<citations>\n" ++
    "\x7b\"id\":\"b\",\"url\":\"/a\"\x7d\n\x7b\"id\":\"a\",\"url\":\"/c\"\x7d").toList

/-- What stands under the other address, with the identifier of the first. -/
def otherAddress : Citation := ⟨"a".toList, [], "/c".toList, []⟩

theorem citations_leading_repeated :
    (ofText repeatedAddress).citations =
        [⟨"a".toList, [], "/a".toList, []⟩, otherAddress] ∧
      otherAddress.id ≠ [] ∧ otherAddress.url ≠ [] ∧
      (ofText repeatedAddress).directory.get? "/c".toList = some otherAddress := by
  have hlist : (ofText repeatedAddress).citations =
      [⟨"a".toList, [], "/a".toList, []⟩, otherAddress] := by
    decide +kernel
  have hmem : otherAddress ∈ (ofText repeatedAddress).citations := by
    rw [hlist]
    simp
  obtain ⟨-, -, hsound, hget⟩ := citations_leading repeatedAddress
  obtain ⟨hid, hurl⟩ := hsound _ hmem
  exact ⟨hlist, hid, hurl, (hget _ _).2 ⟨hmem, rfl⟩⟩

end Reading
end CitedReply
