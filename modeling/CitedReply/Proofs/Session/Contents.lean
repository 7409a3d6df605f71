import CitedReply.Proofs.Delta
import CitedReply.Proofs.Session.Calls

/-!
# CitedReply.Proofs.Session.Contents

What the calls of a question say: how long it is, and whether it can be seen.

Edits while a stream runs are cut short and checked, and the whole reply is split, so all of them
fit. The note that a request has failed is sent as it is. Of the messages that a reply is split
into, one may show nothing, though neither the reply nor any frame of it does.

* `calls_fit_iff`: every content fits exactly if the note on a failed request does, and
  `failureNote_exceeds_limit` is one that does not.
* `calls_visible_iff`: every content can be seen exactly if no message is cut off before the text
  that can be seen, and `blank_message_sent` is one that is.
-/

namespace CitedReply
namespace Bot

open Completion

variable {st : State} {inv : Invocation} {question : Text}

theorem closingCalls_snd (text : Text) :
    (closingCalls text).map (·.2) = Message.split Message.limit text := by
  unfold closingCalls
  split
  · rename_i hs
    rw [hs]
    rfl
  · rename_i first rest hs
    rw [hs]
    simp [Function.comp_def]

theorem texts_closing_isPrefix (st : State) {inv : Invocation} (question : Text)
    {pieces : List Piece} (hopen : opened inv.response = .ok pieces) :
    (closing st inv question pieces).map (·.text) <+: Message.split Message.limit
      (finalText st.settings.options (received pieces).1 (received pieces).2) := by
  have hprefix := (calls_of_opened st question hopen).2.2.map (·.2)
  rw [closingCalls_snd, List.map_map] at hprefix
  exact hprefix

/-! ## Length -/

theorem four_le_limit : 4 ≤ Message.limit := by decide

theorem fits_of_edits {options : Options} {deltas : List Text} {low : Nat} {shown : Text}
    {edits : List Call} (h : Edits options deltas low shown edits) :
    ∀ c ∈ edits, Text.byteSize c.text ≤ Message.limit := by
  intro c hc
  obtain ⟨_, _, _, hs⟩ := h.shows c hc
  rw [hs.text_eq]
  exact Message.byteSize_truncate_le four_le_limit _

theorem fits_of_opened {pieces : List Piece} (hopen : opened inv.response = .ok pieces) :
    ∀ c ∈ (ask st inv question).1.calls, Text.byteSize c.text ≤ Message.limit := by
  intro c hc
  rcases (mem_calls_of_opened_iff hopen).1 hc with rfl | hc | hc
  · exact (by decide : Text.byteSize thinking ≤ Message.limit)
  · exact fits_of_edits (calls_of_opened st question hopen).2.1 c hc
  · have hpiece := (texts_closing_isPrefix st question hopen).subset (List.mem_map_of_mem hc)
    exact Message.byteSize_of_mem_split four_le_limit _ _ hpiece

theorem fits_of_failed_iff {failure : RequestFailure}
    (hf : opened inv.response = .error failure) :
    (∀ c ∈ (ask st inv question).1.calls, Text.byteSize c.text ≤ Message.limit) ↔
      (inv.channel.refusesNext = false → Text.byteSize (failureText failure) ≤ Message.limit) :=
  forall_calls_of_failed_iff hf (P := fun t => Text.byteSize t ≤ Message.limit) (by decide)

/-- Every content fits, but for the note on a failed request: what the service has answered goes into
it whole. -/
theorem calls_fit_iff (st : State) (inv : Invocation) (question : Text) :
    (∀ c ∈ (ask st inv question).1.calls, Text.byteSize c.text ≤ Message.limit) ↔
      ∀ code body, inv.response = .status code body → inv.channel.refusesNext = false →
        Text.byteSize (failureText (.refused code body)) ≤ Message.limit := by
  cases hr : inv.response with
  | stream pieces =>
    have hopen : opened inv.response = .ok pieces := by rw [hr]; rfl
    exact iff_of_true (fits_of_opened hopen) fun _ _ h => by cases h
  | unreachable =>
    have hf : opened inv.response = .error .unreachable := by rw [hr]; rfl
    have hshort : Text.byteSize (failureText .unreachable) ≤ Message.limit := by decide
    rw [fits_of_failed_iff hf]
    exact iff_of_true (fun _ => hshort) fun _ _ h => by cases h
  | status code body =>
    have hf : opened inv.response = .error (.refused code body) := by rw [hr]; rfl
    rw [fits_of_failed_iff hf]
    constructor
    · rintro hfits _ _ ⟨⟩
      exact hfits
    · intro hfits
      exact hfits code body rfl

theorem failureText_refused (code : Nat) (body : Text) :
    failureText (.refused code body) =
      "Request failed: ".toList ++ ("LLM returned ".toList ++ Text.ofNat code ++ ' ' :: reason code ++
        ": ".toList ++ body) := rfl

theorem body_suffix_failureText (code : Nat) (body : Text) :
    body <:+ failureText (.refused code body) := by
  rw [failureText_refused]
  exact (List.suffix_append _ body).trans (List.suffix_append _ _)

/-- The service refuses with a page of text. -/
def verboseInvocation : Invocation where
  command := .ask (some [])
  user := 1
  latency := 0
  refusals := []
  response := .status 500 (List.replicate 2000 'x')
  frameFirst := fun _ => false

theorem failureNote_exceeds_limit :
    ∃ c ∈ (ask quietState verboseInvocation []).1.calls, Message.limit < Text.byteSize c.text := by
  have hf : opened verboseInvocation.response =
      .error (.refused 500 (List.replicate 2000 'x')) := rfl
  have hnote : Message.limit <
      Text.byteSize (failureText (.refused 500 (List.replicate 2000 'x'))) := by
    obtain ⟨a, ha⟩ := body_suffix_failureText 500 (List.replicate 2000 'x')
    have hbody : Message.limit < 2000 * Char.utf8Size 'x' := by decide
    rw [← ha, Text.byteSize_append, Text.byteSize_replicate]
    omega
  by_contra hnone
  have hall : ∀ c ∈ (ask quietState verboseInvocation []).1.calls,
      Text.byteSize c.text ≤ Message.limit := by
    intro c hc
    exact Nat.le_of_not_lt fun hlt => hnone ⟨c, hc, hlt⟩
  exact Nat.not_le_of_lt hnote ((fits_of_failed_iff hf).1 hall rfl)

/-! ## Visibility -/

theorem visible_of_edits {options : Options} {deltas : List Text} {low : Nat} {shown : Text}
    {edits : List Call} (h : Edits options deltas low shown edits) :
    ∀ c ∈ edits, Text.isBlank c.text = false := by
  intro c hc
  obtain ⟨_, _, _, hs⟩ := h.shows c hc
  exact hs.visible

theorem visible_of_failed {failure : RequestFailure} (hf : opened inv.response = .error failure) :
    ∀ c ∈ (ask st inv question).1.calls, Text.isBlank c.text = false :=
  (forall_calls_of_failed_iff hf (P := fun t => Text.isBlank t = false) rfl).2 fun _ => rfl

/-- What holds of the members of a start of a list, by their place. -/
theorem forall_mem_of_prefix_iff {texts pieces : List Text} (h : texts <+: pieces)
    (P : Text → Prop) :
    (∀ t ∈ texts, P t) ↔
      ∀ sent piece later, pieces = sent ++ piece :: later → sent.length < texts.length →
        P piece := by
  obtain ⟨rest, rfl⟩ := h
  constructor
  · intro hall sent piece later heq hlt
    rcases List.append_eq_append_iff.1 heq with ⟨u, rfl, -⟩ | ⟨u, rfl, hu⟩
    · rw [List.length_append] at hlt
      omega
    · cases u with
      | nil => simp at hlt
      | cons x u =>
        obtain ⟨rfl, -⟩ := List.cons.inj hu
        exact hall piece (by simp)
  · intro hall t ht
    obtain ⟨a, b, rfl⟩ := List.append_of_mem ht
    exact hall a t (b ++ rest) (by simp) (by simp)

/-- The messages of a reply can be seen as far as none is cut off what is left of it too early. -/
theorem visible_of_closing_iff {pieces : List Piece} (hopen : opened inv.response = .ok pieces) :
    (∀ c ∈ closing st inv question pieces, Text.isBlank c.text = false) ↔
      ∀ sent left,
        Message.split Message.limit
            (finalText st.settings.options (received pieces).1 (received pieces).2) =
          sent ++ left →
        sent.length < (closing st inv question pieces).length →
          ¬ Message.CutsBlank Message.limit left.flatten := by
  have hprefix := texts_closing_isPrefix st question hopen
  have hcalls := forall_mem_of_prefix_iff hprefix fun t => Text.isBlank t = false
  simp only [List.forall_mem_map, List.length_map] at hcalls
  rw [hcalls]
  constructor
  · intro hall sent left heq hlt
    cases left with
    | nil =>
      have hle := hprefix.length_le
      rw [heq, List.append_nil, List.length_map] at hle
      omega
    | cons piece later =>
      rw [← Message.isBlank_piece_iff four_le_limit (Message.split_flatten_of_split heq),
        hall sent piece later heq hlt]
      decide
  · intro hall sent piece later heq hlt
    have hcut := hall sent (piece :: later) heq hlt
    rw [← Message.isBlank_piece_iff four_le_limit (Message.split_flatten_of_split heq)] at hcut
    simpa using hcut

/-- Every content can be seen, but for messages that a reply is split into: one that is cut off before
anything that can be seen says nothing. -/
theorem calls_visible_iff (st : State) (inv : Invocation) (question : Text) :
    (∀ c ∈ (ask st inv question).1.calls, Text.isBlank c.text = false) ↔
      ∀ pieces, opened inv.response = .ok pieces → ∀ sent left,
        Message.split Message.limit
            (finalText st.settings.options (received pieces).1 (received pieces).2) =
          sent ++ left →
        sent.length < (closing st inv question pieces).length →
          ¬ Message.CutsBlank Message.limit left.flatten := by
  cases ho : opened inv.response with
  | error failure => exact iff_of_true (visible_of_failed ho) fun _ h => by cases h
  | ok pieces =>
    have hedits := (calls_of_opened st question ho).2.1
    simp only [Except.ok.injEq, forall_eq']
    rw [← visible_of_closing_iff ho]
    constructor
    · intro hall c hc
      exact hall c ((mem_calls_of_opened_iff ho).2 (.inr (.inr hc)))
    · intro hall c hc
      rcases (mem_calls_of_opened_iff ho).1 hc with rfl | hc | hc
      · rfl
      · exact visible_of_edits hedits c hc
      · exact hall c hc

/-- Two paragraphs with a blank line in between. -/
def paragraphs (n : Nat) : Text :=
  List.replicate n 'a' ++ '\n' :: '\n' :: List.replicate (n + 1) 'b'

theorem byteSize_paragraphs (n : Nat) : Text.byteSize (paragraphs n) = 2 * n + 3 := by
  have hletters : Char.utf8Size 'a' = 1 ∧ Char.utf8Size 'b' = 1 := by decide
  have hfeed : Char.utf8Size '\n' = 1 := by decide
  simp only [paragraphs, Text.byteSize_append, Text.byteSize_cons, Text.byteSize_replicate,
    hletters, hfeed]
  omega

theorem trimmed_paragraphs (n : Nat) : Text.Trimmed (paragraphs (n + 1)) := by
  constructor
  · intro c hc
    obtain rfl : 'a' = c := by simpa [paragraphs, List.replicate_succ] using hc
    decide
  · intro c hc
    have hlast : (paragraphs (n + 1)).getLast? = some 'b' := by
      simp [paragraphs, List.getLast?_append, List.getLast?_cons, List.getLast?_replicate]
    obtain rfl : 'b' = c := Option.some.inj (hlast.symm.trans hc)
    decide

theorem finalText_paragraphs (options : Options) (n : Nat) :
    finalText options (paragraphs (n + 1)) none = paragraphs (n + 1) := by
  have hbracket : '[' ∉ paragraphs (n + 1) := by simp [paragraphs]
  have htag : '<' ∉ paragraphs (n + 1) := by simp [paragraphs]
  have hletter : Text.isSpace 'a' = false := by decide
  have hvisible : Text.isBlank (paragraphs (n + 1)) = false := by
    simp [paragraphs, Text.isBlank, List.replicate_succ, hletter]
  exact finalText_of_plain options hbracket htag (trimmed_paragraphs n) hvisible

/-- Where the first paragraph fills a message together with its line feed, the blank line goes
alone. -/
theorem feed_mem_split_paragraphs {n : Nat} (h : 3 ≤ n) :
    ['\n'] ∈ Message.split (n + 1) (paragraphs n) := by
  have hletters : Char.utf8Size 'a' = 1 ∧ Char.utf8Size 'b' = 1 := by decide
  have hfeed : Char.utf8Size '\n' = 1 := by decide
  have hparts : paragraphs n =
      (List.replicate n 'a' ++ ['\n']) ++ '\n' :: List.replicate (n + 1) 'b' := by
    simp [paragraphs]
  rw [hparts]
  refine Message.feed_mem_split (by omega) ?_ (Message.atBreak_feed List.not_mem_nil) ?_ ?_
  · simp only [Text.byteSize_append, Text.byteSize_cons, Text.byteSize_nil,
      Text.byteSize_replicate, hletters, hfeed]
    omega
  · simp
  · rw [Text.byteSize_replicate, hletters.2]
    omega

/-- All of a text in one piece, and then the end. -/
def paragraphPieces : List Piece :=
  [.adding 3 (paragraphs 1989), ⟨7, some (Utf8.encode "data: [DONE]\n\n".toList)⟩]

theorem received_paragraphPieces : received paragraphPieces = (paragraphs 1989, none) := by
  have hsize := byteSize_paragraphs 1989
  have hline := EventStream.byteSize_additionLine_le (paragraphs 1989)
  have hmax : EventStream.maxLineBytes = 1048576 := rfl
  have hne : paragraphs 1989 ≠ [] := by
    intro hnil
    rw [hnil, Text.byteSize_nil] at hsize
    omega
  have hend : received [⟨7, some (Utf8.encode "data: [DONE]\n\n".toList)⟩] = ([], none) := by
    decide +kernel
  rw [paragraphPieces, received_adding hne (by omega), hend, List.append_nil]

def paragraphInvocation : Invocation where
  command := .ask (some ['q'])
  user := 1
  latency := 0
  refusals := []
  response := .stream paragraphPieces
  frameFirst := fun _ => false

/-- The blank line is a message of its own. -/
theorem blank_message_sent :
    ∃ c ∈ (ask quietState paragraphInvocation ['q']).1.calls, Text.isBlank c.text = true := by
  have hopen : opened paragraphInvocation.response = .ok paragraphPieces := rfl
  have hok := ask_accepted quietState ['q'] hopen rfl
  obtain ⟨hcalls, hclosing, -⟩ := closing_calls hopen hok
  have hfeed : ['\n'] ∈ Message.split Message.limit (paragraphs 1989) :=
    feed_mem_split_paragraphs (by decide)
  rw [received_paragraphPieces, finalText_paragraphs] at hclosing
  rw [← closingCalls_snd, ← hclosing, List.map_map, List.mem_map] at hfeed
  obtain ⟨c, hc, hctext⟩ := hfeed
  have hblank : c.text = ['\n'] := hctext
  refine ⟨c, ?_, by rw [hblank]; rfl⟩
  rw [← List.mem_reverse, hcalls]
  exact List.mem_append_right _ hc

end Bot
end CitedReply
