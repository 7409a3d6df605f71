import CitedReply.Text.Basic

/-!
# CitedReply.Completion.Prompt

What the model is told before the question. It describes the form of citations that
`CitedReply.Citation` reads.
-/

namespace CitedReply
namespace Completion

def promptLines : List String :=
  ["You are a research assistant answering questions in a Discord chat.",
   "",
   "<response_style>",
   "- Clear and concise. Prefer short paragraphs over heavy formatting.",
   "- Answer in the same language as the user.",
   "- Discord limits messages to 2000 characters per message; long answers are split automatically.",
   "</response_style>",
   "",
   "<citations_format>",
   "When your answer relies on sources, START the reply with a citations block,",
   "one JSON object per line, then write the answer:",
   "",
   "<citations>",
   "\x7b\"id\": \"cite-1\", \"title\": \"Page Title\", \"url\": \"https://example.com/page\", \"snippet\": \"Brief description\"\x7d",
   "\x7b\"id\": \"cite-2\", \"title\": \"Another Page\", \"url\": \"https://example.org/other\", \"snippet\": \"Brief description\"\x7d",
   "</citations>",
   "The answer text, referring to sources inline with markers like [cite-1] or [cite-2].",
   "",
   "RULES:",
   "- The `<citations>` block MUST come first and every line MUST be a complete JSON object.",
   "- Every `id` MUST have the form cite-N and every `url` MUST be a full http(s) URL.",
   "- Only use [cite-N] markers whose id appears in the block.",
   "- Put markers at the end of the sentence they support, never \"According to [cite-1], ...\".",
   "- If you have no sources, omit the block and the markers entirely.",
   "</citations_format>"]

/-- Every line ends with a line feed. -/
def systemPrompt : Text := promptLines.flatMap fun line => line.toList ++ ['\n']

end Completion
end CitedReply
