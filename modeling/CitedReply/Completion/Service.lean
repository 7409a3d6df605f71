import CitedReply.Completion.Feed
import CitedReply.Completion.Prompt
import CitedReply.Json.Basic
import CitedReply.Text.Decimal

/-!
# CitedReply.Completion.Service

The completion service: where it is, what is sent to it, and what it may answer.
-/

namespace CitedReply
namespace Completion

structure Service where
  baseUrl : Text
  model : Text
  apiKey : Option Text
  timeout : Nat

structure Request where
  url : Text
  timeout : Nat
  headers : List (Text × Text)
  body : Json.Value

namespace Service

def withoutSlashes (t : Text) : Text := (t.reverse.dropWhile (· = '/')).reverse

def completions : Text := "/chat/completions".toList

/-- The base may name the service, its version, or the endpoint itself. -/
def endpoint (s : Service) : Text :=
  let base := withoutSlashes s.baseUrl
  if Text.endsWith completions base then base
  else if Text.endsWith "/v1".toList base then base ++ completions
  else base ++ "/v1".toList ++ completions

def messageOf (role content : Text) : Json.Value :=
  .object [("role".toList, .string role), ("content".toList, .string content)]

def request (s : Service) (question : Text) : Request where
  url := s.endpoint
  timeout := s.timeout
  headers :=
    ("accept".toList, "text/event-stream".toList) ::
      s.apiKey.toList.map fun key => ("Authorization".toList, "Bearer ".toList ++ key)
  body := .object
    [("model".toList, .string s.model),
      ("messages".toList, .array
        [messageOf "system".toList systemPrompt, messageOf "user".toList question]),
      ("temperature".toList, .number "0.3".toList),
      ("stream".toList, .bool true)]

end Service

inductive Response where
  | unreachable
  | status (code : Nat) (body : Text)
  | stream (pieces : List Piece)

def reasons : List (Nat × String) :=
  [(100, "Continue"), (101, "Switching Protocols"), (102, "Processing"), (103, "Early Hints"),
    (200, "OK"), (201, "Created"), (202, "Accepted"), (203, "Non Authoritative Information"),
    (204, "No Content"), (205, "Reset Content"), (206, "Partial Content"), (207, "Multi-Status"),
    (208, "Already Reported"), (226, "IM Used"), (300, "Multiple Choices"),
    (301, "Moved Permanently"), (302, "Found"), (303, "See Other"), (304, "Not Modified"),
    (305, "Use Proxy"), (307, "Temporary Redirect"), (308, "Permanent Redirect"),
    (400, "Bad Request"), (401, "Unauthorized"), (402, "Payment Required"), (403, "Forbidden"),
    (404, "Not Found"), (405, "Method Not Allowed"), (406, "Not Acceptable"),
    (407, "Proxy Authentication Required"), (408, "Request Timeout"), (409, "Conflict"),
    (410, "Gone"), (411, "Length Required"), (412, "Precondition Failed"),
    (413, "Payload Too Large"), (414, "URI Too Long"), (415, "Unsupported Media Type"),
    (416, "Range Not Satisfiable"), (417, "Expectation Failed"), (418, "I'm a teapot"),
    (421, "Misdirected Request"), (422, "Unprocessable Entity"), (423, "Locked"),
    (424, "Failed Dependency"), (425, "Too Early"), (426, "Upgrade Required"),
    (428, "Precondition Required"), (429, "Too Many Requests"),
    (431, "Request Header Fields Too Large"), (451, "Unavailable For Legal Reasons"),
    (500, "Internal Server Error"), (501, "Not Implemented"), (502, "Bad Gateway"),
    (503, "Service Unavailable"), (504, "Gateway Timeout"), (505, "HTTP Version Not Supported"),
    (506, "Variant Also Negotiates"), (507, "Insufficient Storage"), (508, "Loop Detected"),
    (510, "Not Extended"), (511, "Network Authentication Required")]

def reason (code : Nat) : Text :=
  ((reasons.find? (·.1 = code)).map (·.2.toList)).getD "<unknown status code>".toList

inductive RequestFailure where
  | unreachable
  | refused (code : Nat) (body : Text)

def RequestFailure.message : RequestFailure → Text
  | .unreachable => "LLM request failed".toList
  | .refused code body =>
    "LLM returned ".toList ++ Text.ofNat code ++ ' ' :: reason code ++ ": ".toList ++ body

end Completion
end CitedReply
