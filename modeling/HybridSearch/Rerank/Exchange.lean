import HybridSearch.Rerank.Scoring
import HybridSearch.Settings
import HybridSearch.Text.Ascii
import HybridSearch.Text.Base64
import HybridSearch.Url

/-! One call of the scoring service. -/

namespace HybridSearch.Rerank

/-- A call. Its address and its authorization take their final form when it is sent. -/
structure Call where
  url : String
  authorization : String
  timeout : Float
  model : String
  query : String
  documents : List String
  count : Nat
deriving Repr, DecidableEq

inductive Delivery where
  /-- There is no answer. -/
  | failed
  | answered (status : Nat) (body : List UInt8)
deriving Repr, DecidableEq

/-- The scoring service: what comes of a call. -/
abbrev Endpoint := Call → Delivery

/-- What is noted while reranking. -/
inductive Event where
  | noKey
  | noContent
  | refused (status : Nat)
  | noData
  | failed
  | noScores
  | noCandidates
  | reranked (candidates chosen : Nat)
deriving Repr, DecidableEq

namespace Event

def isWarning : Event → Bool
  | noKey | refused _ | noData | failed => true
  | noContent | noScores | noCandidates | reranked _ _ => false

def level (event : Event) : String :=
  if event.isWarning then "WARNING" else "DEBUG"

end Event

def reasons : List (Nat × String) :=
  [(100, "Continue"), (101, "Switching Protocols"), (102, "Processing"), (103, "Early Hints"),
   (200, "OK"), (201, "Created"), (202, "Accepted"), (203, "Non-Authoritative Information"),
   (204, "No Content"), (205, "Reset Content"), (206, "Partial Content"), (207, "Multi-Status"),
   (208, "Already Reported"), (226, "IM Used"),
   (300, "Multiple Choices"), (301, "Moved Permanently"), (302, "Found"), (303, "See Other"),
   (304, "Not Modified"), (305, "Use Proxy"), (307, "Temporary Redirect"),
   (308, "Permanent Redirect"),
   (400, "Bad Request"), (401, "Unauthorized"), (402, "Payment Required"), (403, "Forbidden"),
   (404, "Not Found"), (405, "Method Not Allowed"), (406, "Not Acceptable"),
   (407, "Proxy Authentication Required"), (408, "Request Timeout"), (409, "Conflict"),
   (410, "Gone"), (411, "Length Required"), (412, "Precondition Failed"),
   (413, "Request Entity Too Large"), (414, "Request-URI Too Long"),
   (415, "Unsupported Media Type"), (416, "Requested Range Not Satisfiable"),
   (417, "Expectation Failed"), (418, "I'm a teapot"), (421, "Misdirected Request"),
   (422, "Unprocessable Entity"), (423, "Locked"), (424, "Failed Dependency"), (425, "Too Early"),
   (426, "Upgrade Required"), (428, "Precondition Required"), (429, "Too Many Requests"),
   (431, "Request Header Fields Too Large"), (451, "Unavailable For Legal Reasons"),
   (500, "Internal Server Error"), (501, "Not Implemented"), (502, "Bad Gateway"),
   (503, "Service Unavailable"), (504, "Gateway Timeout"), (505, "HTTP Version Not Supported"),
   (506, "Variant Also Negotiates"), (507, "Insufficient Storage"), (508, "Loop Detected"),
   (510, "Not Extended"), (511, "Network Authentication Required")]

/-- The phrase that belongs to a status code; other codes have none. -/
def reasonPhrase (status : Nat) : String :=
  (reasons.lookup status).getD ""

/-- The text of an event, with the identifier of the request that it belongs to. -/
def Event.message (event : Event) (requestId? : Option String) : String :=
  let what := match event with
    | noKey => "Skipping rerank because RERANK_API_KEY is not configured"
    | noContent => "No items with valid content to rerank"
    | refused status =>
        "Rerank API request failed: status=" ++ toString status ++ " reason=" ++
          reasonPhrase status
    | noData => "Rerank API returned no data"
    | failed => "Failed to rerank results: <error>"
    | noScores => "No results with valid relevance_score"
    | noCandidates => "No rerank result maps to a candidate"
    | reranked candidates chosen =>
        "Reranked " ++ toString candidates ++ " candidates to " ++ toString chosen
  what ++ " request_id=" ++ requestId?.getD "None"

/-! ## Sending -/

/-- A call in the form in which it is sent. -/
structure Sent where
  call : Call
  /-- Whether its address names a host. -/
  namesHost : Bool
deriving Repr, DecidableEq

/-- The authorization of a user who is named in an address. -/
def authorization? (url : Url) : Option String :=
  match url.credentials with
  | ([], []) => none
  | (name, password) =>
      let bytes := (String.ofList (name ++ ':' :: password)).toUTF8.toList
      some ("Basic " ++ String.ofList (Text.Base64.encode bytes))

/-- The form in which a call is sent. A user who is named in the address comes before the key, which
must be plain ASCII all the same. -/
def Call.sent? (call : Call) : Option Sent :=
  match Url.read call.url with
  | .error _ => none
  | .ok address =>
      let url := Url.nowhere.onto address
      if Text.isAscii call.authorization.toList && Text.isAscii url.host &&
          (Url.Host.displayFault? url.host).isNone then
        some
          { call :=
              { call with
                url := String.ofList url.text
                authorization := (authorization? url).getD call.authorization }
            namesHost := url.isAbsolute }
      else none

structure Exchange where
  /-- The call, if it reached the service. -/
  received? : Option Call
  /-- The status of the answer, or that of a failed service when there is none. -/
  status : Nat
  /-- The items with a score, the best first, if the call succeeded. -/
  ranked? : Option (List Scored)
  events : List Event
deriving Repr, DecidableEq

namespace Exchange

/-- The status that stands for a missing answer. -/
def failureStatus : Nat := 500

def isSuccess (status : Nat) : Bool :=
  200 ≤ status && status < 300

/-- Makes a call. One that cannot be sent fails; so does one that was sent to no host, whatever the
answer. -/
def make (endpoint : Endpoint) (call : Call) : Exchange :=
  match call.sent? with
  | none => ⟨none, failureStatus, none, [.failed]⟩
  | some sent =>
      let failed (status : Nat) : Exchange := ⟨some sent.call, status, none, [.failed]⟩
      match endpoint sent.call with
      | .failed => failed failureStatus
      | .answered status body =>
          if !sent.namesHost then failed failureStatus
          else if isSuccess status then
            match Reply.ofBytes body with
            | .scores scored => ⟨some sent.call, status, some (bestFirst scored), []⟩
            | .noData => ⟨some sent.call, status, none, [.noData]⟩
            | .unreadable => failed status
          else ⟨some sent.call, status, none, [.refused status]⟩

end Exchange

end HybridSearch.Rerank
