/-!
# Requests and replies

A service is asked by requests and answers with replies. The network
itself is not described: what a service answers is given as the list of
replies that each of its addresses has in store.

* `Request`, `Reply` – what is sent and what comes back, also if the
  request is refused for what it consists of;
* `HttpDefect` – why a reply cannot be used;
* `Service` – the replies of all addresses.
-/
namespace GeoCatalogue

/-- **A request.** -/
structure Request where
  /-- The address. -/
  url : String
  /-- The media type that is asked for. -/
  accept : String
  /-- The time to wait for a reply, as it is printed. -/
  timeout : String
deriving DecidableEq, Repr

/-- **What a request is refused for**, before it is sent. -/
inductive RequestDefect where
  /-- The address is none. -/
  | address
  /-- The time to wait, or something else about the request, is no value that
  it can have. -/
  | value
  /-- The time to wait is longer than any. -/
  | range
deriving DecidableEq, Repr

/-- **Words**, which are never missing. -/
abbrev Words := { text : String // text ≠ "" }

/-- **What comes back.** -/
inductive Reply where
  /-- A reply with a status and a body. -/
  | answered (status : Nat) (body : String)
  /-- Nobody is there, or the connection breaks; the words explain it. -/
  | unreachable (explanation : String)
  /-- The request is refused; the words explain it. -/
  | refused (defect : RequestDefect) (explanation : Words)
deriving DecidableEq, Repr

/-- **Why a reply cannot be used.** -/
inductive HttpDefect where
  /-- The status is that of an error. -/
  | status (code : Nat)
  /-- There is no connection. -/
  | unreachable
  /-- The request has been refused, in these words. -/
  | refused (defect : RequestDefect) (explanation : Words)
deriving DecidableEq, Repr

/-- Whether a status is that of an error. -/
def isErrorStatus (status : Nat) : Bool :=
  400 ≤ status && status < 600

/-- **The body of a reply**, or why there is none. -/
def Reply.body : Reply → Except HttpDefect String
  | answered status body =>
    if isErrorStatus status then .error (.status status) else .ok body
  | unreachable _ => .error .unreachable
  | refused defect explanation => .error (.refused defect explanation)

/-- The words for a reply that cannot be used. -/
def Reply.explanation : Reply → String
  | answered status _ => toString status
  | unreachable explanation => explanation
  | refused _ explanation => explanation.val

/-- Whether a client leaves a record of a reply that it cannot use. Apart from
the address, what is wrong with a request is noticed where nobody expects
it. -/
def HttpDefect.isRecorded : HttpDefect → Bool
  | refused defect _ => defect = .address
  | _ => true

/-- **A service**: how it replies to a request, given the requests that
came before. -/
abbrev Service := List Request → Request → Reply

/-- The reply at an index of a list whose last reply repeats. -/
def replyAt (nobody : Reply) : List Reply → Nat → Reply
  | [], _ => nobody
  | [last], _ => last
  | first :: _, 0 => first
  | _ :: rest, index + 1 => replyAt nobody rest index

/-- **The service with replies in store**: each address gives its replies
in turn and repeats the last one, and nobody is at the others. -/
def Service.ofReplies (replies : List (String × List Reply))
    (explanation : String) : Service :=
  fun history request =>
    let nobody := Reply.unreachable explanation
    let earlier := (history.filter (·.url == request.url)).length
    replyAt nobody ((replies.lookup request.url).getD []) earlier

end GeoCatalogue
