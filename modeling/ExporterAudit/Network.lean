import ExporterAudit.Session
import ExporterAudit.Timeout

/-!
A network: what each address answers. Pages are fetched from it with a session that notes the
request; nothing is requested if the timeout is none.
-/

namespace ExporterAudit

/-- The answer to a request. A response whose body breaks off on the way has no case of its own: the
error that the transport raises there is not one of the failures listed here. -/
inductive Reply where
  /-- A response with its status and body. -/
  | response (status : Nat) (body : Text)
  /-- No response, for a reason that may be empty. -/
  | failure (reason : Text)
deriving DecidableEq

/-- The answer of each address. -/
abbrev Network := Text → Reply

namespace Network

/-- The network of listed replies, the last for an address counting; others do not exist. -/
def ofReplies (replies : List (Text × Reply)) : Network := fun url =>
  (replies.reverse.lookup url).getD (.response 404 [])

/-- Statuses whose responses have no body. -/
def hasNoBody (status : Nat) : Bool :=
  status == 204 || status == 205 || status == 304

/-- Statuses of success. -/
def isSuccess (status : Nat) : Bool :=
  200 ≤ status && status ≤ 299

/-- The text of a body; a byte order mark at its start is not part of it. -/
def bodyText (status : Nat) (body : Text) : Text :=
  if hasNoBody status then []
  else match body with
    | '\uFEFF' :: rest => rest
    | _ => body

/-- The text of a page, or why there is none. -/
def page (network : Network) (url : Text) : Except Failure Text :=
  match network url with
  | .failure reason => .error (.endpointError url none reason)
  | .response status body =>
    if isSuccess status then .ok (bodyText status body)
    else .error (.endpointError url (some (some (.ofNat status))) [])

/-- Fetches a page within a timeout in milliseconds. The body of a response is there as a whole. -/
def fetch (network : Network) (timeoutMs : Binary64) (request : Request) : Session Text :=
  match Timeout.refusal? timeoutMs with
  | some reason => Session.ofExcept (.error (.endpointError request.url none reason))
  | none => do
    Session.act (.request request)
    Session.ofExcept (network.page request.url)

end Network

/-- An address without the slashes at its end. -/
def withoutEndSlashes (address : Text) : Text :=
  (address.reverse.dropWhile (· == '/')).reverse

end ExporterAudit
