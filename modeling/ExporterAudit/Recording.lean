import ExporterAudit.Json
import ExporterAudit.Network

/-!
Recordings of the outside: what the network answers and what happens to the exporter, as data
trees.
-/

namespace ExporterAudit.Recording

/-- A number, also one written as a text. -/
def number? : Document → Option Binary64
  | .number value => some value
  | .text text => if text = "NaN".toList then some .nan else Binary64.ofText? text
  | _ => none

def text? : Document → Option Text
  | .text text => some text
  | _ => none

/-- What may be null. -/
def nullable? {α : Type} (read? : Document → Option α) : Document → Option (Option α)
  | .null => some none
  | document => (read? document).map some

def list? {α : Type} (read? : Document → Option α) : Document → Option (List α)
  | .list items => items.mapM read?
  | _ => none

/-- Whether a status is one that a response can have. -/
def isStatus (status : Nat) : Bool :=
  200 ≤ status && status ≤ 599

/-- The reply of a status and a body. -/
def response (status : Nat) (body : Text) : Reply :=
  if isStatus status then .response status body
  else .failure "init[\"status\"] must be in the range of 200 to 599, inclusive."

/-- A reply: a reason to fail, or a status and a body, which may be missing. -/
def reply? (document : Document) : Option Reply := do
  match document.member? "fail" with
  | some reason => return .failure (← text? reason)
  | none =>
    let status ← match document.member? "status" with
      | some status => (number? status).bind Binary64.toNat?
      | none => some 200
    let body ← match document.member? "body" with
      | some body => text? body
      | none => some []
    return response status body

/-- An address and its reply. -/
def listedReply? : Document → Option (Text × Reply)
  | .list [.text url, reply] => (reply? reply).map (url, ·)
  | _ => none

/-- A network as a list of addresses and replies. -/
def network? (document : Document) : Option Network :=
  (list? listedReply? document).map Network.ofReplies

/-- Something that happens to an exporter: a map of one member. -/
def event? : Document → Option Exporter.Event
  | .map [(name, value)] =>
    if name = "stdout".toList then (text? value).map .output
    else if name = "end".toList then some .outputEnd
    else if name = "exit".toList then
      match value with
      | .list [code, signal] =>
        return .exit (← nullable? number? code) (← nullable? text? signal)
      | _ => none
    else if name = "error".toList then (text? value).map .error
    else if name = "timeout".toList then some .timeout
    else if name = "stop".toList then some .stop
    else none
  | _ => none

/-- What happens to an exporter, in order. -/
def events? : Document → Option (List Exporter.Event) :=
  list? event?

/-- An exporter that prints a line at once. -/
def readyEvents : List Exporter.Event := [.output "listening\n"]

/-- A recording of the outside. -/
structure Outside where
  network : Network
  events : List Exporter.Event

/-- The recording in a JSON text. Where nothing is recorded no page exists, and the exporter
starts. -/
def read? (text : Text) : Option Outside :=
  if text.trim = [] then
    some { network := .ofReplies [], events := readyEvents }
  else do
    let document ← Json.read? text
    let network ← match document.member? "responses" with
      | some replies => network? replies
      | none => some (.ofReplies [])
    let events ← match document.member? "exporter" with
      | some events => events? events
      | none => some readyEvents
    return { network, events }

end ExporterAudit.Recording
