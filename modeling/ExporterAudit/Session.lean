import ExporterAudit.Exporter.Lifecycle

/-!
Sessions: what is done to the outside, in order, and how it ends. A failure ends a session early;
what was done before it remains done. A session that does not end has no more to it either.
-/

namespace ExporterAudit

/-- A request for a page. -/
structure Request where
  url : Text
  accept : Option Text
deriving DecidableEq

/-- Something done to the outside. -/
inductive Action where
  | request (request : Request)
  | sleep (ms : Binary64)
  /-- An exporter is started. -/
  | start (options : Exporter.Options)
  /-- The exporter is stopped. -/
  | stop
  /-- A line is printed. -/
  | print (line : Text)
  /-- A line is printed among the errors. -/
  | complain (line : Text)

/-- The actions of a computation, and its result or failure. -/
structure Session (α : Type) where
  actions : List Action
  outcome : Except Failure α

namespace Session

variable {α β : Type}

/-- What comes after a session, unless it failed. -/
def andThen (session : Session α) (next : α → Session β) : Session β :=
  match session.outcome with
  | .error failure => ⟨session.actions, .error failure⟩
  | .ok value => ⟨session.actions ++ (next value).actions, (next value).outcome⟩

instance : Monad Session where
  pure value := ⟨[], .ok value⟩
  bind := andThen

/-- A session of one action. -/
def act (action : Action) : Session Unit :=
  ⟨[action], .ok ()⟩

/-- A result or failure without an action. -/
def ofExcept (outcome : Except Failure α) : Session α :=
  ⟨[], outcome⟩

/-- Whether a session does not end. -/
def isEndless (session : Session α) : Bool :=
  match session.outcome with
  | .error failure => failure.isEndless
  | .ok _ => false

/-- A session that does not fail: the failure becomes its result. One that does not end has none. -/
def attempt (session : Session α) : Session (Except Failure α) where
  actions := session.actions
  outcome := match session.outcome with
    | .ok value => .ok (.ok value)
    | .error failure => if failure.isEndless then .error failure else .ok (.error failure)

/-- A session with a last part that follows in any case, unless the session does not end. A failure
of the last part counts more than one before it. -/
def followedBy (session : Session α) (last : Session Unit) : Session α :=
  if session.isEndless then
    session
  else {
    actions := session.actions ++ last.actions
    outcome := match last.outcome with
      | .error failure => .error failure
      | .ok _ => session.outcome }

def print (line : Text) : Session Unit :=
  act (.print line)

def complain (line : Text) : Session Unit :=
  act (.complain line)

def sleep (ms : Binary64) : Session Unit :=
  act (.sleep ms)

/-! ### Views of what was done -/

def printed (actions : List Action) : List Text :=
  actions.filterMap fun
    | .print line => some line
    | _ => none

def complained (actions : List Action) : List Text :=
  actions.filterMap fun
    | .complain line => some line
    | _ => none

def requests (actions : List Action) : List Request :=
  actions.filterMap fun
    | .request request => some request
    | _ => none

def sleeps (actions : List Action) : List Binary64 :=
  actions.filterMap fun
    | .sleep ms => some ms
    | _ => none

def starts (actions : List Action) : List Exporter.Options :=
  actions.filterMap fun
    | .start options => some options
    | _ => none

def stopCount (actions : List Action) : Nat :=
  actions.countP fun
    | .stop => true
    | _ => false

end Session

end ExporterAudit
