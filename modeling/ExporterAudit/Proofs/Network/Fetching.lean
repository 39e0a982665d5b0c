import ExporterAudit.Network
import ExporterAudit.Proofs.FormEncoding.Pairs
import ExporterAudit.Proofs.Session.Actions

/-!
What a fetch asks and what it brings. There is one request, to the address as it is given, and a page
only if the answer to it is a response of success. What an address asks for can be read off its query.
-/

namespace ExporterAudit

/-- The address of a page with a query for pairs of names and values. -/
def queryAddress (page : Text) (pairs : List (Text × Text)) : Text :=
  page ++ '?' :: FormEncoding.write pairs

/-- An address asks a page for the pairs that its query reads as. -/
def AsksFor (address page : Text) (pairs : List (Text × Text)) : Prop :=
  ∃ query, address = page ++ '?' :: query ∧ FormEncoding.read query = pairs

/-- Read back by the rules of form encoding, the query holds the pairs it was made of. -/
theorem asksFor_queryAddress (page : Text) (pairs : List (Text × Text)) :
    AsksFor (queryAddress page pairs) page pairs :=
  ⟨_, rfl, FormEncoding.read_write pairs⟩

namespace Network

variable {network : Network} {timeoutMs : Binary64} {request : Request} {address body : Text}

/-- An address answers with a page: a response whose status is one of success. -/
def Answers (network : Network) (address body : Text) : Prop :=
  ∃ status sent, network address = .response status sent ∧ 200 ≤ status ∧ status ≤ 299 ∧
    bodyText status sent = body

/-- Only a response of success counts as an answer. Any other one, or none at all, is a failure. -/
theorem page_eq_ok_iff : network.page address = .ok body ↔ network.Answers address body := by
  unfold page Answers
  cases network address with
  | failure reason => simp
  | response status sent =>
    by_cases hsuccess : 200 ≤ status ∧ status ≤ 299
    · simp [isSuccess, hsuccess]
    · simp only [isSuccess, ← Bool.decide_and, hsuccess, decide_false, Bool.false_eq_true, ↓reduceIte,
        Reply.response.injEq, reduceCtorEq, false_iff]
      rintro ⟨_, _, ⟨rfl, rfl⟩, hleast, hmost, -⟩
      exact hsuccess ⟨hleast, hmost⟩

/-- A fetch makes its request unless its timeout is none. -/
theorem actions_fetch (network : Network) (timeoutMs : Binary64) (request : Request) :
    (network.fetch timeoutMs request).actions =
      if Timeout.refusal? timeoutMs = none then [.request request] else [] := by
  unfold fetch
  split
  · next hrefusal => simp [hrefusal]
  · next hrefusal => simp [hrefusal, Session.act_bind]

/-- Whether there is a page depends on the timeout and the address alone, not on what is accepted.
-/
theorem outcome_fetch_eq_ok_iff : (network.fetch timeoutMs request).outcome = .ok body ↔
    Timeout.refusal? timeoutMs = none ∧ network.Answers request.url body := by
  unfold fetch
  split
  · next hrefusal => simp [hrefusal, Session.ofExcept]
  · next hrefusal => simp [hrefusal, Session.act_bind, Session.ofExcept, page_eq_ok_iff]

/-- Every answer is turned into a page or a failure at once. -/
theorem page_ne_endless (network : Network) (address : Text) (value : Binary64) :
    network.page address ≠ .error (.endless value) := by
  unfold page
  cases network address with
  | failure reason => simp
  | response status sent => cases hsuccess : isSuccess status <;> simp [hsuccess]

/-- A fetch ends, with a page or without. -/
theorem isEndless_fetch (network : Network) (timeoutMs : Binary64) (request : Request) :
    (network.fetch timeoutMs request).isEndless = false := by
  refine Bool.eq_false_iff.mpr fun hendless => ?_
  obtain ⟨value, houtcome⟩ := Session.isEndless_eq_true_iff.mp hendless
  unfold fetch at houtcome
  split at houtcome
  · cases houtcome
  · exact network.page_ne_endless request.url value houtcome

end Network

end ExporterAudit
