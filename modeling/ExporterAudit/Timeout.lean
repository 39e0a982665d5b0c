import ExporterAudit.Binary64.Arithmetic
import ExporterAudit.Binary64.Shortest

/-!
Timeouts in milliseconds. A timer takes whole numbers from zero to `2 ^ 32 - 1`; any other number
is refused with the rule that it breaks.
-/

namespace ExporterAudit.Timeout

/-- The timeout where nothing else is said. -/
def standardMs : Binary64 := 10000

/-- The greatest timeout. -/
def longestMs : Nat := 2 ^ 32 - 1

/-- Digits from the last to the first, with a mark after each three that others follow. -/
def grouped : Text → Text
  | a :: b :: c :: d :: rest => a :: b :: c :: '_' :: grouped (d :: rest)
  | digits => digits

/-- A numeral with its characters in groups of three. -/
def groupedNumeral : Text → Text
  | '-' :: digits => '-' :: (grouped digits.reverse).reverse
  | digits => (grouped digits.reverse).reverse

/-- A number as a refusal shows it: integers beyond `2 ^ 32` have their digits grouped. -/
def shown (ms : Binary64) : Text :=
  let limit : Binary64 := .ofNat (2 ^ 32)
  if ms.isInteger && (limit.lt ms || ms.lt (-limit)) then groupedNumeral ms.toText
  else ms.toText

/-- The rule that a number breaks as a timeout. -/
def brokenRule? (ms : Binary64) : Option Text :=
  if !ms.isInteger then some "an integer"
  else if ms.lt 0 || (Binary64.ofNat longestMs).lt ms then
    some (">= 0 && <= " ++ Text.ofNat longestMs)
  else none

/-- Why a number is no timeout, if so. -/
def refusal? (ms : Binary64) : Option Text :=
  (brokenRule? ms).map fun rule =>
    "The value of \"delay\" is out of range. It must be " ++ rule ++ ". Received " ++ shown ms

end ExporterAudit.Timeout
