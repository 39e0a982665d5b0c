import ExporterAudit.Binary64.Basic
import ExporterAudit.Text.Basic

/-!
The shortest decimal that reads back. The numbers of the reals that round to a given magnitude
form an interval, which includes its ends when the significand is even. Decimal grids `10 ^ p` are
tried from coarse to fine; the first grid with a point in the interval gives the digits, and of
its two candidates the nearer one wins.
-/

namespace ExporterAudit.Binary64

/-- A decimal `digits * 10 ^ exponent`. -/
structure Decimal where
  digits : Nat
  exponent : Int
deriving DecidableEq, Repr

/-- The interval of magnitudes that round to `units`, in quarters of a unit. -/
structure RoundingInterval where
  low : Nat
  high : Nat
  closed : Bool

/-- Below the least significand of a binade the grid is twice as fine. -/
def roundingInterval (units : Nat) : RoundingInterval :=
  let grid := 2 ^ gridExponent units
  let significand := units / grid
  let below := if significand = 2 ^ 52 ∧ 1 < grid then grid else 2 * grid
  { low := 4 * units - below, high := 4 * units + 2 * grid, closed := significand % 2 = 0 }

/-- Ten to a power as a fraction. -/
def tenPow (exponent : Int) : Nat × Nat :=
  (10 ^ exponent.toNat, 10 ^ (-exponent).toNat)

/-- The point of the grid `10 ^ exponent` that reads back as `units`, the nearer one if both
neighbours do; an exact tie goes to the even digits. -/
def gridPoint? (units : Nat) (exponent : Int) : Option Decimal :=
  let interval := roundingInterval units
  let (stepNum, stepDen) := tenPow exponent
  -- All magnitudes below are in quarters of a unit, times `stepDen`.
  let step := 4 * one * stepNum
  let value := 4 * units * stepDen
  let reads (digits : Nat) : Bool :=
    let point := digits * step
    if interval.closed then
      interval.low * stepDen ≤ point && point ≤ interval.high * stepDen
    else
      interval.low * stepDen < point && point < interval.high * stepDen
  let digits := value / step
  let below := value - digits * step
  let above := (digits + 1) * step - value
  match reads digits, reads (digits + 1) with
  | false, false => none
  | true, false => some ⟨digits, exponent⟩
  | false, true => some ⟨digits + 1, exponent⟩
  | true, true =>
    if below < above || (below == above && digits % 2 == 0) then
      some ⟨digits, exponent⟩
    else
      some ⟨digits + 1, exponent⟩

/-- Tries `count` grids, from the given one to finer ones. -/
def firstGridPoint (units : Nat) : (count : Nat) → (exponent : Int) → Decimal
  | 0, exponent => ⟨0, exponent⟩
  | count + 1, exponent =>
    match gridPoint? units exponent with
    | some point => point
    | none => firstGridPoint units count (exponent - 1)

/-- The shortest decimal of a positive magnitude. The first grid is at least as coarse as the
magnitude (`30103 / 100000` is the decimal logarithm of two), and seventeen digits always do. -/
def shortest (units : Nat) : Decimal :=
  firstGridPoint units 24 (((Nat.log2 units : Int) - 1074) * 30103 / 100000 + 2)

/-- Digits with the decimal point after the first `point` of them, or with an exponent where the
point would stand more than 21 places to the right or 6 to the left. -/
def Decimal.toText (decimal : Decimal) : Text :=
  let digits := Text.ofNat decimal.digits
  let count : Int := digits.length
  let point := decimal.exponent + count
  if count ≤ point ∧ point ≤ 21 then
    digits ++ List.replicate (point - count).toNat '0'
  else if 0 < point ∧ point ≤ 21 then
    digits.take point.toNat ++ '.' :: digits.drop point.toNat
  else if -6 < point ∧ point ≤ 0 then
    "0." ++ List.replicate (-point).toNat '0' ++ digits
  else
    let fraction := match digits.drop 1 with
      | [] => []
      | rest => '.' :: rest
    let exponent := point - 1
    let mark : Text := if exponent < 0 then "e-" else "e+"
    digits.take 1 ++ fraction ++ mark ++ Text.ofNat exponent.natAbs

/-- The text of a number: the fewest digits that read back. Both zeros are `0`. -/
def toText : Binary64 → Text
  | .nan => "NaN"
  | .infinity negative => if negative then "-Infinity" else "Infinity"
  | .finite negative units _ _ =>
    if units = 0 then "0"
    else if negative then '-' :: (shortest units).toText
    else (shortest units).toText

end ExporterAudit.Binary64
