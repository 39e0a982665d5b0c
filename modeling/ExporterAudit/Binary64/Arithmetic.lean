import ExporterAudit.Binary64.Basic

/-!
Arithmetic of the 64-bit format: each operation is the exact result rounded once, a tie going to
the even significand.
-/

namespace ExporterAudit.Binary64

/-- The same magnitude with the other sign. -/
def neg : Binary64 → Binary64
  | .nan => .nan
  | .infinity negative => .infinity (!negative)
  | .finite negative units inRange bits => .finite (!negative) units inRange bits

/-- A sum that cancels is the positive zero, unless both terms are negative zeros. -/
def add : Binary64 → Binary64 → Binary64
  | .nan, _ | _, .nan => .nan
  | .infinity a, .infinity b => if a = b then .infinity a else .nan
  | .infinity a, .finite .. => .infinity a
  | .finite .., .infinity b => .infinity b
  | .finite a x _ _, .finite b y _ _ =>
    let sum := signed a x + signed b y
    if sum = 0 then zero (a && b) else ofRatio (sum < 0) sum.natAbs 1

def sub (a b : Binary64) : Binary64 :=
  a.add b.neg

/-- Infinity times zero is not a number. -/
def mul : Binary64 → Binary64 → Binary64
  | .nan, _ | _, .nan => .nan
  | .infinity a, .infinity b => .infinity (a ^^ b)
  | .infinity a, .finite b y _ _ => if y = 0 then .nan else .infinity (a ^^ b)
  | .finite a x _ _, .infinity b => if x = 0 then .nan else .infinity (a ^^ b)
  | .finite a x _ _, .finite b y _ _ => ofRatio (a ^^ b) (x * y) one

/-- Zero by zero and infinity by infinity are not numbers; any other number by zero is infinite. -/
def div : Binary64 → Binary64 → Binary64
  | .nan, _ | _, .nan => .nan
  | .infinity _, .infinity _ => .nan
  | .infinity a, .finite b _ _ _ => .infinity (a ^^ b)
  | .finite a _ _ _, .infinity b => zero (a ^^ b)
  | .finite a x _ _, .finite b y _ _ =>
    if y = 0 then
      if x = 0 then .nan else .infinity (a ^^ b)
    else
      ofRatio (a ^^ b) (x * one) y

/-- The greatest integer that is not above the number. -/
def floor : Binary64 → Binary64
  | .nan => .nan
  | .infinity negative => .infinity negative
  | .finite negative units _ _ =>
    let whole := if negative then (units + one - 1) / one else units / one
    ofRatio negative (whole * one) 1

instance : Neg Binary64 := ⟨neg⟩
instance : Add Binary64 := ⟨add⟩
instance : Sub Binary64 := ⟨sub⟩
instance : Mul Binary64 := ⟨mul⟩
instance : Div Binary64 := ⟨div⟩

end ExporterAudit.Binary64
