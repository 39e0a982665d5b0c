import ExporterAudit.Unicode.Runs

/-!
How characters of cursive scripts join their neighbours, as of Unicode 15.1.
-/

namespace ExporterAudit.Unicode

/-- The sides on which a character joins others; the left side is the one that the writing goes
towards. -/
structure Joining where
  left : Bool
  right : Bool

namespace Joining

/-- The joining that an entry of the table tells. -/
def ofEntry : Text → Joining
  | 'D' :: _ => ⟨true, true⟩
  | 'L' :: _ => ⟨true, false⟩
  | 'R' :: _ => ⟨false, true⟩
  | _ => ⟨false, false⟩

/-- The table: `L` and `R` for a side, `D` for both and `-` for none. -/
def table : List String :=
  [
    "620- D - 4R D R D R 5D 4R dD - 7D R 2D 23- 2D - 3R 5- fD 12R 26D R 2D 9R D R D R 2D 2R - R",
    "18- 2R a- 3D 2- D 10- R - 3D 5R 4D R 9D R D R D R 2D R 1d- R bD 3R fD 2R 4D R D 2R 3D 2R",
    "6D 4a- 21D 55- R 5D 2R D R aD R D 3R 7- D - 4D - R D 1aR 3- D 2- 5D aR 8- aD 3R - R 2D 2R",
    "6D R fD f3e- D 18- 60D 7- 22D - 6D 8f90- 32D L 624d- 5D R - R - 2R 2- L 5R 4D L 5D R 3D R",
    "2- R 6- 4D R 90- D R D 3R 3D R 2D R D 2R D 8R 10- 4R 2D 151- L 21D R D 20c- 3D R 11D c- 3D",
    "R 1b- 4D 2R cD 2e- D - 2D 3R - D 2R 2D R 2D - D 2R D 4- R D 15L d942- 22D"]

/-- The joinings of all code points. -/
def all : Runs Joining := Runs.ofLines ofEntry table

end Joining

/-- The sides on which a character joins others. -/
def joining (c : Char) : Joining :=
  (Joining.all.get? c).getD ⟨false, false⟩

end ExporterAudit.Unicode
