import ExporterAudit.Unicode.Composition
import ExporterAudit.Unicode.Mark

/-!
Texts in composed form: characters and marks that make up a single character are replaced by it,
and marks that do not interact stand in the order of their combining classes. Two texts that look
the same have the same composed form.
-/

namespace ExporterAudit.Unicode

/-! ### Taking apart -/

/-- How often a character can be taken apart: a syllable or letter once or twice. -/
def deepestComposite : Nat := 2

/-- The characters that a character is made of. -/
def parts : (depth : Nat) → Char → Text
  | 0, c => [c]
  | depth + 1, c =>
    match decompose? c with
    | some (first, second) => parts depth first ++ [second]
    | none => [c]

/-- Puts a character before marks in order, or among them if it is a mark. -/
def insertMark (c : Char) : Text → Text
  | [] => [c]
  | mark :: rest =>
    if 0 < combiningClass mark ∧ combiningClass mark < combiningClass c then
      mark :: insertMark c rest
    else
      c :: mark :: rest

/-- The text taken apart, with its marks in order. -/
def decomposed (text : Text) : Text :=
  (text.flatMap (parts deepestComposite)).foldr insertMark []

/-! ### Putting together -/

/-- Whether a mark can reach the character that others, the latest first, stand after: one of the
same or a higher class is in the way. -/
def reaches (mark : Char) : (passed : Text) → Bool
  | [] => true
  | latest :: _ => combiningClass latest < combiningClass mark

/-- Puts together a character, marks after it that stay, the latest first, and what follows. -/
def composeFrom (start : Char) (passed : Text) : Text → Text
  | [] => start :: passed.reverse
  | c :: rest =>
    let whole := if reaches c passed then compose? start c else none
    match whole with
    | some whole => composeFrom whole passed rest
    | none =>
      if combiningClass c = 0 then
        start :: passed.reverse ++ composeFrom c [] rest
      else
        composeFrom start (c :: passed) rest

/-- Puts together what is taken apart; marks at the start have nothing to go with. -/
def compose : Text → Text
  | [] => []
  | c :: rest => if combiningClass c = 0 then composeFrom c [] rest else c :: compose rest

/-- The composed form of a text. -/
def composed (text : Text) : Text :=
  compose (decomposed text)

end ExporterAudit.Unicode
