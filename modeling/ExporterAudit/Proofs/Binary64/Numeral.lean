import ExporterAudit.Binary64.Numeral
import ExporterAudit.Proofs.Text.Lines

/-!
The grammar of numerals. A decimal numeral is read exactly if it is an optional sign, a coefficient and
an optional exponent. Besides these the reader takes the signed word `Infinity` and integers in other
bases, and it ignores white space around a numeral and takes blank text for zero.
-/

namespace ExporterAudit.Binary64

/-- One digit or more. -/
structure IsDigits (text : Text) : Prop where
  nonempty : text ≠ []
  digits : ∀ c ∈ text, isDigit c = true

/-- A plus, a minus or nothing. -/
def IsSign (sign : Text) : Prop :=
  sign = [] ∨ sign = ['+'] ∨ sign = ['-']

/-- Something accepted behind an optional sign. -/
def Signed (accepts : Text → Prop) (text : Text) : Prop :=
  ∃ sign rest, IsSign sign ∧ accepts rest ∧ text = sign ++ rest

/-- Digits with an optional fraction, which may have no digits behind its point, or a fraction alone. -/
inductive IsCoefficient : Text → Prop
  | whole {digits : Text} (hdigits : IsDigits digits) : IsCoefficient digits
  | mixed {digits fraction : Text} (hdigits : IsDigits digits)
      (hfraction : ∀ c ∈ fraction, isDigit c = true) : IsCoefficient (digits ++ '.' :: fraction)
  | fraction {digits : Text} (hdigits : IsDigits digits) : IsCoefficient ('.' :: digits)

/-- Nothing, or `e` and digits with an optional sign. -/
inductive IsExponent : Text → Prop
  | none : IsExponent []
  | some {mark : Char} {power : Text} (hmark : mark = 'e' ∨ mark = 'E') (hpower : Signed IsDigits power) :
      IsExponent (mark :: power)

/-- A decimal numeral without a sign. -/
def IsUnsignedDecimal (text : Text) : Prop :=
  ∃ coefficient exponent, IsCoefficient coefficient ∧ IsExponent exponent ∧ text = coefficient ++ exponent

/-- A decimal numeral. -/
def IsDecimal : Text → Prop :=
  Signed IsUnsignedDecimal

/-- The word `Infinity` with an optional sign. -/
def IsInfinityWord : Text → Prop :=
  Signed (· = "Infinity".toList)

/-- An integer in base two, eight or sixteen, with the mark of its base. -/
def IsRadixInteger (text : Text) : Prop :=
  ∃ mark base digits, radixBase? mark = some base ∧ digits ≠ [] ∧
    (∀ c ∈ digits, (digitValue? base c).isSome) ∧ text = '0' :: mark :: digits

/-! ### Signs -/

/-- The sign of a text, and the text behind it. -/
def splitSign (text : Text) : Bool × Text :=
  match text with
  | '+' :: rest => (false, rest)
  | '-' :: rest => (true, rest)
  | _ => (false, text)

theorem splitSign_of_head {text : Text} (hplus : text.head? ≠ some '+') (hminus : text.head? ≠ some '-') :
    splitSign text = (false, text) := by
  unfold splitSign
  split
  · exact absurd rfl hplus
  · exact absurd rfl hminus
  · rfl

/-- Something that never begins with a sign stands behind an optional one exactly if it is what the sign
leaves. -/
theorem signed_iff {text : Text} {accepts : Text → Prop}
    (hunsigned : ∀ rest, accepts rest → rest.head? ≠ some '+' ∧ rest.head? ≠ some '-') :
    Signed accepts text ↔ accepts (splitSign text).2 := by
  constructor
  · rintro ⟨sign, rest, hsign, haccepts, rfl⟩
    rcases hsign with rfl | rfl | rfl
    · obtain ⟨hplus, hminus⟩ := hunsigned rest haccepts
      rwa [List.nil_append, splitSign_of_head hplus hminus]
    · exact haccepts
    · exact haccepts
  · intro haccepts
    unfold splitSign at haccepts
    split at haccepts
    · exact ⟨['+'], _, .inr (.inl rfl), haccepts, rfl⟩
    · exact ⟨['-'], _, .inr (.inr rfl), haccepts, rfl⟩
    · exact ⟨[], _, .inl rfl, haccepts, rfl⟩

/-- Digits start with a digit, so they cannot be taken for a sign, a point or a word. -/
theorem IsDigits.head {digits : Text} (hdigits : IsDigits digits) :
    ∃ c, digits.head? = some c ∧ isDigit c = true := by
  obtain ⟨hnonempty, hall⟩ := hdigits
  obtain ⟨c, rest, rfl⟩ := List.exists_cons_of_ne_nil hnonempty
  exact ⟨c, rfl, hall c List.mem_cons_self⟩

/-! ### Exponents -/

theorem IsDigits.unsigned {digits : Text} (hdigits : IsDigits digits) :
    digits.head? ≠ some '+' ∧ digits.head? ≠ some '-' := by
  obtain ⟨c, hfirst, hc⟩ := hdigits.head
  rw [hfirst]
  constructor <;> rintro ⟨⟩ <;> exact absurd hc (by decide)

/-- An exponent is read exactly if it is digits with a sign or without. -/
theorem signedInteger?_isSome_iff {text : Text} :
    (signedInteger? text).isSome = true ↔ Signed IsDigits text := by
  have hsplit : signedInteger? text =
      if (splitSign text).2 ≠ [] ∧ (splitSign text).2.all isDigit then
        some (if (splitSign text).1 then -(decimalValue (splitSign text).2 : Int)
          else decimalValue (splitSign text).2)
      else
        none := rfl
  rw [signed_iff fun _ => IsDigits.unsigned, hsplit, Option.isSome_ite, List.all_eq_true]
  exact ⟨fun ⟨hnonempty, hdigits⟩ => ⟨hnonempty, hdigits⟩, fun hdigits => ⟨hdigits.nonempty, hdigits.digits⟩⟩

/-- The exponent may be missing, but its letter may not stand alone. -/
theorem exponent?_isSome_iff {text : Text} : (exponent? text).isSome = true ↔ IsExponent text := by
  cases text with
  | nil => exact ⟨fun _ => .none, fun _ => rfl⟩
  | cons mark rest =>
    rw [exponent?]
    constructor
    · intro hexponent
      split at hexponent
      · next hmark => exact .some (by simpa using hmark) (signedInteger?_isSome_iff.mp hexponent)
      · cases hexponent
    · intro hexponent
      cases hexponent with
      | some hmark hpower =>
        rw [if_pos (by simpa using hmark)]
        exact signedInteger?_isSome_iff.mpr hpower

/-- Where the exponent starts the digits of the coefficient end, so a decimal is cut in one way
only. -/
theorem IsExponent.head {exponent : Text} (hexponent : IsExponent exponent) :
    ∀ c ∈ exponent.head?, isDigit c = false ∧ c ≠ '.' := by
  cases hexponent with
  | none => simp
  | some hmark hpower =>
    rintro c ⟨⟩
    rcases hmark with rfl | rfl <;> decide

/-! ### Decimal numerals -/

/-- Digits and what does not go on with a point. -/
theorem unsignedDecimal?_whole {negative : Bool} {digits rest : Text}
    (hdigits : ∀ c ∈ digits, isDigit c = true) (hrest : ∀ c ∈ rest.head?, isDigit c = false ∧ c ≠ '.') :
    unsignedDecimal? negative (digits ++ rest) =
      if digits = [] then none
      else (exponent? rest).map fun exponent => ofDecimal negative (decimalValue digits) exponent := by
  have hboundary : ∀ c ∈ rest.head?, isDigit c = false := fun c hc => (hrest c hc).1
  rw [unsignedDecimal?, Text.takeWhile_word hdigits hboundary, Text.dropWhile_word hdigits hboundary]
  split
  next fraction behind hsplit =>
  split at hsplit
  · exact absurd rfl (hrest '.' rfl).2
  · cases hsplit
    simp

/-- Digits, a point and the digits behind it. -/
theorem unsignedDecimal?_mixed {negative : Bool} {digits fraction rest : Text}
    (hdigits : ∀ c ∈ digits, isDigit c = true) (hfraction : ∀ c ∈ fraction, isDigit c = true)
    (hrest : ∀ c ∈ rest.head?, isDigit c = false) :
    unsignedDecimal? negative (digits ++ '.' :: (fraction ++ rest)) =
      if digits = [] ∧ fraction = [] then none
      else (exponent? rest).map fun exponent =>
        ofDecimal negative (decimalValue (digits ++ fraction)) (exponent - fraction.length) := by
  have hboundary : ∀ c ∈ ('.' :: (fraction ++ rest)).head?, isDigit c = false := by
    rintro c ⟨⟩
    decide
  rw [unsignedDecimal?, Text.takeWhile_word hdigits hboundary, Text.dropWhile_word hdigits hboundary]
  change (if digits = [] ∧ (fraction ++ rest).takeWhile isDigit = [] then none
    else (exponent? ((fraction ++ rest).dropWhile isDigit)).map fun exponent =>
      ofDecimal negative (decimalValue (digits ++ (fraction ++ rest).takeWhile isDigit))
        (exponent - ((fraction ++ rest).takeWhile isDigit).length)) = _
  rw [Text.takeWhile_word hfraction hrest, Text.dropWhile_word hfraction hrest]

/-- A text is digits and something else, or digits around a point and something else. -/
theorem exists_digits (text : Text) :
    (∃ digits rest, (∀ c ∈ digits, isDigit c = true) ∧
      (∀ c ∈ rest.head?, isDigit c = false ∧ c ≠ '.') ∧ text = digits ++ rest) ∨
    ∃ digits fraction rest, (∀ c ∈ digits, isDigit c = true) ∧ (∀ c ∈ fraction, isDigit c = true) ∧
      (∀ c ∈ rest.head?, isDigit c = false) ∧ text = digits ++ '.' :: (fraction ++ rest) := by
  have hdigits (text : Text) : ∀ c ∈ text.takeWhile isDigit, isDigit c = true :=
    List.all_eq_true.mp List.all_takeWhile
  have htext := List.takeWhile_append_dropWhile (p := isDigit) (l := text)
  by_cases hpoint : (text.dropWhile isDigit).head? = some '.'
  · obtain ⟨behind, hbehind⟩ := List.head?_eq_some_iff.mp hpoint
    refine .inr ⟨text.takeWhile isDigit, behind.takeWhile isDigit, behind.dropWhile isDigit, hdigits text,
      hdigits behind, Text.head?_dropWhile, ?_⟩
    rw [List.takeWhile_append_dropWhile, ← hbehind, htext]
  · refine .inl ⟨text.takeWhile isDigit, text.dropWhile isDigit, hdigits text, ?_, htext.symm⟩
    rintro c hc
    refine ⟨Text.head?_dropWhile c hc, ?_⟩
    rintro rfl
    exact hpoint hc

/-- Whether the reader comes to the end of a decimal is a question of its coefficient and its
exponent. -/
theorem unsignedDecimal?_isSome_iff {negative : Bool} {text : Text} :
    (unsignedDecimal? negative text).isSome = true ↔ IsUnsignedDecimal text := by
  constructor
  · intro hread
    obtain ⟨digits, rest, hdigits, hrest, rfl⟩ | ⟨digits, fraction, rest, hdigits, hfraction, hrest, rfl⟩ :=
      exists_digits text
    · rw [unsignedDecimal?_whole hdigits hrest] at hread
      split at hread
      · cases hread
      · next hnonempty =>
        rw [Option.isSome_map, exponent?_isSome_iff] at hread
        exact ⟨digits, rest, .whole ⟨hnonempty, hdigits⟩, hread, rfl⟩
    · rw [unsignedDecimal?_mixed hdigits hfraction hrest] at hread
      split at hread
      · cases hread
      · next hnonempty =>
        rw [Option.isSome_map, exponent?_isSome_iff] at hread
        by_cases hwhole : digits = []
        · have hsome : fraction ≠ [] := fun hnone => hnonempty ⟨hwhole, hnone⟩
          exact ⟨'.' :: fraction, rest, .fraction ⟨hsome, hfraction⟩, hread, by rw [hwhole]; rfl⟩
        · exact ⟨digits ++ '.' :: fraction, rest, .mixed ⟨hwhole, hdigits⟩ hfraction, hread, by simp⟩
  · rintro ⟨coefficient, exponent, hcoefficient, hexponent, rfl⟩
    have hboundary : ∀ c ∈ exponent.head?, isDigit c = false := fun c hc => (hexponent.head c hc).1
    rw [← exponent?_isSome_iff] at hexponent
    cases hcoefficient with
    | whole hdigits =>
      rw [unsignedDecimal?_whole hdigits.digits (exponent?_isSome_iff.mp hexponent).head,
        if_neg hdigits.nonempty, Option.isSome_map]
      exact hexponent
    | mixed hdigits hfraction =>
      rw [List.append_assoc, List.cons_append, unsignedDecimal?_mixed hdigits.digits hfraction hboundary,
        if_neg fun hnone => hdigits.nonempty hnone.1, Option.isSome_map]
      exact hexponent
    | @fraction digits hdigits =>
      change (unsignedDecimal? negative ([] ++ '.' :: (digits ++ exponent))).isSome = true
      rw [unsignedDecimal?_mixed (by simp) hdigits.digits hboundary,
        if_neg fun hnone => hdigits.nonempty hnone.2, Option.isSome_map]
      exact hexponent

theorem IsCoefficient.head {coefficient : Text} (hcoefficient : IsCoefficient coefficient) :
    ∃ c, coefficient.head? = some c ∧ (isDigit c = true ∨ c = '.') := by
  cases hcoefficient with
  | whole hdigits =>
    obtain ⟨c, hfirst, hc⟩ := hdigits.head
    exact ⟨c, hfirst, .inl hc⟩
  | mixed hdigits =>
    obtain ⟨c, hfirst, hc⟩ := hdigits.head
    exact ⟨c, by rw [List.head?_append, hfirst, Option.some_or], .inl hc⟩
  | fraction => exact ⟨'.', rfl, .inr rfl⟩

theorem IsUnsignedDecimal.unsigned {text : Text} (hdecimal : IsUnsignedDecimal text) :
    text.head? ≠ some '+' ∧ text.head? ≠ some '-' := by
  obtain ⟨coefficient, exponent, hcoefficient, -, rfl⟩ := hdecimal
  obtain ⟨c, hfirst, hc⟩ := hcoefficient.head
  rw [List.head?_append, hfirst, Option.some_or]
  constructor <;> rintro ⟨⟩ <;> exact absurd hc (by decide)

theorem isInfinityWord_iff {text : Text} : IsInfinityWord text ↔ (splitSign text).2 = "Infinity".toList := by
  apply signed_iff
  rintro rest rfl
  exact ⟨by decide, by decide⟩

instance (text : Text) : Decidable (IsInfinityWord text) :=
  decidable_of_iff _ isInfinityWord_iff.symm

/-- Besides decimal numerals this reader takes one word, with a sign or without. -/
theorem decimal?_isSome_iff {text : Text} :
    (decimal? text).isSome = true ↔ IsDecimal text ∨ IsInfinityWord text := by
  have hsplit : decimal? text =
      if (splitSign text).2 = "Infinity".toList then some (.infinity (splitSign text).1)
      else unsignedDecimal? (splitSign text).1 (splitSign text).2 := rfl
  rw [IsDecimal, signed_iff fun _ => IsUnsignedDecimal.unsigned, isInfinityWord_iff, hsplit]
  split
  · next hinfinity => exact ⟨fun _ => .inr hinfinity, fun _ => rfl⟩
  · next hinfinity => rw [unsignedDecimal?_isSome_iff, or_iff_left hinfinity]

/-! ### Characters -/

/-- The characters of decimal numerals. -/
def isDecimalChar (c : Char) : Bool :=
  isDigit c || ['.', 'e', 'E', '+', '-'].contains c

theorem isDecimalChar_of_isDigit {c : Char} (hdigit : isDigit c = true) : isDecimalChar c = true := by
  rw [isDecimalChar, hdigit, Bool.true_or]

theorem isBlank_of_isDecimalChar {c : Char} (hc : isDecimalChar c = true) : Text.isBlank c = false := by
  rcases Bool.or_eq_true_iff.mp hc with hdigit | hother
  · simp only [isDigit, Bool.and_eq_true, decide_eq_true_eq, Char.le_def, UInt32.le_iff_toNat_le] at hdigit
    exact Text.isBlank_of_graphic (Nat.lt_of_lt_of_le (by decide) hdigit.1) (Nat.lt_of_le_of_lt hdigit.2 (by decide))
  · simp only [List.contains_cons, List.contains_nil, Bool.or_false, Bool.or_eq_true, beq_iff_eq] at hother
    rcases hother with rfl | rfl | rfl | rfl | rfl <;> decide

theorem Signed.isDecimalChar {accepts : Text → Prop} {text : Text} (hsigned : Signed accepts text)
    (haccepted : ∀ rest, accepts rest → ∀ c ∈ rest, isDecimalChar c = true) :
    ∀ c ∈ text, Binary64.isDecimalChar c = true := by
  obtain ⟨sign, rest, hsign, haccepts, rfl⟩ := hsigned
  rw [List.forall_mem_append]
  refine ⟨?_, haccepted rest haccepts⟩
  rcases hsign with rfl | rfl | rfl
  · exact List.forall_mem_nil _
  · exact List.forall_mem_singleton.mpr (by decide)
  · exact List.forall_mem_singleton.mpr (by decide)

theorem IsDigits.isDecimalChar {digits : Text} (hdigits : IsDigits digits) :
    ∀ c ∈ digits, Binary64.isDecimalChar c = true :=
  fun c hc => isDecimalChar_of_isDigit (hdigits.digits c hc)

theorem IsCoefficient.isDecimalChar {coefficient : Text} (hcoefficient : IsCoefficient coefficient) :
    ∀ c ∈ coefficient, Binary64.isDecimalChar c = true := by
  cases hcoefficient with
  | whole hdigits => exact hdigits.isDecimalChar
  | mixed hdigits hfraction =>
    rw [List.forall_mem_append, List.forall_mem_cons]
    exact ⟨hdigits.isDecimalChar, by decide, fun c hc => isDecimalChar_of_isDigit (hfraction c hc)⟩
  | fraction hdigits =>
    rw [List.forall_mem_cons]
    exact ⟨by decide, hdigits.isDecimalChar⟩

theorem IsExponent.isDecimalChar {exponent : Text} (hexponent : IsExponent exponent) :
    ∀ c ∈ exponent, Binary64.isDecimalChar c = true := by
  cases hexponent with
  | none => simp
  | some hmark hpower =>
    rw [List.forall_mem_cons]
    refine ⟨?_, hpower.isDecimalChar fun _ => IsDigits.isDecimalChar⟩
    rcases hmark with rfl | rfl <;> decide

theorem IsDecimal.isDecimalChar {text : Text} (hdecimal : IsDecimal text) :
    ∀ c ∈ text, Binary64.isDecimalChar c = true := by
  refine Signed.isDecimalChar hdecimal ?_
  rintro _ ⟨coefficient, exponent, hcoefficient, hexponent, rfl⟩
  rw [List.forall_mem_append]
  exact ⟨hcoefficient.isDecimalChar, hexponent.isDecimalChar⟩

/-- No white space stands in a decimal numeral, so it is one word of a line. -/
theorem IsDecimal.unbroken {text : Text} (hdecimal : IsDecimal text) : text.Unbroken :=
  fun c hc => isBlank_of_isDecimalChar (hdecimal.isDecimalChar c hc)

/-! ### Other bases -/

theorem digitsValue?_isSome_iff {base value : Nat} {digits : Text} :
    (digitsValue? base value digits).isSome = true ↔ ∀ c ∈ digits, (digitValue? base c).isSome = true := by
  induction digits generalizing value with
  | nil => simp [digitsValue?]
  | cons c rest ih =>
    rw [digitsValue?, List.forall_mem_cons]
    cases hdigit : digitValue? base c with
    | none => simp
    | some digit => simpa using ih

/-- A zero, the letter of the base and its digits, with no sign in front. -/
theorem radixInteger?_isSome_iff {text : Text} :
    (radixInteger? text).isSome = true ↔ IsRadixInteger text := by
  constructor
  · intro hread
    unfold radixInteger? at hread
    split at hread
    · next mark digits =>
      cases hbase : radixBase? mark with
      | none => simp [hbase] at hread
      | some base =>
        by_cases hnonempty : digits = []
        · simp [hbase, hnonempty] at hread
        · simp only [hbase, Option.bind_eq_bind, Option.bind_some, if_neg hnonempty, Option.isSome_map] at hread
          exact ⟨mark, base, digits, hbase, hnonempty, digitsValue?_isSome_iff.mp hread, rfl⟩
    · cases hread
  · rintro ⟨mark, base, digits, hbase, hnonempty, hdigits, rfl⟩
    rw [radixInteger?, hbase]
    simpa [hnonempty] using digitsValue?_isSome_iff.mpr hdigits

instance (text : Text) : Decidable (IsRadixInteger text) :=
  decidable_of_iff _ radixInteger?_isSome_iff

/-- The letters of the bases occur in no decimal numeral, so none is read twice. -/
theorem isDecimalChar_of_radixBase? {mark : Char} {base : Nat} (hbase : radixBase? mark = some base) :
    isDecimalChar mark = false := by
  have hmarks : ['x', 'X', 'o', 'O', 'b', 'B'].all (!isDecimalChar ·) = true := by decide
  have hmark : mark ∈ ['x', 'X', 'o', 'O', 'b', 'B'] := by
    by_contra hother
    simp only [List.mem_cons, List.not_mem_nil, or_false, not_or] at hother
    simp [radixBase?, hother] at hbase
  simpa using List.all_eq_true.mp hmarks mark hmark

/-- The mark of a base is no character of a decimal numeral. -/
theorem IsDecimal.not_isRadixInteger {text : Text} (hdecimal : IsDecimal text) : ¬ IsRadixInteger text := by
  rintro ⟨mark, base, digits, hbase, -, -, rfl⟩
  have hmark := hdecimal.isDecimalChar mark (by simp)
  rw [isDecimalChar_of_radixBase? hbase] at hmark
  cases hmark

/-- A decimal numeral starts with a digit or a point behind its sign. The word does not. -/
theorem IsDecimal.not_isInfinityWord {text : Text} (hdecimal : IsDecimal text) : ¬ IsInfinityWord text := by
  rintro ⟨sign, _, -, rfl, rfl⟩
  exact absurd (hdecimal.isDecimalChar 'I' (by simp)) (by decide)

instance (text : Text) : Decidable (IsDecimal text) :=
  decidable_of_iff ((decimal? text).isSome = true ∧ ¬ IsInfinityWord text) <| by
    rw [decimal?_isSome_iff]
    exact ⟨fun ⟨hread, hword⟩ => hread.resolve_right hword,
      fun hdecimal => ⟨.inl hdecimal, hdecimal.not_isInfinityWord⟩⟩

/-- What stands for a number: blank text, and a numeral of some kind with white space around it. -/
theorem ofText?_isSome_iff {text : Text} :
    (ofText? text).isSome = true ↔ text.trim = [] ∨ IsRadixInteger text.trim ∨ IsDecimal text.trim ∨
      IsInfinityWord text.trim := by
  rw [ofText?]
  split
  · next hblank => simp [hblank]
  · next numeral hfilled =>
    rw [Option.isSome_or, Bool.or_eq_true, radixInteger?_isSome_iff, decimal?_isSome_iff,
      or_iff_right hfilled]

/-! ### Never not-a-number -/

/-- A rounded quotient is a number, if need be an infinite one. -/
theorem ofRatio_ne_nan (negative : Bool) (num den : Nat) : ofRatio negative num den ≠ .nan := by
  unfold ofRatio
  split <;> exact Binary64.noConfusion

theorem ofDecimal_ne_nan (negative : Bool) (digits : Nat) (exponent : Int) :
    ofDecimal negative digits exponent ≠ .nan := by
  unfold ofDecimal
  split_ifs
  · exact Binary64.noConfusion
  · exact Binary64.noConfusion
  · exact Binary64.noConfusion
  · exact ofRatio_ne_nan negative _ _

theorem ne_nan_of_unsignedDecimal? {negative : Bool} {text : Text} {value : Binary64}
    (hvalue : unsignedDecimal? negative text = some value) : value ≠ .nan := by
  simp only [unsignedDecimal?] at hvalue
  obtain ⟨-, hread⟩ := Option.ite_none_left_eq_some.mp hvalue
  obtain ⟨exponent, -, rfl⟩ := Option.map_eq_some_iff.mp hread
  exact ofDecimal_ne_nan negative _ _

/-- Not-a-number has no numeral: what is read from one is a number, however large or small. -/
theorem ne_nan_of_decimal? {text : Text} {value : Binary64} (hvalue : decimal? text = some value) :
    value ≠ .nan := by
  have hunsigned (negative : Bool) (rest : Text)
      (hread : (if rest = "Infinity".toList then some (infinity negative)
        else unsignedDecimal? negative rest) = some value) : value ≠ .nan := by
    split at hread
    · cases hread
      exact Binary64.noConfusion
    · exact ne_nan_of_unsignedDecimal? hread
  exact hunsigned _ _ hvalue

theorem ne_nan_of_radixInteger? {text : Text} {value : Binary64}
    (hvalue : radixInteger? text = some value) : value ≠ .nan := by
  unfold radixInteger? at hvalue
  split at hvalue
  · obtain ⟨base, -, hdigits⟩ := Option.bind_eq_some_iff.mp hvalue
    obtain ⟨-, hread⟩ := Option.ite_none_left_eq_some.mp hdigits
    obtain ⟨number, -, rfl⟩ := Option.map_eq_some_iff.mp hread
    exact ofRatio_ne_nan false _ _
  · cases hvalue

/-- No text stands for not-a-number. -/
theorem ne_nan_of_ofText? {text : Text} {value : Binary64} (hvalue : ofText? text = some value) :
    value ≠ .nan := by
  unfold ofText? at hvalue
  split at hvalue
  · cases hvalue
    exact Binary64.noConfusion
  · rcases Option.or_eq_some_iff.mp hvalue with hradix | ⟨-, hdecimal⟩
    · exact ne_nan_of_radixInteger? hradix
    · exact ne_nan_of_decimal? hdecimal

end ExporterAudit.Binary64
