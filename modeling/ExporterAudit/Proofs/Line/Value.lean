import ExporterAudit.Line
import ExporterAudit.Proofs.Binary64.Numeral

/-!
The grammar of value tokens. Each token of the grammar is read as a number. So are some other texts,
which no sample line and no bound should hold: blank ones, integers in other bases, the word `Infinity`,
and numerals with white space around them.
-/

namespace ExporterAudit.Line

open Binary64

/-- The spellings of the infinities. -/
def shortInfinities : List Text :=
  ["Inf", "+Inf", "-Inf"]

/-- The tokens that are words. -/
def valueWords : List Text :=
  "NaN" :: shortInfinities

/-- A word for a number or a decimal numeral. -/
def IsValueToken (text : Text) : Prop :=
  text ∈ valueWords ∨ IsDecimal text

/-- A text that is read as a number although it is no value token. -/
def IsLoose (text : Text) : Prop :=
  text ≠ [] ∧ (text.trim = [] ∨ IsRadixInteger text.trim ∨ IsInfinityWord text.trim ∨
    (IsDecimal text.trim ∧ text.trim ≠ text))

instance (text : Text) : Decidable (IsValueToken text) :=
  inferInstanceAs (Decidable (_ ∨ _))

instance (text : Text) : Decidable (IsLoose text) :=
  inferInstanceAs (Decidable (_ ∧ _))

/-! ### Words and numerals -/

theorem value?_of_mem_valueWords : ∀ word ∈ valueWords, (value? word).isSome = true := by
  decide

/-- What is no word is read as a numeral. -/
theorem value?_of_not_mem_valueWords {text : Text} (hother : text ∉ valueWords) (hfilled : text ≠ []) :
    value? text = ofText? text := by
  simp only [valueWords, shortInfinities, List.mem_cons, List.not_mem_nil, or_false, not_or] at hother
  obtain ⟨hnan, hinf, hplus, hminus⟩ := hother
  rw [value?, if_neg (not_or.mpr ⟨hplus, hinf⟩), if_neg hminus, if_neg hnan, if_neg hfilled]

/-- A text that is not empty is read as a number if it is a decimal numeral or one of the texts that
are read besides. -/
theorem ofText?_isSome_iff_of_ne_nil {text : Text} (hfilled : text ≠ []) :
    (ofText? text).isSome = true ↔ IsDecimal text ∨ IsLoose text := by
  rw [ofText?_isSome_iff]
  constructor
  · rintro (hblank | hradix | hdecimal | hword)
    · exact .inr ⟨hfilled, .inl hblank⟩
    · exact .inr ⟨hfilled, .inr (.inl hradix)⟩
    · by_cases htrim : text.trim = text
      · exact .inl (htrim ▸ hdecimal)
      · exact .inr ⟨hfilled, .inr (.inr (.inr ⟨hdecimal, htrim⟩))⟩
    · exact .inr ⟨hfilled, .inr (.inr (.inl hword))⟩
  · rintro (hdecimal | ⟨-, hblank | hradix | hword | ⟨hdecimal, -⟩⟩)
    · rw [Text.trim_of_unbroken hdecimal.unbroken]
      exact .inr (.inr (.inl hdecimal))
    · exact .inl hblank
    · exact .inr (.inl hradix)
    · exact .inr (.inr (.inr hword))
    · exact .inr (.inr (.inl hdecimal))

/-! ### Value tokens -/

/-- The texts that are read as numbers. -/
theorem value?_isSome_iff {text : Text} : (value? text).isSome = true ↔ IsValueToken text ∨ IsLoose text := by
  by_cases hword : text ∈ valueWords
  · exact ⟨fun _ => .inl (.inl hword), fun _ => value?_of_mem_valueWords text hword⟩
  by_cases hfilled : text = []
  · subst hfilled
    decide
  rw [value?_of_not_mem_valueWords hword hfilled, ofText?_isSome_iff_of_ne_nil hfilled, IsValueToken,
    or_iff_right hword]

/-- The two kinds have nothing in common, so the looser texts are exactly what is read beyond the
grammar. -/
theorem IsLoose.not_isValueToken {text : Text} (hloose : IsLoose text) : ¬ IsValueToken text := by
  have hwords : ∀ word ∈ valueWords, ¬ IsLoose word := by decide
  rintro (hword | hdecimal)
  · exact hwords text hword hloose
  obtain ⟨hfilled, hkind⟩ := hloose
  rw [Text.trim_of_unbroken hdecimal.unbroken] at hkind
  rcases hkind with hblank | hradix | hinfinity | ⟨-, hspaced⟩
  · exact hfilled hblank
  · exact hdecimal.not_isRadixInteger hradix
  · exact hdecimal.not_isInfinityWord hinfinity
  · exact hspaced rfl

end ExporterAudit.Line
