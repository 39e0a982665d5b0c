import ExporterAudit.Text.Percent
import Mathlib.Tactic.SplitIfs

/-!
Texts as bytes and back. A character is read back from its bytes in UTF-8 whatever follows them, and
a byte from its percent escape, so that neither writing loses anything.
-/

namespace ExporterAudit.Text

/-! ### UTF-8 -/

/-- The last byte completes a character, and the reader is ready for the next one. -/
theorem ofBytesFrom_last {byte least greatest : Nat} (hleast : least ≤ byte)
    (hgreatest : byte ≤ greatest) (value : Nat) (rest : List Nat) :
    ofBytesFrom (some ⟨value, 1, least, greatest⟩) (byte :: rest) =
      Char.ofNat (value * 0x40 + (byte - 0x80)) :: ofBytesFrom none rest := by
  simp only [ofBytesFrom, hleast, hgreatest, and_self, ↓reduceIte, Nat.le_refl]

/-- A byte within a character adds six bits. Only the first of these bytes has a range of its own.
-/
theorem ofBytesFrom_next {byte least greatest : Nat} (hleast : least ≤ byte)
    (hgreatest : byte ≤ greatest) (value missing : Nat) (rest : List Nat) :
    ofBytesFrom (some ⟨value, missing + 2, least, greatest⟩) (byte :: rest) =
      ofBytesFrom (some ⟨value * 0x40 + (byte - 0x80), missing + 1, 0x80, 0xBF⟩) rest := by
  have hmore : ¬ missing + 2 ≤ 1 := by omega
  simp only [ofBytesFrom, hleast, hgreatest, and_self, ↓reduceIte, hmore, Nat.add_succ_sub_one]

/-- A byte that starts a character gives it at once or says what is still missing. -/
theorem ofBytesFrom_begin (byte : Nat) (rest : List Nat) :
    ofBytesFrom none (byte :: rest) =
      (beginByte byte).1 ++ ofBytesFrom (beginByte byte).2 rest := by
  rw [ofBytesFrom]

/-- A character is read back from its bytes, whatever follows them. -/
theorem ofBytesFrom_charBytes (c : Char) (rest : List Nat) :
    ofBytesFrom none (charBytes c ++ rest) = c :: ofBytesFrom none rest := by
  have hvalid : c.toNat.isValidChar := c.valid
  have hchar {n : Nat} (hn : n = c.toNat) : Char.ofNat n = c := hn ▸ Char.ofNat_toNat c
  simp only [Nat.isValidChar] at hvalid
  simp only [charBytes]
  -- The cases are the four lengths of a character; the bytes after the first carry six bits each.
  split
  · next hone => simp [ofBytesFrom_begin, beginByte, hone]
  · split
    · next htwo =>
      have hbegin : beginByte (0xC0 + c.toNat / 0x40) = ([], some ⟨c.toNat / 0x40, 1, 0x80, 0xBF⟩) := by
        simp only [beginByte]
        rw [if_neg (by omega), if_neg (by omega), if_pos (by omega), Nat.add_sub_cancel_left]
      simp only [List.cons_append, List.nil_append, ofBytesFrom_begin, hbegin]
      rw [ofBytesFrom_last (by omega) (by omega), hchar (by omega)]
    · split
      · next hthree =>
        obtain ⟨least, greatest, hbegin, hleast, hgreatest⟩ :
            ∃ least greatest, beginByte (0xE0 + c.toNat / 0x1000) =
                ([], some ⟨c.toNat / 0x1000, 2, least, greatest⟩) ∧
              least ≤ 0x80 + c.toNat / 0x40 % 0x40 ∧ 0x80 + c.toNat / 0x40 % 0x40 ≤ greatest := by
          simp only [beginByte]
          rw [if_neg (by omega), if_neg (by omega), if_neg (by omega), if_pos (by omega),
            Nat.add_sub_cancel_left]
          exact ⟨_, _, rfl, by split <;> omega, by split <;> omega⟩
        simp only [List.cons_append, List.nil_append, ofBytesFrom_begin, hbegin]
        rw [ofBytesFrom_next hleast hgreatest, ofBytesFrom_last (by omega) (by omega),
          hchar (by omega)]
      · obtain ⟨least, greatest, hbegin, hleast, hgreatest⟩ :
            ∃ least greatest, beginByte (0xF0 + c.toNat / 0x40000) =
                ([], some ⟨c.toNat / 0x40000, 3, least, greatest⟩) ∧
              least ≤ 0x80 + c.toNat / 0x1000 % 0x40 ∧
              0x80 + c.toNat / 0x1000 % 0x40 ≤ greatest := by
          simp only [beginByte]
          rw [if_neg (by omega), if_neg (by omega), if_neg (by omega), if_neg (by omega),
            if_pos (by omega), Nat.add_sub_cancel_left]
          exact ⟨_, _, rfl, by split <;> omega, by split <;> omega⟩
        simp only [List.cons_append, List.nil_append, ofBytesFrom_begin, hbegin]
        rw [ofBytesFrom_next hleast hgreatest, ofBytesFrom_next (by omega) (by omega),
          ofBytesFrom_last (by omega) (by omega), hchar (by omega)]

/-- Reading the bytes of a text gives it back. -/
theorem ofBytes_bytes (text : Text) : ofBytes (bytes text) = text := by
  unfold ofBytes bytes
  induction text with
  | nil => rfl
  | cons c rest ih => rw [List.flatMap_cons, ofBytesFrom_charBytes, ih]

theorem lt_of_mem_charBytes {c : Char} {byte : Nat} (hmem : byte ∈ charBytes c) : byte < 256 := by
  have hvalid : c.toNat.isValidChar := c.valid
  simp only [Nat.isValidChar] at hvalid
  simp only [charBytes] at hmem
  split_ifs at hmem <;> simp only [List.mem_cons, List.not_mem_nil, or_false] at hmem <;> omega

/-! ### Percent escapes -/

namespace Percent

theorem digitValue?_digit {value : Nat} (hvalue : value < 16) :
    Binary64.digitValue? 16 (digit value) = some value := by
  have hall : ∀ v : Fin 16, Binary64.digitValue? 16 (digit v) = some v.val := by decide +kernel
  exact hall ⟨value, hvalue⟩

/-- Two hexadecimal digits give back the byte that they were written for. -/
theorem byte?_digits {byte : Nat} (hbyte : byte < 256) :
    byte? (digit (byte / 16)) (digit (byte % 16)) = some byte := by
  have hhigh : byte / 16 < 16 := by omega
  have hlow : byte % 16 < 16 := by omega
  have hvalue : (0 * 16 + byte / 16) * 16 + byte % 16 = byte := by omega
  simp only [byte?, Binary64.digitsValue?, digitValue?_digit hhigh, digitValue?_digit hlow, bind,
    Option.bind_some, hvalue]

/-- A byte is read back from its escape. -/
theorem bytes_escape_append {byte : Nat} (hbyte : byte < 256) (rest : Text) :
    bytes (escape byte ++ rest) = byte :: bytes rest := by
  simp only [escape, List.cons_append, List.nil_append, bytes, byte?_digits hbyte]

/-- All but the percent sign stand for themselves, so only percent signs need an escape. -/
theorem bytes_cons_of_ne {c : Char} (hplain : c ≠ '%') (rest : Text) :
    bytes (c :: rest) = charBytes c ++ bytes rest := by
  rw [bytes.eq_3]
  exact fun _ _ _ hescape => absurd hescape hplain

/-- Bytes that are escaped are read back. -/
theorem bytes_escapes_append {values : List Nat} (hvalues : ∀ byte ∈ values, byte < 256)
    (rest : Text) : bytes (values.flatMap escape ++ rest) = values ++ bytes rest := by
  induction values with
  | nil => rfl
  | cons byte values ih =>
    rw [List.forall_mem_cons] at hvalues
    rw [List.flatMap_cons, List.append_assoc, bytes_escape_append hvalues.1, ih hvalues.2]
    rfl

end Percent

end ExporterAudit.Text
