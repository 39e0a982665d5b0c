import ExporterAudit.FormEncoding
import ExporterAudit.Proofs.Text.Bytes
import ExporterAudit.Proofs.Text.Lines

/-!
Pairs are read back from the text that is written of them, whatever their names and values hold: no
ampersand and no equals sign is left in what is encoded, so the text comes apart where it was put
together.
-/

namespace ExporterAudit.FormEncoding

/-! ### Characters -/

/-- A plus sign stands for a space. -/
def readPlus (c : Char) : Char :=
  if c = '+' then ' ' else c

theorem decode_eq (text : Text) : decode text = Text.Percent.decode (text.map readPlus) := rfl

theorem ne_of_isPlain {c separator : Char} (hplain : isPlain c = true)
    (hseparator : isPlain separator = false) : c ≠ separator := by
  rintro rfl
  rw [hplain] at hseparator
  cases hseparator

/-- What stands in an escape. -/
theorem mem_escape {byte : Nat} (hbyte : byte < 256) {c : Char} (hmem : c ∈ Text.Percent.escape byte) :
    c = '%' ∨ isPlain c = true := by
  have hall : ∀ value : Fin 16, isPlain (Text.Percent.digit value) = true := by decide +kernel
  simp only [Text.Percent.escape, List.mem_cons, List.not_mem_nil, or_false] at hmem
  rcases hmem with rfl | rfl | rfl
  · exact .inl rfl
  · exact .inr (hall ⟨byte / 16, by omega⟩)
  · exact .inr (hall ⟨byte % 16, by omega⟩)

/-- What is encoded consists of plain characters and of the two marks for the others. -/
theorem mem_encodeChar {c d : Char} (hmem : d ∈ encodeChar c) :
    d = '+' ∨ d = '%' ∨ isPlain d = true := by
  unfold encodeChar at hmem
  split_ifs at hmem with hplain hspace
  · exact .inr (.inr (List.mem_singleton.mp hmem ▸ hplain))
  · exact .inl (List.mem_singleton.mp hmem)
  · obtain ⟨byte, hbyte, hd⟩ := List.mem_flatMap.mp hmem
    exact .inr (mem_escape (Text.lt_of_mem_charBytes hbyte) hd)

/-- Nothing that separates is left in an encoded text. -/
theorem not_mem_encode {separator : Char} (hplus : separator ≠ '+') (hpercent : separator ≠ '%')
    (hseparator : isPlain separator = false) (text : Text) : separator ∉ encode text := by
  intro hmem
  obtain ⟨c, -, hc⟩ := List.mem_flatMap.mp hmem
  rcases mem_encodeChar hc with hd | hd | hd
  · exact hplus hd
  · exact hpercent hd
  · exact ne_of_isPlain hd hseparator rfl

/-- Escapes hold no plus sign, so turning these into blanks leaves them alone. -/
theorem map_readPlus_escapes {values : List Nat} (hvalues : ∀ byte ∈ values, byte < 256) :
    (values.flatMap Text.Percent.escape).map readPlus = values.flatMap Text.Percent.escape := by
  refine (List.map_congr_left fun c hmem => ?_).trans (List.map_id _)
  obtain ⟨byte, hbyte, hc⟩ := List.mem_flatMap.mp hmem
  refine if_neg ?_
  rcases mem_escape (hvalues byte hbyte) hc with rfl | hplain
  · decide
  · exact ne_of_isPlain hplain (by decide)

/-- An encoded character stands for its bytes. -/
theorem bytes_encodeChar_append (c : Char) (rest : Text) :
    Text.Percent.bytes ((encodeChar c ++ rest).map readPlus) =
      Text.charBytes c ++ Text.Percent.bytes (rest.map readPlus) := by
  unfold encodeChar
  rw [List.map_append]
  split_ifs with hplain hspace
  · have hread : readPlus c = c := if_neg (ne_of_isPlain hplain (by decide))
    rw [List.map_singleton, hread, List.singleton_append,
      Text.Percent.bytes_cons_of_ne (ne_of_isPlain hplain (by decide))]
  · rw [hspace, List.map_singleton, show readPlus '+' = ' ' from rfl, List.singleton_append,
      Text.Percent.bytes_cons_of_ne (by decide)]
  · have hbytes : ∀ byte ∈ Text.charBytes c, byte < 256 := fun _ => Text.lt_of_mem_charBytes
    rw [map_readPlus_escapes hbytes, Text.Percent.bytes_escapes_append hbytes]

theorem bytes_encode (text : Text) :
    Text.Percent.bytes ((encode text).map readPlus) = Text.bytes text := by
  induction text with
  | nil => rfl
  | cons c rest ih =>
    rw [encode] at ih
    rw [encode, List.flatMap_cons, bytes_encodeChar_append, ih]
    rfl

/-- Decoding gives back what was encoded. -/
theorem decode_encode (text : Text) : decode (encode text) = text := by
  rw [decode_eq, Text.Percent.decode, bytes_encode, Text.ofBytes_bytes]

/-! ### Pairs -/

/-- A pair is not cut by the separator of pairs. -/
theorem ampersand_not_mem_pairText (pair : Text × Text) : '&' ∉ pairText pair := by
  have hfree (text : Text) : '&' ∉ encode text :=
    not_mem_encode (by decide) (by decide) (by decide) text
  simp [pairText, hfree]

theorem readPair_pairText (pair : Text × Text) : readPair (pairText pair) = pair := by
  have hfree : '=' ∉ encode pair.1 := not_mem_encode (by decide) (by decide) (by decide) pair.1
  rw [readPair, pairText, Text.splitFirst?_append hfree]
  simp only [Option.getD_some, decode_encode]

/-- Reading gives back the pairs that were written. -/
theorem read_write (pairs : List (Text × Text)) : read (write pairs) = pairs := by
  cases pairs with
  | nil => rfl
  | cons first rest =>
    have hnonempty : ((first :: rest).map pairText).filter (· ≠ []) = (first :: rest).map pairText := by
      refine List.filter_eq_self.mpr fun text hmem => ?_
      obtain ⟨pair, -, rfl⟩ := List.mem_map.mp hmem
      simp [pairText]
    have hcut : Text.splitOn '&' (write (first :: rest)) = (first :: rest).map pairText := by
      refine Text.splitOn_join (List.cons_ne_nil _ _) fun text hmem => ?_
      obtain ⟨pair, -, rfl⟩ := List.mem_map.mp hmem
      exact ampersand_not_mem_pairText pair
    rw [read, hcut, hnonempty, List.map_map]
    exact List.map_id'' readPair_pairText _

/-- A name that is new stands at the end. -/
theorem set_of_not_mem {name : Text} {pairs : List (Text × Text)} (hnew : name ∉ pairs.map Prod.fst)
    (value : Text) : set name value pairs = pairs ++ [(name, value)] := by
  induction pairs with
  | nil => rfl
  | cons pair rest ih =>
    rw [List.map_cons, List.mem_cons, not_or] at hnew
    rw [set, if_neg (Ne.symm hnew.1), ih hnew.2, List.cons_append]

/-- Distinct new names stand at the end, in their order. -/
theorem foldl_set (added pairs : List (Text × Text))
    (hdistinct : ((pairs ++ added).map Prod.fst).Nodup) :
    added.foldl (fun pairs (name, value) => set name value pairs) pairs = pairs ++ added := by
  induction added generalizing pairs with
  | nil => simp
  | cons pair added ih =>
    obtain ⟨name, value⟩ := pair
    have hnew : name ∉ pairs.map Prod.fst := by
      rw [List.map_append, List.nodup_append] at hdistinct
      exact fun hmem => hdistinct.2.2 _ hmem _ List.mem_cons_self rfl
    have hshift : pairs ++ (name, value) :: added = pairs ++ [(name, value)] ++ added := by simp
    rw [hshift] at hdistinct ⊢
    rw [← ih _ hdistinct, ← set_of_not_mem hnew]
    rfl

end ExporterAudit.FormEncoding
