import RestDispatch.Proofs.Text.Encoding

/-!
# Form encoding

In a query string an ASCII letter or digit stands for itself, a plus stands for a space, and any
character may be written as the percent triples of its bytes.  Every text can be written so, and
decoding gives it back.  No written text has one of the characters that keep the keys and values
of a query string apart.
-/

namespace RestDispatch.Text

/-- A character is the hexadecimal digit of a value, as a capital or a small letter. -/
def HexDigit (c : Char) (value : Nat) : Prop :=
  value < 16 ∧ (c = value.digitChar ∨ c = value.digitChar.toUpper)

instance (c : Char) (value : Nat) : Decidable (HexDigit c value) :=
  inferInstanceAs (Decidable (_ ∧ _))

/-- Bytes are written as a percent sign and two digits each. -/
inductive Triples : Bytes → List Char → Prop
  | nil : Triples [] []
  | cons {b : UInt8} {bs : Bytes} {high low : Char} {written : List Char} :
      HexDigit high (b.toNat / 16) → HexDigit low (b.toNat % 16) → Triples bs written →
        Triples (b :: bs) ('%' :: high :: low :: written)

/-- A text is written in a query string: a space as a plus, a letter or a digit as itself, and any
character as the triples of its bytes in UTF-8. -/
inductive FormWritten : List Char → List Char → Prop
  | nil : FormWritten [] []
  | plus {cs written : List Char} :
      FormWritten cs written → FormWritten (' ' :: cs) ('+' :: written)
  | plain {c : Char} {cs written : List Char} :
      c.isAlphanum = true → FormWritten cs written → FormWritten (c :: cs) (c :: written)
  | triples {c : Char} {cs triples written : List Char} :
      Triples (String.utf8EncodeChar c) triples → FormWritten cs written →
        FormWritten (c :: cs) (triples ++ written)

/-- The character that decoding begins with. -/
def plusAsSpace (c : Char) : Char := if c = '+' then ' ' else c

/-- The characters that no written text has. -/
def IsStructural (c : Char) : Prop := c ≠ '+' ∧ c ≠ '%' ∧ c.isAlphanum = false

instance (c : Char) : Decidable (IsStructural c) := inferInstanceAs (Decidable (_ ∧ _))

theorem toNat_lt_of_isAlphanum {c : Char} (h : c.isAlphanum = true) : c.toNat < 0x80 := by
  delta Char.isAlphanum Char.isAlpha Char.isUpper Char.isLower Char.isDigit at h
  simp only [Bool.or_eq_true, Bool.and_eq_true, decide_eq_true_eq, UInt32.le_iff_toNat_le] at h
  have hcapital : 'Z'.val.toNat < 0x80 := by decide
  have hsmall : 'z'.val.toNat < 0x80 := by decide
  have hdigit : '9'.val.toNat < 0x80 := by decide
  change c.val.toNat < 0x80
  omega

theorem plusAsSpace_of_ne {c : Char} (h : c ≠ '+') : plusAsSpace c = c := by
  rw [plusAsSpace, if_neg h]

theorem encodeUtf8_cons_of_lt {c : Char} (h : c.toNat < 0x80) (cs : List Char) :
    encodeUtf8 (c :: cs) = c.toNat.toUInt8 :: encodeUtf8 cs := by
  rw [encodeUtf8, List.flatMap_cons, encodeChar_of_lt h]
  rfl

section

variable {c : Char} {value : Nat}

theorem HexDigit.isAlphanum (h : HexDigit c value) : c.isAlphanum = true := by
  have hdigits : ∀ n < 16, n.digitChar.isAlphanum = true ∧
      n.digitChar.toUpper.isAlphanum = true := by
    decide
  obtain ⟨hvalue, rfl | rfl⟩ := h
  · exact (hdigits value hvalue).1
  · exact (hdigits value hvalue).2

/-- Capital and small digits are read as the value that they stand for. -/
theorem HexDigit.hexValue_eq (h : HexDigit c value) :
    hexValue c.toNat.toUInt8 = some value.toUInt8 := by
  have hdigits : ∀ n < 16, hexValue n.digitChar.toNat.toUInt8 = some n.toUInt8 ∧
      hexValue n.digitChar.toUpper.toNat.toUInt8 = some n.toUInt8 := by
    decide
  obtain ⟨hvalue, rfl | rfl⟩ := h
  · exact (hdigits value hvalue).1
  · exact (hdigits value hvalue).2

theorem HexDigit.ne (h : HexDigit c value) {sep : Char} (hsep : sep.isAlphanum = false) :
    c ≠ sep := by
  rintro rfl
  rw [h.isAlphanum] at hsep
  cases hsep

end

section

variable {bs : Bytes} {written : List Char}

theorem exists_triples (bs : Bytes) : ∃ written, Triples bs written := by
  induction bs with
  | nil => exact ⟨[], .nil⟩
  | cons b bs ih =>
    obtain ⟨written, hwritten⟩ := ih
    have hhigh : b.toNat / 16 < 16 := Nat.div_lt_of_lt_mul b.toNat_lt
    have hlow : b.toNat % 16 < 16 := Nat.mod_lt _ (by decide)
    exact ⟨_, .cons ⟨hhigh, .inl rfl⟩ ⟨hlow, .inl rfl⟩ hwritten⟩

theorem Triples.not_mem (h : Triples bs written) {sep : Char} (hsep : IsStructural sep) :
    sep ∉ written := by
  induction h with
  | nil => exact List.not_mem_nil
  | cons hhigh hlow _ ih =>
    rw [List.mem_cons, List.mem_cons, List.mem_cons, not_or, not_or, not_or]
    exact ⟨hsep.2.1, (hhigh.ne hsep.2.2).symm, (hlow.ne hsep.2.2).symm, ih⟩

/-- Bytes are decoded from their triples, whatever follows them. -/
theorem Triples.percentDecode_append (h : Triples bs written) (rest : Bytes) :
    percentDecode (encodeUtf8 (written.map plusAsSpace) ++ rest) = bs ++ percentDecode rest := by
  induction h with
  | nil => rfl
  | @cons b bs high low written hhigh hlow _ ih =>
    have hplus : '+'.isAlphanum = false := by decide
    have hbyte : (b.toNat / 16).toUInt8 * 16 + (b.toNat % 16).toUInt8 = b := by
      have hb : b.toNat < 256 := b.toNat_lt
      rw [← UInt8.toNat_inj, UInt8.toNat_add, UInt8.toNat_mul, toNat_toUInt8 (by omega),
        toNat_toUInt8 (by omega)]
      change (b.toNat / 16 * 16 % 256 + b.toNat % 16) % 256 = b.toNat
      omega
    rw [List.map_cons, List.map_cons, List.map_cons, plusAsSpace_of_ne (by decide),
      plusAsSpace_of_ne (hhigh.ne hplus), plusAsSpace_of_ne (hlow.ne hplus),
      encodeUtf8_cons_of_lt (by decide),
      encodeUtf8_cons_of_lt (toNat_lt_of_isAlphanum hhigh.isAlphanum),
      encodeUtf8_cons_of_lt (toNat_lt_of_isAlphanum hlow.isAlphanum)]
    change percentDecode (0x25 :: high.toNat.toUInt8 :: low.toNat.toUInt8 ::
      (encodeUtf8 (written.map plusAsSpace) ++ rest)) = b :: (bs ++ percentDecode rest)
    rw [percentDecode, if_pos rfl, hhigh.hexValue_eq, hlow.hexValue_eq, ih]
    simp only [hbyte]

end

section

variable {cs written : List Char}

/-- Every text can be written. -/
theorem exists_formWritten (cs : List Char) : ∃ written, FormWritten cs written := by
  induction cs with
  | nil => exact ⟨[], .nil⟩
  | cons c cs ih =>
    obtain ⟨written, hwritten⟩ := ih
    obtain ⟨triples, htriples⟩ := exists_triples (String.utf8EncodeChar c)
    exact ⟨triples ++ written, .triples htriples hwritten⟩

/-- A written text leaves the separators of a query string alone. -/
theorem FormWritten.not_mem (h : FormWritten cs written) {sep : Char}
    (hsep : IsStructural sep) : sep ∉ written := by
  induction h with
  | nil => exact List.not_mem_nil
  | plus _ ih =>
    rw [List.mem_cons, not_or]
    exact ⟨hsep.1, ih⟩
  | plain hc _ ih =>
    rw [List.mem_cons, not_or]
    refine ⟨?_, ih⟩
    rintro rfl
    rw [hsep.2.2] at hc
    cases hc
  | triples htriples _ ih =>
    rw [List.mem_append, not_or]
    exact ⟨htriples.not_mem hsep, ih⟩

theorem FormWritten.percentDecode_eq (h : FormWritten cs written) :
    percentDecode (encodeUtf8 (written.map plusAsSpace)) = encodeUtf8 cs := by
  induction h with
  | nil => rfl
  | plus _ ih =>
    rw [List.map_cons, plusAsSpace, if_pos rfl, encodeUtf8_cons_of_lt (by decide),
      encodeUtf8_cons_of_lt (by decide), percentDecode_cons (by decide), ih]
  | @plain c _ _ hc _ ih =>
    have hplus : c ≠ '+' := by
      rintro rfl
      exact absurd hc (by decide)
    have hascii := toNat_lt_of_isAlphanum hc
    have hpercent : c.toNat.toUInt8 ≠ 0x25 := by
      intro heq
      rw [← UInt8.toNat_inj, toNat_toUInt8 (by omega)] at heq
      obtain rfl : c = '%' := Char.toNat_inj.mp heq
      exact absurd hc (by decide)
    rw [List.map_cons, plusAsSpace_of_ne hplus, encodeUtf8_cons_of_lt hascii,
      encodeUtf8_cons_of_lt hascii, percentDecode_cons hpercent, ih]
  | triples htriples _ ih =>
    rw [List.map_append, encodeUtf8, List.flatMap_append]
    refine (htriples.percentDecode_append _).trans ?_
    rw [← encodeUtf8, ih, ← encodeChar_eq]
    rfl

/-- A written text is decoded as itself. -/
theorem decodeFormComponent_written {text : String} (h : FormWritten text.toList written) :
    decodeFormComponent (String.ofList written) = text := by
  have hdecoded : percentDecode (bytes (String.ofList (written.map plusAsSpace))) =
      bytes text := by
    rw [bytes, String.toList_ofList, h.percentDecode_eq, bytes]
  have hread : decodeComponent (String.ofList (written.map plusAsSpace)) = text := by
    rw [decodeComponent, hdecoded, string?_bytes, Option.getD_some]
  rw [decodeFormComponent, String.toList_ofList]
  exact hread

end

end RestDispatch.Text
