import RestDispatch.Text.Percent

/-!
# Encoded texts

A text is written as bytes and read back as itself.  Each character is read from its own bytes
alone, whatever follows them, and the bytes of ASCII characters stand in those of no other
character.  So a text without percent signs has no byte that percent-decoding could touch, and
stands for itself.
-/

namespace RestDispatch.Text

theorem toNat_toUInt8 {n : Nat} (h : n < 256) : n.toUInt8.toNat = n := by
  simp [Nat.toUInt8, Nat.mod_eq_of_lt h]

theorem isTail_toUInt8 {n : Nat} (h : n < 64) : isTail (0x80 + n).toUInt8 = true := by
  rw [isTail, Bool.and_eq_true, decide_eq_true_iff, decide_eq_true_iff, UInt8.le_iff_toNat_le,
    UInt8.le_iff_toNat_le, toNat_toUInt8 (by omega)]
  exact ⟨Nat.le_add_right _ _, Nat.add_le_add_left (Nat.le_of_lt_succ h) 0x80⟩

theorem tailBits_toUInt8 {n : Nat} (h : n < 64) : tailBits (0x80 + n).toUInt8 = n := by
  rw [tailBits, toNat_toUInt8 (by omega)]
  omega

/-- The four lead bytes that do not allow every continuation byte. -/
theorem isSecond_toUInt8 {lead n : Nat} (hlead : lead < 256) (hn : n < 64)
    (hE0 : lead = 0xE0 → 0x20 ≤ n) (hED : lead = 0xED → n < 0x20)
    (hF0 : lead = 0xF0 → 0x10 ≤ n) (hF4 : lead = 0xF4 → n < 0x10) :
    isSecond lead.toUInt8 (0x80 + n).toUInt8 = true := by
  have hsecond : (0x80 + n).toUInt8.toNat = 0x80 + n := toNat_toUInt8 (by omega)
  unfold isSecond
  simp only [← UInt8.toNat_inj, toNat_toUInt8 hlead, UInt8.le_iff_toNat_le, hsecond,
    isTail_toUInt8 hn, UInt8.reduceToNat]
  grind

section

variable {n : Nat} (rest : Bytes)

theorem leading_two (hleast : 0x80 ≤ n) (hmost : n < 0x800) :
    leading (0xC0 + n / 64).toUInt8 ((0x80 + n % 64).toUInt8 :: rest) =
      .char (Char.ofNat n) 1 := by
  have hlead : (0xC0 + n / 64).toUInt8.toNat = 0xC0 + n / 64 := toNat_toUInt8 (by omega)
  have hn : (0xC0 + n / 64) % 32 * 64 + n % 64 = n := by omega
  unfold leading
  simp only [UInt8.lt_iff_toNat_lt, UInt8.le_iff_toNat_le, hlead, UInt8.reduceToNat,
    isTail_toUInt8 (Nat.mod_lt n (by decide)), tailBits_toUInt8 (Nat.mod_lt n (by decide)), hn]
  rw [if_neg (by omega), if_pos (by simp; omega)]
  rfl

theorem leading_three (hleast : 0x800 ≤ n) (hmost : n < 0x10000)
    (hscalar : n < 0xD800 ∨ 0xDFFF < n) :
    leading (0xE0 + n / 4096).toUInt8
      ((0x80 + n / 64 % 64).toUInt8 :: (0x80 + n % 64).toUInt8 :: rest) =
        .char (Char.ofNat n) 2 := by
  have hlead : (0xE0 + n / 4096).toUInt8.toNat = 0xE0 + n / 4096 := toNat_toUInt8 (by omega)
  have hn : (0xE0 + n / 4096) % 16 * 4096 + n / 64 % 64 * 64 + n % 64 = n := by omega
  have hsecond : isSecond (0xE0 + n / 4096).toUInt8 (0x80 + n / 64 % 64).toUInt8 = true :=
    isSecond_toUInt8 (by omega) (by omega) (by omega) (by omega) (by omega) (by omega)
  unfold leading
  simp only [UInt8.lt_iff_toNat_lt, UInt8.le_iff_toNat_le, hlead, UInt8.reduceToNat, hsecond,
    isTail_toUInt8 (Nat.mod_lt _ (by decide)), tailBits_toUInt8 (Nat.mod_lt _ (by decide)), hn]
  rw [if_neg (by omega), if_neg (by simp; omega), if_pos (by simp; omega)]
  rfl

theorem leading_four (hleast : 0x10000 ≤ n) (hmost : n < 0x110000) :
    leading (0xF0 + n / 262144).toUInt8
      ((0x80 + n / 4096 % 64).toUInt8 :: (0x80 + n / 64 % 64).toUInt8 ::
        (0x80 + n % 64).toUInt8 :: rest) = .char (Char.ofNat n) 3 := by
  have hlead : (0xF0 + n / 262144).toUInt8.toNat = 0xF0 + n / 262144 :=
    toNat_toUInt8 (by omega)
  have hn : (0xF0 + n / 262144) % 8 * 262144 + n / 4096 % 64 * 4096 + n / 64 % 64 * 64 +
      n % 64 = n := by omega
  have hsecond : isSecond (0xF0 + n / 262144).toUInt8 (0x80 + n / 4096 % 64).toUInt8 = true :=
    isSecond_toUInt8 (by omega) (by omega) (by omega) (by omega) (by omega) (by omega)
  unfold leading
  simp only [UInt8.lt_iff_toNat_lt, UInt8.le_iff_toNat_le, hlead, UInt8.reduceToNat, hsecond,
    isTail_toUInt8 (Nat.mod_lt _ (by decide)), tailBits_toUInt8 (Nat.mod_lt _ (by decide)), hn]
  rw [if_neg (by omega), if_neg (by simp; omega), if_neg (by simp; omega),
    if_pos (by simp; omega)]
  rfl

end

theorem toNat_bounds (c : Char) : c.toNat < 0x110000 ∧ (c.toNat < 0xD800 ∨ 0xDFFF < c.toNat) := by
  have hvalid : c.toNat < 0xD800 ∨ (0xDFFF < c.toNat ∧ c.toNat < 0x110000) := c.valid
  omega

theorem encodeChar_of_lt {c : Char} (h : c.toNat < 0x80) :
    encodeChar c = [c.toNat.toUInt8] := by
  unfold encodeChar
  rw [if_pos h]

/-- The bytes of a character are those that the standard library gives it. -/
theorem encodeChar_eq (c : Char) : encodeChar c = String.utf8EncodeChar c := by
  have hmost := (toNat_bounds c).1
  have htail (n : Nat) : 0x80 + n % 64 = n % 64 + 0x80 := Nat.add_comm _ _
  unfold String.utf8EncodeChar
  change encodeChar c = if c.toNat ≤ 0x7F then _ else if c.toNat ≤ 0x7FF then _ else
    if c.toNat ≤ 0xFFFF then _ else _
  by_cases hone : c.toNat < 0x80
  · rw [encodeChar_of_lt hone, if_pos (Nat.le_of_lt_succ hone)]
    rfl
  · unfold encodeChar
    dsimp only
    rw [if_neg hone, if_neg (mt Nat.lt_succ_of_le hone)]
    split
    next htwo =>
      have hlead : 0xC0 + c.toNat / 64 = c.toNat / 64 % 32 + 0xC0 := by omega
      rw [if_pos (Nat.le_of_lt_succ htwo), hlead, htail]
      rfl
    next htwo =>
      rw [if_neg (mt Nat.lt_succ_of_le htwo)]
      split
      next hthree =>
        have hlead : 0xE0 + c.toNat / 4096 = c.toNat / 4096 % 16 + 0xE0 := by omega
        rw [if_pos (Nat.le_of_lt_succ hthree), hlead, htail, htail]
        rfl
      next hthree =>
        have hlead : 0xF0 + c.toNat / 262144 = c.toNat / 262144 % 8 + 0xF0 := by omega
        rw [if_neg (mt Nat.lt_succ_of_le hthree), hlead, htail, htail, htail]
        rfl

/-- Each character is read from the bytes it is written as, whatever follows them. -/
theorem leading_encodeChar (c : Char) (rest : Bytes) :
    ∃ lead tails, encodeChar c = lead :: tails ∧
      leading lead (tails ++ rest) = .char c tails.length := by
  have ⟨hmost, hscalar⟩ := toNat_bounds c
  have hc : Char.ofNat c.toNat = c := Char.ofNat_toNat c
  by_cases hone : c.toNat < 0x80
  · refine ⟨_, [], encodeChar_of_lt hone, ?_⟩
    have hlead : c.toNat.toUInt8.toNat = c.toNat := toNat_toUInt8 (by omega)
    have hsmall : c.toNat.toUInt8 < 0x80 := by
      rw [UInt8.lt_iff_toNat_lt, hlead]
      exact hone
    unfold leading
    rw [if_pos hsmall, hlead, hc]
    rfl
  · unfold encodeChar
    dsimp only
    rw [if_neg hone]
    split
    next htwo =>
      exact ⟨_, _, rfl, (leading_two rest (by omega) htwo).trans (by rw [hc]; rfl)⟩
    next htwo =>
      split
      next hthree =>
        have hread := leading_three rest (by omega) hthree hscalar
        exact ⟨_, _, rfl, hread.trans (by rw [hc]; rfl)⟩
      next hthree =>
        have hread := leading_four rest (by omega) hmost
        exact ⟨_, _, rfl, hread.trans (by rw [hc]; rfl)⟩

theorem decodeFrom_encodeUtf8 (index : Nat) (acc cs : List Char) :
    decodeFrom index acc (encodeUtf8 cs) = .ok (acc.reverse ++ cs) := by
  induction cs generalizing index acc with
  | nil => simp [encodeUtf8, decodeFrom]
  | cons c cs ih =>
    obtain ⟨lead, tails, hbytes, hleading⟩ := leading_encodeChar c (encodeUtf8 cs)
    have hcons : encodeUtf8 (c :: cs) = lead :: (tails ++ encodeUtf8 cs) := by
      rw [encodeUtf8, List.flatMap_cons, hbytes]
      rfl
    rw [hcons, decodeFrom, hleading]
    dsimp only
    rw [List.drop_left, ih]
    simp

/-- A text is read back from its bytes. -/
theorem string?_bytes (s : String) : string? (bytes s) = some s := by
  rw [string?, bytes, decodeUtf8, decodeFrom_encodeUtf8]
  simp

/-- No byte of another character is one of an ASCII character. -/
theorem le_toNat_of_mem_encodeChar {c : Char} (hc : 0x80 ≤ c.toNat) :
    ∀ b ∈ encodeChar c, 0x80 ≤ b.toNat := by
  have hmost := (toNat_bounds c).1
  have hlarge {n : Nat} (hleast : 0x80 ≤ n) (hn : n < 256) : 0x80 ≤ n.toUInt8.toNat := by
    rwa [toNat_toUInt8 hn]
  have hnil : ∀ b ∈ ([] : Bytes), 0x80 ≤ b.toNat := by simp
  unfold encodeChar
  dsimp only
  rw [if_neg (Nat.not_lt.mpr hc)]
  split
  next =>
    simp only [List.forall_mem_cons]
    exact ⟨hlarge (by omega) (by omega), hlarge (by omega) (by omega), hnil⟩
  next =>
    split
    next =>
      simp only [List.forall_mem_cons]
      exact ⟨hlarge (by omega) (by omega), hlarge (by omega) (by omega),
        hlarge (by omega) (by omega), hnil⟩
    next =>
      simp only [List.forall_mem_cons]
      exact ⟨hlarge (by omega) (by omega), hlarge (by omega) (by omega),
        hlarge (by omega) (by omega), hlarge (by omega) (by omega), hnil⟩

theorem percentDecode_cons {a : UInt8} (ha : a ≠ 0x25) (bs : Bytes) :
    percentDecode (a :: bs) = a :: percentDecode bs := by
  match bs with
  | [] => rfl
  | [b] => rfl
  | b :: c :: rest => rw [percentDecode, if_neg ha]

theorem percentDecode_of_not_mem {bs : Bytes} (h : (0x25 : UInt8) ∉ bs) :
    percentDecode bs = bs := by
  induction bs with
  | nil => rfl
  | cons a bs ih =>
    rw [List.mem_cons, not_or] at h
    rw [percentDecode_cons (Ne.symm h.1), ih h.2]

/-- A text without percent signs stands for itself. -/
theorem decodeComponent_of_not_mem {s : String} (h : '%' ∉ s.toList) :
    decodeComponent s = s := by
  have hbytes : (0x25 : UInt8) ∉ bytes s := by
    intro hmem
    obtain ⟨c, hc, hb⟩ := List.mem_flatMap.mp hmem
    by_cases hsmall : c.toNat < 0x80
    · rw [encodeChar_of_lt hsmall, List.mem_singleton, ← UInt8.toNat_inj,
        toNat_toUInt8 (by omega)] at hb
      have heq : c = '%' := Char.toNat_inj.mp hb.symm
      exact h (heq ▸ hc)
    · have hlarge := le_toNat_of_mem_encodeChar (Nat.not_lt.mp hsmall) _ hb
      exact absurd hlarge (by decide)
  rw [decodeComponent, percentDecode_of_not_mem hbytes, string?_bytes, Option.getD_some]

end RestDispatch.Text
