import RestDispatch.Number.Reading
import RestDispatch.Number.Shortest
import RestDispatch.Proofs.Text.Trimming

/-!
# Integers that are written and read

An integer is written as its decimal digits, behind a minus sign if it is negative.  Reading takes
one digit after the other and refuses to leave the range of its type on the way.  The numbers on
the way to an integer lie between zero and it, so an integer of the range is read back from what
it is written as.
-/

namespace RestDispatch

namespace Number

/-- The integer of a sign and a magnitude. -/
def signed (negative : Bool) (k : Nat) : Int := if negative then -(k : Int) else k

theorem signed_natAbs (n : Int) : signed (decide (n < 0)) n.natAbs = n := by
  unfold signed
  by_cases hn : n < 0
  · simp only [hn, decide_true, if_true]
    omega
  · simp only [hn, decide_false, Bool.false_eq_true, if_false]
    omega

theorem isDigit_of_mem_digits {n : Nat} {c : Char} (hc : c ∈ digits n) : c.isDigit = true :=
  Nat.isDigit_of_mem_toDigits (by decide) (by decide) hc

theorem digits_ne_nil (n : Nat) : digits n ≠ [] := Nat.toDigits_ne_nil

theorem toList_integerText (n : Int) :
    (integerText n).toList = if n < 0 then '-' :: digits n.natAbs else digits n.natAbs := by
  rw [integerText, String.toList_ofList]

theorem isBlank_of_isDigit {c : Char} (hc : c.isDigit = true) : Text.isBlank c = false := by
  have hbounds : 48 ≤ c.toNat ∧ c.toNat ≤ 57 := by
    simpa [Char.isDigit, UInt32.le_iff_toNat_le, ← Char.toNat_val] using hc
  unfold Text.isBlank
  rw [Bool.eq_false_iff]
  intro hblank
  simp only [Bool.or_eq_true, Bool.and_eq_true, decide_eq_true_eq, beq_iff_eq] at hblank
  omega

theorem bare_digits (n : Nat) : Text.Bare (digits n) := by
  have hdigit : ∀ c ∈ digits n, Text.isBlank c = false :=
    fun c hc => isBlank_of_isDigit (isDigit_of_mem_digits hc)
  constructor
  · obtain ⟨c, rest, hcs⟩ := List.exists_cons_of_ne_nil (digits_ne_nil n)
    exact ⟨c, rest, hcs, hdigit c (by simp [hcs])⟩
  · have hlast := List.dropLast_append_getLast (digits_ne_nil n)
    exact ⟨_, _, hlast.symm, hdigit _ (List.getLast_mem _)⟩

/-- No blank stands around an integer. -/
theorem bare_integerText (n : Int) : Text.Bare (integerText n).toList := by
  have hdigits := bare_digits n.natAbs
  rw [toList_integerText]
  split
  · constructor
    · exact ⟨'-', _, rfl, by decide⟩
    · obtain ⟨front, c, hlast, hc⟩ := hdigits.last
      exact ⟨'-' :: front, c, by simp [hlast], hc⟩
  · exact hdigits

theorem le_ofDigitChars (cs : List Char) (k : Nat) : k ≤ Nat.ofDigitChars 10 cs k := by
  induction cs generalizing k with
  | nil => simp
  | cons c cs ih =>
    have hrest := ih (10 * k + (c.toNat - '0'.toNat))
    rw [Nat.ofDigitChars_cons]
    omega

end Number

namespace IntegerRange

variable {r : IntegerRange} {negative : Bool}

/-- What lies between zero and a number of the range is in the range. -/
theorem contains_of_le (hzero : r.contains 0 = true) {j k : Nat} (hjk : j ≤ k)
    (hk : r.contains (Number.signed negative k) = true) :
    r.contains (Number.signed negative j) = true := by
  simp only [contains, Bool.and_eq_true, decide_eq_true_eq] at hzero hk ⊢
  cases negative with
  | false =>
    simp only [Number.signed, Bool.false_eq_true, if_false] at hk ⊢
    omega
  | true =>
    simp only [Number.signed, if_true] at hk ⊢
    omega

/-- Digits are read as their number, when it is in the range. -/
theorem readDigits_eq (hzero : r.contains 0 = true) {cs : List Char} {k : Nat}
    (hdigits : ∀ c ∈ cs, c.isDigit = true)
    (hrange : r.contains (Number.signed negative (Nat.ofDigitChars 10 cs k)) = true) :
    r.readDigits negative (Number.signed negative k) cs =
      .ok (Number.signed negative (Nat.ofDigitChars 10 cs k)) := by
  induction cs generalizing k with
  | nil => simp [readDigits]
  | cons c cs ih =>
    rw [Nat.ofDigitChars_cons] at hrange ⊢
    have hnext : r.contains (Number.signed negative (10 * k + (c.toNat - '0'.toNat))) = true :=
      contains_of_le hzero (Number.le_ofDigitChars cs _) hrange
    have hstep : (if negative = true
        then Number.signed negative k * 10 - ((c.toNat - '0'.toNat : Nat) : Int)
        else Number.signed negative k * 10 + ((c.toNat - '0'.toNat : Nat) : Int)) =
          Number.signed negative (10 * k + (c.toNat - '0'.toNat)) := by
      cases negative <;> simp [Number.signed] <;> omega
    have hbounds : ¬r.greatest < Number.signed negative (10 * k + (c.toNat - '0'.toNat)) ∧
        ¬Number.signed negative (10 * k + (c.toNat - '0'.toNat)) < r.least := by
      simp only [contains, Bool.and_eq_true, decide_eq_true_eq] at hnext
      omega
    obtain ⟨hc, hcs⟩ := List.forall_mem_cons.mp hdigits
    unfold readDigits
    rw [if_pos hc]
    dsimp only
    rw [hstep, if_neg hbounds.1, if_neg hbounds.2]
    exact ih hcs hrange

/-- The digits of an integer of the range are read as this integer, its sign being known. -/
theorem readDigits_natAbs (hzero : r.contains 0 = true) {n : Int} (hn : r.contains n = true) :
    r.readDigits (decide (n < 0)) 0 (Number.digits n.natAbs) = .ok n := by
  have hvalue : Nat.ofDigitChars 10 (Number.digits n.natAbs) 0 = n.natAbs :=
    Nat.ofDigitChars_ten_toDigits
  have hstart : Number.signed (decide (n < 0)) 0 = 0 := by
    unfold Number.signed
    split <;> rfl
  have hrange : r.contains (Number.signed (decide (n < 0))
      (Nat.ofDigitChars 10 (Number.digits n.natAbs) 0)) = true := by
    rwa [hvalue, Number.signed_natAbs]
  have hread := readDigits_eq hzero (fun c hc => Number.isDigit_of_mem_digits hc) hrange
  rwa [hstart, hvalue, Number.signed_natAbs] at hread

theorem isSigned_of_contains {n : Int} (hn : r.contains n = true) (hneg : n < 0) :
    r.isSigned = true := by
  simp only [contains, Bool.and_eq_true, decide_eq_true_eq] at hn
  simp only [isSigned, decide_eq_true_eq]
  omega

/-- An integer of a range is read back from what it is written as. -/
theorem read_integerText (hzero : r.contains 0 = true) {n : Int} (hn : r.contains n = true) :
    r.read (Number.integerText n).toList = .ok n := by
  have hread := readDigits_natAbs hzero hn
  obtain ⟨c, rest, hcs⟩ := List.exists_cons_of_ne_nil (Number.digits_ne_nil n.natAbs)
  have hc : c.isDigit = true := Number.isDigit_of_mem_digits (hcs ▸ List.mem_cons_self)
  rw [hcs] at hread
  rw [Number.toList_integerText, hcs]
  split
  next hneg =>
    rw [decide_eq_true hneg] at hread
    change (if r.isSigned = true then r.readDigits true 0 (c :: rest)
      else .error .invalidDigit) = .ok n
    rw [if_pos (isSigned_of_contains hn hneg)]
    exact hread
  next hnonneg =>
    have hplus : c ≠ '+' := by
      rintro rfl
      exact absurd hc (by decide)
    have hminus : c ≠ '-' := by
      rintro rfl
      exact absurd hc (by decide)
    rw [decide_eq_false hnonneg] at hread
    unfold read
    split <;> simp_all

end IntegerRange

end RestDispatch
