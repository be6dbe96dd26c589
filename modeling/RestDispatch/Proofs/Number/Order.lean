import RestDispatch.Number.Reading

/-!
# Numbers in their order

A number has a place among the numbers, and comparisons compare places.  A NaN has none: it is
neither less nor more than anything, and clamping leaves it as it is.  Rounding ends at infinity,
so no digits are read as a NaN; only the word is, in any case and with either sign.
-/

namespace RestDispatch

namespace Binary

variable {f : BinaryFormat}

theorem infinityBits_lt_signUnit (f : BinaryFormat) : f.infinityBits < f.signUnit := by
  have hfield : 0 < 2 ^ (f.precision - 1) := Nat.two_pow_pos _
  have htop : 0 < 2 ^ f.exponentBits := Nat.two_pow_pos _
  simp only [BinaryFormat.infinityBits, BinaryFormat.signUnit, BinaryFormat.topField,
    BinaryFormat.fieldUnit, Nat.pow_eq, Nat.add_comm (f.precision - 1), Nat.pow_add]
  exact Nat.mul_lt_mul_of_pos_right (by omega) hfield

/-- A magnitude up to infinity keeps clear of the sign bit and of the NaNs. -/
theorem isNaN_withSign {magnitude : Nat} (h : magnitude ≤ f.infinityBits) (negative : Bool) :
    (withSign negative magnitude : Binary f).isNaN = false := by
  have hsign : magnitude < f.signUnit := Nat.lt_of_le_of_lt h (infinityBits_lt_signUnit f)
  have hmagnitude : (withSign negative magnitude : Binary f).magnitude = magnitude := by
    cases negative with
    | false => exact Nat.mod_eq_of_lt hsign
    | true => exact (Nat.add_mod_left _ _).trans (Nat.mod_eq_of_lt hsign)
  rw [isNaN, hmagnitude, decide_eq_false_iff_not]
  exact Nat.not_lt.mpr h

theorem isNaN_infinity (negative : Bool) : (infinity negative : Binary f).isNaN = false :=
  isNaN_withSign (Nat.le_refl _) negative

theorem isNaN_ofRatio (negative : Bool) (num den : Nat) :
    (ofRatio negative num den : Binary f).isNaN = false := by
  unfold ofRatio
  split
  · exact isNaN_withSign (Nat.zero_le _) negative
  · exact isNaN_withSign (Nat.min_le_right _ _) negative

/-- The place of a number in the order of numbers. -/
def place (x : Binary f) : Int := x.place?.getD 0

theorem place?_eq {x : Binary f} (hx : x.isNaN = false) : x.place? = some x.place := by
  unfold place place?
  rw [hx, if_neg Bool.false_ne_true, Option.getD_some]

section

variable {x y : Binary f} (hx : x.isNaN = false) (hy : y.isNaN = false)

include hx hy

/-- Numbers compare by their places. -/
theorem lt_iff_place : x.lt y = true ↔ x.place < y.place := by
  unfold lt
  rw [place?_eq hx, place?_eq hy, decide_eq_true_eq]

theorem le_iff_place : x.le y = true ↔ x.place ≤ y.place := by
  unfold le
  rw [place?_eq hx, place?_eq hy, decide_eq_true_eq]

theorem same_iff_place : x.same y = true ↔ x.place = y.place := by
  unfold same
  rw [place?_eq hx, place?_eq hy, beq_iff_eq]

end

theorem lt_eq_false_of_isNaN {x : Binary f} (hx : x.isNaN = true) (y : Binary f) :
    x.lt y = false ∧ y.lt x = false := by
  have hplace : x.place? = none := by rw [place?, if_pos hx]
  unfold lt
  rw [hplace]
  exact ⟨rfl, by split <;> trivial⟩

theorem same_eq_false_of_isNaN {x : Binary f} (hx : x.isNaN = true) (y : Binary f) :
    x.same y = false ∧ y.same x = false := by
  have hplace : x.place? = none := by rw [place?, if_pos hx]
  unfold same
  rw [hplace]
  exact ⟨rfl, by split <;> trivial⟩

/-- What is less than something, or more, is a number. -/
theorem isNaN_of_lt {x y : Binary f} (h : x.lt y = true) :
    x.isNaN = false ∧ y.isNaN = false := by
  constructor
  · cases hx : x.isNaN with
    | false => rfl
    | true => rw [(lt_eq_false_of_isNaN hx y).1] at h; cases h
  · cases hy : y.isNaN with
    | false => rfl
    | true => rw [(lt_eq_false_of_isNaN hy x).2] at h; cases h

section

variable {low high : Binary f} (hlow : low.isNaN = false) (hhigh : high.isNaN = false)

include hlow hhigh

theorem isNaN_clamp (x : Binary f) : (x.clamp low high).isNaN = x.isNaN := by
  cases hx : x.isNaN with
  | true =>
    have hcompare := lt_eq_false_of_isNaN hx
    simp only [clamp, (hcompare low).1, (hcompare high).2, Bool.false_eq_true, if_false, hx]
  | false =>
    unfold clamp
    dsimp only
    generalize hraised : (if x.lt low then low else x) = raised
    have hnumber : raised.isNaN = false := by
      rw [← hraised]
      split
      · exact hlow
      · exact hx
    split
    · exact hhigh
    · exact hnumber

theorem clamp_between (hends : low.place ≤ high.place) {x : Binary f} (hx : x.isNaN = false) :
    low.place ≤ (x.clamp low high).place ∧ (x.clamp low high).place ≤ high.place := by
  unfold clamp
  dsimp only
  generalize hraised : (if x.lt low then low else x) = raised
  have hnumber : raised.isNaN = false ∧ low.place ≤ raised.place := by
    rw [← hraised]
    split
    next => exact ⟨hlow, Int.le_refl _⟩
    next hunder =>
      rw [lt_iff_place hx hlow] at hunder
      exact ⟨hx, Int.not_lt.mp hunder⟩
  split
  next => exact ⟨hends, Int.le_refl _⟩
  next hover =>
    rw [lt_iff_place hhigh hnumber.1] at hover
    exact ⟨hnumber.2, Int.not_lt.mp hover⟩

end

end Binary

namespace Number

def withoutSign : List Char → List Char
  | '+' :: cs => cs
  | '-' :: cs => cs
  | cs => cs

/-- The word for what is not a number, in any case, behind at most one sign. -/
def SpellsNaN (cs : List Char) : Prop :=
  String.ofList ((withoutSign cs).map Char.toLower) = "nan"

instance (cs : List Char) : Decidable (SpellsNaN cs) :=
  inferInstanceAs (Decidable (String.ofList ((withoutSign cs).map Char.toLower) = "nan"))

theorem isNaN_ofDecimal {f : BinaryFormat} (negative : Bool) (m : Nat) (e : Int) :
    (ofDecimal negative m e : Binary f).isNaN = false := by
  unfold ofDecimal
  split
  · exact Binary.isNaN_withSign (Nat.zero_le _) negative
  · split
    · exact Binary.isNaN_infinity negative
    · split
      · exact Binary.isNaN_withSign (Nat.zero_le _) negative
      · split
        · exact Binary.isNaN_ofRatio negative _ _
        · exact Binary.isNaN_ofRatio negative _ _

theorem isNaN_of_readUnsigned {negative : Bool} {cs : List Char} {x : Single}
    (h : readUnsigned negative cs = some x) :
    x.isNaN = true ↔ String.ofList (cs.map Char.toLower) = "nan" := by
  unfold readUnsigned at h
  dsimp only at h
  split at h
  next hinfinite =>
    cases h
    rw [Binary.isNaN_infinity]
    refine iff_of_false Bool.false_ne_true fun hnan => ?_
    rw [hnan] at hinfinite
    exact absurd hinfinite (by decide)
  next =>
    split at h
    next hnan =>
      cases h
      refine iff_of_true ?_ hnan
      cases negative with
      | false => decide
      | true => decide
    next hnan =>
      refine iff_of_false ?_ hnan
      obtain ⟨e, -, rfl⟩ := Option.map_eq_some_iff.mp (Option.ite_none_left_eq_some.mp h).2
      rw [isNaN_ofDecimal]
      exact Bool.false_ne_true

/-- A text is read as an unsigned number behind its sign. -/
theorem exists_readBinary_eq (cs : List Char) :
    ∃ negative, readBinary (f := .single) cs = readUnsigned negative (withoutSign cs) := by
  unfold readBinary
  split
  · exact ⟨false, rfl⟩
  · exact ⟨true, rfl⟩
  next hplus hminus =>
    refine ⟨false, congrArg _ ?_⟩
    unfold withoutSign
    split
    · exact absurd rfl (hplus _)
    · exact absurd rfl (hminus _)
    · rfl

/-- Of all texts that are read as a number, the word alone gives a NaN. -/
theorem isNaN_of_readBinary {cs : List Char} {x : Single} (h : readBinary cs = some x) :
    x.isNaN = true ↔ SpellsNaN cs := by
  obtain ⟨negative, hread⟩ := exists_readBinary_eq cs
  exact isNaN_of_readUnsigned (hread ▸ h)

/-- The word is always read. -/
theorem exists_readBinary_of_spellsNaN {cs : List Char} (h : SpellsNaN cs) :
    ∃ x : Single, readBinary cs = some x := by
  obtain ⟨negative, hread⟩ := exists_readBinary_eq cs
  rw [hread]
  unfold readUnsigned
  dsimp only
  unfold SpellsNaN at h
  rw [h]
  exact ⟨_, rfl⟩

end Number

end RestDispatch
