import Mathlib
import RestDispatch.Proofs.Value.Typing
import RestDispatch.Value.Host

/-!
# Extraction of what was embedded

Data that is embedded into a value is extracted from it again, at every type of truth values,
characters, strings and integers, and of options, lists and maps of them.  Absence is embedded as
null, at any depth.  So an option directly within an option is left out: its two absences have the
same value.

Integers are never cut off.  A type of integers takes an integer from either kind of integer
value, as it is, if it has the integer at all.
-/

namespace RestDispatch

/-- The integers that a type has by its width, with one bit for the sign of a signed type. -/
def IntegerType.Represents (t : IntegerType) (n : Int) : Prop :=
  if t.isSigned then -2 ^ (t.width - 1) ≤ n ∧ n < 2 ^ (t.width - 1)
  else 0 ≤ n ∧ n < 2 ^ t.width

instance (t : IntegerType) (n : Int) : Decidable (t.Represents n) :=
  inferInstanceAs (Decidable (if t.isSigned then _ else _))

theorem IntegerType.contains_range_iff (t : IntegerType) (n : Int) :
    t.range.contains n = true ↔ t.Represents n := by
  cases t <;>
    simp only [range, IntegerRange.contains, Represents, isSigned, width, Nat.pow_eq,
      Bool.and_eq_true, decide_eq_true_eq, Bool.false_eq_true, if_true, if_false] <;>
    omega

/-- The integer that a value holds, of either kind. -/
def Value.integer? : Value → Option Int
  | .int n => some n
  | .uint n => some n
  | _ => none

namespace HostType

def isOption : HostType → Bool
  | .option _ => true
  | _ => false

/-- The types whose data is told by its value. -/
inductive Lossless : HostType → Prop
  | bool : Lossless .bool
  | char : Lossless .char
  | string : Lossless .string
  | integer (t : IntegerType) : Lossless (.integer t)
  | option {t : HostType} : Lossless t → t.isOption = false → Lossless (.option t)
  | list {t : HostType} : Lossless t → Lossless (.list t)
  | map {t : HostType} : Lossless t → Lossless (.map t)

section

variable {α : Type} {embed : α → Value} {extract : Value → Except Error α}

theorem extractAll_map (h : ∀ x, extract (embed x) = .ok x) (xs : List α) :
    extractAll extract (xs.map embed) = .ok xs := by
  induction xs with
  | nil => rfl
  | cons x xs ih =>
    rw [List.map_cons, extractAll, h, ih]
    rfl

theorem extractEntries_map (h : ∀ x, extract (embed x) = .ok x) (d : Dictionary α) :
    extractEntries extract (d.map fun (k, x) => (k, embed x)) = .ok d := by
  induction d with
  | nil => rfl
  | cons entry rest ih =>
    rw [List.map_cons, extractEntries, h, ih]
    rfl

end

section

variable {t : HostType} {v : Value} {n : Int}

/-- Only absence is null. -/
theorem Lossless.embed_ne_null (ht : t.Lossless) (hoption : t.isOption = false)
    (x : t.Carrier) : t.embed x ≠ .null := by
  cases ht with
  | option => exact Bool.noConfusion hoption
  | integer t =>
    rw [embed]
    split <;> simp
  | bool | char | string | list | map => simp [embed]

theorem extract_option_of_ne_null (hv : v ≠ .null) :
    (option t).extract v = (t.extract v).map some := by
  cases v with
  | null => exact absurd rfl hv
  | _ => rfl

variable {r : IntegerRange}

theorem extractInteger_of_contains (hv : v.integer? = some n) (hn : r.contains n = true) :
    extractInteger t r v = .ok ⟨n, hn⟩ := by
  cases v with
  | int m | uint m =>
    cases hv
    exact dif_pos hn
  | _ => cases hv

theorem extractInteger_of_not_contains (hv : v.integer? = some n) (hn : ¬r.contains n = true) :
    extractInteger t r v = .error (.typeMismatch t.name v.kind) := by
  cases v with
  | int m | uint m =>
    cases hv
    exact dif_neg hn
  | _ => cases hv

/-- What is extracted is the integer itself where it is represented, and a mismatch elsewhere. -/
structure ExactAt (n : Int) (represented : Prop) (mismatch : Error)
    (result : Except Error (Bounded r)) : Prop where
  succeeds_iff : (∃ x, result = .ok x) ↔ represented
  yields : ∀ x, result = .ok x → x.val = n
  fails : ¬represented → result = .error mismatch

theorem exactAt_extractInteger {represented : Prop} (hv : v.integer? = some n)
    (hr : r.contains n = true ↔ represented) :
    ExactAt n represented (.typeMismatch t.name v.kind) (extractInteger t r v) := by
  by_cases hn : r.contains n = true
  · rw [extractInteger_of_contains hv hn]
    refine ⟨iff_of_true ⟨_, rfl⟩ (hr.mp hn), fun x hx => ?_, fun h => absurd (hr.mp hn) h⟩
    cases hx
    rfl
  · rw [extractInteger_of_not_contains hv hn]
    refine ⟨iff_of_false ?_ (mt hr.mpr hn), fun x hx => ?_, fun _ => rfl⟩
    · rintro ⟨x, hx⟩
      cases hx
    · cases hx

theorem integer?_embed (t : IntegerType) (n : Bounded t.range) :
    ((integer t).embed n).integer? = some n.val := by
  rw [embed]
  split
  next => rfl
  next hsigned =>
    have hunsigned := (Bool.not_eq_true _).mp hsigned
    have hnonneg := IntegerType.nonneg_of_contains hunsigned n.property
    rw [Value.integer?, Int.toNat_of_nonneg hnonneg]

/-- What was embedded is extracted again. -/
theorem extract_embed (ht : t.Lossless) (x : t.Carrier) : t.extract (t.embed x) = .ok x := by
  induction ht with
  | bool | char | string => rfl
  | integer t => exact extractInteger_of_contains (integer?_embed t x) x.property
  | @option t ht hoption ih =>
    cases x with
    | none => rfl
    | some x =>
      have hpresent : t.option.embed (some x) = t.embed x := rfl
      rw [hpresent, extract_option_of_ne_null (ht.embed_ne_null hoption x), ih]
      rfl
  | list _ ih => exact extractAll_map ih x
  | map _ ih => exact extractEntries_map ih x

end

/-- Extraction inverts embedding.  An integer, signed or not, is extracted as it is at every type
of integers that has it, sizes being integers of 64 bits, and is a mismatch at all others. -/
theorem extract_embed_and_integers :
    (∀ t : HostType, t.Lossless → ∀ x : t.Carrier, t.extract (t.embed x) = .ok x) ∧
      ∀ (v : Value) (n : Int), v.integer? = some n →
        (∀ t : IntegerType, ExactAt n (t.Represents n) (.typeMismatch t.name v.kind)
          ((integer t).extract v)) ∧
        ExactAt n (0 ≤ n ∧ n < 2 ^ 64) (.typeMismatch "usize" v.kind) (size.extract v) := by
  refine ⟨fun t ht => extract_embed ht, fun v n hv => ⟨fun t => ?_, ?_⟩⟩
  · exact exactAt_extractInteger (t := integer t) hv (t.contains_range_iff n)
  · exact exactAt_extractInteger (t := size) hv (IntegerType.u64.contains_range_iff n)

/-- Lists in a map with and without small integers in them, and integers at both ends of types
and beyond them. -/
theorem extract_embed_and_integers_map :
    let t : HostType := .map (.list (.option (.integer .i8)))
    let least : Bounded (IntegerType.range .i8) := ⟨-128, by decide⟩
    let x : t.Carrier := [("a", [some least, none]), ("b", [])]
    (t.Lossless ∧ t.embed x = .map [("a", .list [.int (-128), .null]), ("b", .list [])] ∧
      t.extract (t.embed x) = .ok x) ∧
    (integer .i8).extract (.int (-129)) = .error (.typeMismatch "i8" "integer") ∧
    (∃ n, (integer .u64).extract (.uint (2 ^ 64 - 1)) = .ok n ∧ n.val = 2 ^ 64 - 1) ∧
    (integer .i64).extract (.uint (2 ^ 63)) = .error (.typeMismatch "i64" "unsigned integer") ∧
    size.extract (.int (-1)) = .error (.typeMismatch "usize" "integer") := by
  intro t least x
  have ht : t.Lossless := .map (.list (.option (.integer .i8) rfl))
  obtain ⟨hinverse, hintegers⟩ := extract_embed_and_integers
  refine ⟨⟨ht, rfl, hinverse t ht x⟩, ?_, ?_, ?_, ?_⟩
  · exact ((hintegers (.int (-129)) (-129) rfl).1 .i8).fails (by decide)
  · have hgreatest := (hintegers (.uint (2 ^ 64 - 1)) (2 ^ 64 - 1) rfl).1 .u64
    obtain ⟨n, hn⟩ := hgreatest.succeeds_iff.mpr (by decide)
    exact ⟨n, hn, hgreatest.yields n hn⟩
  · exact ((hintegers (.uint (2 ^ 63)) (2 ^ 63) rfl).1 .i64).fails (by decide)
  · exact (hintegers (.int (-1)) (-1) rfl).2.fails (by decide)

end HostType

end RestDispatch
