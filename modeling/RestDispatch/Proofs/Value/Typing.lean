import RestDispatch.Type.Basic

/-!
# Values of a type

A type is a description that values do not carry with them.  A value has a type when it is of
the kind that the type describes, down to its elements; null is a value of optional types only.
-/

namespace RestDispatch

/-- A value is one of a type. -/
inductive Value.HasType : Value → Ty → Prop
  | string (s : String) : HasType (.string s) .string
  | bool (b : Bool) : HasType (.bool b) .bool
  | char (c : Char) : HasType (.char c) .char
  | int {t : IntegerType} {n : Int} :
      t.isSigned = true → t.range.contains n = true → HasType (.int n) (.integer t)
  | uint {t : IntegerType} {n : Nat} :
      t.isSigned = false → t.range.contains n = true → HasType (.uint n) (.integer t)
  | single (x : Double) : HasType (.float x) .single
  | double (x : Double) : HasType (.float x) .double
  | bytes (bs : Bytes) : HasType (.bytes bs) .bytes
  | absent (t : Ty) : HasType .null (.optional t)
  | present {t : Ty} {v : Value} : HasType v t → HasType v (.optional t)
  | list {t : Ty} {items : List Value} :
      (∀ v ∈ items, HasType v t) → HasType (.list items) (.list t)
  | array {t : Ty} {items : List Value} :
      (∀ v ∈ items, HasType v t) → HasType (.list items) (.array t)
  | set {t : Ty} {items : List Value} :
      (∀ v ∈ items, HasType v t) → items.Pairwise (fun a b => a.same b = false) →
      HasType (.set items) (.set t)
  | map {t : Ty} {entries : List (String × Value)} :
      (∀ entry ∈ entries, HasType entry.2 t) → HasType (.map entries) (.map t)
  | cookie (c : Cookie) : HasType (.cookie c) .cookie
  | headers (h : Headers) : HasType (.headers h) .headers
  | parsed {p : ParsedType} (fields : Fields) : HasType (.object p.name fields) (.parsed p)
  | object {o : ObjectType} (fields : Fields) : HasType (.object o.name fields) (.object o)

theorem IntegerType.nonneg_of_contains {t : IntegerType} (ht : t.isSigned = false) {n : Int}
    (h : t.range.contains n = true) : 0 ≤ n := by
  rw [range, ht, IntegerRange.contains, Bool.and_eq_true] at h
  exact of_decide_eq_true h.1

namespace Value

/-- Integers in the range of their type, each kept as its signedness says. -/
theorem hasType_integer {t : IntegerType} {n : Int} (h : t.range.contains n = true) :
    (if t.isSigned then int n else uint n.toNat).HasType (.integer t) := by
  by_cases hsigned : t.isSigned = true
  · rw [if_pos hsigned]
    exact .int hsigned h
  · have hunsigned := (Bool.not_eq_true _).mp hsigned
    rw [if_neg hsigned]
    refine .uint hunsigned ?_
    rwa [Int.toNat_of_nonneg (t.nonneg_of_contains hunsigned h)]

mutual

/-- Whether no infinity and no NaN is in a value. -/
def isFinite : Value → Bool
  | .float x => x.isFinite
  | .list items => allFinite items
  | .set items => allFinite items
  | .map entries => entriesFinite entries
  | .object _ fields => entriesFinite fields
  | _ => true

def allFinite : List Value → Bool
  | [] => true
  | v :: vs => isFinite v && allFinite vs

def entriesFinite : List (String × Value) → Bool
  | [] => true
  | (_, v) :: rest => isFinite v && entriesFinite rest

end

theorem allFinite_iff {items : List Value} :
    allFinite items = true ↔ ∀ v ∈ items, v.isFinite = true := by
  induction items with
  | nil => simp [allFinite]
  | cons v vs ih => simp [allFinite, ih]

theorem entriesFinite_iff {entries : List (String × Value)} :
    entriesFinite entries = true ↔ ∀ entry ∈ entries, entry.2.isFinite = true := by
  induction entries with
  | nil => simp [entriesFinite]
  | cons entry rest ih => simp [entriesFinite, ih]

theorem foldl_distinct {kept items : List Value}
    (h : (kept ++ items).Pairwise (fun a b => a.same b = false)) :
    items.foldl (fun kept v => if kept.any (·.same v) then kept else kept ++ [v]) kept =
      kept ++ items := by
  induction items generalizing kept with
  | nil => simp
  | cons v vs ih =>
    have hnew : kept.any (·.same v) = false := by
      rw [List.any_eq_false]
      intro a ha
      rw [List.pairwise_append] at h
      simpa using h.2.2 a ha v (by simp)
    rw [List.foldl_cons, hnew, if_neg (by simp), ih (by simpa using h)]
    simp

/-- Items that differ are all kept. -/
theorem distinct_of_pairwise {items : List Value}
    (h : items.Pairwise (fun a b => a.same b = false)) : distinct items = items := by
  rw [distinct, foldl_distinct (by simpa using h), List.nil_append]

/-- Items are kept one at a time, each one only if it differs from those before it. -/
theorem pairwise_foldl_distinct {kept : List Value}
    (h : kept.Pairwise (fun a b => a.same b = false)) (items : List Value) :
    (items.foldl (fun kept v => if kept.any (·.same v) then kept else kept ++ [v])
      kept).Pairwise (fun a b => a.same b = false) := by
  induction items generalizing kept with
  | nil => exact h
  | cons v vs ih =>
    rw [List.foldl_cons]
    split
    next => exact ih h
    next hnew =>
      refine ih (List.pairwise_append.mpr ⟨h, List.pairwise_singleton _ v, ?_⟩)
      intro a ha b hb
      rw [List.mem_singleton.mp hb]
      rw [List.any_eq_true] at hnew
      exact (Bool.not_eq_true _).mp fun hsame => hnew ⟨a, ha, hsame⟩

/-- No two of the kept items are the same. -/
theorem pairwise_distinct (items : List Value) :
    (distinct items).Pairwise (fun a b => a.same b = false) :=
  pairwise_foldl_distinct .nil items

theorem mem_of_mem_foldl_distinct {kept items : List Value} {v : Value}
    (h : v ∈ items.foldl (fun kept v => if kept.any (·.same v) then kept else kept ++ [v]) kept) :
    v ∈ kept ∨ v ∈ items := by
  induction items generalizing kept with
  | nil => exact .inl h
  | cons w ws ih =>
    rw [List.foldl_cons] at h
    rcases ih h with hkept | hlater
    · split at hkept
      · exact .inl hkept
      · rcases List.mem_append.mp hkept with hold | hnew
        · exact .inl hold
        · exact .inr (List.mem_singleton.mp hnew ▸ List.mem_cons_self)
    · exact .inr (List.mem_cons_of_mem w hlater)

theorem mem_of_mem_distinct {items : List Value} {v : Value} (h : v ∈ distinct items) :
    v ∈ items :=
  (mem_of_mem_foldl_distinct h).resolve_left List.not_mem_nil

end Value

end RestDispatch
