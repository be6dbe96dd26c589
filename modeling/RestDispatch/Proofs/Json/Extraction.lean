import RestDispatch.Json.Binding
import RestDispatch.Proofs.Failure
import RestDispatch.Proofs.Value.Typing
import RestDispatch.Value.Host

/-!
# Documents extracted as typed data

A document is read at a declared type, and a handler extracts from the value the data of the
same type.  The two agree on everything but null: a document of null is read at every type, as
a list item or the value of a key too, and there is no data for it unless it is optional.
-/

namespace RestDispatch

/-- The type of data that a handler declares as a type of texts, integers, lists and maps. -/
def Ty.host? : Ty → Option HostType
  | .string => some .string
  | .bool => some .bool
  | .char => some .char
  | .integer t => some (.integer t)
  | .list t => t.host?.map .list
  | .map t => t.host?.map .map
  | _ => none

namespace Value

mutual

/-- Whether a null is in a value, or is the value. -/
def hasNull : Value → Bool
  | .null => true
  | .list items => anyNull items
  | .set items => anyNull items
  | .map entries => entriesNull entries
  | .object _ fields => entriesNull fields
  | _ => false

def anyNull : List Value → Bool
  | [] => false
  | v :: vs => hasNull v || anyNull vs

def entriesNull : List (String × Value) → Bool
  | [] => false
  | (_, v) :: rest => hasNull v || entriesNull rest

end

end Value

namespace HostType

section

variable {α β γ : Type} {P : α → Prop} {Q : β → Prop} {S : γ → Prop}

/-- A result has a property, unless a null is met. -/
structure GivesUnless (null : Bool) (P : α → Prop) (result : Except Error α) : Prop where
  data : null = false → ∃ x, result = .ok x ∧ P x
  null : null = true → ∃ expected, result = .error (.typeMismatch expected "null")

theorem givesUnless_ok {x : α} (hx : P x) : GivesUnless false P (.ok x) :=
  ⟨fun _ => ⟨x, rfl, hx⟩, fun h => by simp at h⟩

theorem givesUnless_mismatch (t : HostType) : GivesUnless true P (t.mismatch .null) :=
  ⟨fun h => by simp at h, fun _ => ⟨t.name, rfl⟩⟩

/-- The first null on the way is the one that is reported. -/
theorem GivesUnless.combine {first later : Bool} {x : Except Error α} {y : Except Error β}
    {f : α → β → γ} (hx : GivesUnless first P x) (hy : GivesUnless later Q y)
    (hf : ∀ a b, P a → Q b → S (f a b)) :
    GivesUnless (first || later) S (do let a ← x; let b ← y; return f a b) := by
  cases first with
  | true =>
    obtain ⟨expected, rfl⟩ := hx.null rfl
    exact ⟨fun h => by simp at h, fun _ => ⟨expected, rfl⟩⟩
  | false =>
    obtain ⟨a, rfl, ha⟩ := hx.data rfl
    rw [Bool.false_or]
    refine ⟨fun hpresent => ?_, fun hnull => ?_⟩
    · obtain ⟨b, rfl, hb⟩ := hy.data hpresent
      exact ⟨f a b, rfl, hf a b ha hb⟩
    · obtain ⟨expected, rfl⟩ := hy.null hnull
      exact ⟨expected, rfl⟩

end

variable {t : HostType} {v : Value}

/-- What is extracted from a value is the data of that value, unless a null is in it. -/
def Takes (t : HostType) (v : Value) : Prop :=
  GivesUnless v.hasNull (fun x => t.embed x = v) (t.extract v)

theorem takes_string (s : String) : string.Takes (.string s) := givesUnless_ok rfl

theorem takes_bool (b : Bool) : bool.Takes (.bool b) := givesUnless_ok rfl

theorem takes_char (c : Char) : char.Takes (.char c) := givesUnless_ok rfl

theorem takes_integer {t : IntegerType} (hv : v.HasType (.integer t)) : (integer t).Takes v := by
  cases hv with
  | @int _ n hsigned hrange =>
    rw [Takes, extract, extractInteger, dif_pos hrange]
    exact givesUnless_ok (by simp [embed, hsigned])
  | @uint _ n hunsigned hrange =>
    rw [Takes, extract, extractInteger, dif_pos hrange]
    exact givesUnless_ok (by simp [embed, hunsigned])

theorem takes_list {items : List Value} (h : ∀ v ∈ items, t.Takes v) :
    t.list.Takes (.list items) := by
  induction items with
  | nil => exact givesUnless_ok rfl
  | cons v vs ih =>
    obtain ⟨hv, hvs⟩ := List.forall_mem_cons.mp h
    refine GivesUnless.combine hv (ih hvs) fun x xs hx hxs => ?_
    rw [embed, Value.list.injEq] at hxs
    rw [embed, List.map_cons, hx, hxs]

theorem takes_map {entries : List (String × Value)} (h : ∀ entry ∈ entries, t.Takes entry.2) :
    t.map.Takes (.map entries) := by
  induction entries with
  | nil => exact givesUnless_ok rfl
  | cons entry rest ih =>
    obtain ⟨hentry, hrest⟩ := List.forall_mem_cons.mp h
    refine GivesUnless.combine hentry (ih hrest) fun x xs hx hxs => ?_
    rw [embed, Value.map.injEq] at hxs
    rw [embed, List.map_cons, hxs]
    dsimp only
    rw [hx]

/-- There is no data for null. -/
theorem takes_null {ty : Ty} (ht : ty.host? = some t) : t.Takes .null := by
  match ty with
  | .string | .bool | .char | .integer _ =>
    cases ht
    exact givesUnless_mismatch _
  | .list _ | .map _ =>
    obtain ⟨element, -, rfl⟩ := Option.map_eq_some_iff.mp ht
    exact givesUnless_mismatch _
  | .optional _ | .single | .double | .bytes | .set _ | .array _ | .cookie | .headers
  | .parsed _ | .object _ => simp [Ty.host?] at ht

end HostType

namespace Json

section

variable {S : Value → Prop} {read : Json → Except Error Value}

theorem returnsOnly_orMisfit {x : Option Value} (hx : ∀ v, x = some v → S v) (j : Json) (ty : Ty) :
    ReturnsOnly S (j.orMisfit ty x) := by
  cases x with
  | some v => exact returnsOnly_ok (hx v rfl)
  | none => exact returnsOnly_error _

theorem returnsOnly_readAll (hread : ∀ j, ReturnsOnly S (read j)) (js : List Json) :
    ReturnsOnly (fun vs => ∀ v ∈ vs, S v) (readAll read js) := by
  induction js with
  | nil => exact returnsOnly_nil
  | cons j js ih =>
    rw [readAll]
    refine (hread j).bind fun v hv => ih.bind fun vs hvs => ?_
    exact returnsOnly_ok (List.forall_mem_cons.mpr ⟨hv, hvs⟩)

theorem returnsOnly_readEntries (hread : ∀ j, ReturnsOnly S (read j))
    (fields : List (String × Json)) :
    ReturnsOnly (fun entries => ∀ entry ∈ entries, S entry.2) (readEntries read fields) := by
  induction fields with
  | nil => exact returnsOnly_nil
  | cons field rest ih =>
    rw [readEntries]
    refine (hread field.2).bind fun v hv => ih.bind fun entries hentries => ?_
    exact returnsOnly_ok (List.forall_mem_cons.mpr ⟨hv, hentries⟩)

end

theorem hasType_of_readInteger {t : IntegerType} {j : Json} {v : Value}
    (h : j.readInteger t = some v) : v.HasType (.integer t) := by
  unfold readInteger at h
  split at h
  next n _ =>
    split at h
    next hrange =>
      cases h
      exact Value.hasType_integer hrange
    next => simp at h
  next => simp at h

theorem exists_of_readChar {j : Json} {v : Value} (h : j.readChar = some v) :
    ∃ c, v = .char c := by
  unfold readChar at h
  split at h
  next c _ =>
    cases h
    exact ⟨c, rfl⟩
  next => simp at h

/-- A document is read as a value that its type takes. -/
theorem takes_toValue {ty : Ty} {t : HostType} (ht : ty.host? = some t) (j : Json) :
    ReturnsOnly t.Takes (j.toValue ty) := by
  unfold toValue
  split
  · exact returnsOnly_ok (HostType.takes_null ht)
  match ty with
  | .string =>
    cases ht
    dsimp only
    split
    · exact returnsOnly_ok (HostType.takes_string _)
    · exact returnsOnly_ok (HostType.takes_string _)
  | .bool =>
    cases ht
    dsimp only
    split
    · exact returnsOnly_ok (HostType.takes_bool _)
    · exact returnsOnly_error _
  | .char =>
    cases ht
    refine returnsOnly_orMisfit (fun v hv => ?_) j _
    obtain ⟨c, rfl⟩ := exists_of_readChar hv
    exact HostType.takes_char c
  | .integer t =>
    cases ht
    exact returnsOnly_orMisfit (fun v hv => HostType.takes_integer (hasType_of_readInteger hv)) j _
  | .list element =>
    obtain ⟨t, helement, rfl⟩ := Option.map_eq_some_iff.mp ht
    dsimp only
    split
    · exact (returnsOnly_readAll (takes_toValue helement) _).map fun vs hvs => HostType.takes_list hvs
    · exact returnsOnly_error _
  | .map value =>
    obtain ⟨t, hvalue, rfl⟩ := Option.map_eq_some_iff.mp ht
    dsimp only
    split
    · refine (returnsOnly_readEntries (takes_toValue hvalue) _).map fun entries hentries => ?_
      exact HostType.takes_map hentries
    · exact returnsOnly_error _
  | .optional _ | .single | .double | .bytes | .set _ | .array _ | .cookie | .headers
  | .parsed _ | .object _ => simp [Ty.host?] at ht

/-- A document that is read at a type of texts, integers, lists and maps is read as a value whose
data is extracted at that type, unless a null is in the value; then a null is reported. -/
theorem extract_of_toValue {ty : Ty} {t : HostType} (ht : ty.host? = some t) {j : Json}
    {v : Value} (h : j.toValue ty = .ok v) :
    (v.hasNull = false → ∃ x, t.extract v = .ok x ∧ t.embed x = v) ∧
      (v.hasNull = true → ∃ expected, t.extract v = .error (.typeMismatch expected "null")) := by
  have htakes := takes_toValue ht j v h
  exact ⟨htakes.data, htakes.null⟩

/-- Lists of small integers under two keys, and a list with a null behind them. -/
theorem extract_of_toValue_lists :
    let ty : Ty := .map (.list (.integer .i8))
    let t : HostType := .map (.list (.integer .i8))
    let j : Json := .object [("a", .array [.integer 1, .integer (-2)]), ("b", .array [])]
    let v : Value := .map [("a", .list [.int 1, .int (-2)]), ("b", .list [])]
    let k : Json := .object [("a", .array [.integer 1, .null])]
    let w : Value := .map [("a", .list [.int 1, .null])]
    ty.host? = some t ∧
      (j.toValue ty = .ok v ∧ v.hasNull = false ∧ ∃ x, t.extract v = .ok x ∧ t.embed x = v) ∧
      k.toValue ty = .ok w ∧ w.hasNull = true ∧
        ∃ expected, t.extract w = .error (.typeMismatch expected "null") := by
  intro ty t j v k w
  have ht : ty.host? = some t := rfl
  have hv : j.toValue ty = .ok v := by rfl
  have hw : k.toValue ty = .ok w := by rfl
  exact ⟨ht, ⟨hv, rfl, (extract_of_toValue ht hv).1 rfl⟩, hw, rfl,
    (extract_of_toValue ht hw).2 rfl⟩

/-- A null among texts is read as an item of the list, and no text is extracted from it. -/
theorem null_item_not_extracted :
    ¬∀ (ty : Ty) (t : HostType) (j : Json) (v : Value), ty.host? = some t →
      j.toValue ty = .ok v → v ≠ .null → ∃ x, t.extract v = .ok x := by
  intro h
  obtain ⟨x, hx⟩ := h (.list .string) (.list .string) (.array [.string "a", .null])
    (.list [.string "a", .null]) rfl (by rfl) (by simp)
  cases hx

end Json

end RestDispatch
