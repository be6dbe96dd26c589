import RestDispatch.Json.Binding
import RestDispatch.Proofs.Value.Typing

/-!
# Values read back from their documents

A document is written by what a value is and read by what its declared type says.  The two
meet again at every type that needs no registered codec: what is written for a value of the
type is read as that value.  Texts of documents are not involved.
-/

namespace RestDispatch

/-- Whether a type is made of texts, numbers and cookies only. -/
def Ty.isPlain : Ty → Bool
  | .optional t => t.isPlain
  | .list t => t.isPlain
  | .set t => t.isPlain
  | .array t => t.isPlain
  | .map t => t.isPlain
  | .string | .bool | .char | .integer _ | .single | .double | .cookie => true
  | .bytes | .headers | .parsed _ | .object _ => false

namespace Json

/-- A value is written as a document that is read as the value. -/
def ReadsBack (ty : Ty) (v : Value) : Prop :=
  ∃ j, ofValue (some ty) v = .ok j ∧ j.toValue ty = .ok v

/-- An optional type is written like the type itself. -/
theorem ofValue_optional (t : Ty) (v : Value) :
    ofValue (some (.optional t)) v = ofValue (some t) v := by
  cases v <;> rfl

/-- An optional type is read like the type itself. -/
theorem toValue_optional (t : Ty) (j : Json) : toValue (.optional t) j = toValue t j := by
  cases j <;> cases t <;> rfl

theorem ReadsBack.optional {t : Ty} {v : Value} (h : ReadsBack t v) :
    ReadsBack (.optional t) v := by
  obtain ⟨j, hwritten, hread⟩ := h
  exact ⟨j, by rw [ofValue_optional, hwritten], by rw [toValue_optional, hread]⟩

theorem readsBack_items {t : Ty} {items : List Value} (h : ∀ v ∈ items, ReadsBack t v) :
    ∃ js, ofItems (some t) items = .ok js ∧ readAll (toValue t) js = .ok items := by
  induction items with
  | nil => exact ⟨[], rfl, rfl⟩
  | cons v vs ih =>
    obtain ⟨j, hwritten, hread⟩ := h v (by simp)
    obtain ⟨js, hwrittenAll, hreadAll⟩ := ih fun w hw => h w (by simp [hw])
    refine ⟨j :: js, ?_, ?_⟩
    · rw [ofItems, hwritten, hwrittenAll]
      rfl
    · rw [readAll, hread, hreadAll]
      rfl

theorem readsBack_entries {t : Ty} {entries : List (String × Value)}
    (h : ∀ entry ∈ entries, ReadsBack t entry.2) :
    ∃ fields, ofEntries (some t) entries = .ok fields ∧
      readEntries (toValue t) fields = .ok entries := by
  induction entries with
  | nil => exact ⟨[], rfl, rfl⟩
  | cons entry rest ih =>
    obtain ⟨key, v⟩ := entry
    obtain ⟨j, hwritten, hread⟩ := h (key, v) (by simp)
    obtain ⟨fields, hwrittenAll, hreadAll⟩ := ih fun w hw => h w (by simp [hw])
    refine ⟨(key, j) :: fields, ?_, ?_⟩
    · rw [ofEntries, hwritten, hwrittenAll]
      rfl
    · rw [readEntries, hread, hreadAll]
      rfl

theorem readsBack_char (c : Char) : ReadsBack .char (.char c) := by
  refine ⟨.string (String.ofList [c]), rfl, ?_⟩
  simp [toValue, isNull, orMisfit, readChar, string?]

theorem readsBack_int {t : IntegerType} {n : Int} (hsigned : t.isSigned = true)
    (hrange : t.range.contains n = true) : ReadsBack (.integer t) (.int n) := by
  refine ⟨.integer n, rfl, ?_⟩
  simp [toValue, isNull, orMisfit, readInteger, integer?, hsigned, hrange]

theorem readsBack_uint {t : IntegerType} {n : Nat} (hsigned : t.isSigned = false)
    (hrange : t.range.contains n = true) : ReadsBack (.integer t) (.uint n) := by
  refine ⟨.integer n, rfl, ?_⟩
  simp [toValue, isNull, orMisfit, readInteger, integer?, hsigned, hrange]

theorem readsBack_list {ty t : Ty} {items : List Value} (hty : ty = .list t ∨ ty = .array t)
    (h : ∀ v ∈ items, ReadsBack t v) : ReadsBack ty (.list items) := by
  obtain ⟨js, hwritten, hread⟩ := readsBack_items h
  have helement : Ty.element? ty = some t := by
    rcases hty with rfl | rfl <;> rfl
  refine ⟨.array js, ?_, ?_⟩
  · rw [ofValue, Option.bind_some, helement, hwritten]
    rfl
  · rcases hty with rfl | rfl <;> simp [toValue, isNull, items?, hread, Except.map]

theorem readsBack_set {t : Ty} {items : List Value} (h : ∀ v ∈ items, ReadsBack t v)
    (hdistinct : items.Pairwise (fun a b => a.same b = false)) :
    ReadsBack (.set t) (.set items) := by
  obtain ⟨js, hwritten, hread⟩ := readsBack_items h
  refine ⟨.array js, ?_, ?_⟩
  · rw [ofValue, Option.bind_some, Ty.element?, hwritten]
    rfl
  · simp [toValue, isNull, items?, hread, Except.map, Value.ofItems,
      Value.distinct_of_pairwise hdistinct]

theorem readsBack_map {t : Ty} {entries : List (String × Value)}
    (h : ∀ entry ∈ entries, ReadsBack t entry.2) : ReadsBack (.map t) (.map entries) := by
  obtain ⟨fields, hwritten, hread⟩ := readsBack_entries h
  refine ⟨.object fields, ?_, ?_⟩
  · rw [ofValue, Option.bind_some, Ty.mapValue?, hwritten]
    rfl
  · simp [toValue, isNull, hread, Except.map]

theorem readsBack_float {ty : Ty} {x : Double} (hty : ty = .single ∨ ty = .double)
    (hx : x.isFinite = true) : ReadsBack ty (.float x) := by
  refine ⟨.number x, by simp [ofValue, ofDouble, hx], ?_⟩
  rcases hty with rfl | rfl <;> rfl

/-- Every value of a plain type, all its numbers finite, is written, and read back from what
is written. -/
theorem toValue_ofValue {ty : Ty} {v : Value} (hplain : ty.isPlain = true) (hv : v.HasType ty)
    (hfinite : v.isFinite = true) :
    ∃ j, ofValue (some ty) v = .ok j ∧ j.toValue ty = .ok v := by
  change ReadsBack ty v
  induction hv with
  | string s => exact ⟨.string s, rfl, rfl⟩
  | bool b => exact ⟨.bool b, rfl, rfl⟩
  | char c => exact readsBack_char c
  | int hsigned hrange => exact readsBack_int hsigned hrange
  | uint hsigned hrange => exact readsBack_uint hsigned hrange
  | single x => exact readsBack_float (.inl rfl) hfinite
  | double x => exact readsBack_float (.inr rfl) hfinite
  | absent t => exact ⟨.null, rfl, rfl⟩
  | present _ ih => exact (ih hplain hfinite).optional
  | list _ ih =>
    exact readsBack_list (.inl rfl) fun v hv =>
      ih v hv hplain (Value.allFinite_iff.mp hfinite v hv)
  | array _ ih =>
    exact readsBack_list (.inr rfl) fun v hv =>
      ih v hv hplain (Value.allFinite_iff.mp hfinite v hv)
  | set _ hdistinct ih =>
    exact readsBack_set (fun v hv => ih v hv hplain (Value.allFinite_iff.mp hfinite v hv))
      hdistinct
  | map _ ih =>
    exact readsBack_map fun entry hentry =>
      ih entry hentry hplain (Value.entriesFinite_iff.mp hfinite entry hentry)
  | cookie c => exact ⟨_, rfl, rfl⟩
  | bytes | headers | parsed | object => simp [Ty.isPlain] at hplain

/-- Null and a set of two numbers, kept under two keys. -/
theorem toValue_ofValue_sets :
    let ty : Ty := .map (.optional (.set .double))
    let v : Value := .map [("none", .null), ("two", .set [.float ⟨1⟩, .float ⟨0⟩])]
    ty.isPlain = true ∧ v.HasType ty ∧ v.isFinite = true ∧
      ∃ j, ofValue (some ty) v = .ok j ∧ j.toValue ty = .ok v := by
  intro ty v
  have hset : (Value.set [.float ⟨1⟩, .float ⟨0⟩]).HasType (.set .double) := by
    refine .set ?_ (by decide)
    intro w hw
    simp only [List.mem_cons, List.not_mem_nil, or_false] at hw
    rcases hw with rfl | rfl <;> exact .double _
  have hv : v.HasType ty := by
    refine .map ?_
    intro entry hentry
    simp only [List.mem_cons, List.not_mem_nil, or_false] at hentry
    rcases hentry with rfl | rfl
    · exact .absent _
    · exact .present hset
  exact ⟨rfl, hv, by decide, toValue_ofValue rfl hv (by decide)⟩

end Json

end RestDispatch
