import RestDispatch.Proofs.Binding.RequestFault
import RestDispatch.Proofs.Value.Typing

/-!
# Values that texts are converted to

What a conversion gives for a text is null or a value of the type that the conversion was made
for, whatever the text.  Nulls are left out of collections, and of equal elements of a set only
the first is kept.  A text that is refused is refused by the reader of its scalar type, so the
type itself is never the reason.

A conversion is made in three shapes of a type: a scalar, bytes, or a collection of scalars.
Optional wrappers are dropped around the type and around its elements.
-/

namespace RestDispatch

namespace IntegerRange

theorem contains_of_readDigits {r : IntegerRange} {negative : Bool} {value n : Int}
    {cs : List Char} (hvalue : r.contains value = true)
    (h : r.readDigits negative value cs = .ok n) : r.contains n = true := by
  induction cs generalizing value with
  | nil =>
    cases h
    exact hvalue
  | cons c cs ih =>
    unfold readDigits at h
    dsimp only at h
    split at h
    next =>
      generalize (if negative = true then value * 10 - ((c.toNat - '0'.toNat : Nat) : Int)
        else value * 10 + ((c.toNat - '0'.toNat : Nat) : Int)) = moved at h
      split at h
      next => simp at h
      next hgreatest =>
        split at h
        next => simp at h
        next hleast =>
          refine ih ?_ h
          rw [contains, Bool.and_eq_true, decide_eq_true_eq, decide_eq_true_eq]
          exact ⟨Int.not_lt.mp hleast, Int.not_lt.mp hgreatest⟩
    next => simp at h

/-- An integer that is read lies in the range. -/
theorem contains_of_read {r : IntegerRange} (hzero : r.contains 0 = true) {cs : List Char}
    {n : Int} (h : r.read cs = .ok n) : r.contains n = true := by
  unfold read at h
  split at h
  · simp at h
  · simp at h
  · simp at h
  · exact contains_of_readDigits hzero h
  · split at h
    · exact contains_of_readDigits hzero h
    · simp at h
  · exact contains_of_readDigits hzero h

end IntegerRange

theorem IntegerType.contains_zero (t : IntegerType) : t.range.contains 0 = true := by
  cases t <;> decide

theorem Ty.isScalar_unwrap (t : Ty) : t.unwrap.isScalar = t.isScalar := by
  match t with
  | .optional t => exact t.isScalar_unwrap
  | .string | .bool | .char | .integer _ | .single | .double | .bytes | .list _ | .set _
  | .array _ | .map _ | .cookie | .headers | .parsed _ | .object _ => rfl

theorem Ty.isOptional_unwrap (t : Ty) : t.unwrap.isOptional = false := by
  match t with
  | .optional t => exact t.isOptional_unwrap
  | .string | .bool | .char | .integer _ | .single | .double | .bytes | .list _ | .set _
  | .array _ | .map _ | .cookie | .headers | .parsed _ | .object _ => rfl

theorem Ty.isCollection_unwrap (t : Ty) : t.unwrap.isCollection = t.isCollection := by
  match t with
  | .optional t => exact t.isCollection_unwrap
  | .string | .bool | .char | .integer _ | .single | .double | .bytes | .list _ | .set _
  | .array _ | .map _ | .cookie | .headers | .parsed _ | .object _ => rfl

theorem Ty.not_isScalar_of_isCollection {ty : Ty} (hcollection : ty.isCollection = true)
    (hpresent : ty.isOptional = false) : ty.isScalar = false := by
  cases ty with
  | optional t => simp [isOptional] at hpresent
  | list | set | array => rfl
  | _ => simp [isCollection, element?] at hcollection

/-- A value of a type is one of the optional type. -/
theorem Value.HasType.of_unwrap {v : Value} {t : Ty} (h : v.HasType t.unwrap) : v.HasType t := by
  match t with
  | .optional t => exact .present (HasType.of_unwrap h)
  | .string | .bool | .char | .integer _ | .single | .double | .bytes | .list _ | .set _
  | .array _ | .map _ | .cookie | .headers | .parsed _ | .object _ => exact h

namespace Conversion

variable {ty : Ty} {whole trimmed text : List Char} {v : Value}

theorem hasType_of_readInteger {t : IntegerType} (h : readInteger t trimmed = .ok v) :
    v.HasType (.integer t) := by
  unfold readInteger at h
  split at h
  next n hread =>
    cases h
    exact Value.hasType_integer (IntegerRange.contains_of_read t.contains_zero hread)
  next => simp at h

theorem hasType_of_readBool (h : readBool trimmed = .ok v) : v.HasType .bool := by
  unfold readBool at h
  generalize Text.lower (String.ofList trimmed) = word at h
  have hword : v = .bool true ∨ v = .bool false := by
    grind
  rcases hword with rfl | rfl
  · exact .bool true
  · exact .bool false

theorem hasType_of_readChar (h : readChar whole = .ok v) : v.HasType .char := by
  unfold readChar at h
  split at h
  next c =>
    cases h
    exact .char c
  next => simp at h

theorem exists_of_readFloat {f : BinaryFormat} (h : readFloat f trimmed = .ok v) :
    ∃ x : Double, v = .float x := by
  unfold readFloat at h
  split at h
  next x hread =>
    cases h
    exact ⟨x.convert, rfl⟩
  next => simp at h

/-- A text that is read as a scalar is read as one of its type. -/
theorem hasType_of_readTrimmed (h : readTrimmed ty whole trimmed = .ok v) : v.HasType ty := by
  cases ty with
  | bool => exact hasType_of_readBool h
  | char => exact hasType_of_readChar h
  | integer t => exact hasType_of_readInteger h
  | single =>
    obtain ⟨x, rfl⟩ := exists_of_readFloat h
    exact .single x
  | double =>
    obtain ⟨x, rfl⟩ := exists_of_readFloat h
    exact .double x
  | parsed p =>
    rw [readTrimmed] at h
    split at h
    next fields hfields =>
      cases h
      exact .parsed fields
    next => simp at h
  | _ => simp [readTrimmed] at h

theorem hasType_of_readScalar (h : readScalar ty text = .ok v) : v = .null ∨ v.HasType ty := by
  unfold readScalar at h
  split at h
  next =>
    cases h
    exact .inr (.string _)
  next =>
    dsimp only at h
    split at h
    next =>
      cases h
      exact .inl rfl
    next => exact .inr (hasType_of_readTrimmed h)

/-- Every scalar type but strings has a reader of its own. -/
theorem ne_unsupported_of_readTrimmed {fault : ConversionFault} (hscalar : ty.isScalar = true)
    (hpresent : ty.isOptional = false) (hstring : ty ≠ .string)
    (h : readTrimmed ty whole trimmed = .error fault) (name : String) :
    fault ≠ .unsupported name := by
  rintro rfl
  cases ty with
  | string => exact hstring rfl
  | bool =>
    rw [readTrimmed, readBool] at h
    generalize Text.lower (String.ofList trimmed) = word at h
    split at h <;> simp at h
  | char =>
    rw [readTrimmed, readChar.eq_def] at h
    split at h <;> simp at h
  | integer t =>
    rw [readTrimmed, readInteger] at h
    split at h <;> simp at h
  | single | double =>
    rw [readTrimmed, readFloat] at h
    split at h <;> simp at h
  | parsed p =>
    rw [readTrimmed] at h
    split at h <;> simp at h
  | optional t => simp [Ty.isOptional] at hpresent
  | _ => simp [Ty.isScalar] at hscalar

theorem ne_unsupported_of_readScalar {fault : ConversionFault} (hscalar : ty.isScalar = true)
    (hpresent : ty.isOptional = false) (h : readScalar ty text = .error fault) (name : String) :
    fault ≠ .unsupported name := by
  unfold readScalar at h
  split at h
  next => simp at h
  next hstring =>
    dsimp only at h
    split at h
    next => simp at h
    next => exact ne_unsupported_of_readTrimmed hscalar hpresent hstring h name

/-- The answer to a text that is no value of a scalar type; the reason is never that the type
has no texts. -/
def Refuses (element : Ty) (e : Error) : Prop :=
  ∃ (text : String) (fault : ConversionFault), readScalar element text.toList = .error fault ∧
    (∀ name, fault ≠ .unsupported name) ∧
    e = .badRequest ("cannot convert '" ++ text ++ "' to " ++ element.name ++ ": " ++
      fault.message)

section

variable {c : Conversion}

theorem refuses_scalar (hscalar : c.element.isScalar = true)
    (hpresent : c.element.isOptional = false) (text : String) :
    FailsOnly (Refuses c.element) (c.scalar text) := by
  rw [scalar]
  split
  next => exact failsOnly_ok _
  next fault hread =>
    exact failsOnly_error
      ⟨text, fault, hread, ne_unsupported_of_readScalar hscalar hpresent hread, rfl⟩

theorem returnsOnly_scalar (c : Conversion) (text : String) :
    ReturnsOnly (fun v => v = .null ∨ v.HasType c.element) (c.scalar text) := by
  rw [scalar]
  split
  next v hread => exact returnsOnly_ok (hasType_of_readScalar hread)
  next => exact returnsOnly_error _

/-- Values that are collected are present and of the element type. -/
theorem returnsOnly_each (c : Conversion) (texts : List String) :
    ReturnsOnly (fun vs => ∀ v ∈ vs, v ≠ .null ∧ v.HasType c.element) (c.each texts) := by
  induction texts with
  | nil => exact returnsOnly_nil
  | cons text texts ih =>
    rw [each]
    refine (c.returnsOnly_scalar text).bind fun v hv => ih.bind fun vs hvs => returnsOnly_ok ?_
    split
    next => exact hvs
    next hpresent =>
      have hne : v ≠ .null := by
        rintro rfl
        exact hpresent rfl
      exact List.forall_mem_cons.mpr ⟨⟨hne, hv.resolve_left hne⟩, hvs⟩

theorem returnsOnly_split (c : Conversion) (text : String) :
    ReturnsOnly (fun vs => ∀ v ∈ vs, v ≠ .null ∧ v.HasType c.element) (c.split text) := by
  rw [split]
  split
  next => exact returnsOnly_nil
  next => exact c.returnsOnly_each _

end

end Conversion

namespace Value

/-- The elements of a list or of a set. -/
def items : Value → List Value
  | .list items => items
  | .set items => items
  | _ => []

/-- A value is null, or one of a type without a null among its elements. -/
def Fits (v : Value) (ty : Ty) : Prop :=
  v = .null ∨ v.HasType ty ∧ ∀ item ∈ v.items, item ≠ .null

variable {ty e : Ty} {v : Value} {vs : List Value}

theorem items_of_isScalar (h : v.HasType ty) (hscalar : ty.isScalar = true) : v.items = [] := by
  induction h with
  | present _ ih => exact ih hscalar
  | list | array | set => simp [Ty.isScalar] at hscalar
  | _ => rfl

theorem fits_list (hty : ty = .list e ∨ ty = .array e)
    (hvs : ∀ v ∈ vs, v ≠ .null ∧ v.HasType e.unwrap) : (list vs).Fits ty := by
  have htyped : ∀ v ∈ vs, v.HasType e := fun v hv => (hvs v hv).2.of_unwrap
  refine .inr ⟨?_, fun v hv => (hvs v hv).1⟩
  rcases hty with rfl | rfl
  · exact .list htyped
  · exact .array htyped

theorem fits_ofItems (hvs : ∀ v ∈ vs, v ≠ .null ∧ v.HasType e.unwrap) :
    (ofItems vs).Fits (.set e) := by
  refine .inr ⟨.set (fun v hv => ?_) (pairwise_distinct vs), fun v hv => ?_⟩
  · exact (hvs v (mem_of_mem_distinct hv)).2.of_unwrap
  · exact (hvs v (mem_of_mem_distinct hv)).1

end Value

namespace Conversion

/-- The conversions that are made for a type. -/
inductive MadeFor (target : Ty) : Conversion → Prop
  | bytes : target.unwrap = .bytes → MadeFor target ⟨target, .bytes, .bytes⟩
  | scalar : target.unwrap.isScalar = true → MadeFor target ⟨target, target.unwrap, .scalar⟩
  | list {e : Ty} : target.unwrap = .list e ∨ target.unwrap = .array e → e.isScalar = true →
      MadeFor target ⟨target, e.unwrap, .list⟩
  | set {e : Ty} : target.unwrap = .set e → e.isScalar = true →
      MadeFor target ⟨target, e.unwrap, .set⟩

section

variable {target : Ty} {c : Conversion}

theorem madeFor_of? (h : of? target = some c) : c.MadeFor target := by
  unfold of? at h
  split at h
  next hbytes =>
    cases h
    exact .bytes hbytes
  next e hlist =>
    split at h
    next hscalar =>
      cases h
      exact .list (.inl hlist) hscalar
    next => simp at h
  next e harray =>
    split at h
    next hscalar =>
      cases h
      exact .list (.inr harray) hscalar
    next => simp at h
  next e hset =>
    split at h
    next hscalar =>
      cases h
      exact .set hset hscalar
    next => simp at h
  next =>
    split at h
    next hscalar =>
      cases h
      exact .scalar hscalar
    next => simp at h

theorem exists_of?_of_isScalar {ty : Ty} (hscalar : ty.isScalar = true) :
    ∃ c, of? ty = some c := by
  rw [← ty.isScalar_unwrap] at hscalar
  unfold of?
  split <;> simp_all [Ty.isScalar]

theorem madeFor_of (h : of target = .ok c) : c.MadeFor target := by
  unfold of at h
  split at h
  next hc =>
    cases h
    exact madeFor_of? hc
  next => simp at h

/-- Only bytes are converted without a reader of scalars. -/
theorem MadeFor.reads (h : c.MadeFor target) :
    c.arity = .bytes ∨ c.element.isScalar = true ∧ c.element.isOptional = false := by
  cases h with
  | bytes => exact .inl rfl
  | scalar hscalar => exact .inr ⟨hscalar, target.isOptional_unwrap⟩
  | @list e _ hscalar => exact .inr ⟨e.isScalar_unwrap.trans hscalar, e.isOptional_unwrap⟩
  | @set e _ hscalar => exact .inr ⟨e.isScalar_unwrap.trans hscalar, e.isOptional_unwrap⟩

theorem MadeFor.refuses_convert (h : c.MadeFor target) (text : String) :
    FailsOnly (Refuses c.element) (c.convert text) := by
  rcases h.reads with hbytes | ⟨hscalar, hpresent⟩
  · rw [convert, hbytes]
    exact failsOnly_ok _
  · exact failsOnly_convert (refuses_scalar hscalar hpresent) text

theorem MadeFor.refuses_convertAll (h : c.MadeFor target) (texts : List String) :
    FailsOnly (Refuses c.element) (c.convertAll texts) := by
  rcases h.reads with hbytes | ⟨hscalar, hpresent⟩
  · match texts with
    | [] => exact failsOnly_ok _
    | [text] => exact h.refuses_convert text
    | first :: second :: others =>
      simp only [convertAll, hbytes]
      exact h.refuses_convert first
  · exact failsOnly_convertAll (refuses_scalar hscalar hpresent) texts

theorem MadeFor.fits_convert (h : c.MadeFor target) (text : String) :
    ReturnsOnly (·.Fits target.unwrap) (c.convert text) := by
  cases h with
  | bytes hbytes =>
    refine returnsOnly_ok (.inr ⟨?_, fun v hv => absurd hv List.not_mem_nil⟩)
    rw [hbytes]
    exact .bytes _
  | scalar hscalar =>
    intro v hv
    refine (returnsOnly_scalar _ text v hv).imp_right fun htyped => ⟨htyped, ?_⟩
    rw [Value.items_of_isScalar htyped hscalar]
    exact fun item hitem => absurd hitem List.not_mem_nil
  | list hlist _ =>
    exact (returnsOnly_split _ text).map fun vs hvs => Value.fits_list hlist hvs
  | set hset _ =>
    rw [hset]
    exact (returnsOnly_split _ text).map fun vs hvs => Value.fits_ofItems hvs

theorem MadeFor.fits_convertAll (h : c.MadeFor target) (texts : List String) :
    ReturnsOnly (·.Fits target.unwrap) (c.convertAll texts) := by
  match texts with
  | [] => exact returnsOnly_ok (.inl rfl)
  | [text] => exact h.fits_convert text
  | first :: second :: others =>
    cases h with
    | bytes hbytes => exact (MadeFor.bytes hbytes).fits_convert first
    | scalar hscalar => exact (MadeFor.scalar hscalar).fits_convert first
    | list hlist _ =>
      exact (returnsOnly_each _ _).map fun vs hvs => Value.fits_list hlist hvs
    | set hset _ =>
      rw [hset]
      exact (returnsOnly_each _ _).map fun vs hvs => Value.fits_ofItems hvs

/-- Strings and bytes are there even when their text is blank. -/
theorem MadeFor.convert_ne_null (h : c.MadeFor target)
    (htarget : target.unwrap = .string ∨ target.unwrap = .bytes) (text : String) :
    c.convert text ≠ .ok .null := by
  cases h with
  | bytes => simp [convert]
  | scalar hscalar =>
    rcases htarget with hstring | hbytes
    · simp [convert, Conversion.scalar, hstring, readScalar]
    · simp [hbytes, Ty.isScalar] at hscalar
  | list hlist _ => grind
  | set hset _ => grind

/-- What a conversion gives for texts: null or a value of its target, no null being among the
elements.  What it refuses is refused by its reader of scalars. -/
structure Converts (c : Conversion) (result : Except Error Value) : Prop where
  value : ReturnsOnly (·.Fits c.target.unwrap) result
  fault : FailsOnly (Refuses c.element) result

/-- A conversion that is made for a type converts every text and every list of texts to that
type. -/
theorem converts_of (hc : of target = .ok c) :
    c.target = target ∧ (∀ text, c.Converts (c.convert text)) ∧
      (∀ texts, c.Converts (c.convertAll texts)) ∧
      (target.unwrap = .string ∨ target.unwrap = .bytes → ∀ text, c.convert text ≠ .ok .null) := by
  have hmade := madeFor_of hc
  have htarget : c.target = target := by
    cases hmade <;> rfl
  refine ⟨htarget, fun text => ⟨?_, hmade.refuses_convert text⟩,
    fun texts => ⟨?_, hmade.refuses_convertAll texts⟩, hmade.convert_ne_null⟩
  · rw [htarget]
    exact hmade.fits_convert text
  · rw [htarget]
    exact hmade.fits_convertAll texts

/-- Sets of numbers that may be absent, and texts that may be absent. -/
theorem converts_of_set_of_string :
    let set : Conversion := ⟨.optional (.set (.optional (.integer .i8))), .integer .i8, .set⟩
    let string : Conversion := ⟨.optional .string, .string, .scalar⟩
    (of set.target = .ok set ∧ set.convertAll ["7", " ", "-0", "+7"] = .ok (.set [.int 7, .int 0]) ∧
      set.Converts (set.convertAll ["7", " ", "-0", "+7"])) ∧
    of string.target = .ok string ∧ ∀ text, string.convert text ≠ .ok .null := by
  intro set string
  have hset : of set.target = .ok set := rfl
  have hstring : of string.target = .ok string := rfl
  exact ⟨⟨hset, by rfl, (converts_of hset).2.2.1 _⟩, hstring, (converts_of hstring).2.2.2 (.inl rfl)⟩

end

end Conversion

end RestDispatch
