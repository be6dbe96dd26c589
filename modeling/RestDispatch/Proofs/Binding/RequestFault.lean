import RestDispatch.Binding.Binder
import RestDispatch.Proofs.Failure

/-!
# Arguments that a request does not give

What a built-in binder cannot take from a request is the fault of the request: a value is
missing, ambiguous or unreadable, or the body is of an unsupported type.  All of these answer
with 400 or 415.

A body of a registered type is read by a codec of the application, of which it is assumed that
it refuses a body only as one that cannot be read.
-/

namespace RestDispatch

/-- Failures that a request is to blame for. -/
inductive Error.IsRequestFault : Error → Prop
  | missingValue (source name : String) : IsRequestFault (.missingValue source name)
  | ambiguousMatrixVariable (name : String) (segments : List String) :
      IsRequestFault (.ambiguousMatrixVariable name segments)
  | badRequest (reason : String) : IsRequestFault (.badRequest reason)
  | deserialization (reason : String) : IsRequestFault (.deserialization reason)
  | unsupportedMediaType (reason : String) : IsRequestFault (.unsupportedMediaType reason)

namespace Error

/-- What a codec may fail with. -/
inductive IsDeserialization : Error → Prop
  | mk (reason : String) : IsDeserialization (.deserialization reason)

theorem IsDeserialization.isRequestFault {e : Error} (h : e.IsDeserialization) :
    e.IsRequestFault := by
  obtain ⟨reason⟩ := h
  exact .deserialization reason

/-- What the conversion of a text may fail with. -/
inductive IsBadRequest : Error → Prop
  | mk (reason : String) : IsBadRequest (.badRequest reason)

theorem IsBadRequest.isRequestFault {e : Error} (h : e.IsBadRequest) : e.IsRequestFault := by
  obtain ⟨reason⟩ := h
  exact .badRequest reason

/-- A failure that answers with 400 or 415, and so is not one of the server. -/
structure IsClientFault (e : Error) : Prop where
  status : e.statusCode = 400 ∨ e.statusCode = 415
  client : e.isClientError = true
  not_server : e.isServerError = false
  not_configuration : e.isConfiguration = false

theorem IsRequestFault.isClientFault {e : Error} (h : e.IsRequestFault) : e.IsClientFault := by
  cases h with
  | missingValue | ambiguousMatrixVariable | badRequest | deserialization =>
    exact ⟨.inl rfl, rfl, rfl, rfl⟩
  | unsupportedMediaType => exact ⟨.inr rfl, rfl, rfl, rfl⟩

end Error

open Error

namespace Conversion

theorem failsOnly_scalar (c : Conversion) (text : String) :
    FailsOnly IsBadRequest (c.scalar text) := by
  unfold scalar
  split
  · exact failsOnly_ok _
  · exact failsOnly_error ⟨_⟩

section

variable {P : Error → Prop} {c : Conversion}

/-- Texts are refused only as scalars. -/
theorem failsOnly_each (hscalar : ∀ text, FailsOnly P (c.scalar text)) (texts : List String) :
    FailsOnly P (c.each texts) := by
  induction texts with
  | nil => exact failsOnly_ok []
  | cons text texts ih =>
    rw [each]
    exact (hscalar text).bind fun v => ih.bind fun vs => failsOnly_ok _

theorem failsOnly_split (hscalar : ∀ text, FailsOnly P (c.scalar text)) (text : String) :
    FailsOnly P (c.split text) := by
  unfold split
  split
  · exact failsOnly_ok []
  · exact failsOnly_each hscalar _

theorem failsOnly_convert (hscalar : ∀ text, FailsOnly P (c.scalar text)) (text : String) :
    FailsOnly P (c.convert text) := by
  unfold convert
  split
  · exact hscalar text
  · exact failsOnly_ok _
  · exact (failsOnly_split hscalar text).map
  · exact (failsOnly_split hscalar text).map

theorem failsOnly_convertAll (hscalar : ∀ text, FailsOnly P (c.scalar text))
    (texts : List String) : FailsOnly P (c.convertAll texts) := by
  unfold convertAll
  split
  · exact failsOnly_ok _
  · exact failsOnly_convert hscalar _
  · split
    · exact failsOnly_convert hscalar _
    · exact failsOnly_convert hscalar _
    · exact (failsOnly_each hscalar _).map
    · exact (failsOnly_each hscalar _).map

end

end Conversion

namespace Lookup

theorem failsOnly_absent (l : Lookup) (kind : String) :
    FailsOnly IsRequestFault (l.absent kind) := by
  unfold absent
  split
  · exact failsOnly_ok _
  · split
    · exact failsOnly_error (.missingValue kind l.name)
    · exact failsOnly_ok _

theorem failsOnly_convertRaw (c : Option Conversion) (carried : Carried) :
    FailsOnly IsBadRequest (convertRaw c carried) := by
  unfold convertRaw
  split
  · exact failsOnly_ok _
  · exact Conversion.failsOnly_convert (Conversion.failsOnly_scalar _) _
  · exact Conversion.failsOnly_convertAll (Conversion.failsOnly_scalar _) _
  · exact failsOnly_ok _
  · exact failsOnly_ok _

theorem failsOnly_convert (l : Lookup) (kind : String) (c : Option Conversion)
    (carried : Carried) : FailsOnly IsBadRequest (l.convert kind c carried) := by
  unfold convert
  split
  · exact failsOnly_error ⟨_⟩
  · exact failsOnly_convertRaw c carried

theorem failsOnly_present (l : Lookup) (kind : String) (c : Option Conversion)
    (carried : Carried) : FailsOnly IsRequestFault (l.present kind c carried) := by
  unfold present
  split
  · exact l.failsOnly_absent kind
  · split
    · exact l.failsOnly_absent kind
    · exact (l.failsOnly_convert kind c carried).imp fun _ he => he.isRequestFault

theorem failsOnly_resolve (l : Lookup) (kind : String) (c : Option Conversion)
    (carried : Option Carried) : FailsOnly IsRequestFault (l.resolve kind c carried) := by
  unfold resolve
  split
  · exact l.failsOnly_absent kind
  · exact l.failsOnly_absent kind
  · exact l.failsOnly_present kind c _

end Lookup

theorem Source.failsOnly_carried (r : Request) (name : String) (source : Source) :
    FailsOnly IsRequestFault (source.carried r name) := by
  unfold carried
  split
  · exact failsOnly_ok _
  · exact failsOnly_ok _
  · exact failsOnly_ok _
  · exact failsOnly_ok _
  · exact failsOnly_ok _
  · exact failsOnly_ok _
  · split
    · exact failsOnly_ok _
    · exact failsOnly_ok _
    · exact failsOnly_error (.ambiguousMatrixVariable name _)

namespace MapConversion

theorem failsOnly_addEntry (m : MapConversion) (map : Dictionary Value)
    (entry : String × List String) : FailsOnly IsBadRequest (m.addEntry map entry) := by
  unfold addEntry
  dsimp only
  split
  · exact (Conversion.failsOnly_convertAll m.conversion.failsOnly_scalar _).map
  · split
    · exact failsOnly_ok _
    · split
      · exact failsOnly_ok _
      · exact (Conversion.failsOnly_convert m.conversion.failsOnly_scalar _).map

theorem failsOnly_build (m : MapConversion) (entries : List (String × List String)) :
    FailsOnly IsBadRequest (m.build entries) :=
  (failsOnly_foldlM (fun map entry _ => m.failsOnly_addEntry map entry) []).map

end MapConversion

/-- The codecs of a registered type refuse what they read only as unreadable. -/
structure ObjectType.Deserializes (o : ObjectType) : Prop where
  json : ∀ codec ∈ o.json, ∀ j, FailsOnly IsDeserialization (codec.decode j)
  message : ∀ codec ∈ o.message, ∀ body, FailsOnly IsDeserialization (codec.decode body)

/-- So do those of every registered type that values of a type are made of. -/
def Ty.Deserializes : Ty → Prop
  | .optional t => t.Deserializes
  | .list t => t.Deserializes
  | .set t => t.Deserializes
  | .array t => t.Deserializes
  | .map t => t.Deserializes
  | .object o => o.Deserializes
  | _ => True

namespace Json

theorem failsOnly_misfit {α : Type} (j : Json) (ty : Ty) :
    FailsOnly IsDeserialization (j.misfit ty : Except Error α) :=
  failsOnly_error ⟨_⟩

theorem failsOnly_orMisfit (j : Json) (ty : Ty) (v : Option Value) :
    FailsOnly IsDeserialization (j.orMisfit ty v) := by
  unfold orMisfit
  split
  · exact failsOnly_ok _
  · exact j.failsOnly_misfit ty

section

variable {read : Json → Except Error Value} (hread : ∀ j, FailsOnly IsDeserialization (read j))

include hread

theorem failsOnly_readAll (items : List Json) :
    FailsOnly IsDeserialization (readAll read items) := by
  induction items with
  | nil => exact failsOnly_ok []
  | cons j js ih =>
    rw [readAll]
    exact (hread j).bind fun v => ih.bind fun vs => failsOnly_ok _

theorem failsOnly_readEntries (entries : List (String × Json)) :
    FailsOnly IsDeserialization (readEntries read entries) := by
  induction entries with
  | nil => exact failsOnly_ok []
  | cons entry rest ih =>
    rw [readEntries]
    exact (hread entry.2).bind fun v => ih.bind fun vs => failsOnly_ok _

end

/-- A document that does not fit a type is unreadable as that type. -/
theorem failsOnly_toValue (ty : Ty) (hty : ty.Deserializes) (j : Json) :
    FailsOnly IsDeserialization (toValue ty j) := by
  unfold toValue
  split
  · exact failsOnly_ok _
  match ty with
  | .optional t => exact failsOnly_toValue t hty j
  | .string =>
    dsimp only
    split
    · exact failsOnly_ok _
    · exact failsOnly_ok _
  | .bool =>
    dsimp only
    split
    · exact failsOnly_ok _
    · exact j.failsOnly_misfit _
  | .char => exact j.failsOnly_orMisfit _ _
  | .integer t => exact j.failsOnly_orMisfit _ _
  | .single => exact j.failsOnly_orMisfit _ _
  | .double => exact j.failsOnly_orMisfit _ _
  | .list t | .array t | .set t =>
    have hitem := failsOnly_toValue t hty
    dsimp only
    split
    · exact (failsOnly_readAll hitem _).map
    · exact j.failsOnly_misfit _
  | .map t =>
    have hentry := failsOnly_toValue t hty
    dsimp only
    split
    · exact (failsOnly_readEntries hentry _).map
    · exact j.failsOnly_misfit _
  | .cookie => exact j.failsOnly_orMisfit _ _
  | .object o =>
    have hobject : o.Deserializes := hty
    dsimp only
    split
    next codec hcodec => exact (hobject.json codec hcodec j).map
    next => exact failsOnly_error ⟨_⟩
  | .bytes | .headers | .parsed p => exact j.failsOnly_misfit _

end Json

namespace BodyFormat

theorem failsOnly_parseJson (body : Bytes) :
    FailsOnly IsDeserialization (parseJson body) := by
  unfold parseJson
  split
  · exact failsOnly_error ⟨_⟩
  · split
    · exact failsOnly_ok _
    · exact failsOnly_error ⟨_⟩

theorem deserializes_of_object? (ty : Ty) (hty : ty.Deserializes) {o : ObjectType}
    (h : ty.object? = some o) : o.Deserializes := by
  match ty with
  | .optional t => exact deserializes_of_object? t hty h
  | .object o' =>
    cases h
    exact hty

theorem failsOnly_readMessage {ty : Ty} (hty : ty.Deserializes) (body : Bytes) :
    FailsOnly IsDeserialization (readMessage ty body) := by
  unfold readMessage
  split
  next o ho =>
    split
    next codec hcodec =>
      have hobject := deserializes_of_object? ty hty ho
      exact (hobject.message codec hcodec body).map
    next => exact failsOnly_error ⟨_⟩
  next => exact failsOnly_error ⟨_⟩

/-- A body that a built-in format does not read is unreadable as its type. -/
theorem IsBuiltIn.failsOnly_read {f : BodyFormat} (hf : f.IsBuiltIn) {ty : Ty}
    (hty : ty.Deserializes) (m : MediaType) (body : Bytes) :
    FailsOnly IsDeserialization (f.read m ty body) := by
  cases hf with
  | json streaming => exact (failsOnly_parseJson body).bind (Json.failsOnly_toValue ty hty)
  | protobuf => exact failsOnly_readMessage hty body

end BodyFormat

namespace BodyBinding

theorem failsOnly_check (name : String) (required : Bool) (v : Value) :
    FailsOnly IsRequestFault (check name required v) := by
  unfold check
  split
  · exact failsOnly_error (.missingValue _ name)
  · exact failsOnly_ok v

theorem failsOnly_readText (name : String) (c : Conversion) (body : Bytes) :
    FailsOnly IsBadRequest (readText name c body) := by
  unfold readText
  split
  · exact failsOnly_ok _
  · split
    · exact Conversion.failsOnly_convert c.failsOnly_scalar _
    · exact failsOnly_error ⟨_⟩

theorem failsOnly_readFormat {b : BodyBinding} (hformats : ∀ f ∈ b.formats.readers, f.IsBuiltIn)
    (hty : b.ty.Deserializes) (m : MediaType) (body : Bytes) :
    FailsOnly IsRequestFault (b.readFormat m body) := by
  unfold readFormat
  split
  next f hf =>
    have hbuilt := hformats f (List.mem_of_find?_eq_some hf)
    exact (hbuilt.failsOnly_read hty m body).imp fun _ he => he.isRequestFault
  next => exact failsOnly_error (.unsupportedMediaType _)

theorem failsOnly_read {b : BodyBinding} (hformats : ∀ f ∈ b.formats.readers, f.IsBuiltIn)
    (hty : b.ty.Deserializes) (r : Request) : FailsOnly IsRequestFault (b.read r) := by
  have hcheck := failsOnly_check b.name b.required
  unfold read
  dsimp only
  split
  · exact ((failsOnly_readText _ _ _).imp fun _ he => he.isRequestFault).bind hcheck
  · split
    · exact (failsOnly_ok _).bind hcheck
    · exact (failsOnly_readFormat hformats hty _ _).bind hcheck

end BodyBinding

theorem FixedBodyBinding.failsOnly_read {b : FixedBodyBinding} (hformat : b.format.IsBuiltIn)
    (hty : b.ty.Deserializes) (r : Request) : FailsOnly IsRequestFault (b.read r) := by
  have hcheck := BodyBinding.failsOnly_check b.name b.required
  unfold read
  dsimp only
  split
  · exact (failsOnly_ok _).bind hcheck
  · have hread := hformat.failsOnly_read hty (r.contentType?.getD .any) r.body
    exact (hread.imp fun _ he => he.isRequestFault).bind hcheck

namespace Binder

/-- What built-in factories make of built-in formats, the fields of beans left open. -/
def IsBuiltIn : Binder → Prop
  | .body b => (∀ f ∈ b.formats.readers, f.IsBuiltIn) ∧ b.ty.Deserializes
  | .fixedBody b => b.format.IsBuiltIn ∧ b.ty.Deserializes
  | .custom _ => False
  | _ => True

def isBean : Binder → Bool
  | .bean _ => true
  | _ => false

/-- What a built-in binder cannot take from a request is the fault of the request. -/
theorem failsOnly_resolve {b : Binder} (hb : b.IsBuiltIn) (hbean : b.isBean = false)
    (r : Request) : FailsOnly IsRequestFault (b.resolve r) := by
  cases b with
  | named source lookup conversion =>
    rw [resolve]
    split
    next => exact lookup.failsOnly_resolve _ _ _
    next e hcarried => exact failsOnly_error (source.failsOnly_carried r lookup.name e hcarried)
  | entries source conversion =>
    exact (conversion.failsOnly_build _).imp fun _ he => he.isRequestFault
  | headers => exact failsOnly_ok _
  | cookies distinct => cases distinct <;> exact failsOnly_ok _
  | body b => exact BodyBinding.failsOnly_read hb.1 hb.2 r
  | fixedBody b => exact FixedBodyBinding.failsOnly_read hb.1 hb.2 r
  | bean b => exact Bool.noConfusion hbean
  | custom f => exact hb.elim

end Binder

end RestDispatch
