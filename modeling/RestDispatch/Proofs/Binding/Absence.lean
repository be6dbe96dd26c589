import RestDispatch.Proofs.Dispatch.History
import RestDispatch.Type.Bean

/-!
# Absent values

A parameter that asks for a value by name fails for the lack of it at every source under the
same conditions, and a body is treated likewise: the annotation requires the value, the type is
not optional, no default is given, and either nothing is there or what is there reads as null.
Matrix variables are the exception, being never required.

A bean is no value of its own.  Its fields are bound like parameters, so for a required field a
bean fails even where its type is optional.
-/

namespace RestDispatch

/-- The failure of a step that misses a value. -/
def Missing {α : Type} (x : Except Error α) : Prop :=
  ∃ kind name, x = .error (.missingValue kind name)

instance {α : Type} (x : Except Error α) : Decidable (Missing x) :=
  match x with
  | .ok _ => isFalse fun ⟨_, _, h⟩ => nomatch h
  | .error e =>
    match e with
    | .missingValue kind name => isTrue ⟨kind, name, rfl⟩
    | .configuration _ | .ambiguousMatrixVariable _ _ | .badRequest _ | .deserialization _
    | .unsupportedMediaType _ | .notAcceptable _ | .routeNotFound _ | .methodNotAllowed _
    | .status _ _ | .serialization _ | .nullResult _ | .typeMismatch _ _ | .internal _ | .io _ =>
      isFalse fun ⟨_, _, h⟩ => nomatch h

theorem not_missing_ok {α : Type} (a : α) : ¬ Missing (.ok a : Except Error α) := by
  rintro ⟨kind, name, h⟩
  cases h

theorem FailsOnly.not_missing {α : Type} {P : Error → Prop} {x : Except Error α}
    (hx : FailsOnly P x) (hP : ∀ kind name, ¬ P (.missingValue kind name)) : ¬ Missing x := by
  rintro ⟨kind, name, h⟩
  exact hP kind name (hx _ h)

theorem not_missing_of_isBadRequest {α : Type} {x : Except Error α}
    (hx : FailsOnly Error.IsBadRequest x) : ¬ Missing x :=
  hx.not_missing fun _ _ h => nomatch h

theorem not_missing_of_isDeserialization {α : Type} {x : Except Error α}
    (hx : FailsOnly Error.IsDeserialization x) : ¬ Missing x :=
  hx.not_missing fun _ _ h => nomatch h

namespace Lookup

/-- Nothing is carried, or what is carried converts to null. -/
inductive Absent (c : Option Conversion) : Option Carried → Prop
  | nothing : Absent c none
  | noTexts : Absent c (some (.multiple []))
  | null {carried : Carried} : convertRaw c carried = .ok .null → Absent c (some carried)

variable {l : Lookup} {kind : String} {c : Option Conversion}

theorem convert_eq_ok_iff {carried : Carried} {v : Value} :
    l.convert kind c carried = .ok v ↔ convertRaw c carried = .ok v := by
  unfold convert
  split
  next reason h => simp [h]
  next => exact Iff.rfl

end Lookup

namespace BodyBinding

/-- What a body is read as, before it is found missing. -/
def content (b : BodyBinding) (r : Request) : Except Error Value :=
  let m := b.mediaType? r
  match Conversion.of? b.ty, isText m with
  | some c, true => readText b.name c r.body
  | _, _ => if r.body.isEmpty then .ok .null else b.readFormat (m.getD .textPlain) r.body

variable {b : BodyBinding} {r : Request}

theorem not_missing_content (hformats : ∀ f ∈ b.formats.readers, f.IsBuiltIn)
    (hty : b.ty.Deserializes) : ¬ Missing (b.content r) := by
  unfold content
  dsimp only
  split
  · exact not_missing_of_isBadRequest (failsOnly_readText _ _ _)
  · split
    · exact not_missing_ok _
    · unfold readFormat
      split
      next f hf =>
        have hbuilt := hformats f (List.mem_of_find?_eq_some hf)
        exact not_missing_of_isDeserialization (hbuilt.failsOnly_read hty _ _)
      next =>
        rintro ⟨kind, name, h⟩
        cases h

end BodyBinding

namespace FixedBodyBinding

def content (b : FixedBodyBinding) (r : Request) : Except Error Value :=
  if r.body.isEmpty then .ok .null else b.format.read (r.contentType?.getD .any) b.ty r.body

variable {b : FixedBodyBinding} {r : Request}

theorem not_missing_content (hformat : b.format.IsBuiltIn) (hty : b.ty.Deserializes) :
    ¬ Missing (b.content r) := by
  unfold content
  split
  · exact not_missing_ok _
  · exact not_missing_of_isDeserialization (hformat.failsOnly_read hty _ _)

end FixedBodyBinding

namespace Binder

/-- What a body is read as by a binder that reads the body. -/
def bodyContent? (r : Request) : Binder → Option (Except Error Value)
  | .body b => some (b.content r)
  | .fixedBody b => some (b.content r)
  | _ => none

def bodyType? : Binder → Option Ty
  | .body b => some b.ty
  | .fixedBody b => some b.ty
  | _ => none

/-- Whether a body, where the binder reads one, is read by built-in formats. -/
def ReadsBuiltIn : Binder → Prop
  | .body b => ∀ f ∈ b.formats.readers, f.IsBuiltIn
  | .fixedBody b => b.format.IsBuiltIn
  | _ => True

theorem ReadsBuiltIn.not_missing {b : Binder} (hb : b.ReadsBuiltIn) {ty : Ty}
    (hty : b.bodyType? = some ty) (hdeserializes : ty.Deserializes) {r : Request}
    {content : Except Error Value} (hcontent : b.bodyContent? r = some content) :
    ¬ Missing content := by
  cases b with
  | body b =>
    cases hty
    cases hcontent
    exact BodyBinding.not_missing_content hb hdeserializes
  | fixedBody b =>
    cases hty
    cases hcontent
    exact FixedBodyBinding.not_missing_content hb hdeserializes
  | _ => cases hty

end Binder

variable {ctx : BindingContext} {p : Param} {b : Binder}

namespace Binder

end Binder

namespace Deployment

open Deploying

variable {σ : Type}

/-- What binds a parameter of a deployed handler was built for it. -/
theorem History.boundTo {d : Deployment σ} (hd : d.History) {route : Route (RouteHandler σ)}
    (hroute : route ∈ d.router.table.routes) {p : Param} {b : Binder}
    (hp : (p, some b) ∈ route.handler.params) : ∃ ctx, b.BoundTo ctx p := by
  obtain ⟨d', h, hbuilds⟩ := hd.exists_builds hroute
  obtain ⟨s, s', hrun⟩ := hbuilds.params
  have hyields := yields_bindParams_of
    (fun p binder => ∀ b, binder = some b → b.BoundTo (d'.context route.condition) p)
    (fun p => Binding.yields_bind) h.method 0 h.params
  exact ⟨d'.context route.condition, hyields s s' _ hrun _ hp b rfl⟩

/-- Whether some deployed parameter passes a check. -/
def anyBound (d : Deployment σ) (check : Param → Binder → Bool) : Bool :=
  d.router.table.routes.any fun route =>
    route.handler.params.any fun (p, binder) => binder.any (check p)

theorem exists_of_anyBound {d : Deployment σ} {check : Param → Binder → Bool}
    (h : d.anyBound check = true) :
    ∃ route ∈ d.router.table.routes, ∃ p b, (p, some b) ∈ route.handler.params ∧
      check p b = true := by
  obtain ⟨route, hroute, h⟩ := List.any_eq_true.mp h
  obtain ⟨⟨p, binder⟩, hp, h⟩ := List.any_eq_true.mp h
  cases binder with
  | none => exact Bool.noConfusion h
  | some b => exact ⟨route, hroute, p, b, hp, h⟩

/-- List items, given one parameter. -/
def listItems (name : String) (ty : Ty) (a : Annotation) : Declaration Unit where
  method := { name := "list", declaring := { name := "Items" } }
  route := { paths := ["/items"], methods := [.get] }
  params := [{ name := name, ty := ty, annotations := [a] }]
  invoker := some fun _ => pure (.value .null)

def unsized : Request := Request.ofUri .get "/items"

end Deployment

end RestDispatch
