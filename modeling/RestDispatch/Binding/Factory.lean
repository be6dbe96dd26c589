import RestDispatch.Binding.Binder
import RestDispatch.Event
import RestDispatch.Options.Basic
import RestDispatch.StableSort

/-!
# Binder factories

When a handler is deployed, the first factory in order that supports a parameter builds
its binder, or refuses it with a configuration fault; a parameter that no factory supports
receives null.  The fields of a bean are bound like parameters of the same annotations.

What is built for a bean type is kept for the rest of the deployment: of several bindings
of one type and flavour the first one stays, also when it was built for a field while an
outer binding was still being built.
-/

namespace RestDispatch

/-- How the fields of a bean are bound: like parameters, or from query parameters alone. -/
inductive BeanFlavor
  | request
  | query
  deriving DecidableEq, Repr

def BeanFlavor.listing : BeanFlavor → String
  | .request => "Request"
  | .query => "Query"

/-- The bean bindings of a deployment by type name and flavour. -/
abbrev BeanCache := List ((String × BeanFlavor) × BeanBinding)

namespace BeanCache

def get? (cache : BeanCache) (key : String × BeanFlavor) : Option BeanBinding :=
  cache.lookup key

def keepFirst (cache : BeanCache) (key : String × BeanFlavor) (b : BeanBinding) :
    BeanBinding × BeanCache :=
  match cache.get? key with
  | some first => (first, cache)
  | none => (b, cache ++ [(key, b)])

def listing (cache : BeanCache) : String :=
  recordListing "BeanMetaCache" [("entries", toString cache.length)]

end BeanCache

/-- What deploying changes: the kept bean bindings and the events so far. -/
structure DeployState where
  beans : BeanCache := []
  events : List Event := []

/-- A step of a deployment, which may fail; what it changed before that stays. -/
abbrev Deploying := ExceptT Error (StateM DeployState)

namespace Deploying

def report (e : Event) : Deploying Unit :=
  modify fun s => { s with events := s.events ++ [e] }

/-- A step that changes nothing. -/
def lift {α : Type} : Except Error α → Deploying α
  | .ok a => pure a
  | .error e => throw e

end Deploying

/-- What builds binders. -/
inductive BinderFactory
  | path
  | matrix
  | query
  | header
  | cookie
  | fixedBody
  | body
  | bean
  /-- Parameters without annotations, taken from the query string. -/
  | unannotated
  /-- A factory brought along by the application. -/
  | custom (order : Int) (supports : Param → Bool)
    (build : Param → Except Error (Request → Except Error Value))

/-- The factories of a deployment in the order in which they are asked. -/
abbrev Registry := List BinderFactory

/-- What a factory may look at. -/
structure BindingContext where
  formats : FormatTable
  options : Options
  registry : Registry
  /-- The path variables that the route declares, where a route is known. -/
  declared : Option (List String)

namespace BinderFactory

def defaultOrder : Int := 0

/-- Lower orders are asked first. -/
def order : BinderFactory → Int
  | .path => -100
  | .matrix => -90
  | .query => -80
  | .header => -70
  | .cookie => -60
  | .fixedBody => -50
  | .body => -40
  | .bean => -30
  | .unannotated => 1000
  | .custom order _ _ => order

def supports (p : Param) : BinderFactory → Bool
  | .path => p.annotations.pathVariable?.isSome
  | .matrix => p.annotations.matrixVariable?.isSome
  | .query => p.annotations.requestParam?.isSome
  | .header => p.annotations.requestHeader?.isSome
  | .cookie => p.annotations.cookieValue?.isSome
  | .fixedBody =>
    p.annotations.requestBody?.isSome && (p.inherited? Annotations.requestSerializer?).isSome
  | .body => p.annotations.requestBody?.isSome
  | .bean => p.annotations.hasRequestBean || p.annotations.hasQueryBean
  | .unannotated => p.annotations.isEmpty && Conversion.supports p.ty
  | .custom _ supports _ => supports p

/-- The fault of a factory that is asked for a parameter without its annotation. -/
def missing {α : Type} (p : Param) (what : String) : Except Error α :=
  .error (.config (p.describe ++ " is not a " ++ what))

/-- The conversion for a parameter, or the fault of a source that it cannot be bound from. -/
def conversion (p : Param) (place : String) : Except Error Conversion :=
  match Conversion.of p.ty with
  | .ok c => .ok c
  | .error e => .error (.configuration (.unboundParameter p.describe place e.message))

def namedBinder (p : Param) (v : NamedValue) (source : Source) (place : String) :
    Except Error (Lookup × Binder) := do
  let c ← conversion p place
  let lookup ← Lookup.ofAnnotation v p (some c)
  return (lookup, .named source lookup (some c))

def mapBinder (p : Param) (ty : Ty) (source : EntrySource) : Except Error Binder :=
  (MapConversion.of ty p).map (.entries source)

/-- Path variables: all of them as a map, or one that the route should declare. -/
def bindPath (ctx : BindingContext) (p : Param) : Deploying Binder := do
  match p.annotations.pathVariable? with
  | none => .lift (missing p "path variable")
  | some v =>
    if p.ty.isMap && v.name.isEmpty then .lift (mapBinder p p.ty .path)
    else
      let (lookup, binder) ← .lift (namedBinder p v .path "a path variable")
      if ctx.declared.any fun names => !names.contains lookup.name then
        .report
          { level := .warn
            message := "path variable is not declared by the route pattern"
            fields := [("param", p.describe), ("name", lookup.name)] }
      return binder

/-- Matrix variables of one segment or of all: as a map, or one key.  A segment must be
declared by the route, and a missing key is never a failure. -/
def bindMatrix (ctx : BindingContext) (p : Param) : Except Error Binder := do
  match p.annotations.matrixVariable? with
  | none => missing p "matrix variable"
  | some (v, segment) =>
    let segment := segment.filter (!·.isEmpty)
    match segment, ctx.declared with
    | some name, some names =>
      if !names.contains name then
        throw (.configuration (.undeclaredVariable p.describe name))
    | _, _ => pure ()
    if p.ty.isMap && v.name.isEmpty then mapBinder p p.ty (.matrix segment)
    else
      let c ← conversion p "a matrix variable"
      let lookup ← Lookup.ofAnnotation v p (some c)
      return .named (.matrix segment) { lookup with required := false } (some c)

def bindQuery (p : Param) : Except Error Binder := do
  let v := p.annotations.requestParam?.getD ⟨"", false, none⟩
  if p.ty.isMap then
    if v.name.isEmpty then mapBinder p p.ty .query
    else .error (.configuration (.namedMap p.describe v.name))
  else
    let (_, binder) ← namedBinder p v .query "the query string"
    return binder

/-- Headers: all of them as they are or as a map, or one name. -/
def bindHeader (p : Param) : Except Error Binder := do
  match p.annotations.requestHeader? with
  | none => missing p "header"
  | some v =>
    match p.ty.unwrap with
    | .headers => return .headers
    | ty =>
      if ty.isMap && v.name.isEmpty then mapBinder p ty .header
      else
        let (_, binder) ← namedBinder p v .header "a header"
        return binder

def bindCookie (p : Param) : Except Error Binder := do
  match p.annotations.cookieValue? with
  | none => missing p "cookie"
  | some v =>
    match p.ty.unwrap with
    | .set .cookie => return .cookies true
    | .list .cookie => return .cookies false
    | .array .cookie => return .cookies false
    | .cookie =>
      let lookup ← Lookup.ofAnnotation v p none
      return .named .cookieObject lookup none
    | _ =>
      let (_, binder) ← namedBinder p v .cookie "a cookie"
      return binder

/-- Whether a body must be present. -/
def requiresBody (p : Param) : Bool :=
  p.annotations.requestBody?.getD true && !p.ty.isOptional

/-- A body read by the format that the parameter, its method or its class names. -/
def bindFixedBody (ctx : BindingContext) (p : Param) : Deploying Binder := do
  match p.inherited? Annotations.requestSerializer? with
  | none => throw (.config ("no request serializer on " ++ p.describe))
  | some c =>
    match ctx.formats.instance? c with
    | none => throw (.configuration (.abstractRequestFormat c.name p.describe))
    | some format =>
      .report
        { level := .debug
          message := "fixed request serializer"
          fields := [("param", p.describe), ("serializer", c.name)] }
      return .fixedBody ⟨p.name, p.ty, requiresBody p, format⟩

/-- A body read by the format that its media type asks for. -/
def bindBody (ctx : BindingContext) (p : Param) : Deploying Binder := do
  let options := ctx.options.serialize
  .report
    { level := .debug
      message := "request body resolver"
      fields := [("param", p.describe), ("negotiation", boolText options.negotiation)] }
  return .body ⟨p.name, p.ty, requiresBody p, ctx.formats, options.formatParameter?⟩

/-- Build a binder; `bean` is how a bean parameter is bound. -/
def build (ctx : BindingContext) (p : Param) (bean : Deploying Binder) :
    BinderFactory → Deploying Binder
  | .path => bindPath ctx p
  | .matrix => .lift (bindMatrix ctx p)
  | .query => .lift (bindQuery p)
  | .unannotated => .lift (bindQuery p)
  | .header => .lift (bindHeader p)
  | .cookie => .lift (bindCookie p)
  | .fixedBody => bindFixedBody ctx p
  | .body => bindBody ctx p
  | .bean => bean
  | .custom _ _ build => .lift ((build p).map .custom)

end BinderFactory

namespace Registry

def standard : Registry :=
  [.path, .matrix, .query, .header, .cookie, .fixedBody, .body, .bean, .unannotated]

/-- Add a factory; of equal orders the earlier one is asked first. -/
def register (registry : Registry) (f : BinderFactory) : Registry :=
  stableSort (fun a b => a.order < b.order) (registry ++ [f])

def factory? (registry : Registry) (p : Param) : Option BinderFactory :=
  registry.find? (·.supports p)

def listing (registry : Registry) : String :=
  recordListing "ResolverRegistry" [("factories", toString registry.length)]

end Registry

namespace Binding


def queryField? (p : Param) : Except Error (Option Binder) :=
  if Conversion.supports p.ty then
    let v : NamedValue := ⟨p.annotations.queryName?.getD p.name, false, none⟩
    (BinderFactory.namedBinder p v .query "the query string").map fun (_, binder) => some binder
  else .ok none

def unboundEvent (p : Param) : Event where
  level := .debug
  message := "no argument resolver, passing null"
  fields := [("param", p.describe)]

/-- The report on a field that is left out. -/
def skippedEvent (bean field : String) : Event where
  level := .debug
  message := "field skipped, no resolver"
  fields := [("bean", bean), ("field", field)]

/-- The report on a bound bean. -/
def beanEvent (p : Param) (flavor : BeanFlavor) (b : BeanBinding) : Event where
  level := .debug
  message := "bean resolver"
  fields := [("param", p.describe), ("bean", b.name), ("flavor", flavor.listing),
    ("fields", toString b.fields.length)]

def flavor (p : Param) : BeanFlavor := if p.annotations.hasQueryBean then .query else .request

/-- The kept binding of a bean, or else the one that `build` makes, unless another has been
kept by then. -/
def cached (key : String × BeanFlavor) (build : Deploying BeanBinding) :
    Deploying BeanBinding := do
  match (← get).beans.get? key with
  | some kept => return kept
  | none =>
    let b ← build
    modifyGet fun s =>
      let (kept, beans) := s.beans.keepFirst key b
      (kept, { s with beans := beans })

mutual

/-- Let a factory bind a parameter.  The last argument is the type of the parameter without
some of its optional wrappers. -/
def bindAs (ctx : BindingContext) (f : BinderFactory) (p : Param) : Ty → Deploying Binder
  | .optional t => bindAs ctx f p t
  | .object o => f.build ctx p (bindObject ctx p o)
  | _ => f.build ctx p (throw (.configuration (.notABean p.describe p.ty.name)))

def bindObject (ctx : BindingContext) (p : Param) : ObjectType → Deploying Binder
  | ⟨_, _, _, bean⟩ => bindBean? ctx p bean

def bindBean? (ctx : BindingContext) (p : Param) : Option BeanType → Deploying Binder
  | none => throw (.configuration (.notABean p.describe p.ty.name))
  | some b => bindBean ctx p b

def bindBean (ctx : BindingContext) (p : Param) : BeanType → Deploying Binder
  | ⟨name, initial, fields⟩ => do
    let flavor := flavor p
    let b ← cached (name, flavor) do
      match initial with
      | none => throw (.configuration (.noBeanConstructor name))
      | some initial =>
        let bound ← bindFields ctx name flavor 0 fields
        return ⟨name, initial, bound⟩
    .report (beanEvent p flavor b)
    return .bean b

def bindFields (ctx : BindingContext) (bean : String) (flavor : BeanFlavor) (index : Nat) :
    List BeanField → Deploying (List FieldBinding)
  | [] => return []
  | field :: rest => do
    let bound ← bindField ctx bean flavor index field
    let others ← bindFields ctx bean flavor (index + 1) rest
    return bound.toList ++ others

/-- Bind one field; one that cannot be written, or that nothing binds, is left out. -/
def bindField (ctx : BindingContext) (bean : String) (flavor : BeanFlavor) (index : Nat) :
    BeanField → Deploying (Option FieldBinding)
  | ⟨name, ty, annotations, direct, setter⟩ => do
    match setter <|> direct with
    | none => return none
    | some setter =>
      let p : Param := ⟨name, ty, index, annotations, .bean bean⟩
      let binder ←
        match flavor with
        | .query => Deploying.lift (queryField? p)
        | .request =>
          match ctx.registry.factory? p with
          | none => do
            .report (unboundEvent p)
            pure none
          | some f => (bindAs ctx f p ty).map some
      match binder with
      | none => do
        .report (skippedEvent bean name)
        return none
      | some binder => return some ⟨name, setter, binder⟩

end

def bind (ctx : BindingContext) (p : Param) : Deploying (Option Binder) := do
  match ctx.registry.factory? p with
  | none => do
    .report (unboundEvent p)
    return none
  | some f => return some (← bindAs ctx f p p.ty)

end Binding

end RestDispatch
