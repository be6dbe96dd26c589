import RestDispatch.Proofs.Dictionary
import RestDispatch.Proofs.Dispatch.History
import RestDispatch.Proofs.Media.Preference
import RestDispatch.Proofs.Handler.Writing
import RestDispatch.Proofs.Route.TableOrder

/-!
# Negotiated answers

A result that is negotiated is written as the first candidate that some format can write.
Every candidate is a type that the client accepts: a declared type that was rated when the route
took the request, or an entry of the `Accept` header.  A single type is sent as it is, so what
is sent is accepted.

A range is not sent but gives way to the type of the format that writes it, which is JSON as
no other format is selected by a range.  Nothing asks the header about that type again.  A range
of the header covers JSON unless it was taken for its suffix, and a declared range may have been
accepted for some other type that it covers.
-/

namespace RestDispatch

theorem Headers.get?_insert (h : Headers) (name value : String) :
    (h.insert name value).get? name = some value := by
  rw [get?, getAll_insert, List.head?_cons]

namespace RouteCondition

theorem returnsOnly_readMediaType (s : String) :
    ReturnsOnly MediaType.Normal (readMediaType s) := by
  unfold readMediaType
  split
  next hparse => exact returnsOnly_ok (MediaType.normal_of_parse hparse)
  next => exact returnsOnly_error _

/-- The declared types of a condition are in normal form, as they were read. -/
theorem returnsOnly_build (spec : RouteSpec) :
    ReturnsOnly (fun c : RouteCondition => ∀ m ∈ c.produces, m.Normal) (build spec) := by
  unfold build
  extract_lets rest
  have hrest (u : PUnit) :
      ReturnsOnly (fun c : RouteCondition => ∀ m ∈ c.produces, m.Normal) (rest u) := by
    refine ReturnsOnly.of_bind fun patterns => ReturnsOnly.of_bind fun consumes => ?_
    refine (returnsOnly_mapM fun s _ => returnsOnly_readMediaType s).bind
      fun produces hproduces => ?_
    exact ReturnsOnly.of_bind fun _ => ReturnsOnly.of_bind fun _ => returnsOnly_ok hproduces
  split
  · exact ReturnsOnly.of_bind hrest
  · exact hrest PUnit.unit

end RouteCondition

namespace MediaType

/-- Only the two types of messages are taken for messages. -/
theorem isRange_of_isProtobuf {m : MediaType} (h : m.isProtobuf = true) : m.isRange = false := by
  rw [isProtobuf, Bool.and_eq_true, Bool.or_eq_true, beq_iff_eq, beq_iff_eq, beq_iff_eq] at h
  obtain ⟨hmain, hsub⟩ := h
  rw [isRange, isAnyType, isAnySubtype, hmain]
  rcases hsub with hsub | hsub
  · rw [hsub]
    decide
  · rw [hsub]
    decide

/-- A range that JSON is written for without being covered is one of subtypes with a suffix. -/
theorem suffix_of_isJson {m : MediaType} (hrange : m.isRange = true)
    (hjson : m.isJson = true) (hnot : m.isCompatibleWith .json = false) :
    m.isAnySubtype = true ∧ m.suffix = some "json" := by
  rw [isJson, hnot, Bool.false_or, beq_iff_eq] at hjson
  rcases Bool.or_eq_true_iff.mp hrange with hany | hsub
  · rw [(isCompatibleWith_iff m .json).mpr (.inl (.inl hany))] at hnot
    exact Bool.noConfusion hnot
  · exact ⟨hsub, hjson⟩

end MediaType

/-- The types that a route found are those that its handler sees. -/
theorem Request.mediaTypes?_bindRoute (r : Request) (found : RouteMatch) :
    (r.bindRoute found).attributes.mediaTypes? Attributes.compatibleTypes =
      if found.produces = [] then none else some found.produces := by
  unfold Attributes.mediaTypes? bindRoute
  by_cases h : found.produces = []
  · simp only [h, List.isEmpty_nil, if_true, Dictionary.get?_erase_self]
  · simp only [h, List.isEmpty_eq_false_iff.mpr h, Bool.false_eq_true, if_false,
      Dictionary.get?_insert_self]

/-- A range that JSON may be written for although the client accepts it for some other type only:
a declared range, or one that the client asks for by its suffix where nothing is declared. -/
inductive Accept.GivesWay (a : Accept) (declared : List MediaType) : MediaType → Prop
  | declared {m : MediaType} : m ∈ declared → m.isRange = true → m.isJson = true →
      a.accepts m = true → GivesWay a declared m
  | suffix {e : MediaRange} : declared = [] → e ∈ a.entries →
      Binary.zero.lt e.quality = true → e.type.isAnySubtype = true →
      e.type.suffix = some "json" → GivesWay a declared e.type

namespace ResultWriter

variable {σ : Type} {x y : Exchange σ} {r : Request} {ty : Ty} {v : Value}

theorem contentType_of_sendFormatted {f : BodyFormat} {m : MediaType}
    (hrun : (sendFormatted f m ty v).runOn x = (.ok (), y)) :
    y.response.headers.get? "Content-Type" = some m.header := by
  rw [sendFormatted, Handling.runOn_bind, Handling.runOn_withHeaders] at hrun
  rcases hwrite : f.write m ty v x.response.headers with ⟨e | bs, headers⟩
  · rw [hwrite] at hrun
    cases hrun
  · rw [hwrite] at hrun
    dsimp only at hrun
    split at hrun
    next =>
      rw [Handling.runOn_bind, Handling.runOn_respond] at hrun
      rw [Handling.headers_of_tryRespond (fun _ _ => Response.headers_of_commit) hrun]
      exact Headers.get?_insert _ _ _
    next =>
      rw [sendAs, Handling.runOn_bind, Handling.runOn_respond] at hrun
      rw [Handling.headers_of_tryRespond (fun _ _ => Response.headers_of_send) hrun]
      exact Headers.get?_insert _ _ _

/-- A negotiated result that is written is of a candidate that some format can write. -/
theorem contentType_of_write {formats : FormatTable} {parameter? : Option String}
    (hv : v.isNull = false)
    (hrun : ((negotiated ty formats parameter?).write v r).runOn x = (.ok (), y)) :
    ∃ m ∈ candidates parameter? r, ∃ f ∈ formats.writers, f.canWrite m ty = true ∧
      y.response.headers.get? "Content-Type" = some (writtenType f m).header := by
  unfold write at hrun
  simp only [hv, Bool.false_eq_true, if_false] at hrun
  split at hrun
  next m f hchoice =>
    obtain ⟨hmem, hf, hcan⟩ := choose?_eq_some hchoice
    rw [Handling.runOn_bind, Handling.runOn_report] at hrun
    exact ⟨m, hmem, f, hf, hcan, contentType_of_sendFormatted hrun⟩
  next => cases hrun

/-- Of the formats of the library only JSON writes for a range. -/
theorem writtenType_standard {f : BodyFormat} (hf : f ∈ FormatTable.standard.writers)
    {m : MediaType} (hcan : f.canWrite m ty = true) :
    m.isRange = false ∧ writtenType f m = m ∨
      m.isRange = true ∧ m.isJson = true ∧ writtenType f m = .json := by
  unfold writtenType
  cases hrange : m.isRange with
  | false => exact .inl ⟨rfl, rfl⟩
  | true =>
    refine .inr ⟨rfl, ?_⟩
    obtain rfl | rfl : f = .json false ∨ f = .protobuf := by
      simpa [FormatTable.standard, FormatTable.register, FormatTable.empty] using hf
    · exact ⟨(Bool.and_eq_true_iff.mp hcan).1, rfl⟩
    · have hnot := MediaType.isRange_of_isProtobuf (Bool.and_eq_true_iff.mp hcan).1
      rw [hrange] at hnot
      exact Bool.noConfusion hnot

end ResultWriter

namespace Deployment

variable {σ : Type}

/-- The results of a handler are negotiated, without a parameter that names a format and among
the formats of the library. -/
structure Negotiates (d : Deployment σ) (h : Declaration σ) (ty : Ty) : Prop where
  formats : d.formats = .standard
  parameter? : d.options.serialize.formatParameter? = none
  returns : h.returns = some ty
  fixedFormat? : ResultWriter.fixedFormat? h.method = none
  isScalar : ty.isScalar = false
  isBytes : ty.isBytes = false

theorem Negotiates.writer {d : Deployment σ} {h : Declaration σ} {ty : Ty}
    (hd : d.Negotiates h ty) {route : Route (RouteHandler σ)} (hbuilds : d.Builds h route) :
    route.handler.writer = .negotiated ty .standard none := by
  have hwriter := hbuilds.writer
  simp only [ResultWriter.of, hd.returns, hd.fixedFormat?, hd.isScalar, hd.isBytes,
    hd.formats, hd.parameter?, Bool.or_self, Bool.false_eq_true, if_false,
    Except.ok.injEq] at hwriter
  exact hwriter.symm

theorem Builds.normal_produces {d : Deployment σ} {h : Declaration σ}
    {route : Route (RouteHandler σ)} (hbuilds : d.Builds h route) :
    ∀ m ∈ route.condition.produces, m.Normal := by
  have hcondition := hbuilds.condition
  unfold Deployment.condition at hcondition
  split at hcondition
  next hbuild =>
    cases hcondition
    exact RouteCondition.returnsOnly_build h.route _ hbuild
  next => cases hcondition

end Deployment

/-- The candidates of a request that a route took are in normal form and accepted, and they are
the declared types that were rated or else the entries of the header. -/
theorem ResultWriter.candidate_accepted {c : RouteCondition} (hnormal : ∀ m ∈ c.produces, m.Normal)
    {r : Request} {matrix : Bool} {found : RouteMatch} (hfound : c.evaluate r matrix = .ok found)
    {header : String} (hheader : r.header? "Accept" = some header)
    (hrated : c.produces = [] → (Accept.parse header).Rated) {m : MediaType}
    (hm : m ∈ candidates none (r.bindRoute found)) :
    m.Normal ∧ (Accept.parse header).accepts m = true ∧
      (m ∈ c.produces ∨ c.produces = [] ∧ ∃ e ∈ (Accept.parse header).entries,
        Binary.zero.lt e.quality = true ∧ e.type = m) := by
  have hproduces := (RouteCondition.evaluate_eq_ok_iff.mp hfound).2.2.2.2.2
  obtain ⟨hsome, htypes⟩ := RouteCondition.compatible?_eq_some hproduces
  have hbound : (r.bindRoute found).header? "Accept" = some header := hheader
  simp only [candidates, r.mediaTypes?_bindRoute found, hbound, Option.bind_none,
    Option.toList_none, List.nil_append] at hm
  by_cases hempty : found.produces = []
  · rw [if_pos hempty] at hm
    have hdeclared : c.produces = [] := Decidable.byContradiction fun hne => hsome hne hempty
    obtain ⟨e, he, rfl⟩ := List.mem_map.mp hm
    obtain ⟨he, hquality⟩ := List.mem_filter.mp he
    refine ⟨Accept.normal_of_mem he, ?_, .inr ⟨hdeclared, e, he, hquality, rfl⟩⟩
    exact (hrated hdeclared).accepts_of_mem he hquality e.type.isCompatibleWith_self
  · rw [if_neg hempty] at hm
    have hm : m ∈ found.produces := by
      rcases hcases : found.produces with _ | ⟨first, rest⟩
      · exact absurd hcases hempty
      · rw [hcases] at hm
        exact hm
    obtain ⟨hdeclared, haccepted⟩ := htypes m hm
    exact ⟨hnormal m hdeclared, haccepted header hheader, .inl hdeclared⟩

namespace Deployment

variable {σ : Type}

/-- What is sent for a negotiated result is accepted by the client, or it is JSON in place of a
range that the client accepts. -/
theorem negotiated_accepted {d : Deployment σ} {h : Declaration σ}
    {route : Route (RouteHandler σ)} (hbuilds : d.Builds h route) {ty : Ty}
    (hd : d.Negotiates h ty) {table : RouteTable (RouteHandler σ)} {r : Request}
    {found : RouteMatch} (hfind : table.find r = .ok (route, found)) {header : String}
    (hheader : r.header? "Accept" = some header)
    (hrated : route.condition.produces = [] → (Accept.parse header).Rated) {v : Value}
    (hv : v.isNull = false) {x y : Exchange σ} (hx : x.response.committed = false)
    (hrun : (route.handler.writeResult (r.bindRoute found) v).runOn x = (.ok (), y)) :
    ∃ text m, y.response.headers.get? "Content-Type" = some text ∧
      MediaType.parse text = some m ∧
      ((Accept.parse header).accepts m = true ∨ text = "application/json" ∧
        ∃ range, (Accept.parse header).GivesWay route.condition.produces range) := by
  obtain ⟨z, hwrite⟩ := route.handler.exists_write_of_writeResult hx hrun
  rw [hd.writer hbuilds] at hwrite
  obtain ⟨m, hm, f, hf, hcan, hsent⟩ := ResultWriter.contentType_of_write hv hwrite
  have hfound := (RouteTable.search_eq_ok (RouteTable.search_of_find hfind)).1
  obtain ⟨hnormal, haccepted, hsource⟩ :=
    ResultWriter.candidate_accepted hbuilds.normal_produces hfound hheader hrated hm
  rcases ResultWriter.writtenType_standard hf hcan with ⟨-, htype⟩ | ⟨hrange, hjson, htype⟩
  · rw [htype] at hsent
    obtain ⟨m', hparse, hmain, hsub⟩ := hnormal.exists_parse_header
    refine ⟨_, m', hsent, hparse, .inl ?_⟩
    rw [Accept.accepts_congr _ hmain hsub, haccepted]
  · rw [htype] at hsent
    have hparse : MediaType.parse MediaType.json.header = some .json := by decide
    refine ⟨_, .json, hsent, hparse, ?_⟩
    rcases hsource with hdeclared | ⟨hnone, e, he, hquality, rfl⟩
    · exact .inr ⟨by decide, m, .declared hdeclared hrange hjson haccepted⟩
    · cases hcompatible : e.type.isCompatibleWith .json with
      | true => exact .inl ((hrated hnone).accepts_of_mem he hquality hcompatible)
      | false =>
        obtain ⟨hany, hsuffix⟩ := MediaType.suffix_of_isJson hrange hjson hcompatible
        exact .inr ⟨by decide, e.type, .suffix hnone he hquality hany hsuffix⟩

/-- List some numbers. -/
def listNumbers : Declaration Unit where
  method := { name := "list", declaring := { name := "Numbers" } }
  route := { paths := ["/numbers"], methods := [.get] }
  returns := some (.list (.integer .i32))
  invoker := some fun _ => pure (.value (.list [.int 1]))

def numbered : Deployment Unit := ((ofOptions {}).deploy listNumbers).deployment

def asking (header : String) : Request :=
  (Request.ofUri .get "/numbers").addHeader "Accept" header

theorem negotiates_listNumbers :
    (ofOptions {} : Deployment Unit).Negotiates listNumbers (.list (.integer .i32)) :=
  ⟨rfl, rfl, rfl, rfl, rfl, rfl⟩

theorem builds_of_find {h : Declaration σ} {r : Request} {route : Route (RouteHandler σ)}
    {found : RouteMatch} {options : Options}
    (hfind : ((ofOptions options).deploy h).deployment.router.table.find r = .ok (route, found)) :
    (ofOptions options).Builds h route := by
  obtain ⟨-, before, behind, hsplit, -⟩ :=
    RouteTable.search_eq_ok (RouteTable.search_of_find hfind)
  have hmem : route ∈ ((ofOptions options).deploy h).deployment.router.table.routes :=
    hsplit ▸ List.mem_append_right before List.mem_cons_self
  rcases mem_deploy hmem with hempty | ⟨s, hbuilt⟩
  · exact absurd hempty List.not_mem_nil
  · exact yields_buildRoute_builds _ h _ s route hbuilt

/-- What the route of a request sends for a value, in an exchange of its own. -/
def sent? (d : Deployment Unit) (r : Request) (v : Value) : Option String :=
  match d.router.table.find r with
  | .error _ => none
  | .ok (route, found) =>
    match (route.handler.writeResult (r.bindRoute found) v).runOn { shared := () } with
    | (.ok (), y) => y.response.headers.get? "Content-Type"
    | (.error _, _) => none

theorem exists_of_sent? {d : Deployment Unit} {r : Request} {v : Value} {text : String}
    (h : d.sent? r v = some text) :
    ∃ route found y, d.router.table.find r = .ok (route, found) ∧
      (route.handler.writeResult (r.bindRoute found) v).runOn { shared := () } = (.ok (), y) ∧
        y.response.headers.get? "Content-Type" = some text := by
  unfold sent? at h
  split at h
  next => cases h
  next route found hfind =>
    split at h
    next y hrun => exact ⟨route, found, y, hfind, hrun, h⟩
    next => cases h

/-- A page if there is one, else application data of any kind. -/
def pageOrData : String := "text/html, application/*;q=0.5"

theorem negotiated_accepted_second_choice :
    ∃ route found y, numbered.router.table.find (asking pageOrData) = .ok (route, found) ∧
      (route.handler.writeResult ((asking pageOrData).bindRoute found) (.list [.int 1])).runOn
          { shared := () } = (.ok (), y) ∧
        ∃ text m, y.response.headers.get? "Content-Type" = some text ∧
          MediaType.parse text = some m ∧ ((Accept.parse pageOrData).accepts m = true ∨
            text = "application/json" ∧
              ∃ range, (Accept.parse pageOrData).GivesWay route.condition.produces range) := by
  have hsent : numbered.sent? (asking pageOrData) (.list [.int 1]) = some "application/json" := by
    decide +kernel
  obtain ⟨route, found, y, hfind, hrun, -⟩ := exists_of_sent? hsent
  have hrated : (Accept.parse pageOrData).Rated := by decide +kernel
  exact ⟨route, found, y, hfind, hrun,
    negotiated_accepted (builds_of_find hfind) negotiates_listNumbers hfind rfl
      (fun _ => hrated) rfl rfl hrun⟩

/-- A client that asks for the suffix alone is sent what it does not accept. -/
theorem suffix_gives_way :
    ¬ ∀ (d : Deployment Unit) (h : Declaration Unit) (route : Route (RouteHandler Unit)) (ty : Ty),
      d.Builds h route → d.Negotiates h ty →
        ∀ (table : RouteTable (RouteHandler Unit)) (r : Request) (found : RouteMatch),
          table.find r = .ok (route, found) →
            ∀ header, r.header? "Accept" = some header → ∀ v : Value, v.isNull = false →
              ∀ x y : Exchange Unit, x.response.committed = false →
                (route.handler.writeResult (r.bindRoute found) v).runOn x = (.ok (), y) →
                  ∃ text m, y.response.headers.get? "Content-Type" = some text ∧
                    MediaType.parse text = some m ∧ (Accept.parse header).accepts m = true := by
  intro haccepted
  have hsent : numbered.sent? (asking "application/*+json") (.list [.int 1]) =
      some "application/json" := by
    decide +kernel
  obtain ⟨route, found, y, hfind, hrun, htext⟩ := exists_of_sent? hsent
  obtain ⟨text, m, htext', hparse, haccepts⟩ := haccepted _ _ route _ (builds_of_find hfind)
    negotiates_listNumbers _ _ found hfind _ rfl _ rfl _ y rfl hrun
  obtain rfl : "application/json" = text := Option.some.inj (htext.symm.trans htext')
  obtain rfl : .json = m := Option.some.inj ((by decide : _ = some MediaType.json).symm.trans hparse)
  exact absurd haccepts (by decide +kernel)

end Deployment

end RestDispatch
