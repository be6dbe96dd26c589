import RestDispatch.Proofs.Binding.RequestFault
import RestDispatch.Proofs.Dictionary

/-!
# The order in which a request lists its entries

The maps of path variables and of query parameters list their keys in an order of their own.  A
binder that reads such a map as a whole makes the same value of it in every order.  Only where
entries are refused does the order show, since the entry that is listed first is the one that the
failure speaks of.

Every other built-in binder takes the same from requests of equal content.  Of the binders that an
application brings along this is asked.
-/

namespace RestDispatch

namespace Request

/-- What a request has, apart from the orders in which its maps list it. -/
def content (r : Request) : Request := { r with orders := {} }

/-- A function of requests does not depend on the orders of their maps. -/
def ReadsContent {α : Type} (f : Request → α) : Prop := ∀ r, f r.content = f r

theorem ReadsContent.eq {α : Type} {f : Request → α} (hf : ReadsContent f) {r r' : Request}
    (h : r.content = r'.content) : f r = f r' := by
  rw [← hf r, h, hf r']

/-- The maps of a request have no key twice. -/
structure MapsSorted (r : Request) : Prop where
  path : r.pathVariables.Sorted
  query : r.queryParams.Sorted

end Request

open Request

/-- What a source lists are entries of distinct keys, in whatever order, or always the same. -/
theorem EntrySource.entries_of_content {r r' : Request} (h : r.content = r'.content)
    (hr : r.MapsSorted) (source : EntrySource) :
    entries r source = entries r' source ∨
      (entries r source).Perm (entries r' source) ∧ ((entries r source).map Prod.fst).Nodup := by
  have hpath : r.pathVariables = r'.pathVariables := congrArg (·.pathVariables) h
  have hquery : r.queryParams = r'.queryParams := congrArg (·.queryParams) h
  cases source with
  | path =>
    have hlisted := Dictionary.perm_listed r.pathVariables (r.orders.path 0)
    have hlisted' := Dictionary.perm_listed r'.pathVariables (r'.orders.path 0)
    refine .inr ⟨(hlisted.trans (hpath ▸ hlisted'.symm)).map _, ?_⟩
    have hkeys : (entries r .path).map Prod.fst = r.pathListing.map Prod.fst := List.map_map ..
    exact hkeys ▸ (hlisted.map Prod.fst).nodup_iff.mpr hr.path.nodup
  | query =>
    have hlisted := Dictionary.perm_listed r.queryParams r.orders.query
    have hlisted' := Dictionary.perm_listed r'.queryParams r'.orders.query
    exact .inr ⟨hlisted.trans (hquery ▸ hlisted'.symm),
      (hlisted.map Prod.fst).nodup_iff.mpr hr.query.nodup⟩
  | header =>
    have hheaders : r.headers = r'.headers := congrArg (·.headers) h
    exact .inl (by rw [entries, entries, hheaders])
  | matrix segment =>
    have hmatrix : r.matrix = r'.matrix := congrArg (·.matrix) h
    exact .inl (by rw [entries, entries, hmatrix])

namespace MapConversion

variable {m : MapConversion} {entries entries' : List (String × List String)}

/-- What the values of a key give, if anything. -/
def given (m : MapConversion) (values : List String) : Except Error (Option Value) :=
  if m.multiple then (m.conversion.convertAll values).map some
  else
    match values with
    | [] => .ok none
    | first :: _ => (m.conversion.convert first).map some

/-- What an entry adds to a map that does not have its key. -/
def added (m : MapConversion) (entry : String × List String) :
    Except Error (Option (String × Value)) :=
  (m.given entry.2).map (Option.map (Prod.mk entry.1))

theorem addEntry_of_fresh {map : Dictionary Value} {entry : String × List String}
    (hfresh : map.get? entry.1 = none) :
    m.addEntry map entry = (m.added entry).map fun pair? =>
      pair?.toList.foldl (fun d p => Dictionary.insert d p.1 p.2) map := by
  obtain ⟨name, values⟩ := entry
  have hnew : map.contains name = false := by rw [Dictionary.contains, hfresh, Option.isSome_none]
  cases hmultiple : m.multiple with
  | true =>
    cases hv : m.conversion.convertAll values <;>
      simp [addEntry, added, given, hmultiple, hv, Except.map]
  | false =>
    cases values with
    | nil => simp [addEntry, added, given, hmultiple, hnew, Except.map]
    | cons text others =>
      cases hv : m.conversion.convert text <;>
        simp [addEntry, added, given, hmultiple, hnew, hv, Except.map]

theorem fst_of_added {entry : String × List String} {pair : String × Value}
    (h : m.added entry = .ok (some pair)) : pair.1 = entry.1 := by
  have hgiven : ReturnsOnly (fun pair? => ∀ p, pair? = some p → p.1 = entry.1) (m.added entry) := by
    refine ReturnsOnly.map (Q := fun _ => True) (fun _ _ => trivial) fun v? _ p hp => ?_
    obtain ⟨v, -, rfl⟩ := Option.map_eq_some_iff.mp hp
    rfl
  exact hgiven _ h pair rfl

/-- Entries of distinct keys are added one by one, whatever the others add. -/
theorem foldlM_addEntry (hentries : (entries.map Prod.fst).Nodup) {map : Dictionary Value}
    (hfresh : ∀ entry ∈ entries, map.get? entry.1 = none) :
    entries.foldlM m.addEntry map = (entries.mapM m.added).map fun pairs =>
      (pairs.filterMap id).foldl (fun d p => Dictionary.insert d p.1 p.2) map := by
  induction entries generalizing map with
  | nil => rfl
  | cons entry entries ih =>
    rw [List.map_cons, List.nodup_cons] at hentries
    obtain ⟨hentry, hrest⟩ := List.forall_mem_cons.mp hfresh
    rw [List.foldlM_cons, List.mapM_cons, addEntry_of_fresh hentry]
    cases hadded : m.added entry with
    | error e => rfl
    | ok pair? =>
      have hstill : ∀ other ∈ entries,
          (pair?.toList.foldl (fun d p => Dictionary.insert d p.1 p.2) map).get? other.1 =
            none := by
        intro other hother
        cases pair? with
        | none => exact hrest other hother
        | some pair =>
          have hne : other.1 ≠ pair.1 := by
            rw [fst_of_added hadded]
            exact fun heq => hentries.1 (List.mem_map.mpr ⟨other, hother, heq⟩)
          exact (Dictionary.get?_modify_ne hne _ map).trans (hrest other hother)
      refine (ih hentries.2 hstill).trans ?_
      cases entries.mapM m.added with
      | error e => rfl
      | ok pairs => cases pair? <;> rfl

theorem build_eq (hentries : (entries.map Prod.fst).Nodup) :
    m.build entries = (entries.mapM m.added).map fun pairs =>
      .map (Dictionary.ofPairs (pairs.filterMap id)) := by
  rw [build, foldlM_addEntry hentries fun _ _ => rfl]
  cases entries.mapM m.added <;> rfl

/-- An entry is refused, which is a failure of the whole map. -/
def Refuses (m : MapConversion) (entries : List (String × List String)) (e : Error) : Prop :=
  ∃ entry ∈ entries, m.added entry = .error e

theorem nodup_added (hentries : (entries.map Prod.fst).Nodup)
    {pairs : List (Option (String × Value))} (h : entries.mapM m.added = .ok pairs) :
    ((pairs.filterMap id).map Prod.fst).Nodup := by
  rw [eq_filterMap_of_mapM_eq_ok h, List.filterMap_filterMap]
  rw [List.Nodup, List.pairwise_map] at hentries ⊢
  have hkey : ∀ entry pair, ((m.added entry).toOption.bind id = some pair) → pair.1 = entry.1 := by
    intro entry pair hpair
    obtain ⟨pair?, hadded, rfl⟩ := Option.bind_eq_some_iff.mp hpair
    exact fst_of_added (toOption_eq_some_iff.mp hadded)
  refine hentries.filterMap _ fun a b hne p hp q hq => ?_
  rw [hkey a p hp, hkey b q hq]
  exact hne

/-- Entries of distinct keys make the same map in every order, or are refused in every order,
each time for one of them. -/
theorem build_perm (h : entries.Perm entries') (hentries : (entries.map Prod.fst).Nodup) :
    AgreesUpTo (fun e e' => m.Refuses entries e ∧ m.Refuses entries e')
      (m.build entries) (m.build entries') := by
  rw [build_eq hentries, build_eq ((h.map Prod.fst).nodup_iff.mp hentries)]
  have hall : (∃ pairs, entries.mapM m.added = .ok pairs) ↔
      ∃ pairs, entries'.mapM m.added = .ok pairs := by
    simp only [exists_mapM_eq_ok_iff, h.mem_iff]
  cases hleft : entries.mapM m.added with
  | ok pairs =>
    obtain ⟨pairs', hright⟩ := hall.mp ⟨pairs, hleft⟩
    have hpairs : (pairs.filterMap id).Perm (pairs'.filterMap id) := by
      rw [eq_filterMap_of_mapM_eq_ok hleft, eq_filterMap_of_mapM_eq_ok hright]
      exact (h.filterMap _).filterMap _
    rw [hright, Except.map, Except.map,
      Dictionary.ofPairs_perm hpairs (nodup_added hentries hleft)]
    exact agreesUpTo_refl _
  | error e =>
    cases hright : entries'.mapM m.added with
    | ok pairs' =>
      obtain ⟨pairs, hok⟩ := hall.mpr ⟨pairs', hright⟩
      cases hleft.symm.trans hok
    | error e' =>
      obtain ⟨entry, hentry, he⟩ := exists_of_mapM_eq_error hleft
      obtain ⟨entry', hentry', he'⟩ := exists_of_mapM_eq_error hright
      exact .inr ⟨e, e', rfl, rfl, ⟨entry, hentry, he⟩, entry', h.mem_iff.mpr hentry', he'⟩

end MapConversion

namespace Binder

/-- A binder is another one, or binds a field in it, at whatever depth. -/
inductive Holds (part : Binder) : Binder → Prop
  | self : Holds part part
  | field {b : BeanBinding} {f : FieldBinding} : f ∈ b.fields → Holds part f.binder →
      Holds part (.bean b)

/-- What the application brought along for a binder does not depend on orders. -/
def ReadsContent (b : Binder) : Prop := ∀ f, Holds (.custom f) b → Request.ReadsContent f

/-- A binder reads a source as a map of which two entries are refused. -/
def RefusesEither (b : Binder) (r : Request) (e e' : Error) : Prop :=
  ∃ source m, Holds (.entries source m) b ∧ m.Refuses (source.entries r) e ∧
    m.Refuses (source.entries r) e'

theorem RefusesEither.field {b : BeanBinding} {f : FieldBinding} {r : Request} {e e' : Error}
    (hf : f ∈ b.fields) (h : f.binder.RefusesEither r e e') : (bean b).RefusesEither r e e' := by
  obtain ⟨source, m, hholds, hrefuses⟩ := h
  exact ⟨source, m, .field hf hholds, hrefuses⟩

theorem agreesUpTo_entries {r r' : Request} (hcontent : r.content = r'.content)
    (hr : r.MapsSorted) (source : EntrySource) (m : MapConversion) :
    AgreesUpTo ((entries source m).RefusesEither r) ((entries source m).resolve r)
      ((entries source m).resolve r') := by
  rw [resolve, resolve]
  rcases EntrySource.entries_of_content hcontent hr source with hsame | ⟨hperm, hkeys⟩
  · rw [hsame]
    exact agreesUpTo_refl _
  · exact (MapConversion.build_perm hperm hkeys).imp fun e e' h => ⟨source, m, .self, h⟩

/-- What the remaining built-in binders read has no order. -/
theorem readsContent_named (source : Source) (l : Lookup) (c : Option Conversion) :
    Request.ReadsContent (resolve · (named source l c)) := by
  intro r
  cases source <;> rfl

theorem readsContent_cookies (distinct : Bool) :
    Request.ReadsContent (resolve · (cookies distinct)) := by
  intro r
  cases distinct <;> rfl

theorem readsContent_headers : Request.ReadsContent (resolve · headers) := fun _ => rfl

theorem readsContent_body (b : BodyBinding) : Request.ReadsContent (resolve · (body b)) :=
  fun _ => rfl

theorem readsContent_fixedBody (b : FixedBodyBinding) :
    Request.ReadsContent (resolve · (fixedBody b)) := fun _ => rfl

end Binder

mutual

/-- From requests of equal content a binder takes the same, unless a map is refused for either of
two entries. -/
theorem Binder.agreesUpTo_resolve {r r' : Request} (hcontent : r.content = r'.content)
    (hr : r.MapsSorted) : (b : Binder) → b.ReadsContent →
    AgreesUpTo (b.RefusesEither r) (b.resolve r) (b.resolve r')
  | .named source l c, _ => .inl ((Binder.readsContent_named source l c).eq hcontent)
  | .entries source m, _ => Binder.agreesUpTo_entries hcontent hr source m
  | .headers, _ => .inl (Binder.readsContent_headers.eq hcontent)
  | .cookies distinct, _ => .inl ((Binder.readsContent_cookies distinct).eq hcontent)
  | .body b, _ => .inl ((Binder.readsContent_body b).eq hcontent)
  | .fixedBody b, _ => .inl ((Binder.readsContent_fixedBody b).eq hcontent)
  | .bean b, hb => by
    rw [Binder.resolve, Binder.resolve]
    exact BeanBinding.agreesUpTo_instantiate hcontent hr b hb
  | .custom f, hf => by
    rw [Binder.resolve, Binder.resolve]
    exact .inl ((hf f .self).eq hcontent)

theorem BeanBinding.agreesUpTo_instantiate {r r' : Request} (hcontent : r.content = r'.content)
    (hr : r.MapsSorted) : (b : BeanBinding) → (Binder.bean b).ReadsContent →
    AgreesUpTo ((Binder.bean b).RefusesEither r) (b.instantiate r) (b.instantiate r')
  | ⟨name, initial, fields⟩, hb => by
    have hfields : ∀ f ∈ fields, f.binder.ReadsContent := fun f hf g hg => hb g (.field hf hg)
    have hfilled := agreesUpTo_fillFields hcontent hr fields hfields initial
    rw [BeanBinding.instantiate, BeanBinding.instantiate]
    refine (hfilled.map (Value.object name)).imp ?_
    rintro e e' ⟨f, hf, hrefuses⟩
    exact hrefuses.field hf

/-- Fields are filled one after the other, and a failure ends it, so only one can differ. -/
theorem agreesUpTo_fillFields {r r' : Request} (hcontent : r.content = r'.content)
    (hr : r.MapsSorted) : (fields : List FieldBinding) →
    (∀ f ∈ fields, f.binder.ReadsContent) → (filled : Fields) →
    AgreesUpTo (fun e e' => ∃ f ∈ fields, f.binder.RefusesEither r e e')
      (fillFields r fields filled) (fillFields r' fields filled)
  | [], _, _ => agreesUpTo_refl _
  | field :: rest, hfields, filled => by
    obtain ⟨hfield, hrest⟩ := List.forall_mem_cons.mp hfields
    have hfirst : AgreesUpTo (fun e e' => ∃ f ∈ field :: rest, f.binder.RefusesEither r e e')
        (fillField r field filled) (fillField r' field filled) :=
      (agreesUpTo_fillField hcontent hr field hfield filled).imp
        fun e e' hrefuses => ⟨field, List.mem_cons_self, hrefuses⟩
    rw [fillFields, fillFields]
    refine hfirst.bind fun filled => ?_
    refine (agreesUpTo_fillFields hcontent hr rest hrest filled).imp ?_
    rintro e e' ⟨f, hf, hrefuses⟩
    exact ⟨f, List.mem_cons_of_mem field hf, hrefuses⟩

theorem agreesUpTo_fillField {r r' : Request} (hcontent : r.content = r'.content)
    (hr : r.MapsSorted) : (f : FieldBinding) → f.binder.ReadsContent → (filled : Fields) →
    AgreesUpTo (f.binder.RefusesEither r) (fillField r f filled) (fillField r' f filled)
  | ⟨name, setter, binder⟩, hf, filled => by
    rw [fillField, fillField]
    rcases Binder.agreesUpTo_resolve hcontent hr binder hf with hsame | ⟨e, e', he, he', hrefuses⟩
    · rw [hsame]
      exact agreesUpTo_refl _
    · rw [he, he']
      exact .inr ⟨e, e', rfl, rfl, hrefuses⟩

end

end RestDispatch
