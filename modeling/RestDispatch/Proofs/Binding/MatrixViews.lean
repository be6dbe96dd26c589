import RestDispatch.Proofs.Http.MatrixVariables
import RestDispatch.Proofs.Binding.RequiredValue

/-!
# Views of the matrix variables

A parameter takes a matrix variable by its key, from one segment or from whichever has it, or it
takes all of them as a map, with the first value of each key or with all of them.  The views are
read off the same segments in different ways, and here they are shown to agree.

Where one segment has the key, taking it from that segment or from any is the same; where several
do, a parameter that does not say which one is refused, and those that do are not affected.  A map
has the keys of all segments, and its value for a key comes from what all segments have under it,
in path order.
-/

namespace RestDispatch

namespace Source

variable {m : MatrixVariables} {key segment : String}

theorem map_fst_matrixHits (m : MatrixVariables) (key : String) :
    (matrixHits m key).map Prod.fst = m.holders key := by
  obtain ⟨segments⟩ := m
  induction segments with
  | nil => rfl
  | cons entry segments ih =>
    rw [MatrixVariables.holders_cons, ← ih, Dictionary.contains]
    cases hget : entry.2.get? key <;> simp [matrixHits, hget]

theorem flatMap_snd_matrixHits (m : MatrixVariables) (key : String) :
    (matrixHits m key).flatMap Prod.snd = m.gathered key := by
  obtain ⟨segments⟩ := m
  induction segments with
  | nil => rfl
  | cons entry segments ih =>
    rw [MatrixVariables.gathered_cons, ← ih]
    cases hget : entry.2.get? key <;> simp [matrixHits, hget]

/-- What is found under a key is what the segment of that name has. -/
theorem eq_values_of_mem_matrixHits (hm : m.Grouped) {values : List String}
    (hmem : (segment, values) ∈ matrixHits m key) : values = m.values segment key := by
  obtain ⟨⟨name, keys⟩, hkeys, hvalues⟩ := List.mem_filterMap.mp hmem
  obtain ⟨found, hfound, heq⟩ := Option.map_eq_some_iff.mp hvalues
  obtain ⟨rfl, rfl⟩ := Prod.mk.inj heq
  rw [MatrixVariables.values_of_mem hm.nodup hkeys, hfound, Option.getD_some]

/-- A key that one segment has is found there alone. -/
theorem matrixHits_of_holders (hm : m.Grouped) (hsole : m.holders key = [segment]) :
    matrixHits m key = [(segment, m.values segment key)] := by
  rw [← map_fst_matrixHits, List.map_eq_singleton_iff] at hsole
  obtain ⟨⟨name, values⟩, hhits, rfl⟩ := hsole
  have hvalues := eq_values_of_mem_matrixHits hm (hhits ▸ List.mem_singleton_self _)
  rw [hhits, hvalues]

theorem gathered_of_holders (hm : m.Grouped) (hsole : m.holders key = [segment]) :
    m.gathered key = m.values segment key := by
  rw [← flatMap_snd_matrixHits, matrixHits_of_holders hm hsole]
  exact List.append_nil _

end Source

/-! ### The segments as one map -/

namespace EntrySource

open MatrixVariables

variable {key : String} {d : Dictionary (List String)}

theorem sorted_addSegment (hd : Dictionary.Sorted d) (segment : MatrixSegment) :
    Dictionary.Sorted (addSegment d segment) := by
  induction segment generalizing d with
  | nil => exact hd
  | cons pair segment ih => exact ih (hd.modify _ _)

/-- A segment puts its values of a key behind those that are there. -/
theorem get?_addSegment (hd : Dictionary.Sorted d) {segment : MatrixSegment}
    (hsegment : Dictionary.Sorted segment) (key : String) :
    (addSegment d segment).get? key =
      if segment.contains key then some ((d.get? key).getD [] ++ (segment.get? key).getD [])
      else d.get? key := by
  induction segment generalizing d with
  | nil => rfl
  | cons pair segment ih =>
    obtain ⟨k, values⟩ := pair
    have hstep : addSegment d ((k, values) :: segment) =
        addSegment (d.modify k fun old => old.getD [] ++ values) segment := rfl
    rw [hstep, ih (hd.modify _ _) hsegment.of_cons]
    unfold Dictionary.contains
    rw [Dictionary.get?_cons]
    by_cases hkey : key = k
    · -- The keys of a segment differ, so the rest has no more values for this one.
      subst hkey
      have hrest : Dictionary.get? segment key = none :=
        Dictionary.get?_eq_none_of_lt fun _ => List.rel_of_pairwise_cons hsegment
      simp [hrest, Dictionary.get?_modify_self hd]
    · rw [Dictionary.get?_modify_ne hkey, if_neg hkey]

/-- All segments together put what they have gathered under a key behind what is there. -/
theorem get?_foldl_addSegment {segments : List (String × MatrixSegment)}
    (hsegments : ∀ entry ∈ segments, Dictionary.Sorted entry.2) (hd : Dictionary.Sorted d)
    (key : String) :
    (segments.foldl (fun d entry => addSegment d entry.2) d).get? key =
      if holders ⟨segments⟩ key = [] then d.get? key
      else some ((d.get? key).getD [] ++ gathered ⟨segments⟩ key) := by
  induction segments generalizing d with
  | nil => rfl
  | cons entry segments ih =>
    rw [List.forall_mem_cons] at hsegments
    rw [List.foldl_cons, ih hsegments.2 (sorted_addSegment hd entry.2),
      get?_addSegment hd hsegments.1, holders_cons, gathered_cons]
    unfold Dictionary.contains
    cases hkey : Dictionary.get? entry.2 key with
    | none => simp
    | some values =>
      by_cases hrest : holders ⟨segments⟩ key = []
      · simp [hrest, gathered_of_holders_nil hrest]
      · simp [hrest]

theorem entries_matrix (r : Request) :
    entries r (.matrix none) =
      r.matrix.segments.foldl (fun d entry => addSegment d entry.2) [] := by
  have hall : (r.matrix.segments.filter fun entry => Option.all (· == entry.1) none) =
      r.matrix.segments :=
    List.filter_eq_self.mpr fun _ _ => rfl
  exact congrArg (List.foldl (fun d entry => addSegment d entry.2) []) hall

theorem sorted_entries_matrix (r : Request) : Dictionary.Sorted (entries r (.matrix none)) := by
  rw [entries_matrix]
  refine List.foldlRecOn r.matrix.segments _ Dictionary.sorted_nil fun d hd entry _ => ?_
  exact sorted_addSegment hd entry.2

variable {r : Request}

/-- As a map, the matrix variables of a request have what is gathered under each key. -/
theorem get?_entries_matrix (hr : r.matrix.Grouped) (key : String) :
    Dictionary.get? (entries r (.matrix none)) key =
      if r.matrix.holders key = [] then none else some (r.matrix.gathered key) := by
  have hsegments : ∀ entry ∈ r.matrix.segments, Dictionary.Sorted entry.2 :=
    fun entry hentry => (hr.filled entry hentry).sorted
  rw [entries_matrix, get?_foldl_addSegment hsegments Dictionary.sorted_nil]
  rfl

theorem written_entries_matrix (hr : r.matrix.Grouped) :
    ∀ entry ∈ entries r (.matrix none), entry.2 ≠ [] := by
  rintro ⟨key, values⟩ hentry
  have hget := Dictionary.get?_of_mem (sorted_entries_matrix r).nodup hentry
  rw [get?_entries_matrix hr] at hget
  split at hget
  next => simp at hget
  next hheld =>
    obtain rfl := Option.some.inj hget
    exact hr.gathered_ne_nil hheld

end EntrySource

namespace MapConversion

/-- What a map has for the values of one key: they are converted together, or the first is. -/
inductive Gives (m : MapConversion) : List String → Value → Prop
  | together {values : List String} {v : Value} :
      m.multiple = true → m.conversion.convertAll values = .ok v → Gives m values v
  | first {text : String} {others : List String} {v : Value} :
      m.multiple = false → m.conversion.convert text = .ok v → Gives m (text :: others) v

variable {m : MapConversion}

theorem Gives.convertAll {values : List String} {v : Value} (h : m.Gives values v)
    (hmultiple : m.multiple = true) : m.conversion.convertAll values = .ok v := by
  cases h with
  | together _ hv => exact hv
  | first hsingle => cases hsingle.symm.trans hmultiple

theorem Gives.convert {values : List String} {v : Value} (h : m.Gives values v)
    (hsingle : m.multiple = false) :
    ∃ text others, values = text :: others ∧ m.conversion.convert text = .ok v := by
  cases h with
  | together hmultiple => cases hmultiple.symm.trans hsingle
  | first _ hv => exact ⟨_, _, rfl, hv⟩

/-- A key that is new to the map gets what its values give. -/
theorem gives_of_addEntry {map map' : Dictionary Value} {name : String} {values : List String}
    (hvalues : values ≠ []) (hfresh : map.get? name = none)
    (h : m.addEntry map (name, values) = .ok map') :
    ∃ v, m.Gives values v ∧ map' = map.insert name v := by
  unfold addEntry at h
  cases hmultiple : m.multiple with
  | true =>
    cases hv : m.conversion.convertAll values with
    | error e => simp [hmultiple, hv, Except.map] at h
    | ok v =>
      simp only [hmultiple, hv, Except.map, if_true, Except.ok.injEq] at h
      exact ⟨v, .together hmultiple hv, h.symm⟩
  | false =>
    obtain ⟨text, others, rfl⟩ := List.exists_cons_of_ne_nil hvalues
    cases hv : m.conversion.convert text with
    | error e => simp [hmultiple, hv, Except.map, Dictionary.contains, hfresh] at h
    | ok v =>
      simp [hmultiple, hv, Except.map, Dictionary.contains, hfresh] at h
      exact ⟨v, .first hmultiple hv, h.symm⟩

/-- Entries of different keys leave what is there, and each key gets what its values give. -/
theorem gives_of_foldlM {entries : Dictionary (List String)}
    (hentries : Dictionary.Sorted entries) (hvalues : ∀ entry ∈ entries, entry.2 ≠ [])
    {map map' : Dictionary Value} (hmap : Dictionary.Sorted map)
    (hfresh : ∀ entry ∈ entries, map.get? entry.1 = none)
    (h : entries.foldlM m.addEntry map = .ok map') :
    Dictionary.Sorted map' ∧ ∀ key,
      match entries.get? key with
      | none => map'.get? key = map.get? key
      | some values => ∃ v, m.Gives values v ∧ map'.get? key = some v := by
  induction entries generalizing map with
  | nil =>
    cases h
    exact ⟨hmap, fun _ => rfl⟩
  | cons entry entries ih =>
    obtain ⟨name, values⟩ := entry
    rw [List.forall_mem_cons] at hvalues hfresh
    rw [List.foldlM_cons, bind_eq_ok_iff] at h
    obtain ⟨next, hnext, hrest⟩ := h
    obtain ⟨v, hv, rfl⟩ := gives_of_addEntry hvalues.1 hfresh.1 hnext
    have hne : ∀ entry ∈ entries, entry.1 ≠ name := fun entry hentry heq =>
      String.lt_irrefl name (heq ▸ List.rel_of_pairwise_cons hentries hentry)
    have hstill : ∀ entry ∈ entries, (map.insert name v).get? entry.1 = none := by
      intro entry hentry
      rw [Dictionary.get?_insert hmap, if_neg (hne entry hentry)]
      exact hfresh.2 entry hentry
    obtain ⟨hsorted, hgives⟩ :=
      ih hentries.of_cons hvalues.2 (hmap.insert name v) hstill hrest
    refine ⟨hsorted, fun key => ?_⟩
    have hkey := hgives key
    rw [Dictionary.get?_cons]
    by_cases heq : key = name
    · subst heq
      have hnone : Dictionary.get? entries key = none :=
        Dictionary.get?_eq_none_of_lt fun _ => List.rel_of_pairwise_cons hentries
      rw [hnone, Dictionary.get?_insert hmap, if_pos rfl] at hkey
      rw [if_pos rfl]
      exact ⟨v, hv, hkey⟩
    · rw [Dictionary.get?_insert hmap, if_neg heq] at hkey
      rw [if_neg heq]
      exact hkey

theorem gives_of_build {entries : Dictionary (List String)}
    (hentries : Dictionary.Sorted entries) (hvalues : ∀ entry ∈ entries, entry.2 ≠ [])
    {result : Value} (h : m.build entries = .ok result) :
    ∃ map : Dictionary Value, result = .map map ∧ Dictionary.Sorted map ∧ ∀ key,
      match entries.get? key with
      | none => map.get? key = none
      | some values => ∃ v, m.Gives values v ∧ map.get? key = some v := by
  unfold build at h
  cases hfold : entries.foldlM m.addEntry [] with
  | error e =>
    rw [hfold] at h
    cases h
  | ok map =>
    rw [hfold] at h
    cases h
    have hgives := gives_of_foldlM hentries hvalues Dictionary.sorted_nil (fun _ _ => rfl) hfold
    exact ⟨map, rfl, hgives⟩

/-- A map of all matrix variables has the keys of all segments, and for each of them what the
values gathered under it give. -/
theorem gives_of_build_matrix {r : Request} (hr : r.matrix.Grouped) {result : Value}
    (h : m.build (EntrySource.entries r (.matrix none)) = .ok result) :
    ∃ map : Dictionary Value, result = .map map ∧ Dictionary.Sorted map ∧ ∀ key,
      (map.contains key = true ↔ r.matrix.holders key ≠ []) ∧
        ∀ v, map.get? key = some v → m.Gives (r.matrix.gathered key) v := by
  obtain ⟨map, rfl, hsorted, hgives⟩ := gives_of_build (EntrySource.sorted_entries_matrix r)
    (EntrySource.written_entries_matrix hr) h
  refine ⟨map, rfl, hsorted, fun key => ?_⟩
  have hkey := hgives key
  rw [EntrySource.get?_entries_matrix hr] at hkey
  unfold Dictionary.contains
  by_cases hheld : r.matrix.holders key = []
  · rw [if_pos hheld] at hkey
    simp [hkey, hheld]
  · rw [if_neg hheld] at hkey
    obtain ⟨v, hv, hget⟩ := hkey
    simp [hget, hheld, hv]

end MapConversion

/-! ### Parameters and their views -/

/-- Without a default, texts that are there resolve to what they convert to. -/
theorem Lookup.resolve_of_convertAll {c : Conversion} {name kind : String}
    {texts : List String} {v : Value} (htexts : texts ≠ []) (hv : c.convertAll texts = .ok v) :
    resolve ⟨name, false, none⟩ kind (some c) (some (.multiple texts)) = .ok v := by
  obtain ⟨text, others, rfl⟩ := List.exists_cons_of_ne_nil htexts
  simp only [resolve, present, convert, convertRaw, hv,
    Option.isSome_none, Bool.false_and, Bool.false_eq_true, if_false]
  cases v <;> rfl

namespace Binder

variable {b : Binder} {ty : Ty} {key : String} {segment : Option String}

/-- What takes a matrix variable for a parameter of some type: the values under a key, from the
segment it pins or from whichever has the key.  There is no default. -/
def TakesVariable (b : Binder) (ty : Ty) (key : String) (segment : Option String) : Prop :=
  ∃ ctx p v pinned, p.ty = ty ∧ p.annotations.matrixVariable? = some (v, pinned) ∧
    v.nameFor p = key ∧ v.default? = none ∧ pinned.filter (!·.isEmpty) = segment ∧
    BinderFactory.bindMatrix ctx p = .ok b

/-- What takes all matrix variables for a parameter of some type. -/
def TakesAllVariables (b : Binder) (ty : Ty) : Prop :=
  ∃ ctx p v pinned, p.ty = ty ∧ p.annotations.matrixVariable? = some (v, pinned) ∧
    v.name = "" ∧ pinned.filter (!·.isEmpty) = none ∧ BinderFactory.bindMatrix ctx p = .ok b

theorem TakesVariable.eq_named (h : b.TakesVariable ty key segment) (hmap : ty.isMap = false) :
    ∃ c, Conversion.of? ty = some c ∧
      b = .named (.matrix segment) ⟨key, false, none⟩ (some c) := by
  obtain ⟨ctx, p, v, pinned, rfl, hv, rfl, hdefault, rfl, hb⟩ := h
  have hbuilt := ((BinderFactory.bindMatrix_eq_ok_iff hv).mp hb).2
  rw [BinderFactory.matrixBinder, hmap, Bool.false_and, if_neg Bool.false_ne_true,
    bind_eq_ok_iff] at hbuilt
  obtain ⟨c, hconversion, hrest⟩ := hbuilt
  have hc := BinderFactory.returnsOnly_conversion _ c hconversion
  obtain ⟨l, hl, hbinder⟩ := bind_eq_ok_iff.mp hrest
  have hasks := Lookup.returnsOnly_ofAnnotation v (by simpa using hc) l hl
  have hnone : l.default? = none := by
    rw [← Option.isNone_iff_eq_none, ← Option.not_isSome, hasks.default?, hdefault]
    rfl
  obtain rfl := Except.ok.inj hbinder
  exact ⟨c, hc, by rw [hnone, hasks.name, NamedValue.nameFor]⟩

theorem TakesAllVariables.eq_entries {t : Ty} (h : b.TakesAllVariables (.map t)) :
    ∃ c, Conversion.of? t = some c ∧ b = .entries (.matrix none) ⟨t.isCollection, c⟩ := by
  obtain ⟨ctx, p, v, pinned, hty, hv, hname, hpinned, hb⟩ := h
  have hbuilt := ((BinderFactory.bindMatrix_eq_ok_iff hv).mp hb).2
  have hall : ((Ty.map t).isMap && "".isEmpty) = true := rfl
  rw [BinderFactory.matrixBinder, hpinned, hty, hname, if_pos hall] at hbuilt
  unfold BinderFactory.mapBinder MapConversion.of Conversion.of at hbuilt
  cases hc : Conversion.of? t with
  | none => simp [Ty.mapValue?, hc, Except.map] at hbuilt
  | some c =>
    simp only [Ty.mapValue?, hc, Except.map, Except.ok.injEq] at hbuilt
    exact ⟨c, rfl, hbuilt.symm⟩

section

variable {c : Conversion}

/-- Whatever has a text form can be taken under every key, from every segment or from any. -/
theorem takesVariable_named (hkey : key ≠ "") (hsegment : segment ≠ some "")
    (hc : Conversion.of? ty = some c) :
    (Binder.named (.matrix segment) ⟨key, false, none⟩ (some c)).TakesVariable ty key segment := by
  have hname : key.isEmpty = false := by simpa using hkey
  have hpinned := BinderFactory.filter_pinned hsegment
  refine ⟨⟨.standard, {}, .standard, none⟩,
    ⟨"", ty, 0, [.matrixVariable ⟨key, false, none⟩ segment], .bean ""⟩,
    ⟨key, false, none⟩, segment, rfl, rfl, by simp [NamedValue.nameFor, hname], rfl, hpinned, ?_⟩
  refine (BinderFactory.bindMatrix_eq_ok_iff rfl).mpr ⟨(fun _ _ _ hnone => nomatch hnone), ?_⟩
  rw [hpinned, BinderFactory.matrixBinder]
  simp [hname, BinderFactory.conversion, Conversion.of, hc, Lookup.ofAnnotation, Bind.bind,
    Except.bind, Pure.pure, Except.pure]

theorem takesAllVariables_entries {t : Ty} (hc : Conversion.of? t = some c) :
    (Binder.entries (.matrix none) ⟨t.isCollection, c⟩).TakesAllVariables (.map t) := by
  refine ⟨⟨.standard, {}, .standard, none⟩,
    ⟨"", .map t, 0, [.matrixVariable ⟨"", false, none⟩ none], .bean ""⟩,
    ⟨"", false, none⟩, none, rfl, rfl, rfl, rfl, ?_⟩
  refine (BinderFactory.bindMatrix_eq_ok_iff rfl).mpr ⟨(fun _ _ _ hnone => nomatch hnone), ?_⟩
  simp [BinderFactory.matrixBinder, BinderFactory.mapBinder, MapConversion.of, Conversion.of, hc,
    Ty.isMap, Ty.mapValue?, Ty.isMultiValueMap, Except.map]

end

section

variable {l : Lookup} {c : Conversion}

/-- What is taken from one segment depends on the values of that segment only. -/
theorem resolve_pinned (r : Request) (segment : String) :
    (Binder.named (.matrix (some segment)) l (some c)).resolve r =
      l.resolve "matrix variable" (some c) (some (.multiple (r.matrix.values segment l.name))) := by
  simp only [Binder.resolve, Source.carried, MatrixVariables.values, Source.kind]
  cases r.matrix.segment? segment with
  | none => rfl
  | some keys =>
    cases hget : keys.get? l.name with
    | none => simp [hget, Lookup.resolve]
    | some values => simp [hget]

variable {r : Request}

theorem resolve_unheld (hnone : r.matrix.holders l.name = []) :
    (Binder.named (.matrix none) l (some c)).resolve r = l.absent "matrix variable" := by
  rw [← Source.map_fst_matrixHits, List.map_eq_nil_iff] at hnone
  simp only [Binder.resolve, Source.carried, hnone, Source.kind]
  rfl

/-- What one segment has is taken from it. -/
theorem resolve_sole (hr : r.matrix.Grouped) {segment : String}
    (hsole : r.matrix.holders l.name = [segment]) :
    (Binder.named (.matrix none) l (some c)).resolve r =
      (Binder.named (.matrix (some segment)) l (some c)).resolve r := by
  rw [resolve_pinned]
  simp only [Binder.resolve, Source.carried, Source.matrixHits_of_holders hr hsole, Source.kind]

theorem resolve_ambiguous (hseveral : 2 ≤ (r.matrix.holders l.name).length) :
    (Binder.named (.matrix none) l (some c)).resolve r =
      .error (.ambiguousMatrixVariable l.name (r.matrix.holders l.name)) := by
  rw [← Source.map_fst_matrixHits, List.length_map] at hseveral
  rw [← Source.map_fst_matrixHits]
  simp only [Binder.resolve, Source.carried]
  rcases hhits : Source.matrixHits r.matrix l.name with _ | ⟨first, _ | ⟨second, others⟩⟩
  · simp [hhits] at hseveral
  · simp [hhits] at hseveral
  · rfl

end

end Binder

/-- Whether a key is taken from one segment or from whichever has it, parameters of a type that
are without default agree. -/
structure Request.NamedViewsAgree (r : Request) (ty : Ty) (key : String) : Prop where
  /-- A key that no segment has is null. -/
  missing : r.matrix.holders key = [] →
    ∀ b : Binder, b.TakesVariable ty key none → b.resolve r = .ok .null
  /-- A segment that has a key can be pinned. -/
  pinnable : key ≠ "" → ∀ segment ∈ r.matrix.holders key,
    ∃ b : Binder, b.TakesVariable ty key (some segment)
  /-- A key that one segment has is taken as if from that segment. -/
  sole : ∀ segment, r.matrix.holders key = [segment] →
    ∀ b b' : Binder, b.TakesVariable ty key none → b'.TakesVariable ty key (some segment) →
      b.resolve r = b'.resolve r
  /-- A key that several segments have is refused, and the segments are named. -/
  ambiguous : 2 ≤ (r.matrix.holders key).length →
    ∀ b : Binder, b.TakesVariable ty key none →
      b.resolve r = .error (.ambiguousMatrixVariable key (r.matrix.holders key))
  /-- Whatever other segments have, a pinned segment alone counts. -/
  pinned : ∀ segment, ∀ b : Binder, b.TakesVariable ty key (some segment) →
    b.resolve r = Lookup.resolve ⟨key, false, none⟩ "matrix variable" (Conversion.of? ty)
      (some (.multiple (r.matrix.values segment key)))

/-- A map has a key if some segment does, and under it a value that the values gathered from the
segments give. -/
def Request.GathersInto (r : Request) (key : String) (gives : List String → Value → Prop)
    (result : Value) : Prop :=
  ∃ map : Dictionary Value, result = .map map ∧ Dictionary.Sorted map ∧
    (map.contains key = true ↔ r.matrix.holders key ≠ []) ∧
    ∀ v, map.get? key = some v → gives (r.matrix.gathered key) v

/-- The views of the matrix variables of a request agree on a key, for parameters of a scalar
type, of lists of it, and of maps to either. -/
structure Request.MatrixViewsAgree (r : Request) (t : Ty) (key : String) : Prop where
  scalar : r.NamedViewsAgree t key
  list : r.NamedViewsAgree (.list t) key
  /-- A map of lists has what all values convert to, which is the list that is taken by the key
  where one segment has it. -/
  lists : ∀ (b : Binder) (result : Value), b.TakesAllVariables (.map (.list t)) →
    b.resolve r = .ok result → r.GathersInto key (fun texts v =>
      (∃ c, Conversion.of? (.list t) = some c ∧ c.convertAll texts = .ok v) ∧
      ∀ segment, r.matrix.holders key = [segment] →
        ∀ b' : Binder, b'.TakesVariable (.list t) key none → b'.resolve r = .ok v) result
  /-- A map of scalars has what the first value converts to. -/
  firsts : ∀ (b : Binder) (result : Value), b.TakesAllVariables (.map t) →
    b.resolve r = .ok result → r.GathersInto key (fun texts v =>
      ∃ c text others, Conversion.of? t = some c ∧ texts = text :: others ∧
        c.convert text = .ok v) result

namespace Request

variable {r : Request} {key : String}

theorem named_views_agree (hr : r.matrix.Grouped) {ty : Ty} (hmap : ty.isMap = false)
    (htext : ∃ c, Conversion.of? ty = some c) (key : String) : r.NamedViewsAgree ty key where
  missing := by
    intro hnone b hb
    obtain ⟨c, -, rfl⟩ := hb.eq_named hmap
    exact Binder.resolve_unheld hnone
  pinnable := by
    intro hkey segment hsegment
    obtain ⟨c, hc⟩ := htext
    have hnamed : segment ≠ "" := hr.ne_empty_of_mem_holders hsegment
    exact ⟨_, Binder.takesVariable_named hkey (by simpa using hnamed) hc⟩
  sole := by
    intro segment hsole b b' hb hb'
    obtain ⟨c, hc, rfl⟩ := hb.eq_named hmap
    obtain ⟨c', hc', rfl⟩ := hb'.eq_named hmap
    obtain rfl : c = c' := Option.some.inj (hc.symm.trans hc')
    exact Binder.resolve_sole hr hsole
  ambiguous := by
    intro hseveral b hb
    obtain ⟨c, -, rfl⟩ := hb.eq_named hmap
    exact Binder.resolve_ambiguous hseveral
  pinned := by
    intro segment b hb
    obtain ⟨c, hc, rfl⟩ := hb.eq_named hmap
    rw [hc]
    exact Binder.resolve_pinned r segment

/-- What a map of all matrix variables resolves to is gathered from all segments. -/
theorem gathersInto_of_takesAll (hr : r.matrix.Grouped) {t : Ty} {b : Binder}
    (hb : b.TakesAllVariables (.map t)) {result : Value} (hresult : b.resolve r = .ok result) :
    ∃ c, Conversion.of? t = some c ∧
      r.GathersInto key (MapConversion.Gives ⟨t.isCollection, c⟩) result := by
  obtain ⟨c, hc, rfl⟩ := hb.eq_entries
  rw [Binder.resolve] at hresult
  obtain ⟨map, hmap, hsorted, hkeys⟩ := MapConversion.gives_of_build_matrix hr hresult
  exact ⟨c, hc, map, hmap, hsorted, hkeys key⟩

theorem GathersInto.imp {gives gives' : List String → Value → Prop} {result : Value}
    (h : r.GathersInto key gives result)
    (himp : ∀ v, gives (r.matrix.gathered key) v → gives' (r.matrix.gathered key) v) :
    r.GathersInto key gives' result := by
  obtain ⟨map, hmap, hsorted, hkey, hgives⟩ := h
  exact ⟨map, hmap, hsorted, hkey, fun v hv => himp v (hgives v hv)⟩

/-- What all values of a key convert to is also taken by the key, where one segment has it. -/
theorem resolve_of_gathered (hr : r.matrix.Grouped) {ty : Ty} (hmap : ty.isMap = false)
    {c : Conversion} (hc : Conversion.of? ty = some c) {v : Value}
    (hv : c.convertAll (r.matrix.gathered key) = .ok v) {segment : String}
    (hsole : r.matrix.holders key = [segment]) {b : Binder} (hb : b.TakesVariable ty key none) :
    b.resolve r = .ok v := by
  obtain ⟨c', hc', rfl⟩ := hb.eq_named hmap
  obtain rfl : c = c' := Option.some.inj (hc.symm.trans hc')
  have hheld : r.matrix.holders key ≠ [] := by simp [hsole]
  have hwritten := hr.gathered_ne_nil hheld
  rw [Source.gathered_of_holders hr hsole] at hv hwritten
  rw [Binder.resolve_sole hr hsole, Binder.resolve_pinned]
  exact Lookup.resolve_of_convertAll hwritten hv

end Request

theorem Ty.single_of_isScalar (t : Ty) (hscalar : t.isScalar = true) :
    t.isMap = false ∧ t.isCollection = false := by
  match t with
  | .optional t => exact t.single_of_isScalar hscalar
  | .string | .bool | .char | .integer _ | .single | .double | .parsed _ => exact ⟨rfl, rfl⟩
  | .bytes | .list _ | .set _ | .array _ | .map _ | .cookie | .headers | .object _ =>
    exact Bool.noConfusion hscalar

/-- The views of matrix variables that were inserted one by one agree on every key. -/
theorem Request.matrix_views_agree {r : Request} (hr : r.matrix.Inserted) {t : Ty}
    (hscalar : t.isScalar = true) (key : String) : r.MatrixViewsAgree t key := by
  have hgrouped := hr.grouped
  obtain ⟨hmap, hsingle⟩ := t.single_of_isScalar hscalar
  have hlist : ∃ c, Conversion.of? (.list t) = some c := ⟨_, if_pos hscalar⟩
  refine ⟨?scalar, ?list, ?lists, ?firsts⟩
  case scalar =>
    exact named_views_agree hgrouped hmap (Conversion.exists_of?_of_isScalar hscalar) key
  case list =>
    exact named_views_agree hgrouped rfl hlist key
  case lists =>
    intro b result hb hresult
    obtain ⟨c, hc, hgathers⟩ := gathersInto_of_takesAll hgrouped hb hresult
    refine hgathers.imp fun v hv => ?_
    have hconverted := hv.convertAll rfl
    exact ⟨⟨c, hc, hconverted⟩, fun segment hsole b' hb' =>
      resolve_of_gathered hgrouped rfl hc hconverted hsole hb'⟩
  case firsts =>
    intro b result hb hresult
    obtain ⟨c, hc, hgathers⟩ := gathersInto_of_takesAll hgrouped hb hresult
    refine hgathers.imp fun v hv => ?_
    obtain ⟨text, others, htexts, hconverted⟩ := hv.convert hsingle
    exact ⟨c, text, others, hc, htexts, hconverted⟩

/-- The years of a car, and one of its owner. -/
def fleet : Request :=
  (((Request.ofUri .get "/").addMatrixVariable "car" "year" "2012").addMatrixVariable
    "owner" "year" "7").addMatrixVariable "car" "year" "2013"

theorem inserted_fleet : fleet.matrix.Inserted :=
  .insert "year" "2013" (.insert "year" "7" (.insert "year" "2012" .empty (by decide))
    (by decide)) (by decide)

/-- A year is refused unless a segment is pinned, and a map has it in any case. -/
theorem Request.matrix_views_agree_years :
    fleet.matrix.Inserted ∧ (Ty.integer .u32).isScalar = true ∧
      (∃ b : Binder, b.TakesVariable (.integer .u32) "year" none ∧
        b.resolve fleet = .error (.ambiguousMatrixVariable "year" ["car", "owner"])) ∧
      (∃ b : Binder, b.TakesVariable (.list (.integer .u32)) "year" (some "car") ∧
        b.resolve fleet = .ok (.list [.uint 2012, .uint 2013])) ∧
      ∃ (b : Binder) (map : Dictionary Value),
        b.TakesAllVariables (.map (.integer .u32)) ∧ b.resolve fleet = .ok (.map map) ∧
          map.contains "year" = true := by
  have hagree : fleet.MatrixViewsAgree (.integer .u32) "year" :=
    matrix_views_agree inserted_fleet rfl "year"
  have hfree : Binder.TakesVariable _ (.integer .u32) "year" none :=
    Binder.takesVariable_named (by decide) (by decide) rfl
  have hpinned : Binder.TakesVariable _ (.list (.integer .u32)) "year" (some "car") :=
    Binder.takesVariable_named (by decide) (by decide) rfl
  have hall : Binder.TakesAllVariables _ (.map (.integer .u32)) :=
    Binder.takesAllVariables_entries rfl
  refine ⟨inserted_fleet, rfl, ⟨_, hfree, ?_⟩, ⟨_, hpinned, ?_⟩, ⟨_, _, hall, rfl, ?_⟩⟩
  · exact hagree.scalar.ambiguous (by decide) _ hfree
  · exact hagree.list.pinned "car" _ hpinned
  · obtain ⟨map, hmap, -, hkeys, -⟩ := hagree.firsts _ _ hall rfl
    cases hmap
    exact hkeys.mpr (by decide)

end RestDispatch
