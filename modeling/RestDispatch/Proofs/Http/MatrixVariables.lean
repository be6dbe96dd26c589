import RestDispatch.Http.MatrixVariables
import RestDispatch.Proofs.Dictionary

/-!
# Values of matrix variables

Adding pairs of a key and a value under one path variable touches the segment of that
variable only, and gives each key the values written for it, in the order in which they were
written.  A variable that comes for the first time gets its segment behind all others.

So however variables were inserted, no two segments have one name, and no segment has a key
without a value.
-/

namespace RestDispatch

namespace MatrixVariables

/-- The values that a list of pairs gives to a key, in order. -/
def written (pairs : List (String × String)) (key : String) : List String :=
  (pairs.filter fun pair => pair.1 = key).map Prod.snd

/-- The segment made of a list of pairs of a key and a value. -/
def segmentOf (pairs : List (String × String)) : MatrixSegment :=
  pairs.foldl (fun segment pair => addValue segment pair.1 pair.2) []

/-- The values of a key in the segment of a path variable; none if there is no such segment
or no such key in it. -/
def values (m : MatrixVariables) (name key : String) : List String :=
  ((m.segment? name).bind fun segment => segment.get? key).getD []

/-- Add pairs of a key and a value to the segment of a path variable. -/
def insertAll (name : String) (m : MatrixVariables) (pairs : List (String × String)) :
    MatrixVariables :=
  pairs.foldl (fun m pair => m.insert name pair.1 pair.2) m

theorem get?_foldl_addValue (pairs : List (String × String)) {segment : MatrixSegment}
    (hsegment : Dictionary.Sorted segment) (key : String) :
    (Dictionary.get? (pairs.foldl (fun segment pair => addValue segment pair.1 pair.2) segment)
      key).getD [] = (segment.get? key).getD [] ++ written pairs key := by
  induction pairs generalizing segment with
  | nil => simp [written]
  | cons pair pairs ih =>
    have hnext : Dictionary.Sorted (addValue segment pair.1 pair.2) := hsegment.modify _ _
    rw [List.foldl_cons, ih hnext, addValue]
    by_cases hkey : pair.1 = key
    · subst hkey
      rw [Dictionary.get?_modify_self hsegment]
      simp [written]
    · rw [Dictionary.get?_modify_ne (Ne.symm hkey)]
      simp [written, hkey]

/-- A segment gives every key the values written for it. -/
theorem get?_segmentOf (pairs : List (String × String)) (key : String) :
    ((segmentOf pairs).get? key).getD [] = written pairs key := by
  rw [segmentOf, get?_foldl_addValue pairs Dictionary.sorted_nil]
  rfl

theorem ne_nil_of_mem_segmentOf (pairs : List (String × String)) :
    ∀ entry ∈ segmentOf pairs, entry.2 ≠ [] := by
  refine List.foldlRecOn (motive := fun segment : MatrixSegment => ∀ entry ∈ segment, entry.2 ≠ [])
    pairs _ (fun _ hentry => absurd hentry List.not_mem_nil) ?_
  intro segment hsegment pair _
  exact Dictionary.forall_mem_modify (fun old => by simp) hsegment

/-- A segment has the keys for which a value was written, and no others. -/
theorem get?_segmentOf_eq_ite (pairs : List (String × String)) (key : String) :
    (segmentOf pairs).get? key =
      if written pairs key = [] then none else some (written pairs key) := by
  have hwritten := get?_segmentOf pairs key
  cases hvalues : (segmentOf pairs).get? key with
  | none =>
    rw [hvalues, Option.getD_none] at hwritten
    rw [if_pos hwritten.symm]
  | some values =>
    have hne := ne_nil_of_mem_segmentOf pairs _ (Dictionary.mem_of_get? hvalues)
    rw [hvalues, Option.getD_some] at hwritten
    rw [← hwritten, if_neg hne]

section

variable {name : String} {before : List (String × MatrixSegment)}

theorem insertInto_append (hbefore : name ∉ before.map Prod.fst) (key value : String)
    (behind : List (String × MatrixSegment)) :
    insertInto name key value (before ++ behind) =
      before ++ insertInto name key value behind := by
  induction before with
  | nil => rfl
  | cons entry before ih =>
    rw [List.map_cons, List.mem_cons, not_or] at hbefore
    rw [List.cons_append, insertInto, if_neg (Ne.symm hbefore.1), ih hbefore.2, List.cons_append]

theorem insertAll_append (hbefore : name ∉ before.map Prod.fst)
    (pairs : List (String × String)) (segment : MatrixSegment) :
    insertAll name ⟨before ++ [(name, segment)]⟩ pairs =
      ⟨before ++ [(name, pairs.foldl (fun segment pair => addValue segment pair.1 pair.2)
        segment)]⟩ := by
  induction pairs generalizing segment with
  | nil => rfl
  | cons pair pairs ih =>
    have hstep : insert ⟨before ++ [(name, segment)]⟩ name pair.1 pair.2 =
        ⟨before ++ [(name, addValue segment pair.1 pair.2)]⟩ := by
      rw [insert, insertInto_append hbefore, insertInto, if_pos rfl]
    rw [insertAll, List.foldl_cons, hstep]
    exact ih _

end

/-- A path variable that has no segment yet gets one if a pair is added. -/
theorem segments_insertAll {name : String} {m : MatrixVariables}
    (hm : name ∉ m.segments.map Prod.fst) (pairs : List (String × String)) :
    (insertAll name m pairs).segments =
      m.segments ++ if pairs = [] then [] else [(name, segmentOf pairs)] := by
  cases pairs with
  | nil => rw [if_pos rfl, List.append_nil, insertAll, List.foldl_nil]
  | cons pair pairs =>
    have hstep : m.insert name pair.1 pair.2 =
        ⟨m.segments ++ [(name, addValue [] pair.1 pair.2)]⟩ := by
      rw [insert, ← List.append_nil m.segments, insertInto_append hm, insertInto,
        List.append_nil]
    rw [if_neg (List.cons_ne_nil pair pairs), insertAll, List.foldl_cons, hstep]
    exact congrArg segments (insertAll_append hm pairs _)

/-- Where no two segments have one name, each is found under its name. -/
theorem values_of_mem {m : MatrixVariables} (hm : (m.segments.map Prod.fst).Nodup)
    {name : String} {segment : MatrixSegment} (hsegment : (name, segment) ∈ m.segments)
    (key : String) : m.values name key = (segment.get? key).getD [] := by
  have hfound : m.segment? name = some segment := Dictionary.get?_of_mem hm hsegment
  rw [values, hfound, Option.bind_some]

theorem values_of_not_mem {m : MatrixVariables} {name : String}
    (hname : name ∉ m.segments.map Prod.fst) (key : String) : m.values name key = [] := by
  have hfound : m.segment? name = none := by
    rw [segment?, List.lookup_eq_none_iff]
    intro entry hentry
    refine bne_iff_ne.mpr fun heq => ?_
    exact hname (List.mem_map.mpr ⟨entry, hentry, heq.symm⟩)
  rw [values, hfound, Option.bind_none, Option.getD_none]

/-- Matrix variables that were inserted one by one, under names that are not empty. -/
inductive Inserted : MatrixVariables → Prop
  | empty : Inserted .empty
  | insert {m : MatrixVariables} {name : String} (key value : String) :
      Inserted m → name ≠ "" → Inserted (m.insert name key value)

/-- The segments that have a key, in path order. -/
def holders (m : MatrixVariables) (key : String) : List String :=
  (m.segments.filter fun entry => entry.2.contains key).map Prod.fst

/-- The values that all segments have under a key, in path order. -/
def gathered (m : MatrixVariables) (key : String) : List String :=
  m.segments.flatMap fun entry => (entry.2.get? key).getD []

/-- A segment has a name, its keys are in order, and each of them has a value. -/
structure Filled (entry : String × MatrixSegment) : Prop where
  named : entry.1 ≠ ""
  sorted : Dictionary.Sorted entry.2
  written : ∀ pair ∈ entry.2, pair.2 ≠ []

/-- Segments differ in their names, and each of them is filled. -/
structure Grouped (m : MatrixVariables) : Prop where
  nodup : (m.segments.map Prod.fst).Nodup
  filled : ∀ entry ∈ m.segments, Filled entry

section

variable {name : String}

theorem Filled.addValue {segment : MatrixSegment} (h : Filled (name, segment))
    (key value : String) : Filled (name, addValue segment key value) where
  named := h.named
  sorted := h.sorted.modify _ _
  written := Dictionary.forall_mem_modify (fun old => by simp) h.written

theorem filled_new (hname : name ≠ "") (key value : String) :
    Filled (name, MatrixVariables.addValue [] key value) :=
  Filled.addValue ⟨hname, Dictionary.sorted_nil, fun _ h => absurd h List.not_mem_nil⟩ key value

/-- The name of a new segment comes behind the others. -/
theorem map_fst_insertInto (name key value : String) (segments : List (String × MatrixSegment)) :
    (insertInto name key value segments).map Prod.fst =
      if name ∈ segments.map Prod.fst then segments.map Prod.fst
      else segments.map Prod.fst ++ [name] := by
  induction segments with
  | nil => rfl
  | cons entry segments ih =>
    obtain ⟨n, segment⟩ := entry
    unfold insertInto
    split
    next heq => simp [heq]
    next hne =>
      rw [List.map_cons, ih, List.map_cons]
      split
      next hmem => rw [if_pos (List.mem_cons_of_mem _ hmem)]
      next hmem =>
        rw [if_neg (by simp [Ne.symm hne, hmem])]
        rfl

theorem filled_insertInto (hname : name ≠ "") (key value : String)
    {segments : List (String × MatrixSegment)} (hsegments : ∀ entry ∈ segments, Filled entry) :
    ∀ entry ∈ insertInto name key value segments, Filled entry := by
  induction segments with
  | nil => simpa [insertInto] using filled_new hname key value
  | cons entry segments ih =>
    obtain ⟨n, segment⟩ := entry
    rw [List.forall_mem_cons] at hsegments
    unfold insertInto
    split
    · exact List.forall_mem_cons.mpr ⟨hsegments.1.addValue key value, hsegments.2⟩
    · exact List.forall_mem_cons.mpr ⟨hsegments.1, ih hsegments.2⟩

theorem Grouped.insert {m : MatrixVariables} (hm : m.Grouped) (hname : name ≠ "")
    (key value : String) : (m.insert name key value).Grouped where
  nodup := by
    rw [MatrixVariables.insert, map_fst_insertInto]
    split
    next => exact hm.nodup
    next hfresh =>
      refine List.nodup_append.mpr ⟨hm.nodup, List.pairwise_singleton _ name, ?_⟩
      rintro other hother _ hlast rfl
      exact hfresh (List.mem_singleton.mp hlast ▸ hother)
  filled := filled_insertInto hname key value hm.filled

theorem Inserted.grouped {m : MatrixVariables} (hm : m.Inserted) : m.Grouped := by
  induction hm with
  | empty => exact ⟨List.nodup_nil, fun _ h => absurd h List.not_mem_nil⟩
  | insert key value _ hname ih => exact ih.insert hname key value

end

section

variable {m : MatrixVariables} {key : String}

theorem holders_cons (entry : String × MatrixSegment) (segments : List (String × MatrixSegment))
    (key : String) :
    holders ⟨entry :: segments⟩ key =
      if entry.2.contains key then entry.1 :: holders ⟨segments⟩ key
      else holders ⟨segments⟩ key := by
  unfold holders
  split <;> simp_all

theorem gathered_cons (entry : String × MatrixSegment) (segments : List (String × MatrixSegment))
    (key : String) :
    gathered ⟨entry :: segments⟩ key =
      (entry.2.get? key).getD [] ++ gathered ⟨segments⟩ key :=
  List.flatMap_cons

theorem mem_holders_iff {name : String} :
    name ∈ m.holders key ↔ ∃ segment values, (name, segment) ∈ m.segments ∧
      segment.get? key = some values := by
  simp [holders, Dictionary.contains, Option.isSome_iff_exists]

theorem gathered_of_holders_nil (hnone : m.holders key = []) : m.gathered key = [] := by
  rw [gathered, List.flatMap_eq_nil_iff]
  rintro ⟨name, segment⟩ hentry
  cases hvalues : segment.get? key with
  | none => rfl
  | some values =>
    have hname := mem_holders_iff.mpr ⟨segment, values, hentry, hvalues⟩
    rw [hnone] at hname
    exact absurd hname List.not_mem_nil

theorem Grouped.ne_empty_of_mem_holders (hm : m.Grouped) {name : String}
    (hname : name ∈ m.holders key) : name ≠ "" := by
  obtain ⟨segment, _, hentry, -⟩ := mem_holders_iff.mp hname
  exact (hm.filled _ hentry).named

/-- A key that some segment has comes with a value. -/
theorem Grouped.gathered_ne_nil (hm : m.Grouped) (hheld : m.holders key ≠ []) :
    m.gathered key ≠ [] := by
  obtain ⟨name, hname⟩ := List.exists_mem_of_ne_nil _ hheld
  obtain ⟨segment, values, hentry, hvalues⟩ := mem_holders_iff.mp hname
  have hwritten := (hm.filled _ hentry).written _ (Dictionary.mem_of_get? hvalues)
  intro hnone
  have hnil := List.flatMap_eq_nil_iff.mp hnone _ hentry
  rw [hvalues, Option.getD_some] at hnil
  exact hwritten hnil

end

end MatrixVariables

end RestDispatch
