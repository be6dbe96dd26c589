import Mathlib
import RestDispatch.Http.Headers

/-!
# What a history of changes leaves of headers

Headers that come about by adding, replacing and removing entries answer every question from their
history.  The values of a name are those that it was given since it was last replaced or removed.
Entries remain as long as no later change is to replace or remove their names.  The names are one
spelling for each, that of the first entry that remains.
-/

namespace RestDispatch

namespace Headers

/-- A change to headers. -/
inductive Edit
  | append (name value : String)
  | insert (name value : String)
  | remove (name : String)

namespace Edit

variable {name name' : String}

/-- All values that a name had so far are dropped. -/
def resets (name : String) : Edit → Bool
  | append _ _ => false
  | insert replaced _ => Text.sameName name replaced
  | remove removed => Text.sameName name removed

/-- The entries that are added, at most one. -/
def added : Edit → List (String × String)
  | append name value | insert name value => [(name, value)]
  | remove _ => []

/-- The changes from the last one on that drops the values of a name; all, if none does. -/
def since (name : String) : List Edit → List Edit
  | [] => []
  | e :: rest => if rest.any (resets name) then since name rest else e :: rest

/-- The values that a name was given since they were last dropped. -/
def written (name : String) (edits : List Edit) : List String :=
  (((since name edits).flatMap added).filter fun e => Text.sameName e.1 name).map (·.2)

/-- The entries that no later change drops. -/
def remaining : List Edit → List (String × String)
  | [] => []
  | e :: rest => (e.added.filter fun entry => !rest.any (resets entry.1)) ++ remaining rest

end Edit

def edit (h : Headers) : Edit → Headers
  | .append name value => h.append name value
  | .insert name value => h.insert name value
  | .remove name => h.without name

def ofEdits (edits : List Edit) : Headers := edits.foldl edit .empty

/-- Every name of some entries is listed exactly once, in the spelling of its first entry, and in
the order of the first entries. -/
structure ListsNames (entries : List (String × String)) (names : List String) : Prop where
  one : ∀ e ∈ entries, names.countP (Text.sameName · e.1) = 1
  first : ∀ n ∈ names, (entries.find? (Text.sameName ·.1 n)).map (·.1) = some n
  ordered : names.Pairwise fun n n' =>
    entries.findIdx (Text.sameName ·.1 n) < entries.findIdx (Text.sameName ·.1 n')

/-- Headers answer every question from the changes that led to them. -/
structure Refines (h : Headers) (edits : List Edit) : Prop where
  getAll : ∀ name, h.getAll name = Edit.written name edits
  get? : ∀ name, h.get? name = (Edit.written name edits).head?
  contains : ∀ name, h.contains name = true ↔ Edit.written name edits ≠ []
  removed : ∀ name, h.countOf name = (Edit.written name edits).length ∧
    h.size = (h.without name).size + (Edit.written name edits).length
  names : ListsNames (Edit.remaining edits) h.names
  size : h.size = (h.names.map fun n => (h.getAll n).length).sum

namespace Edit

theorem resets_congr (h : Text.sameName name name' = true) (e : Edit) :
    e.resets name = e.resets name' := by
  rw [Text.sameName_iff] at h
  cases e <;> simp only [resets, Text.sameName, h]

theorem since_eq_self {edits : List Edit} (h : edits.any (resets name) = false) :
    since name edits = edits := by
  cases edits with
  | nil => rfl
  | cons e rest =>
    rw [List.any_cons, Bool.or_eq_false_iff] at h
    rw [since, h.2, if_neg Bool.false_ne_true]

/-- All entries of a name are dropped, or none. -/
theorem filter_sameName_remaining (entries : List (String × String)) (rest : List Edit)
    (name : String) :
    (entries.filter fun e => !rest.any (resets e.1)).filter (fun e => Text.sameName e.1 name) =
      if rest.any (resets name) then [] else entries.filter fun e => Text.sameName e.1 name := by
  have hdropped (e : String × String) (hsame : Text.sameName e.1 name = true) :
      rest.any (resets e.1) = rest.any (resets name) :=
    congrArg _ (funext (resets_congr hsame))
  rw [List.filter_filter]
  cases hrest : rest.any (resets name) with
  | true =>
    refine (List.filter_eq_nil_iff.mpr fun e _ h => ?_).trans (if_pos rfl).symm
    obtain ⟨hsame, hkept⟩ := Bool.and_eq_true_iff.mp h
    rw [hdropped e hsame, hrest] at hkept
    cases hkept
  | false =>
    refine (List.filter_congr fun e _ => ?_).trans (if_neg Bool.false_ne_true).symm
    cases hsame : Text.sameName e.1 name with
    | false => rfl
    | true => rw [hdropped e hsame, hrest]; rfl

/-- What remains under a name are the values that it was given. -/
theorem map_filter_remaining (name : String) (edits : List Edit) :
    ((remaining edits).filter fun e => Text.sameName e.1 name).map (·.2) = written name edits := by
  -- From the front, as it is the later changes that drop an entry.
  induction edits with
  | nil => rfl
  | cons e rest ih =>
    rw [remaining, List.filter_append, List.map_append, ih, filter_sameName_remaining]
    cases hrest : rest.any (resets name) with
    | true => rw [if_pos rfl, written, written, since, hrest, if_pos rfl]; rfl
    | false =>
      rw [if_neg Bool.false_ne_true, written, written, since, hrest, if_neg Bool.false_ne_true,
        since_eq_self hrest, List.flatMap_cons, List.filter_append, List.map_append]

theorem remaining_append_singleton (edits : List Edit) (e : Edit) :
    remaining (edits ++ [e]) =
      (remaining edits).filter (fun entry => !e.resets entry.1) ++ e.added := by
  induction edits with
  | nil => simp [remaining]
  | cons e' rest ih =>
    rw [List.cons_append, remaining, ih, remaining, List.filter_append, List.append_assoc,
      List.filter_filter]
    congr 1
    simp [List.any_append, Bool.and_comm]

end Edit

theorem entries_edit (h : Headers) (e : Edit) :
    (h.edit e).entries = h.entries.filter (fun entry => !e.resets entry.1) ++ e.added := by
  cases e with
  | append name value => simp [edit, append, Edit.resets, Edit.added]
  | insert name value => rfl
  | remove name => exact (List.append_nil _).symm

theorem entries_ofEdits (edits : List Edit) :
    (ofEdits edits).entries = Edit.remaining edits := by
  induction edits using List.reverseRecOn with
  | nil => rfl
  | append_singleton edits e ih =>
    rw [Edit.remaining_append_singleton, ← ih, ← entries_edit, ofEdits, List.foldl_append]
    rfl

theorem names_append (h : Headers) (name value : String) :
    (h.append name value).names =
      if h.names.any (Text.sameName · name) then h.names else h.names ++ [name] := by
  rw [names, append, List.foldl_append]
  rfl

namespace ListsNames

variable {entries : List (String × String)} {ns : List String} {name n : String}

theorem exists_entry (h : ListsNames entries ns) (hn : n ∈ ns) : ∃ e ∈ entries, e.1 = n := by
  obtain ⟨e, hfind, he⟩ := Option.map_eq_some_iff.mp (h.first n hn)
  exact ⟨e, List.mem_of_find?_eq_some hfind, he⟩

/-- A name of entries is listed exactly once. -/
theorem countP_eq_one (h : ListsNames entries ns) {e : String × String} (he : e ∈ entries)
    (hsame : Text.sameName e.1 name = true) : ns.countP (Text.sameName · name) = 1 := by
  have hone := h.one e he
  simp only [Text.sameName, (Text.sameName_iff _ _).mp hsame] at hone
  exact hone

theorem any_eq_true_iff (h : ListsNames entries ns) :
    ns.any (Text.sameName · name) = true ↔ ∃ e ∈ entries, Text.sameName e.1 name = true := by
  constructor
  · intro hany
    obtain ⟨n, hn, hsame⟩ := List.any_eq_true.mp hany
    obtain ⟨e, he, rfl⟩ := h.exists_entry hn
    exact ⟨e, he, hsame⟩
  · rintro ⟨e, he, hsame⟩
    have hpos : 0 < ns.countP (Text.sameName · name) := by
      rw [h.countP_eq_one he hsame]
      exact Nat.one_pos
    exact List.any_eq_true.mpr (List.countP_pos_iff.mp hpos)

theorem findIdx_lt_length (h : ListsNames entries ns) (hn : n ∈ ns) :
    entries.findIdx (Text.sameName ·.1 n) < entries.length := by
  obtain ⟨e, he, rfl⟩ := h.exists_entry hn
  exact List.findIdx_lt_length_of_exists ⟨e, he, Text.sameName_refl e.1⟩

section

variable (e : String × String)

/-- The first entry of a listed name stays the first. -/
theorem first_append (h : ListsNames entries ns) (hn : n ∈ ns) :
    ((entries ++ [e]).find? (Text.sameName ·.1 n)).map (·.1) = some n := by
  rw [List.find?_append, Option.map_or, h.first n hn, Option.some_or]

theorem findIdx_append (h : ListsNames entries ns) (hn : n ∈ ns) :
    (entries ++ [e]).findIdx (Text.sameName ·.1 n) = entries.findIdx (Text.sameName ·.1 n) := by
  rw [List.findIdx_append, if_pos (h.findIdx_lt_length hn)]

theorem ordered_append (h : ListsNames entries ns) :
    ns.Pairwise fun n n' => (entries ++ [e]).findIdx (Text.sameName ·.1 n) <
      (entries ++ [e]).findIdx (Text.sameName ·.1 n') :=
  h.ordered.imp_of_mem fun hn hn' hlt => by
    rwa [h.findIdx_append e hn, h.findIdx_append e hn']

/-- An entry whose name is listed adds no name. -/
theorem append_of_any (h : ListsNames entries ns) (hany : ns.any (Text.sameName · e.1) = true) :
    ListsNames (entries ++ [e]) ns where
  one := by
    obtain ⟨e', he', hsame⟩ := h.any_eq_true_iff.mp hany
    refine List.forall_mem_append.mpr ⟨h.one, List.forall_mem_singleton.mpr ?_⟩
    exact h.countP_eq_one he' hsame
  first _ hn := h.first_append e hn
  ordered := h.ordered_append e

/-- An entry whose name is not listed is the first of its name. -/
theorem append_of_not_any (h : ListsNames entries ns)
    (hany : ns.any (Text.sameName · e.1) = false) : ListsNames (entries ++ [e]) (ns ++ [e.1]) := by
  have hnew : ∀ e' ∈ entries, Text.sameName e'.1 e.1 = false := by
    intro e' he'
    refine Bool.eq_false_iff.mpr fun hsame => ?_
    rw [h.any_eq_true_iff.mpr ⟨e', he', hsame⟩] at hany
    cases hany
  constructor
  case one =>
    refine List.forall_mem_append.mpr ⟨fun e' he' => ?_, List.forall_mem_singleton.mpr ?_⟩
    · rw [List.countP_append, h.one e' he', List.countP_singleton, Text.sameName_symm,
        hnew e' he', if_neg Bool.false_ne_true]
    · have hnone : ns.countP (Text.sameName · e.1) = 0 :=
        List.countP_eq_zero.mpr fun n hn hsame => List.any_eq_false.mp hany n hn hsame
      rw [List.countP_append, hnone, List.countP_singleton, Text.sameName_refl, if_pos rfl]
  case first =>
    refine List.forall_mem_append.mpr ⟨fun n hn => h.first_append e hn,
      List.forall_mem_singleton.mpr ?_⟩
    have hnone : entries.find? (Text.sameName ·.1 e.1) = none :=
      List.find?_eq_none.mpr fun e' he' => by simp [hnew e' he']
    have hfound : [e].find? (Text.sameName ·.1 e.1) = some e :=
      List.find?_cons_of_pos (Text.sameName_refl e.1)
    rw [List.find?_append, hnone, Option.none_or, hfound, Option.map_some]
  case ordered =>
    refine List.pairwise_append.mpr ⟨h.ordered_append e, List.pairwise_singleton _ _,
      fun n hn => List.forall_mem_singleton.mpr ?_⟩
    have hlength : ¬entries.findIdx (Text.sameName ·.1 e.1) < entries.length := by
      intro hlt
      obtain ⟨e', he', hsame⟩ := List.findIdx_lt_length.mp hlt
      rw [hnew e' he'] at hsame
      cases hsame
    rw [h.findIdx_append e hn, List.findIdx_append, if_neg hlength]
    exact (h.findIdx_lt_length hn).trans_le (Nat.le_add_left _ _)

end

end ListsNames

theorem listsNames_names (h : Headers) : ListsNames h.entries h.names := by
  obtain ⟨entries⟩ := h
  induction entries using List.reverseRecOn with
  | nil => exact ⟨List.forall_mem_nil _, List.forall_mem_nil _, .nil⟩
  | append_singleton entries e ih =>
    change ListsNames (entries ++ [e]) (append ⟨entries⟩ e.1 e.2).names
    rw [names_append]
    split
    next hany => exact ih.append_of_any e hany
    next hany => exact ih.append_of_not_any e (Bool.eq_false_iff.mpr hany)

theorem sum_map_ite {α : Type} (p : α → Bool) (xs : List α) :
    (xs.map fun x => if p x then 1 else 0).sum = xs.countP p := by
  induction xs with
  | nil => rfl
  | cons x xs ih => rw [List.map_cons, List.sum_cons, ih, List.countP_cons, Nat.add_comm]

/-- Entries that count for exactly one name each are as many as the names have together. -/
theorem sum_map_countP {entries : List (String × String)} {names : List String}
    (h : ∀ e ∈ entries, names.countP (Text.sameName · e.1) = 1) :
    (names.map fun n => entries.countP (Text.sameName ·.1 n)).sum = entries.length := by
  induction entries with
  | nil => simp
  | cons e rest ih =>
    obtain ⟨hone, hrest⟩ := List.forall_mem_cons.mp h
    simp only [List.countP_cons, List.sum_map_add, ih hrest, sum_map_ite, Text.sameName_symm e.1,
      hone, List.length_cons]

theorem countOf_eq_countP (h : Headers) (name : String) :
    h.countOf name = h.entries.countP (Text.sameName ·.1 name) := by
  rw [countOf, getAll, List.length_map, List.countP_eq_length_filter]

theorem size_without (h : Headers) (name : String) :
    h.size = (h.without name).size + h.countOf name := by
  rw [countOf_eq_countP, size, size, without, ← List.countP_eq_length_filter, Nat.add_comm,
    List.length_eq_countP_add_countP (Text.sameName ·.1 name)]
  simp only [Bool.not_eq_true, Bool.decide_eq_false]

theorem refines_ofEdits (edits : List Edit) : Refines (ofEdits edits) edits := by
  have hgetAll (name : String) : (ofEdits edits).getAll name = Edit.written name edits := by
    rw [getAll, entries_ofEdits, Edit.map_filter_remaining]
  constructor
  case getAll => exact hgetAll
  case get? => exact fun name => congrArg List.head? (hgetAll name)
  case contains =>
    intro name
    rw [contains, Headers.get?, hgetAll, List.isSome_head?]
  case removed =>
    intro name
    rw [← hgetAll]
    exact ⟨rfl, size_without _ name⟩
  case names =>
    rw [← entries_ofEdits]
    exact listsNames_names _
  case size =>
    rw [size, ← sum_map_countP (listsNames_names _).one]
    exact congrArg List.sum (List.map_congr_left fun n _ => (countOf_eq_countP _ n).symm)

-- The first spelling goes with its entry.
example : (ofEdits [.append "A" "1", .append "b" "2", .insert "a" "3"]).names = ["b", "a"] := by
  decide

end Headers

end RestDispatch
