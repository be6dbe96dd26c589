import RestDispatch.Dictionary

/-!
# Looking up what was inserted

A dictionary whose keys strictly increase is determined by its values.  The lemmas here say
what a modification does to the value of each key and that it keeps the keys increasing, and
that what a hash map lists in an order of its own makes one dictionary.
-/

namespace RestDispatch

namespace Dictionary

variable {α : Type}

/-- The keys strictly increase. -/
def Sorted (d : Dictionary α) : Prop := d.Pairwise fun a b => a.1 < b.1

theorem sorted_nil : Sorted ([] : Dictionary α) := List.Pairwise.nil

theorem Sorted.nodup {d : Dictionary α} (hd : Sorted d) : (d.map Prod.fst).Nodup := by
  rw [List.Nodup, List.pairwise_map]
  exact hd.imp fun hlt => String.ne_of_lt hlt

/-- A pair whose key is smaller than the first key is smaller than every pair. -/
theorem Sorted.lt_of_lt_head {key k : String} {v : α} {rest : Dictionary α}
    (hd : Sorted ((k, v) :: rest)) (hkey : key < k) : ∀ entry ∈ (k, v) :: rest, key < entry.1 := by
  intro entry hentry
  rcases List.mem_cons.mp hentry with rfl | hrest
  · exact hkey
  · exact String.lt_trans hkey (List.rel_of_pairwise_cons hd hrest)

theorem lt_of_ne_of_not_lt {a b : String} (hne : a ≠ b) (hlt : ¬a < b) : b < a := by
  refine Decidable.byContradiction fun hle => hne ?_
  exact String.le_antisymm (String.not_lt.mp hle) (String.not_lt.mp hlt)

@[simp] theorem get?_nil (key : String) : get? ([] : Dictionary α) key = none := rfl

theorem get?_cons (k : String) (v : α) (rest : Dictionary α) (key : String) :
    get? ((k, v) :: rest) key = if key = k then some v else get? rest key := by
  unfold get?
  rw [List.lookup_cons]
  by_cases h : key = k
  · simp [h]
  · simp [h, beq_eq_false_iff_ne.mpr h]

/-- Where no key comes twice, every pair gives its key its value. -/
theorem get?_of_mem {d : Dictionary α} (hd : (d.map Prod.fst).Nodup) {key : String} {value : α}
    (hmem : (key, value) ∈ d) : d.get? key = some value := by
  induction d with
  | nil => exact absurd hmem List.not_mem_nil
  | cons entry rest ih =>
    rw [List.map_cons, List.nodup_cons] at hd
    rw [get?_cons]
    rcases List.mem_cons.mp hmem with rfl | hrest
    · exact if_pos rfl
    · have hne : key ≠ entry.1 := by
        intro heq
        exact hd.1 (List.mem_map.mpr ⟨_, hrest, heq⟩)
      rw [if_neg hne]
      exact ih hd.2 hrest

theorem mem_of_get? {d : Dictionary α} {key : String} {value : α}
    (h : d.get? key = some value) : (key, value) ∈ d := by
  induction d with
  | nil => exact absurd h.symm (Option.some_ne_none value)
  | cons entry rest ih =>
    rw [get?_cons] at h
    split at h
    next heq =>
      obtain rfl := Option.some.inj h
      rw [heq]
      exact List.mem_cons_self
    next => exact List.mem_cons_of_mem _ (ih h)

/-- A smaller key than all keys has no value. -/
theorem get?_eq_none_of_lt {d : Dictionary α} {key : String} (hd : ∀ entry ∈ d, key < entry.1) :
    d.get? key = none := by
  induction d with
  | nil => rfl
  | cons entry rest ih =>
    have hne : key ≠ entry.1 := by
      intro heq
      exact String.lt_irrefl key (heq ▸ hd entry List.mem_cons_self)
    rw [get?_cons, if_neg hne]
    exact ih fun other hother => hd other (List.mem_cons_of_mem _ hother)

theorem get?_modify_ne {key other : String} (h : other ≠ key) (f : Option α → α)
    (d : Dictionary α) : (d.modify key f).get? other = d.get? other := by
  induction d with
  | nil => rw [modify, get?_cons, if_neg h]
  | cons entry rest ih =>
    obtain ⟨k, v⟩ := entry
    unfold modify
    split
    next heq =>
      subst heq
      rw [get?_cons, get?_cons, if_neg h, if_neg h]
    next =>
      split
      · rw [get?_cons, if_neg h]
      · rw [get?_cons, get?_cons, ih]

theorem get?_modify_self {d : Dictionary α} (hd : Sorted d) (key : String)
    (f : Option α → α) : (d.modify key f).get? key = some (f (d.get? key)) := by
  induction d with
  | nil => rw [modify, get?_cons, if_pos rfl, get?_nil]
  | cons entry rest ih =>
    obtain ⟨k, v⟩ := entry
    unfold modify
    split
    next heq =>
      subst heq
      rw [get?_cons, get?_cons, if_pos rfl, if_pos rfl]
    next hne =>
      split
      next hlt =>
        rw [get?_cons, if_pos rfl, get?_eq_none_of_lt (Sorted.lt_of_lt_head hd hlt)]
      next => rw [get?_cons, get?_cons, if_neg hne, if_neg hne, ih hd.of_cons]

/-- What a modification leaves was there before, or is the key with its new value. -/
theorem forall_mem_modify {P : String × α → Prop} {key : String} {f : Option α → α}
    {d : Dictionary α} (hkey : ∀ old, P (key, f old)) (hd : ∀ entry ∈ d, P entry) :
    ∀ entry ∈ d.modify key f, P entry := by
  induction d with
  | nil => simpa [modify] using hkey none
  | cons entry rest ih =>
    obtain ⟨k, v⟩ := entry
    rw [List.forall_mem_cons] at hd
    unfold modify
    split
    next heq =>
      subst heq
      exact List.forall_mem_cons.mpr ⟨hkey (some v), hd.2⟩
    next =>
      split
      · exact List.forall_mem_cons.mpr ⟨hkey none, List.forall_mem_cons.mpr hd⟩
      · exact List.forall_mem_cons.mpr ⟨hd.1, ih hd.2⟩

theorem Sorted.modify {d : Dictionary α} (hd : Sorted d) (key : String) (f : Option α → α) :
    Sorted (d.modify key f) := by
  induction d with
  | nil => exact List.pairwise_singleton _ _
  | cons entry rest ih =>
    obtain ⟨k, v⟩ := entry
    unfold Dictionary.modify
    split
    next heq =>
      subst heq
      exact List.pairwise_cons.mpr (List.pairwise_cons.mp hd)
    next hne =>
      split
      next hlt => exact List.pairwise_cons.mpr ⟨Sorted.lt_of_lt_head hd hlt, hd⟩
      next hlt =>
        have hbehind := List.pairwise_cons.mp hd
        refine List.pairwise_cons.mpr ⟨?_, ih hbehind.2⟩
        exact forall_mem_modify (fun _ => lt_of_ne_of_not_lt hne hlt) hbehind.1

theorem get?_insert {d : Dictionary α} (hd : Sorted d) (key : String) (value : α)
    (other : String) :
    (d.insert key value).get? other = if other = key then some value else d.get? other := by
  split
  next h =>
    subst h
    exact get?_modify_self hd other _
  next h => exact get?_modify_ne h _ d

/-- What was inserted is found, in whatever order the keys are. -/
theorem get?_insert_self (d : Dictionary α) (key : String) (value : α) :
    (d.insert key value).get? key = some value := by
  unfold insert
  induction d with
  | nil => rw [modify, get?_cons, if_pos rfl]
  | cons entry rest ih =>
    unfold modify
    split
    next heq => rw [get?_cons, if_pos heq]
    next hne =>
      split
      · rw [get?_cons, if_pos rfl]
      · rw [get?_cons, if_neg hne, ih]

theorem get?_erase_self (d : Dictionary α) (key : String) : (d.erase key).get? key = none := by
  induction d with
  | nil => rfl
  | cons entry rest ih =>
    unfold erase at ih ⊢
    by_cases h : key = entry.1
    · rw [List.filter_cons_of_neg (by simp [h]), ih]
    · rw [List.filter_cons_of_pos (by simp [Ne.symm h]), get?_cons, if_neg h, ih]

theorem Sorted.erase {d : Dictionary α} (hd : Sorted d) (key : String) : Sorted (d.erase key) :=
  List.Pairwise.filter _ hd

theorem Sorted.insert {d : Dictionary α} (hd : Sorted d) (key : String) (value : α) :
    Sorted (d.insert key value) := hd.modify key _

/-- The first key of a dictionary is not behind the first key of another with its values. -/
theorem not_lt_head {k k' : String} {v v' : α} {rest rest' : Dictionary α}
    (hd' : Sorted ((k', v') :: rest'))
    (h : ∀ key, get? ((k, v) :: rest) key = get? ((k', v') :: rest') key) : ¬k < k' := by
  intro hlt
  have hnone := get?_eq_none_of_lt (Sorted.lt_of_lt_head hd' hlt)
  rw [← h k, get?_cons, if_pos rfl] at hnone
  exact Option.some_ne_none v hnone

/-- Dictionaries that give every key the same value are equal. -/
theorem Sorted.ext {d d' : Dictionary α} (hd : Sorted d) (hd' : Sorted d')
    (h : ∀ key, d.get? key = d'.get? key) : d = d' := by
  induction d generalizing d' with
  | nil =>
    cases d' with
    | nil => rfl
    | cons entry rest' =>
      have hnone := h entry.1
      rw [get?_cons, if_pos rfl, get?_nil] at hnone
      exact absurd hnone.symm (Option.some_ne_none _)
  | cons entry rest ih =>
    obtain ⟨k, v⟩ := entry
    cases d' with
    | nil =>
      have hsome := h k
      rw [get?_cons, if_pos rfl, get?_nil] at hsome
      exact absurd hsome (Option.some_ne_none v)
    | cons entry' rest' =>
      obtain ⟨k', v'⟩ := entry'
      have hkey : k = k' :=
        String.le_antisymm (String.not_lt.mp (not_lt_head hd fun key => (h key).symm))
          (String.not_lt.mp (not_lt_head hd' h))
      subst hkey
      have hvalue := h k
      rw [get?_cons, get?_cons, if_pos rfl, if_pos rfl] at hvalue
      obtain rfl := Option.some.inj hvalue
      refine congrArg _ (ih hd.of_cons hd'.of_cons fun key => ?_)
      by_cases hkey : key = k
      · -- Behind its pair, the key has no value in either.
        subst hkey
        rw [get?_eq_none_of_lt fun _ => List.rel_of_pairwise_cons hd,
          get?_eq_none_of_lt fun _ => List.rel_of_pairwise_cons hd']
      · have hrest := h key
        rwa [get?_cons, get?_cons, if_neg hkey, if_neg hkey] at hrest

/-- A key greater than all keys is put behind them. -/
theorem insert_of_forall_lt {d : Dictionary α} {key : String} (hd : ∀ entry ∈ d, entry.1 < key)
    (value : α) : d.insert key value = d ++ [(key, value)] := by
  unfold insert
  induction d with
  | nil => rfl
  | cons entry rest ih =>
    rw [List.forall_mem_cons] at hd
    have hne : key ≠ entry.1 := fun heq => String.lt_irrefl key (heq ▸ hd.1)
    have hlt : ¬key < entry.1 := fun hlt => String.lt_irrefl key (String.lt_trans hlt hd.1)
    rw [modify, if_neg hne, if_neg hlt, ih hd.2, List.cons_append]

/-- Inserting pairs in the order of their keys lists them. -/
theorem foldl_insert_of_sorted {β : Type} (value : String × β → α) {pairs : Dictionary β}
    (hpairs : Sorted pairs) {d : Dictionary α} (hd : ∀ entry ∈ d, ∀ pair ∈ pairs, entry.1 < pair.1) :
    pairs.foldl (fun d pair => d.insert pair.1 (value pair)) d =
      d ++ pairs.map fun pair => (pair.1, value pair) := by
  induction pairs generalizing d with
  | nil => simp
  | cons pair pairs ih =>
    have hfront : ∀ entry ∈ d, entry.1 < pair.1 := by
      intro entry hentry
      exact hd entry hentry pair List.mem_cons_self
    have hinserted := insert_of_forall_lt hfront (value pair)
    have hbehind : ∀ entry ∈ d ++ [(pair.1, value pair)], ∀ other ∈ pairs,
        entry.1 < other.1 := by
      intro entry hentry other hother
      rw [List.mem_append, List.mem_singleton] at hentry
      cases hentry with
      | inl hmem => exact hd entry hmem other (List.mem_cons_of_mem _ hother)
      | inr heq =>
        rw [heq]
        exact List.rel_of_pairwise_cons hpairs hother
    rw [List.foldl_cons, hinserted, ih hpairs.of_cons hbehind, List.map_cons, List.append_assoc,
      List.singleton_append]

theorem Sorted.foldl_insert {β : Type} (entry : β → String × α) (pairs : List β)
    {d : Dictionary α} (hd : Sorted d) :
    Sorted (pairs.foldl (fun d p => d.insert (entry p).1 (entry p).2) d) := by
  induction pairs generalizing d with
  | nil => exact hd
  | cons p pairs ih => exact ih (hd.insert _ _)

/-- Inserting pairs of distinct keys gives each key the value it is paired with. -/
theorem get?_foldl_insert {β : Type} (entry : β → String × α) {pairs : List β}
    (hpairs : (pairs.map fun p => (entry p).1).Nodup) {d : Dictionary α} (hd : Sorted d)
    (key : String) (value : α) :
    (pairs.foldl (fun d p => d.insert (entry p).1 (entry p).2) d).get? key = some value ↔
      (∃ p ∈ pairs, entry p = (key, value)) ∨
        (∀ p ∈ pairs, (entry p).1 ≠ key) ∧ d.get? key = some value := by
  induction pairs generalizing d with
  | nil => simp
  | cons p pairs ih =>
    rw [List.map_cons, List.nodup_cons] at hpairs
    have hfresh : ∀ q ∈ pairs, (entry q).1 ≠ (entry p).1 := by
      intro q hq heq
      exact hpairs.1 (List.mem_map.mpr ⟨q, hq, heq⟩)
    rw [List.foldl_cons, ih hpairs.2 (hd.insert _ _), get?_insert hd]
    by_cases hkey : key = (entry p).1
    · subst hkey
      grind
    · grind

theorem ofPairs_eq (pairs : List (String × α)) :
    ofPairs pairs = pairs.foldl (fun d p => Dictionary.insert d p.1 p.2) [] := rfl

/-- Pairs of distinct keys make one dictionary, in whatever order they are inserted. -/
theorem ofPairs_perm {pairs pairs' : List (String × α)} (h : pairs.Perm pairs')
    (hpairs : (pairs.map Prod.fst).Nodup) : ofPairs pairs = ofPairs pairs' := by
  have hpairs' : (pairs'.map Prod.fst).Nodup := (h.map Prod.fst).nodup_iff.mp hpairs
  refine Sorted.ext (sorted_nil.foldl_insert id pairs) (sorted_nil.foldl_insert id pairs')
    fun key => Option.ext fun value => ?_
  have hleft := get?_foldl_insert id hpairs sorted_nil key value
  have hright := get?_foldl_insert id hpairs' sorted_nil key value
  simp only [id, get?_nil, reduceCtorEq, and_false, or_false, exists_eq_right] at hleft hright
  rw [ofPairs_eq, ofPairs_eq, hleft, hright, h.mem_iff]

theorem perm_listed (d : Dictionary α) (order : KeyOrder) : (d.listed order).Perm d :=
  perm_stableSort _ d

end Dictionary

end RestDispatch
