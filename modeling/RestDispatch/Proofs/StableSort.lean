import Mathlib.Data.List.Induction
import RestDispatch.StableSort

/-!
# Sorted lists without exchanges

A list is sorted by a strict order when nothing precedes what stands in front of it.  Two
elements are tied when neither precedes the other.  A sorted list is determined by the lists
of tied elements in it, each in its order, so whatever sorts a list and keeps these lists is
the stable sort of the library.
-/

namespace RestDispatch

variable {α : Type} {precedes : α → α → Bool}

/-- What precedes is a strict order in which being tied is transitive. -/
structure WeakOrder (precedes : α → α → Bool) : Prop where
  asymm : ∀ a b, precedes a b = true → precedes b a = false
  trans : ∀ a b c, precedes a b = false → precedes b c = false → precedes a c = false

/-- Nothing precedes what stands in front of it. -/
def InOrder (precedes : α → α → Bool) (xs : List α) : Prop :=
  xs.Pairwise fun a b => precedes b a = false

/-- Neither precedes the other. -/
def tied (precedes : α → α → Bool) (a b : α) : Bool := !precedes a b && !precedes b a

theorem tied_iff {a b : α} :
    tied precedes a b = true ↔ precedes a b = false ∧ precedes b a = false := by
  rw [tied, Bool.and_eq_true, Bool.not_eq_true', Bool.not_eq_true']

theorem stableSort_concat (xs : List α) (x : α) :
    stableSort precedes (xs ++ [x]) =
      (insertFromEnd precedes x (stableSort precedes xs).reverse).reverse := by
  rw [stableSort, stableSort, List.reverse_reverse, List.foldl_append]
  rfl

theorem insertFromEnd_congr {precedes' : α → α → Bool} {x : α} {ys : List α}
    (h : ∀ y ∈ ys, precedes x y = precedes' x y) :
    insertFromEnd precedes x ys = insertFromEnd precedes' x ys := by
  induction ys with
  | nil => rfl
  | cons y ys ih =>
    obtain ⟨hy, hys⟩ := List.forall_mem_cons.mp h
    rw [insertFromEnd, insertFromEnd, hy, ih hys]

/-- Only how its own elements compare matters to the sort of a list. -/
theorem stableSort_congr {precedes' : α → α → Bool} {xs : List α}
    (h : ∀ a ∈ xs, ∀ b ∈ xs, precedes a b = precedes' a b) :
    stableSort precedes xs = stableSort precedes' xs := by
  induction xs using List.reverseRecOn with
  | nil => rfl
  | append_singleton xs x ih =>
    have hfront (a : α) (ha : a ∈ xs) : a ∈ xs ++ [x] := List.mem_append_left _ ha
    have hlast : x ∈ xs ++ [x] := List.mem_append_right _ List.mem_cons_self
    have hsort := ih fun a ha b hb => h a (hfront a ha) b (hfront b hb)
    rw [stableSort_concat, stableSort_concat, hsort, insertFromEnd_congr fun y hy => ?_]
    rw [List.mem_reverse, (perm_stableSort precedes' xs).mem_iff] at hy
    exact h x hlast y (hfront y hy)

theorem map_insertFromEnd {β : Type} (f : β → α) (x : β) (ys : List β) :
    (insertFromEnd (fun a b => precedes (f a) (f b)) x ys).map f =
      insertFromEnd precedes (f x) (ys.map f) := by
  induction ys with
  | nil => rfl
  | cons y ys ih =>
    rw [insertFromEnd, List.map_cons, insertFromEnd]
    split
    · rw [List.map_cons, ih]
    · rfl

/-- Sorting by what a function gives sorts what it gives. -/
theorem map_stableSort {β : Type} (precedes : α → α → Bool) (f : β → α) (xs : List β) :
    (stableSort (fun a b => precedes (f a) (f b)) xs).map f =
      stableSort precedes (xs.map f) := by
  induction xs using List.reverseRecOn with
  | nil => rfl
  | append_singleton xs x ih =>
    rw [List.map_append, List.map_singleton, stableSort_concat, stableSort_concat, ← ih,
      List.map_reverse, map_insertFromEnd, List.map_reverse]

/-- Elements with greater keys come first. -/
theorem weakOrder_descending (key : α → Int) :
    WeakOrder fun a b => decide (key b < key a) where
  asymm a b hab := by
    simp only [decide_eq_true_eq, decide_eq_false_iff_not] at hab ⊢
    omega
  trans a b c hab hbc := by
    simp only [decide_eq_false_iff_not] at hab hbc ⊢
    omega

/-- Elements with smaller keys come first, where keys are compared lexicographically. -/
theorem weakOrder_ascending (key : α → List Int) :
    WeakOrder fun a b => decide (key a < key b) where
  asymm a b hab := by
    have hlt : key a < key b := of_decide_eq_true hab
    exact decide_eq_false fun hba => List.lt_irrefl _ (List.lt_trans hlt hba)
  trans a b c hab hbc := by
    have hba : ¬key a < key b := of_decide_eq_false hab
    have hcb : ¬key b < key c := of_decide_eq_false hbc
    exact decide_eq_false (List.le_trans hcb hba)

namespace WeakOrder

variable (h : WeakOrder precedes)

include h

theorem irrefl (a : α) : precedes a a = false := by
  cases haa : precedes a a with
  | false => rfl
  | true => exact haa.symm.trans (h.asymm a a haa)

theorem tied_refl (a : α) : tied precedes a a = true := tied_iff.mpr ⟨h.irrefl a, h.irrefl a⟩

theorem total (a b : α) : (!precedes b a || !precedes a b) = true := by
  cases hba : precedes b a with
  | false => rfl
  | true => rw [h.asymm b a hba, Bool.not_false, Bool.or_true]

theorem not_precedes_trans (a b c : α) (hab : (!precedes b a) = true)
    (hbc : (!precedes c b) = true) : (!precedes c a) = true := by
  rw [Bool.not_eq_true'] at hab hbc ⊢
  exact h.trans c b a hbc hab

theorem inOrder_filter_tied (x : α) (xs : List α) :
    InOrder precedes (xs.filter (tied precedes x)) := by
  refine List.pairwise_of_forall_mem_list fun a ha b hb => ?_
  have hxa := (tied_iff.mp (List.mem_filter.mp ha).2).1
  have hbx := (tied_iff.mp (List.mem_filter.mp hb).2).2
  exact h.trans b x a hbx hxa

/-- Lists with the same lists of tied elements have the same elements. -/
theorem mem_of_filter_tied {xs ys : List α}
    (htied : ∀ x, xs.filter (tied precedes x) = ys.filter (tied precedes x)) {a : α}
    (ha : a ∈ xs) : a ∈ ys := by
  have hmem : a ∈ xs.filter (tied precedes a) := List.mem_filter.mpr ⟨ha, h.tied_refl a⟩
  rw [htied a] at hmem
  exact (List.mem_filter.mp hmem).1

/-- Nothing in a sorted list precedes the first element. -/
theorem not_precedes_head {x : α} {xs : List α} (hxs : InOrder precedes (x :: xs)) {a : α}
    (ha : a ∈ x :: xs) : precedes a x = false := by
  rcases List.mem_cons.mp ha with rfl | hrest
  · exact h.irrefl a
  · exact List.rel_of_pairwise_cons hxs hrest

/-- Sorted lists with the same lists of tied elements are equal. -/
theorem eq_of_inOrder {xs ys : List α} (hxs : InOrder precedes xs) (hys : InOrder precedes ys)
    (htied : ∀ x, xs.filter (tied precedes x) = ys.filter (tied precedes x)) : xs = ys := by
  induction xs generalizing ys with
  | nil =>
    cases ys with
    | nil => rfl
    | cons y ys =>
      have hnil := h.mem_of_filter_tied (fun x => (htied x).symm) (List.mem_cons_self (a := y))
      exact absurd hnil List.not_mem_nil
  | cons x xs ih =>
    have hx : x ∈ ys := h.mem_of_filter_tied htied List.mem_cons_self
    cases ys with
    | nil => exact absurd hx List.not_mem_nil
    | cons y ys =>
      have hy : y ∈ x :: xs :=
        h.mem_of_filter_tied (fun x => (htied x).symm) List.mem_cons_self
      have hxy : tied precedes x y = true :=
        tied_iff.mpr ⟨h.not_precedes_head hys hx, h.not_precedes_head hxs hy⟩
      have hheads := htied x
      rw [List.filter_cons_of_pos (h.tied_refl x), List.filter_cons_of_pos hxy] at hheads
      obtain ⟨rfl, -⟩ := List.cons.inj hheads
      rw [ih hxs.of_cons hys.of_cons fun z => ?_]
      have htails := htied z
      rw [List.filter_cons, List.filter_cons] at htails
      split at htails
      · exact (List.cons.inj htails).2
      · exact htails

theorem filter_tied_mergeSort (xs : List α) (x : α) :
    (xs.mergeSort fun a b => !precedes b a).filter (tied precedes x) =
      xs.filter (tied precedes x) := by
  have hordered : (xs.filter (tied precedes x)).Pairwise fun a b => (!precedes b a) = true :=
    (h.inOrder_filter_tied x xs).imp fun hab => by rw [hab, Bool.not_false]
  have hkept := (List.sublist_mergeSort h.not_precedes_trans h.total hordered
    List.filter_sublist).filter (tied precedes x)
  simp only [List.filter_filter, Bool.and_self] at hkept
  have hlength := ((List.mergeSort_perm xs fun a b => !precedes b a).filter
    (tied precedes x)).length_eq
  exact (hkept.eq_of_length_le (Nat.le_of_eq hlength)).symm

/-- A sorted list with the ties of another one is its stable sort. -/
theorem eq_mergeSort {xs ys : List α} (hys : InOrder precedes ys)
    (htied : ∀ x, ys.filter (tied precedes x) = xs.filter (tied precedes x)) :
    ys = xs.mergeSort fun a b => !precedes b a := by
  refine h.eq_of_inOrder hys ?_ fun x => ?_
  · refine (List.pairwise_mergeSort h.not_precedes_trans h.total xs).imp fun hab => ?_
    exact (Bool.not_eq_true' _).mp hab
  · rw [htied x, h.filter_tied_mergeSort xs x]

/-- An element inserted from the end stops where it precedes nothing that is left. -/
theorem inOrder_insertFromEnd {ys : List α} (hys : InOrder precedes ys.reverse) (x : α) :
    InOrder precedes (insertFromEnd precedes x ys).reverse := by
  unfold InOrder at hys ⊢
  rw [List.pairwise_reverse] at hys ⊢
  induction ys with
  | nil => exact List.pairwise_singleton _ x
  | cons y ys ih =>
    rw [List.pairwise_cons] at hys
    rw [insertFromEnd]
    split
    next hxy =>
      refine List.pairwise_cons.mpr ⟨fun z hz => ?_, ih hys.2⟩
      rcases List.mem_cons.mp ((perm_insertFromEnd precedes x ys).mem_iff.mp hz) with rfl | hz
      · exact h.asymm z y hxy
      · exact hys.1 z hz
    next hxy =>
      have hxy : precedes x y = false := Bool.eq_false_iff.mpr hxy
      refine List.pairwise_cons.mpr ⟨?_, List.pairwise_cons.mpr hys⟩
      exact List.forall_mem_cons.mpr ⟨hxy, fun z hz => h.trans x y z hxy (hys.1 z hz)⟩

theorem inOrder_stableSort (xs : List α) : InOrder precedes (stableSort precedes xs) := by
  induction xs using List.reverseRecOn with
  | nil => exact List.Pairwise.nil
  | append_singleton xs x ih =>
    rw [stableSort_concat]
    exact h.inOrder_insertFromEnd (by rwa [List.reverse_reverse]) x

/-- An element is inserted behind all that it is tied with. -/
theorem filter_tied_insertFromEnd (x z : α) (ys : List α) :
    (insertFromEnd precedes x ys).filter (tied precedes z) =
      (x :: ys).filter (tied precedes z) := by
  induction ys with
  | nil => rfl
  | cons y ys ih =>
    rw [insertFromEnd]
    split
    next hxy =>
      rw [List.filter_cons, ih]
      by_cases hzy : tied precedes z y = true
      · have hzx : tied precedes z x = false := by
          refine Bool.eq_false_iff.mpr fun hzx => ?_
          rw [h.trans x z y (tied_iff.mp hzx).2 (tied_iff.mp hzy).1] at hxy
          exact Bool.noConfusion hxy
        simp [hzy, hzx]
      · simp [List.filter_cons, hzy]
    next => rfl

/-- Sorting keeps tied elements in their order. -/
theorem filter_tied_stableSort (z : α) (xs : List α) :
    (stableSort precedes xs).filter (tied precedes z) = xs.filter (tied precedes z) := by
  induction xs using List.reverseRecOn with
  | nil => rfl
  | append_singleton xs x ih =>
    rw [stableSort_concat, List.filter_reverse, h.filter_tied_insertFromEnd, ← List.filter_reverse,
      List.reverse_cons, List.reverse_reverse, List.filter_append, ih, ← List.filter_append]

section

variable {xs : List α} (hxs : InOrder precedes xs) (x : α)

include hxs

/-- An element precedes all that stand behind the first one that it precedes. -/
theorem precedes_of_mem_dropWhile {a : α} (ha : a ∈ xs.dropWhile fun b => !precedes x b) :
    precedes x a = true := by
  induction xs with
  | nil => exact absurd ha List.not_mem_nil
  | cons b xs ih =>
    rw [List.dropWhile_cons] at ha
    split at ha
    next => exact ih hxs.of_cons ha
    next hxb =>
      cases hxa : precedes x a with
      | true => rfl
      | false =>
        have hab := h.not_precedes_head hxs ha
        rw [h.trans x a b hxa hab, Bool.not_false] at hxb
        exact absurd rfl hxb

/-- Inserting an element in front of the first one that it precedes keeps a list sorted. -/
theorem inOrder_insert : InOrder precedes
    ((xs.takeWhile fun b => !precedes x b) ++ x :: xs.dropWhile fun b => !precedes x b) := by
  have hsplit : InOrder precedes
      ((xs.takeWhile fun b => !precedes x b) ++ xs.dropWhile fun b => !precedes x b) := by
    rw [List.takeWhile_append_dropWhile]
    exact hxs
  obtain ⟨hfront, hback, hcross⟩ := List.pairwise_append.mp hsplit
  refine List.pairwise_append.mpr ⟨hfront, List.pairwise_cons.mpr ⟨?_, hback⟩, ?_⟩
  · intro b hb
    exact h.asymm x b (h.precedes_of_mem_dropWhile hxs x hb)
  · intro a ha b hb
    rcases List.mem_cons.mp hb with rfl | hb
    · exact (Bool.not_eq_true' _).mp (List.all_eq_true.mp List.all_takeWhile a ha)
    · exact hcross a ha b hb

/-- It comes behind all that it is tied with. -/
theorem filter_tied_insert (z : α) :
    ((xs.takeWhile fun b => !precedes x b) ++ x :: xs.dropWhile fun b => !precedes x b).filter
      (tied precedes z) = (xs ++ [x]).filter (tied precedes z) := by
  have hsplit : xs.filter (tied precedes z) =
      (xs.takeWhile fun b => !precedes x b).filter (tied precedes z) ++
        (xs.dropWhile fun b => !precedes x b).filter (tied precedes z) := by
    rw [← List.filter_append, List.takeWhile_append_dropWhile]
  rw [List.filter_append, List.filter_append, hsplit]
  by_cases hzx : tied precedes z x = true
  · have hnone : (xs.dropWhile fun b => !precedes x b).filter (tied precedes z) = [] := by
      refine List.filter_eq_nil_iff.mpr fun b hb hzb => ?_
      have hxb := h.trans x z b (tied_iff.mp hzx).2 (tied_iff.mp hzb).1
      rw [h.precedes_of_mem_dropWhile hxs x hb] at hxb
      exact Bool.noConfusion hxb
    rw [List.filter_cons_of_pos hzx, List.filter_cons_of_pos hzx, hnone, List.append_nil]
    rfl
  · rw [List.filter_cons_of_neg hzx, List.filter_cons_of_neg hzx, List.filter_nil,
      List.append_nil]

end

end WeakOrder

/-- Sorting by descending keys keeps the elements of one key in their order. -/
theorem filter_key_stableSort (key : α → Int) (k : Int) (xs : List α) :
    (stableSort (fun a b => decide (key b < key a)) xs).filter (fun a => key a == k) =
      xs.filter fun a => key a == k := by
  by_cases hsome : ∃ x ∈ xs, key x = k
  · obtain ⟨x, -, rfl⟩ := hsome
    have htied : (fun a => key a == key x) = tied (fun a b => decide (key b < key a)) x := by
      funext a
      rw [Bool.eq_iff_iff, tied_iff, beq_iff_eq, decide_eq_false_iff_not,
        decide_eq_false_iff_not]
      omega
    rw [htied]
    exact (weakOrder_descending key).filter_tied_stableSort x xs
  · have hnone {ys : List α} (hys : ys.Perm xs) : ys.filter (fun a => key a == k) = [] :=
      List.filter_eq_nil_iff.mpr fun y hy hk => hsome ⟨y, hys.mem_iff.mp hy, beq_iff_eq.mp hk⟩
    rw [hnone (perm_stableSort _ xs), hnone (List.Perm.refl xs)]

end RestDispatch
