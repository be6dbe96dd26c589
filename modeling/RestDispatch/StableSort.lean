/-!
# Stable sorting

Tables and preference lists are kept sorted while equal entries stay in the order in
which they came.  Elements are inserted one after the other from the left; each moves
towards the front past the elements it strictly precedes.
-/

namespace RestDispatch

variable {α : Type}

/-- Insert behind the first element, counted from the end, that `x` does not precede.
The list is given last element first. -/
def insertFromEnd (precedes : α → α → Bool) (x : α) : List α → List α
  | [] => [x]
  | y :: rest => if precedes x y then y :: insertFromEnd precedes x rest else x :: y :: rest

/-- Sort by a strict order; elements neither of which precedes the other keep their
order. -/
def stableSort (precedes : α → α → Bool) (xs : List α) : List α :=
  (xs.foldl (fun sorted x => insertFromEnd precedes x sorted) []).reverse

theorem perm_insertFromEnd (precedes : α → α → Bool) (x : α) (xs : List α) :
    (insertFromEnd precedes x xs).Perm (x :: xs) := by
  induction xs with
  | nil => exact List.Perm.refl _
  | cons y rest ih =>
    unfold insertFromEnd
    split
    · exact (List.Perm.cons y ih).trans (List.Perm.swap x y rest)
    · exact List.Perm.refl _

theorem perm_stableSort (precedes : α → α → Bool) (xs : List α) :
    (stableSort precedes xs).Perm xs := by
  have h (sorted : List α) :
      (xs.foldl (fun sorted x => insertFromEnd precedes x sorted) sorted).Perm
        (xs ++ sorted) := by
    induction xs generalizing sorted with
    | nil => exact List.Perm.refl _
    | cons x xs ih =>
      refine (ih _).trans ?_
      refine (List.Perm.append_left xs (perm_insertFromEnd precedes x sorted)).trans ?_
      simp [List.perm_middle]
  simpa [stableSort] using (List.reverse_perm _).trans (h [])

end RestDispatch
