import RestDispatch.Proofs.Route.Alignment

/-!
# Overlap of patterns

Two patterns that can be aligned with the same parts overlap, whatever the tests of their
constraints are, and overlap does not depend on the order of the two patterns.

Both statements follow the recursion on the two sequences of segments.  For the first one a
`**` on both sides may take the same part, and then only the parts get fewer; for this reason
the induction is on the segments of both sides and the parts together.
-/

namespace RestDispatch

namespace PathSegment

theorem mayShare_comm (a b : PathSegment) : a.mayShare b = b.mayShare a := by
  cases a with
  | literal text =>
    cases b with
    | literal other => exact BEq.comm
    | _ => rfl
  | _ => cases b <;> rfl

/-- Two segments that accept one text may share a part. -/
theorem mayShare_of_accepts {a b : PathSegment} {text : String} (ha : a.accepts text = true)
    (hb : b.accepts text = true) : a.mayShare b = true := by
  cases a with
  | literal lit =>
    obtain rfl : lit = text := beq_iff_eq.mp ha
    cases b with
    | literal other => exact beq_iff_eq.mpr (beq_iff_eq.mp hb).symm
    | _ => exact hb
  | _ =>
    cases b with
    | literal lit =>
      obtain rfl : lit = text := beq_iff_eq.mp hb
      exact ha
    | _ => rfl

end PathSegment

namespace PathPattern

section

variable {a b : PathSegment} (as bs : List PathSegment)

theorem overlap_many_nil : overlap (.many :: as) [] = overlap as [] := by
  rw [overlap]

theorem overlap_many_cons :
    overlap (.many :: as) (b :: bs) = (overlap as (b :: bs) || overlap (.many :: as) bs) := by
  rw [overlap]

theorem overlap_nil_many : overlap [] (.many :: bs) = overlap [] bs := by
  rw [overlap]

theorem overlap_cons_many (ha : a ≠ .many) :
    overlap (a :: as) (.many :: bs) = (overlap (a :: as) bs || overlap as (.many :: bs)) := by
  rw [overlap]
  exact ha

theorem overlap_cons_nil (ha : a ≠ .many) : overlap (a :: as) [] = false := by
  rw [overlap]
  exact ha

theorem overlap_nil_cons (hb : b ≠ .many) : overlap [] (b :: bs) = false := by
  rw [overlap]
  exact hb

theorem overlap_cons_cons (ha : a ≠ .many) (hb : b ≠ .many) :
    overlap (a :: as) (b :: bs) = (a.mayShare b && overlap as bs) := by
  rw [overlap]
  · exact ha
  · exact hb

end

theorem overlap_comm (as bs : List PathSegment) : overlap as bs = overlap bs as := by
  match as, bs with
  | [], [] => rfl
  | [], b :: bs =>
    by_cases hb : b = .many
    · rw [hb, overlap_nil_many, overlap_many_nil, overlap_comm]
    · rw [overlap_nil_cons bs hb, overlap_cons_nil bs hb]
  | a :: as, [] =>
    by_cases ha : a = .many
    · rw [ha, overlap_nil_many, overlap_many_nil, overlap_comm]
    · rw [overlap_nil_cons as ha, overlap_cons_nil as ha]
  | a :: as, b :: bs =>
    by_cases ha : a = .many
    · rw [ha, overlap_many_cons, overlap_comm as, overlap_comm (.many :: as)]
      by_cases hb : b = .many
      · rw [hb, overlap_many_cons, Bool.or_comm]
      · rw [overlap_cons_many bs as hb]
    · by_cases hb : b = .many
      · rw [hb, overlap_cons_many as bs ha, overlap_many_cons, overlap_comm (a :: as),
          overlap_comm as]
      · rw [overlap_cons_cons as bs ha hb, overlap_cons_cons bs as hb ha, overlap_comm as,
          PathSegment.mayShare_comm]
termination_by as.length + bs.length

section

variable {segments : List PathSegment} {parts : List PathPart} {shares : List (List PathPart)}

theorem alignment_many_nil (h : Alignment (.many :: segments) [] shares) :
    ∃ others, Alignment segments [] others := by
  obtain ⟨taken, rest, others, hparts, -, hrest⟩ := alignment_many_iff.mp h
  obtain ⟨-, rfl⟩ := List.append_eq_nil_iff.mp hparts.symm
  exact ⟨others, hrest⟩

/-- The first part is left to the segments behind a `**`, or taken by it. -/
theorem alignment_many_step {part : PathPart}
    (h : Alignment (.many :: segments) (part :: parts) shares) :
    (∃ others, Alignment segments (part :: parts) others) ∨
      ∃ others, Alignment (.many :: segments) parts others := by
  obtain ⟨taken, rest, others, hparts, -, hrest⟩ := alignment_many_iff.mp h
  match taken with
  | [] =>
    obtain rfl : part :: parts = rest := hparts
    exact .inl ⟨others, hrest⟩
  | _ :: taken =>
    obtain ⟨-, rfl⟩ := List.cons.inj hparts
    exact .inr ⟨taken :: others, .many taken hrest⟩

end

/-- Sequences of segments that can be aligned with the same parts overlap. -/
theorem overlap_of_alignment {as bs : List PathSegment} {parts : List PathPart}
    {shares others : List (List PathPart)} (hshares : Alignment as parts shares)
    (hothers : Alignment bs parts others) : overlap as bs = true := by
  induction hn : as.length + bs.length + parts.length using Nat.strongRecOn
    generalizing as bs parts shares others with
  | ind n ih =>
  match as, bs with
  | [], [] => rw [overlap]
  | [], b :: bs =>
    cases hshares
    by_cases hb : b = .many
    · subst hb
      obtain ⟨others, hrest⟩ := alignment_many_nil hothers
      rw [overlap_nil_many]
      exact ih _ (by simp_all only [List.length_cons]; omega) .done hrest rfl
    · obtain ⟨part, rest, others, hparts, -⟩ := (alignment_cons_iff hb).mp hothers
      exact absurd hparts.symm (List.cons_ne_nil part rest)
  | a :: as, [] =>
    cases hothers
    by_cases ha : a = .many
    · subst ha
      obtain ⟨shares, hrest⟩ := alignment_many_nil hshares
      rw [overlap_many_nil]
      exact ih _ (by simp_all only [List.length_cons]; omega) hrest .done rfl
    · obtain ⟨part, rest, shares, hparts, -⟩ := (alignment_cons_iff ha).mp hshares
      exact absurd hparts.symm (List.cons_ne_nil part rest)
  | a :: as, b :: bs =>
    simp only [List.length_cons] at hn
    by_cases ha : a = .many
    · subst ha
      cases parts with
      | nil =>
        obtain ⟨shares, hrest⟩ := alignment_many_nil hshares
        have hbehind := ih _ (by simp only [List.length_cons]; omega) hrest hothers rfl
        rw [overlap_many_cons, hbehind, Bool.true_or]
      | cons part parts =>
        simp only [List.length_cons] at hn
        rcases alignment_many_step hshares with ⟨shares, hrest⟩ | ⟨shares, hskip⟩
        · have hbehind := ih _ (by simp only [List.length_cons]; omega) hrest hothers rfl
          rw [overlap_many_cons, hbehind, Bool.true_or]
        · by_cases hb : b = .many
          · subst hb
            rcases alignment_many_step hothers with ⟨others, hrest⟩ | ⟨others, hskips⟩
            · have hbehind := ih _ (by simp only [List.length_cons]; omega) hshares hrest rfl
              rw [overlap_many_cons, hbehind, Bool.or_true]
            · exact ih _ (by simp only [List.length_cons]; omega) hskip hskips rfl
          · obtain ⟨_, _, others, hparts, -, -, hrest⟩ := (alignment_cons_iff hb).mp hothers
            obtain ⟨rfl, rfl⟩ := List.cons.inj hparts
            have hbehind := ih _ (by simp only [List.length_cons]; omega) hskip hrest rfl
            rw [overlap_many_cons, hbehind, Bool.or_true]
    · obtain ⟨part, parts, shares, rfl, -, haccepts, halign⟩ :=
        (alignment_cons_iff ha).mp hshares
      simp only [List.length_cons] at hn
      by_cases hb : b = .many
      · subst hb
        rcases alignment_many_step hothers with ⟨others, hrest⟩ | ⟨others, hskip⟩
        · have hbehind := ih _ (by simp only [List.length_cons]; omega) hshares hrest rfl
          rw [overlap_cons_many as bs ha, hbehind, Bool.true_or]
        · have hbehind := ih _ (by simp only [List.length_cons]; omega) halign hskip rfl
          rw [overlap_cons_many as bs ha, hbehind, Bool.or_true]
      · obtain ⟨_, _, others, hparts, -, hothers, hrest⟩ := (alignment_cons_iff hb).mp hothers
        obtain ⟨rfl, rfl⟩ := List.cons.inj hparts
        have hbehind := ih _ (by omega) halign hrest rfl
        rw [overlap_cons_cons as bs ha hb, hbehind,
          PathSegment.mayShare_of_accepts haccepts hothers, Bool.and_self]

theorem mayOverlap_comm (p q : PathPattern) : p.mayOverlap q = q.mayOverlap p :=
  overlap_comm p.segments q.segments

/-- A pattern that matches a path can be aligned with its parts. -/
theorem alignment_of_matchPath {p : PathPattern} {path : String} {matrix : Bool}
    {m : PathMatch} (h : p.matchPath? path matrix = some m) :
    ∃ shares, Alignment p.segments (cutPath matrix path) shares := by
  unfold matchPath? at h
  split at h
  next found hfound => exact (search_iff []).mp (congrArg Prod.fst hfound)
  next => simp at h

/-- Patterns that match one path overlap. -/
theorem mayOverlap_of_matchPath {p q : PathPattern} {path : String} {matrix : Bool}
    {m n : PathMatch} (hp : p.matchPath? path matrix = some m)
    (hq : q.matchPath? path matrix = some n) : p.mayOverlap q = true := by
  obtain ⟨shares, hshares⟩ := alignment_of_matchPath hp
  obtain ⟨others, hothers⟩ := alignment_of_matchPath hq
  exact overlap_of_alignment hshares hothers

end PathPattern

end RestDispatch
