import RestDispatch.Route.Pattern

/-!
# Alignments of patterns with paths

An alignment gives every segment of a pattern its share of the parts of a path: a literal
exactly one equal part, a variable exactly one part that its constraint accepts, `*` exactly
one part, and `**` any number of parts.  The shares are in the order of the segments, and
nothing is left over.

Of several alignments a search finds the one in which the `**` segments take the fewest
parts, the first of them before the others.  The main statements are that the search succeeds
exactly when there is an alignment, and that it then has added to the bindings it was given
what the shortest alignment gives to the variables, and nothing of what failed attempts bound.
-/

namespace RestDispatch

namespace PathPattern

/-- The share of each segment in the parts of a path. -/
inductive Alignment : List PathSegment → List PathPart → List (List PathPart) → Prop
  | done : Alignment [] [] []
  | literal {segments : List PathSegment} {parts : List PathPart}
      {shares : List (List PathPart)} {text : String} {part : PathPart} :
      part.text = text → Alignment segments parts shares →
      Alignment (.literal text :: segments) (part :: parts) ([part] :: shares)
  | capture {segments : List PathSegment} {parts : List PathPart}
      {shares : List (List PathPart)} {name : String} {constraint : Option Constraint}
      {part : PathPart} : (∀ c ∈ constraint, c.accepts part.text = true) →
      Alignment segments parts shares →
      Alignment (.capture name constraint :: segments) (part :: parts) ([part] :: shares)
  | one {segments : List PathSegment} {parts : List PathPart}
      {shares : List (List PathPart)} {part : PathPart} : Alignment segments parts shares →
      Alignment (.one :: segments) (part :: parts) ([part] :: shares)
  | many {segments : List PathSegment} {parts : List PathPart}
      {shares : List (List PathPart)} (taken : List PathPart) :
      Alignment segments parts shares →
      Alignment (.many :: segments) (taken ++ parts) (taken :: shares)

/-- How many parts each `**` takes. -/
def skips : List PathSegment → List (List PathPart) → List Nat
  | .many :: segments, taken :: shares => taken.length :: skips segments shares
  | _ :: segments, _ :: shares => skips segments shares
  | _, _ => []

/-- Which variable takes which part. -/
def captures : List PathSegment → List (List PathPart) → Bindings
  | .capture name _ :: segments, [part] :: shares => (name, part) :: captures segments shares
  | _ :: segments, _ :: shares => captures segments shares
  | _, _ => []

/-- An alignment in which the `**` segments, from left to right, each take as few parts as
they can. -/
structure Shortest (segments : List PathSegment) (parts : List PathPart)
    (shares : List (List PathPart)) : Prop where
  aligned : Alignment segments parts shares
  least : ∀ others, Alignment segments parts others →
    ¬List.Lex (· < ·) (skips segments others) (skips segments shares)

section

variable {segment : PathSegment} {segments : List PathSegment}

/-- Every segment but `**` takes exactly one part, which it accepts. -/
theorem alignment_cons_iff (hs : segment ≠ .many) {parts : List PathPart}
    {shares : List (List PathPart)} :
    Alignment (segment :: segments) parts shares ↔
      ∃ part rest others, parts = part :: rest ∧ shares = [part] :: others ∧
        segment.accepts part.text = true ∧ Alignment segments rest others := by
  constructor
  · intro h
    cases h with
    | @literal _ rest others text part htext h =>
      exact ⟨part, rest, others, rfl, rfl, beq_iff_eq.mpr htext.symm, h⟩
    | @capture _ rest others name constraint part hc h =>
      exact ⟨part, rest, others, rfl, rfl, (Option.all_eq_true ..).mpr hc, h⟩
    | @one _ rest others part h => exact ⟨part, rest, others, rfl, rfl, rfl, h⟩
    | many taken h => exact absurd rfl hs
  · rintro ⟨part, rest, others, rfl, rfl, haccepts, h⟩
    match segment with
    | .literal text => exact .literal (beq_iff_eq.mp haccepts).symm h
    | .capture name constraint =>
      exact .capture ((Option.all_eq_true ..).mp haccepts) h
    | .one => exact .one h
    | .many => exact absurd rfl hs

theorem alignment_many_iff {parts : List PathPart} {shares : List (List PathPart)} :
    Alignment (.many :: segments) parts shares ↔
      ∃ taken rest others, parts = taken ++ rest ∧ shares = taken :: others ∧
        Alignment segments rest others := by
  constructor
  · rintro (_ | _ | _ | _ | ⟨taken, h⟩)
    exact ⟨taken, _, _, rfl, rfl, h⟩
  · rintro ⟨taken, rest, others, rfl, rfl, h⟩
    exact .many taken h

theorem search_cons (hs : segment ≠ .many) (part : PathPart) (parts : List PathPart)
    (bindings : Bindings) :
    search (segment :: segments) (part :: parts) bindings =
      if segment.accepts part.text then
        search segments parts
          (bindings ++ (segment.name?.map fun name => (name, part)).toList)
      else (false, bindings) := by
  cases segment with
  | many => exact absurd rfl hs
  | _ => rfl

theorem search_cons_nil (hs : segment ≠ .many) (bindings : Bindings) :
    search (segment :: segments) [] bindings = (false, bindings) := by
  cases segment with
  | many => exact absurd rfl hs
  | _ => rfl

theorem skips_cons (hs : segment ≠ .many) (share : List PathPart)
    (shares : List (List PathPart)) :
    skips (segment :: segments) (share :: shares) = skips segments shares := by
  cases segment with
  | many => exact absurd rfl hs
  | _ => rfl

theorem captures_cons (hs : segment ≠ .many) (part : PathPart) (shares : List (List PathPart)) :
    captures (segment :: segments) ([part] :: shares) =
      (segment.name?.map fun name => (name, part)).toList ++ captures segments shares := by
  cases segment with
  | many => exact absurd rfl hs
  | _ => rfl

end

/-- A search keeps the bindings it was given, and only adds behind them. -/
def Extends (attempt : List PathPart → Bindings → Bool × Bindings) : Prop :=
  ∀ parts bindings, bindings <+: (attempt parts bindings).2

section

variable {attempt : List PathPart → Bindings → Bool × Bindings} {parts : List PathPart}
  {bindings : Bindings}

/-- Dropping what a failed attempt bound restores the bindings it was given. -/
theorem Extends.take_length (hext : Extends attempt) {result : Bool × Bindings}
    (hresult : attempt parts bindings = result) : result.2.take bindings.length = bindings := by
  obtain ⟨added, hadded⟩ := hext parts bindings
  rw [← hresult, ← hadded, List.take_left]

/-- A successful search behind skipped parts is the attempt behind the fewest of them. -/
theorem searchBehind_true (hext : Extends attempt) {found : Bindings}
    (hfound : searchBehind attempt bindings parts = (true, found)) :
    ∃ taken rest, parts = taken ++ rest ∧ attempt rest bindings = (true, found) ∧
      ∀ less behind, parts = less ++ behind → less.length < taken.length →
        (attempt behind bindings).1 = false := by
  induction parts with
  | nil =>
    unfold searchBehind at hfound
    split at hfound
    next hrun => exact ⟨[], [], rfl, hrun.trans hfound, by simp⟩
    next => simp at hfound
  | cons part parts ih =>
    unfold searchBehind at hfound
    split at hfound
    next hrun => exact ⟨[], part :: parts, rfl, hrun.trans hfound, by simp⟩
    next left hrun =>
      rw [hext.take_length hrun] at hfound
      obtain ⟨taken, rest, rfl, hrest, hless⟩ := ih hfound
      refine ⟨part :: taken, rest, rfl, hrest, ?_⟩
      intro less behind heq hlt
      match less with
      | [] =>
        obtain rfl : part :: (taken ++ rest) = behind := heq
        rw [hrun]
      | _ :: less =>
        simp only [List.cons_append, List.cons.injEq] at heq
        exact hless less behind heq.2 (by simpa using hlt)

/-- A search behind skipped parts fails when every attempt does, and restores the bindings. -/
theorem searchBehind_false (hext : Extends attempt) {left : Bindings}
    (hfailed : searchBehind attempt bindings parts = (false, left)) :
    left = bindings ∧ ∀ taken rest, parts = taken ++ rest →
      (attempt rest bindings).1 = false := by
  induction parts with
  | nil =>
    unfold searchBehind at hfailed
    split at hfailed
    next => simp at hfailed
    next left hrun =>
      rw [hext.take_length hrun] at hfailed
      refine ⟨by simpa using hfailed.symm, ?_⟩
      intro taken rest heq
      obtain ⟨-, rfl⟩ := List.append_eq_nil_iff.mp heq.symm
      rw [hrun]
  | cons part parts ih =>
    unfold searchBehind at hfailed
    split at hfailed
    next => simp at hfailed
    next left hrun =>
      rw [hext.take_length hrun] at hfailed
      refine ⟨(ih hfailed).1, ?_⟩
      intro taken rest heq
      match taken with
      | [] =>
        obtain rfl : part :: parts = rest := heq
        rw [hrun]
      | _ :: taken =>
        simp only [List.cons_append, List.cons.injEq] at heq
        exact (ih hfailed).2 taken rest heq.2

end

theorem searchBehind_extends {attempt : List PathPart → Bindings → Bool × Bindings}
    (hext : Extends attempt) : Extends fun parts bindings =>
      searchBehind attempt bindings parts := by
  intro parts bindings
  change bindings <+: (searchBehind attempt bindings parts).2
  rcases hrun : searchBehind attempt bindings parts with ⟨_ | _, found⟩
  · simpa only [(searchBehind_false hext hrun).1] using List.prefix_refl bindings
  · obtain ⟨_, rest, _, hrest, _⟩ := searchBehind_true hext hrun
    simpa only [hrest] using hext rest bindings

theorem search_extends (segments : List PathSegment) : Extends (search segments) := by
  induction segments with
  | nil => exact fun parts bindings => List.prefix_refl bindings
  | cons segment segments ih =>
    by_cases hs : segment = .many
    · subst hs
      exact searchBehind_extends ih
    · intro parts bindings
      match parts with
      | [] => simpa only [search_cons_nil hs] using List.prefix_refl bindings
      | part :: parts =>
        rw [search_cons hs]
        split
        · exact (List.prefix_append _ _).trans (ih parts _)
        · exact List.prefix_refl bindings

/-- A failed search shows that there is no alignment. -/
theorem not_alignment_of_search {segments : List PathSegment} {parts : List PathPart}
    {bindings : Bindings} (hfailed : (search segments parts bindings).1 = false)
    (shares : List (List PathPart)) : ¬Alignment segments parts shares := by
  induction segments generalizing parts bindings shares with
  | nil =>
    rintro ⟨⟩
    simp [search] at hfailed
  | cons segment segments ih =>
    by_cases hs : segment = .many
    · subst hs
      rw [alignment_many_iff]
      rintro ⟨taken, rest, others, hparts, -, halign⟩
      exact ih ((searchBehind_false (search_extends segments) (Prod.ext hfailed rfl)).2
        taken rest hparts) others halign
    · rw [alignment_cons_iff hs]
      rintro ⟨part, rest, others, rfl, -, haccepts, halign⟩
      rw [search_cons hs, if_pos haccepts] at hfailed
      exact ih hfailed others halign

/-- An alignment is determined by the numbers of parts that the `**` segments take. -/
theorem Alignment.eq_of_skips {segments : List PathSegment} {parts : List PathPart}
    {shares others : List (List PathPart)} (hshares : Alignment segments parts shares)
    (hothers : Alignment segments parts others)
    (hskips : skips segments shares = skips segments others) : shares = others := by
  induction segments generalizing parts shares others with
  | nil =>
    cases hshares
    cases hothers
    rfl
  | cons segment segments ih =>
    by_cases hs : segment = .many
    · subst hs
      obtain ⟨taken, rest, shares, rfl, rfl, hrest⟩ := alignment_many_iff.mp hshares
      obtain ⟨less, behind, others, hparts, rfl, hbehind⟩ := alignment_many_iff.mp hothers
      obtain ⟨hlength, hlater⟩ := List.cons.inj hskips
      obtain ⟨rfl, rfl⟩ := List.append_inj hparts hlength
      rw [ih hrest hbehind hlater]
    · obtain ⟨part, rest, shares, rfl, rfl, -, hrest⟩ := (alignment_cons_iff hs).mp hshares
      obtain ⟨_, _, others, hparts, rfl, -, hothers⟩ := (alignment_cons_iff hs).mp hothers
      obtain ⟨rfl, rfl⟩ := List.cons.inj hparts
      rw [skips_cons hs, skips_cons hs] at hskips
      rw [ih hrest hothers hskips]

theorem Shortest.unique {segments : List PathSegment} {parts : List PathPart}
    {shares others : List (List PathPart)} (hshares : Shortest segments parts shares)
    (hothers : Shortest segments parts others) : shares = others :=
  hshares.aligned.eq_of_skips hothers.aligned
    (List.le_antisymm (hshares.least others hothers.aligned)
      (hothers.least shares hshares.aligned))

/-- A successful search adds what the shortest alignment gives to the variables. -/
theorem shortest_of_search {segments : List PathSegment} {parts : List PathPart}
    {bindings found : Bindings} (hfound : search segments parts bindings = (true, found)) :
    ∃ shares, Shortest segments parts shares ∧ found = bindings ++ captures segments shares := by
  induction segments generalizing parts bindings with
  | nil =>
    match parts with
    | [] =>
      refine ⟨[], ⟨.done, ?_⟩, by simpa [search, captures] using hfound.symm⟩
      rintro _ ⟨⟩
      exact List.not_lex_nil
    | _ :: _ => simp [search] at hfound
  | cons segment segments ih =>
    by_cases hs : segment = .many
    · subst hs
      obtain ⟨taken, rest, rfl, hrest, hless⟩ :=
        searchBehind_true (search_extends segments) hfound
      obtain ⟨shares, hshares, rfl⟩ := ih hrest
      refine ⟨taken :: shares, ⟨.many taken hshares.aligned, ?_⟩, rfl⟩
      intro others hothers
      obtain ⟨less, behind, more, hparts, rfl, halign⟩ := alignment_many_iff.mp hothers
      have hge : ¬less.length < taken.length := fun hlt =>
        not_alignment_of_search (hless less behind hparts hlt) more halign
      rw [skips, skips, List.cons_lex_cons_iff]
      rintro (hlt | ⟨heq, hlater⟩)
      · exact hge hlt
      · obtain ⟨-, rfl⟩ := List.append_inj hparts heq.symm
        exact hshares.least more halign hlater
    · match parts with
      | [] => simp [search_cons_nil hs] at hfound
      | part :: parts =>
        rw [search_cons hs] at hfound
        split at hfound
        next haccepts =>
          obtain ⟨shares, hshares, rfl⟩ := ih hfound
          refine ⟨[part] :: shares, ⟨(alignment_cons_iff hs).mpr
            ⟨part, parts, shares, rfl, rfl, haccepts, hshares.aligned⟩, ?_⟩,
            by rw [captures_cons hs, List.append_assoc]⟩
          intro others hothers
          obtain ⟨_, _, more, hparts, rfl, -, halign⟩ := (alignment_cons_iff hs).mp hothers
          obtain ⟨-, rfl⟩ := List.cons.inj hparts
          rw [skips_cons hs, skips_cons hs]
          exact hshares.least more halign
        next => simp at hfound

/-- A search succeeds exactly when there is an alignment. -/
theorem search_iff {segments : List PathSegment} {parts : List PathPart} (bindings : Bindings) :
    (search segments parts bindings).1 = true ↔ ∃ shares, Alignment segments parts shares := by
  constructor
  · intro hfound
    obtain ⟨shares, hshares, -⟩ := shortest_of_search (Prod.ext hfound rfl)
    exact ⟨shares, hshares.aligned⟩
  · rintro ⟨shares, hshares⟩
    rcases hrun : search segments parts bindings with ⟨_ | _, found⟩
    · exact absurd hshares (not_alignment_of_search (congrArg Prod.fst hrun) shares)
    · rfl

end PathPattern

end RestDispatch
