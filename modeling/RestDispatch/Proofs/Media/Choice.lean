import RestDispatch.Proofs.Media.Preference

/-!
# The type chosen for a client

A header chooses among the available types by one pass that keeps the best type so far.  A type
of quality zero is passed over, and a kept type gives way to one of higher quality, or of the
same quality and greater specificity.  So what is kept is always the choice among the types that
the pass has seen: of the accepted types those of the highest quality, of these the most
specific ones, and of these the first.

All qualities are numbers here.  A NaN is passed over by nothing and beaten by nothing.
-/

namespace RestDispatch

namespace Accept

/-- The two types have the same quality and the same specificity. -/
def levels (a : Accept) (m n : MediaType) : Bool :=
  (a.qualityFor m).same (a.qualityFor n) && m.specificity == n.specificity

/-- The type is accepted, of the highest quality among those available, of the greatest
specificity among those of its quality, and the first of all that are level with it. -/
structure Chosen (a : Accept) (available : List MediaType) (m : MediaType) : Prop where
  accepted : a.accepts m = true
  quality : ∀ n ∈ available, (a.qualityFor n).le (a.qualityFor m) = true
  specificity : ∀ n ∈ available, (a.qualityFor n).same (a.qualityFor m) = true →
    n.specificity ≤ m.specificity
  first : available.find? (a.levels m) = some m

/-- A type is of higher quality than another, or of the same quality and more specific. -/
def Outdoes (a : Accept) (m n : MediaType) : Prop :=
  (a.qualityFor n).place < (a.qualityFor m).place ∨
    (a.qualityFor n).place = (a.qualityFor m).place ∧ n.specificity < m.specificity

theorem Outdoes.of_not {a : Accept} {m n o : MediaType} (hmn : a.Outdoes m n)
    (hon : ¬a.Outdoes o n) : a.Outdoes m o := by
  unfold Outdoes at hmn hon ⊢
  omega

/-- A type with the two figures it is compared by. -/
def candidate (a : Accept) (m : MediaType) : Candidate := ⟨m, a.qualityFor m, m.specificity⟩

/-- One step of the pass: the better of a type and the best so far. -/
def better (a : Accept) (best : Option Candidate) (m : MediaType) : Option Candidate :=
  if (a.qualityFor m).le Binary.zero then best
  else
    match best with
    | none => some (a.candidate m)
    | some b => if (a.candidate m).beats b then some (a.candidate m) else some b

theorem negotiate_eq (a : Accept) (available : List MediaType) :
    a.negotiate available = (available.foldl a.better none).map (·.type) := rfl

theorem Chosen.mem {a : Accept} {available : List MediaType} {m : MediaType}
    (h : a.Chosen available m) : m ∈ available := List.mem_of_find?_eq_some h.first

namespace Rated

variable {a : Accept} (h : a.Rated)

include h

theorem isNaN_qualityFor (m : MediaType) : (a.qualityFor m).isNaN = false := by
  unfold qualityFor
  cases hentry : a.entries.find? fun e => e.type.isCompatibleWith m with
  | none => rfl
  | some e => exact h e (List.mem_of_find?_eq_some hentry)

theorem accepts_iff_place (m : MediaType) :
    a.accepts m = true ↔ 0 < (a.qualityFor m).place := by
  have hzero : (Binary.zero : Single).isNaN = false := rfl
  exact Binary.lt_iff_place hzero (h.isNaN_qualityFor m)

theorem levels_iff_place (m n : MediaType) :
    a.levels m n = true ↔
      (a.qualityFor m).place = (a.qualityFor n).place ∧ m.specificity = n.specificity := by
  rw [levels, Bool.and_eq_true, beq_iff_eq,
    Binary.same_iff_place (h.isNaN_qualityFor m) (h.isNaN_qualityFor n)]

theorem beats_iff (m n : MediaType) :
    (a.candidate m).beats (a.candidate n) = true ↔ a.Outdoes m n := by
  unfold Candidate.beats candidate Outdoes
  dsimp only
  rw [Bool.or_eq_true, Bool.and_eq_true, decide_eq_true_eq,
    Binary.lt_iff_place (h.isNaN_qualityFor n) (h.isNaN_qualityFor m),
    Binary.same_iff_place (h.isNaN_qualityFor m) (h.isNaN_qualityFor n)]
  omega

/-- A type is chosen if no available one outdoes it and no earlier one is as good. -/
theorem chosen_iff (available : List MediaType) (m : MediaType) :
    a.Chosen available m ↔ 0 < (a.qualityFor m).place ∧
      (∀ n ∈ available, ¬a.Outdoes n m) ∧ available.find? (a.levels m) = some m := by
  have hle (n : MediaType) : (a.qualityFor n).le (a.qualityFor m) = true ↔
      (a.qualityFor n).place ≤ (a.qualityFor m).place :=
    Binary.le_iff_place (h.isNaN_qualityFor n) (h.isNaN_qualityFor m)
  have hsame (n : MediaType) : (a.qualityFor n).same (a.qualityFor m) = true ↔
      (a.qualityFor n).place = (a.qualityFor m).place :=
    Binary.same_iff_place (h.isNaN_qualityFor n) (h.isNaN_qualityFor m)
  constructor
  · intro hchosen
    have hbest : ∀ n ∈ available, ¬a.Outdoes n m := by
      intro n hn
      have hquality := (hle n).mp (hchosen.quality n hn)
      have hspecificity := hchosen.specificity n hn
      rw [hsame] at hspecificity
      unfold Outdoes
      omega
    exact ⟨(h.accepts_iff_place m).mp hchosen.accepted, hbest, hchosen.first⟩
  · intro ⟨hpositive, hbest, hfirst⟩
    unfold Outdoes at hbest
    constructor
    case accepted => exact (h.accepts_iff_place m).mpr hpositive
    case quality =>
      intro n hn
      have hn := hbest n hn
      apply (hle n).mpr
      omega
    case specificity =>
      intro n hn hquality
      have hn := hbest n hn
      rw [hsame] at hquality
      omega
    case first => exact hfirst

/-- No two types are chosen among the same ones. -/
theorem chosen_unique {available : List MediaType} {m n : MediaType}
    (hm : a.Chosen available m) (hn : a.Chosen available n) : m = n := by
  have hbest := ((h.chosen_iff available m).mp hm).2.1 n hn.mem
  have hbest' := ((h.chosen_iff available n).mp hn).2.1 m hm.mem
  unfold Outdoes at hbest hbest'
  have hlevels : a.levels m = a.levels n := by
    funext other
    rw [Bool.eq_iff_iff, h.levels_iff_place, h.levels_iff_place]
    omega
  have hfirst := hm.first
  rw [hlevels, hn.first] at hfirst
  exact (Option.some.inj hfirst).symm

/-- A type that does not outdo the one chosen so far leaves it chosen. -/
theorem chosen_concat_old {seen : List MediaType} {m n : MediaType} (hm : a.Chosen seen m)
    (hn : ¬a.Outdoes n m) : a.Chosen (seen ++ [n]) m := by
  obtain ⟨hpositive, hbest, hfirst⟩ := (h.chosen_iff seen m).mp hm
  have hall : ∀ other ∈ seen ++ [n], ¬a.Outdoes other m := by
    intro other hother
    rw [List.mem_append, List.mem_singleton] at hother
    cases hother with
    | inl hseen => exact hbest other hseen
    | inr heq => exact heq ▸ hn
  have hfound : (seen ++ [n]).find? (a.levels m) = some m := by
    rw [List.find?_append, hfirst]
    rfl
  exact (h.chosen_iff (seen ++ [n]) m).mpr ⟨hpositive, hall, hfound⟩

/-- An accepted type that outdoes all that were seen is chosen. -/
theorem chosen_concat_new {seen : List MediaType} {n : MediaType}
    (hpositive : 0 < (a.qualityFor n).place) (hseen : ∀ m ∈ seen, a.Outdoes n m) :
    a.Chosen (seen ++ [n]) n := by
  unfold Outdoes at hseen
  have hall : ∀ other ∈ seen ++ [n], ¬a.Outdoes other n := by
    intro other hother
    unfold Outdoes
    rw [List.mem_append, List.mem_singleton] at hother
    cases hother with
    | inl hmem =>
      have hother := hseen other hmem
      omega
    | inr heq =>
      rw [heq]
      omega
  have hfound : (seen ++ [n]).find? (a.levels n) = some n := by
    have hnone : seen.find? (a.levels n) = none := by
      rw [List.find?_eq_none]
      intro m hm
      have hm := hseen m hm
      rw [h.levels_iff_place]
      omega
    have hself : a.levels n n = true := (h.levels_iff_place n n).mpr ⟨rfl, rfl⟩
    rw [List.find?_append, hnone, List.find?_cons_of_pos hself]
    rfl
  exact (h.chosen_iff (seen ++ [n]) n).mpr ⟨hpositive, hall, hfound⟩

end Rated

/-- What is kept after some types were seen: the one that is chosen among them, if any is
accepted. -/
def Keeps (a : Accept) (seen : List MediaType) : Option Candidate → Prop
  | none => ∀ m ∈ seen, a.accepts m = false
  | some c => c = a.candidate c.type ∧ a.Chosen seen c.type

namespace Rated

variable {a : Accept} (h : a.Rated)

include h

/-- A type that is passed over leaves what is kept. -/
theorem keeps_refused {seen : List MediaType} {best : Option Candidate}
    (hbest : a.Keeps seen best) {m : MediaType} (hrefused : (a.qualityFor m).place ≤ 0) :
    a.Keeps (seen ++ [m]) best := by
  cases best with
  | none =>
    intro n hn
    rw [List.mem_append, List.mem_singleton] at hn
    cases hn with
    | inl hseen => exact hbest n hseen
    | inr heq =>
      rw [heq, ← Bool.not_eq_true, h.accepts_iff_place]
      omega
  | some c =>
    have hpositive := (h.accepts_iff_place c.type).mp hbest.2.accepted
    have hworse : ¬a.Outdoes m c.type := by
      unfold Outdoes
      omega
    exact ⟨hbest.1, h.chosen_concat_old hbest.2 hworse⟩

/-- One step keeps the choice among the types seen. -/
theorem keeps_better {seen : List MediaType} {best : Option Candidate} (hbest : a.Keeps seen best)
    (m : MediaType) : a.Keeps (seen ++ [m]) (a.better best m) := by
  have hzero : (Binary.zero : Single).isNaN = false := rfl
  have hrefuses := Binary.le_iff_place (h.isNaN_qualityFor m) hzero
  unfold better
  by_cases hrefused : (a.qualityFor m).le Binary.zero = true
  · rw [if_pos hrefused]
    exact h.keeps_refused hbest (hrefuses.mp hrefused)
  · have hpositive : 0 < (a.qualityFor m).place := Int.not_le.mp (mt hrefuses.mpr hrefused)
    rw [if_neg hrefused]
    cases best with
    | none =>
      have hseen : ∀ n ∈ seen, a.Outdoes m n := by
        intro n hn
        have hn := hbest n hn
        rw [← Bool.not_eq_true, h.accepts_iff_place] at hn
        unfold Outdoes
        omega
      exact ⟨rfl, h.chosen_concat_new hpositive hseen⟩
    | some c =>
      obtain ⟨hc, hchosen⟩ := hbest
      have hbeats := h.beats_iff m c.type
      rw [← hc] at hbeats
      dsimp only
      by_cases hbetter : (a.candidate m).beats c = true
      · rw [if_pos hbetter]
        have hseen : ∀ n ∈ seen, a.Outdoes m n := by
          intro n hn
          exact (hbeats.mp hbetter).of_not (((h.chosen_iff seen c.type).mp hchosen).2.1 n hn)
        exact ⟨rfl, h.chosen_concat_new hpositive hseen⟩
      · rw [if_neg hbetter]
        exact ⟨hc, h.chosen_concat_old hchosen (mt hbeats.mpr hbetter)⟩

/-- A pass keeps the choice among all types seen before and in it. -/
theorem keeps_foldl {seen : List MediaType} {best : Option Candidate} (hbest : a.Keeps seen best)
    (available : List MediaType) :
    a.Keeps (seen ++ available) (available.foldl a.better best) := by
  induction available generalizing seen best with
  | nil =>
    rw [List.append_nil]
    exact hbest
  | cons m available ih =>
    have hstep := ih (h.keeps_better hbest m)
    rw [List.append_assoc] at hstep
    exact hstep

end Rated

/-- Where all qualities are numbers, a header chooses nothing if and only if it accepts no
available type, and otherwise the first of the most specific ones of the highest quality. -/
theorem negotiate_eq_some_iff_chosen {a : Accept} (h : a.Rated) (available : List MediaType) :
    (a.negotiate available = none ↔ ∀ m ∈ available, a.accepts m = false) ∧
      ∀ m, a.negotiate available = some m ↔ a.Chosen available m := by
  have hnothing : a.Keeps [] none := by
    intro m hm
    cases hm
  have hkept := h.keeps_foldl hnothing available
  rw [List.nil_append] at hkept
  rw [negotiate_eq]
  cases hbest : available.foldl a.better none with
  | none =>
    rw [hbest] at hkept
    refine ⟨iff_of_true rfl hkept, fun m => iff_of_false (by simp) ?_⟩
    intro hchosen
    have haccepted := hchosen.accepted
    rw [hkept m hchosen.mem] at haccepted
    cases haccepted
  | some c =>
    rw [hbest] at hkept
    have hchosen := hkept.2
    constructor
    · refine iff_of_false (by simp) ?_
      intro hnone
      have haccepted := hchosen.accepted
      rw [hnone c.type hchosen.mem] at haccepted
      cases haccepted
    · intro m
      rw [Option.map_some, Option.some.injEq]
      constructor
      · intro heq
        rw [← heq]
        exact hchosen
      · exact h.chosen_unique hchosen

/-- A type of lower quality and a range come before JSON, which comes before another type of the
same quality and specificity. -/
theorem negotiate_eq_some_iff_chosen_json :
    (parse "application/*;q=0.8, text/*;q=0.5").Rated ∧
    (parse "application/*;q=0.8, text/*;q=0.5").Chosen
      [.textPlain, .ofParts "application" "*+json", .json, .protobuf] .json := by
  have hrated : (parse "application/*;q=0.8, text/*;q=0.5").Rated := by
    decide +kernel
  have hrun : (parse "application/*;q=0.8, text/*;q=0.5").negotiate
      [.textPlain, .ofParts "application" "*+json", .json, .protobuf] = some .json := by
    decide +kernel
  obtain ⟨-, hchosen⟩ := negotiate_eq_some_iff_chosen hrated
    [.textPlain, .ofParts "application" "*+json", .json, .protobuf]
  exact ⟨hrated, (hchosen .json).mp hrun⟩

end Accept

end RestDispatch
