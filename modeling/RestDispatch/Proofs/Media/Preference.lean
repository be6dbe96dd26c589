import RestDispatch.Proofs.Media.Compatibility
import RestDispatch.Proofs.Media.Header
import RestDispatch.Proofs.Number.Order
import RestDispatch.Proofs.StableSort

/-!
# What an entry of positive quality stands for

A header rates a type by its first entry compatible with the type, and entries stand by
descending quality.  So where one entry of positive quality is compatible with a type, the
first one that is has positive quality too, and the type is accepted.

The order needs numbers to compare.  A quality may be written as `nan`, which is neither more
nor less than any other, and a header that holds one is in no order.
-/

namespace RestDispatch

namespace MediaType

/-- Parameters do not matter to compatibility. -/
theorem isCompatibleWith_congr (range : MediaType) {m m' : MediaType}
    (hmain : m'.mainType = m.mainType) (hsub : m'.subtype = m.subtype) :
    range.isCompatibleWith m' = range.isCompatibleWith m := by
  rw [Bool.eq_iff_iff, isCompatibleWith_iff, isCompatibleWith_iff]
  simp only [isAnyType, isAnySubtype, suffix, hmain, hsub]

end MediaType

namespace MediaRange

/-- Whether the first of two entries comes first by quality and then by specificity. -/
def outranks (a b : MediaRange) : Bool :=
  decide (b.quality.place < a.quality.place ∨
    a.quality.place = b.quality.place ∧ b.type.specificity < a.type.specificity)

theorem weakOrder_outranks : WeakOrder outranks where
  asymm a b hab := by
    simp only [outranks, decide_eq_true_eq, decide_eq_false_iff_not] at hab ⊢
    omega
  trans a b c hab hbc := by
    simp only [outranks, decide_eq_false_iff_not] at hab hbc ⊢
    omega

theorem precedes_eq_outranks {a b : MediaRange} (ha : a.quality.isNaN = false)
    (hb : b.quality.isNaN = false) : Accept.precedes a b = outranks a b := by
  rw [Bool.eq_iff_iff, outranks, decide_eq_true_eq, Accept.precedes]
  split
  next h =>
    rw [Binary.lt_iff_place hb ha] at h
    simp [h]
  next h =>
    rw [Binary.lt_iff_place hb ha] at h
    split
    next h' =>
      rw [Binary.lt_iff_place ha hb] at h'
      simp only [Bool.false_eq_true, false_iff]
      omega
    next h' =>
      rw [Binary.lt_iff_place ha hb] at h'
      rw [decide_eq_true_eq]
      omega

end MediaRange

namespace Accept

theorem accepts_congr (a : Accept) {m m' : MediaType} (hmain : m'.mainType = m.mainType)
    (hsub : m'.subtype = m.subtype) : a.accepts m' = a.accepts m := by
  simp only [accepts, qualityFor, fun range : MediaType =>
    range.isCompatibleWith_congr hmain hsub]

theorem mem_entries_parse {header : String} {e : MediaRange} :
    e ∈ (parse header).entries ↔
      ∃ entry ∈ Text.splitOn ',' header.toList, parseEntry entry = some e :=
  (perm_stableSort precedes _).mem_iff.trans List.mem_filterMap

/-- The types of a header are in normal form, as they were read. -/
theorem normal_of_mem {header : String} {e : MediaRange} (he : e ∈ (parse header).entries) :
    e.type.Normal := by
  obtain ⟨entry, -, hparse⟩ := mem_entries_parse.mp he
  unfold parseEntry at hparse
  dsimp only at hparse
  split at hparse
  next => cases hparse
  next =>
    obtain ⟨m, hm, rfl⟩ := Option.map_eq_some_iff.mp hparse
    exact MediaType.normal_of_parse hm

/-- Every entry has a number for its quality. -/
def Rated (a : Accept) : Prop := ∀ e ∈ a.entries, e.quality.isNaN = false

instance (a : Accept) : Decidable a.Rated :=
  inferInstanceAs (Decidable (∀ e ∈ a.entries, e.quality.isNaN = false))

namespace Rated

variable {header : String} (h : (parse header).Rated)

include h

/-- Between numbers, the order of preference is a weak order. -/
theorem entries_eq : (parse header).entries =
    stableSort MediaRange.outranks ((Text.splitOn ',' header.toList).filterMap parseEntry) := by
  refine stableSort_congr fun a ha b hb => ?_
  have ha' : a ∈ (parse header).entries := (perm_stableSort precedes _).mem_iff.mpr ha
  have hb' : b ∈ (parse header).entries := (perm_stableSort precedes _).mem_iff.mpr hb
  exact MediaRange.precedes_eq_outranks (h a ha') (h b hb')

theorem inOrder : InOrder MediaRange.outranks (parse header).entries := by
  rw [h.entries_eq]
  exact MediaRange.weakOrder_outranks.inOrder_stableSort _

/-- A type that an entry of positive quality stands for is accepted. -/
theorem accepts_of_mem {e : MediaRange} (he : e ∈ (parse header).entries)
    (hquality : Binary.zero.lt e.quality = true) {m : MediaType}
    (hcompatible : e.type.isCompatibleWith m = true) : (parse header).accepts m = true := by
  obtain ⟨first, hfirst⟩ : ∃ first, (parse header).entryFor? m = some first := by
    rw [← Option.isSome_iff_exists, entryFor?, List.find?_isSome]
    exact ⟨e, he, hcompatible⟩
  have haccepts : (parse header).accepts m = Binary.zero.lt first.quality := by
    rw [accepts, qualityFor, ← entryFor?, hfirst, Option.map_some, Option.getD_some]
  obtain ⟨-, before, behind, hsplit, hbefore⟩ := List.find?_eq_some_iff_append.mp hfirst
  have hmem : first ∈ (parse header).entries := List.mem_of_find?_eq_some hfirst
  have hle : e.quality.place ≤ first.quality.place := by
    have hnot : e ∉ before := by
      intro hmem
      have hincompatible := hbefore e hmem
      rw [hcompatible] at hincompatible
      exact Bool.noConfusion hincompatible
    have hbehind : e ∈ first :: behind := by
      rw [hsplit] at he
      exact (List.mem_append.mp he).resolve_left hnot
    have hordered := h.inOrder
    rw [hsplit] at hordered
    have houtranks := MediaRange.weakOrder_outranks.not_precedes_head
      (List.pairwise_append.mp hordered).2.1 hbehind
    simp only [MediaRange.outranks, decide_eq_false_iff_not] at houtranks
    omega
  have hzero : (Binary.zero : Single).isNaN = false := rfl
  rw [Binary.lt_iff_place hzero (h e he)] at hquality
  rw [haccepts, Binary.lt_iff_place hzero (h first hmem)]
  exact Int.lt_of_lt_of_le hquality hle

end Rated

end Accept

end RestDispatch
