import RestDispatch.Proofs.Media.Preference

/-!
# How a header ranks its entries

The well-formed entries of a header come back once each, by descending quality, then by
descending specificity, then as they are listed.  All of this needs qualities that are numbers.
An entry may write the word for a NaN, which clamping does not bring between 0 and 1 and which
ties with every number, so entries on its two sides are not compared with each other.

A type is rated by the first entry that stands for it, whatever its own entry says.  So an entry
that refuses the type is outweighed by a range of positive quality, and by nothing else.
-/

namespace RestDispatch

namespace MediaType

/-- What stands for a single type names it or is a range. -/
theorem sameEssence_or_isRange {range single : MediaType} (hsingle : single.isRange = false)
    (h : range.isCompatibleWith single = true) :
    range.sameEssence single = true ∨ range.isRange = true := by
  obtain ⟨htype, hsubtype⟩ := Bool.or_eq_false_iff.mp hsingle
  rw [isRange, Bool.or_eq_true]
  rw [isCompatibleWith_iff, htype, hsubtype] at h
  rcases h with (hany | hany) | ⟨hmain, hsub | ⟨hrange | hrange, -⟩⟩
  · exact .inr (.inl hany)
  · exact absurd hany Bool.false_ne_true
  · left
    rw [sameEssence, Bool.and_eq_true, beq_iff_eq, beq_iff_eq]
    exact ⟨hmain, hsub⟩
  · exact .inr (.inr hrange)
  · exact absurd hrange Bool.false_ne_true

end MediaType

namespace MediaRange

/-- Neither entry is preferred to the other by quality or specificity. -/
def levels (a b : MediaRange) : Bool :=
  a.quality.same b.quality && a.type.specificity == b.type.specificity

theorem levels_eq_tied {a b : MediaRange} (ha : a.quality.isNaN = false)
    (hb : b.quality.isNaN = false) : a.levels b = tied outranks a b := by
  rw [Bool.eq_iff_iff, tied_iff, levels, Bool.and_eq_true, Binary.same_iff_place ha hb, beq_iff_eq]
  simp only [outranks, decide_eq_false_iff_not]
  omega

theorem levels_eq_false_of_isNaN {a : MediaRange} (ha : a.quality.isNaN = true)
    (b : MediaRange) : a.levels b = false := by
  rw [levels, (Binary.same_eq_false_of_isNaN ha _).1, Bool.false_and]

end MediaRange

namespace Accept

/-- The well-formed entries of a header, as they are listed there. -/
def listed (header : String) : List MediaRange :=
  (Text.splitOn ',' header.toList).filterMap parseEntry

theorem perm_entries_listed (header : String) : (parse header).entries.Perm (listed header) :=
  perm_stableSort precedes _

/-- The entries of a header in their order: each once, with a quality from 0 to 1, no quality
smaller than one behind it, of equal qualities no specificity smaller than one behind it, and
entries equal in both as they are listed. -/
structure Ranked (listed ranked : List MediaRange) : Prop where
  perm : ranked.Perm listed
  between : ∀ e ∈ ranked, Binary.zero.le e.quality = true ∧ e.quality.le Single.one = true
  descending : ranked.Pairwise fun a b => a.quality.lt b.quality = false
  narrower : ranked.Pairwise fun a b => a.quality.same b.quality = true →
    b.type.specificity ≤ a.type.specificity
  stable : ∀ e : MediaRange, ranked.filter e.levels = listed.filter e.levels

/-- An entry writes the word for a NaN as its quality. -/
def WritesNaN (entry : List Char) : Prop :=
  ∃ text, qualityText? ((Text.splitOn ';' entry).drop 1) = some text ∧ Number.SpellsNaN text

/-- A well-formed entry of a header writes the word for a NaN as its quality. -/
def MentionsNaN (header : String) : Prop :=
  ∃ entry ∈ Text.splitOn ',' header.toList,
    (parseEntry entry).isSome = true ∧ WritesNaN (Text.trim entry)

section

variable (entry : List Char)

theorem isNaN_qualityOf_iff : (qualityOf entry).isNaN = true ↔ WritesNaN entry := by
  have hzero : (Binary.zero : Single).isNaN = false := rfl
  have hone : Single.one.isNaN = false := by decide
  unfold qualityOf WritesNaN
  rw [Binary.isNaN_clamp hzero hone]
  cases qualityText? ((Text.splitOn ';' entry).drop 1) with
  | none => simp [hone]
  | some text =>
    rw [Option.bind_some]
    simp only [Option.some.injEq, exists_eq_left']
    cases hread : (Number.readBinary text : Option Single) with
    | some x => exact Number.isNaN_of_readBinary hread
    | none =>
      refine iff_of_false (by rw [Option.getD_none, hone]; exact Bool.false_ne_true) fun hnan => ?_
      obtain ⟨x, hx⟩ := Number.exists_readBinary_of_spellsNaN hnan
      rw [hread] at hx
      cases hx

/-- Clamping brings every quality that is a number between 0 and 1. -/
theorem qualityOf_between (h : (qualityOf entry).isNaN = false) :
    Binary.zero.le (qualityOf entry) = true ∧ (qualityOf entry).le Single.one = true := by
  have hzero : (Binary.zero : Single).isNaN = false := rfl
  have hone : Single.one.isNaN = false := by decide
  rw [Binary.le_iff_place hzero h, Binary.le_iff_place h hone]
  unfold qualityOf at h ⊢
  rw [Binary.isNaN_clamp hzero hone] at h
  exact Binary.clamp_between hzero hone (by decide) h

end

theorem exists_qualityOf_of_parseEntry {entry : List Char} {e : MediaRange}
    (h : parseEntry entry = some e) : e.quality = qualityOf (Text.trim entry) := by
  unfold parseEntry at h
  dsimp only at h
  split at h
  · cases h
  · obtain ⟨m, -, rfl⟩ := Option.map_eq_some_iff.mp h
    rfl

theorem rated_iff (header : String) : (parse header).Rated ↔ ¬MentionsNaN header := by
  constructor
  · rintro hrated ⟨entry, hentry, hsome, hwrites⟩
    obtain ⟨e, he⟩ := Option.isSome_iff_exists.mp hsome
    have hnumber := hrated e (mem_entries_parse.mpr ⟨entry, hentry, he⟩)
    rw [exists_qualityOf_of_parseEntry he, (isNaN_qualityOf_iff _).mpr hwrites] at hnumber
    cases hnumber
  · intro hnone e he
    obtain ⟨entry, hentry, hparse⟩ := mem_entries_parse.mp he
    rw [exists_qualityOf_of_parseEntry hparse]
    refine Bool.eq_false_iff.mpr fun hnan => hnone ⟨entry, hentry, ?_, ?_⟩
    · rw [hparse]
      rfl
    · exact (isNaN_qualityOf_iff _).mp hnan

theorem Rated.ranked {header : String} (h : (parse header).Rated) :
    Ranked (listed header) (parse header).entries where
  perm := perm_entries_listed header
  between e he := by
    obtain ⟨entry, -, hparse⟩ := mem_entries_parse.mp he
    have hnumber := h e he
    rw [exists_qualityOf_of_parseEntry hparse] at hnumber ⊢
    exact qualityOf_between _ hnumber
  descending := by
    refine h.inOrder.imp_of_mem fun {a b} ha hb hab => Bool.eq_false_iff.mpr fun hlt => ?_
    rw [Binary.lt_iff_place (h a ha) (h b hb)] at hlt
    simp only [MediaRange.outranks, decide_eq_false_iff_not] at hab
    exact hab (.inl hlt)
  narrower := by
    refine h.inOrder.imp_of_mem fun {a b} ha hb hab hsame => ?_
    rw [Binary.same_iff_place (h a ha) (h b hb)] at hsame
    simp only [MediaRange.outranks, decide_eq_false_iff_not] at hab
    exact Nat.not_lt.mp fun hlt => hab (.inr ⟨hsame.symm, hlt⟩)
  stable e := by
    cases he : e.quality.isNaN with
    | true =>
      have hnone (xs : List MediaRange) : xs.filter e.levels = [] :=
        List.filter_eq_nil_iff.mpr fun a _ =>
          Bool.eq_false_iff.mp (MediaRange.levels_eq_false_of_isNaN he a)
      rw [hnone, hnone]
    | false =>
      have hlevels {xs : List MediaRange} (hxs : ∀ a ∈ xs, a ∈ (parse header).entries) :
          xs.filter e.levels = xs.filter (tied MediaRange.outranks e) :=
        List.filter_congr fun a ha => MediaRange.levels_eq_tied he (h a (hxs a ha))
      rw [hlevels fun a ha => ha, hlevels fun a ha => (perm_entries_listed header).mem_iff.mpr ha,
        h.entries_eq]
      exact MediaRange.weakOrder_outranks.filter_tied_stableSort e _

/-- A header yields its well-formed entries in their order if and only if none of them writes the
word for a NaN as its quality. -/
theorem parse_ranked_iff (header : String) :
    Ranked (listed header) (parse header).entries ↔ ¬MentionsNaN header := by
  refine ⟨fun hranked => ?_, fun hnone => ?_⟩
  · rw [← rated_iff]
    intro e he
    refine Bool.eq_false_iff.mpr fun hnan => ?_
    have hle := (hranked.between e he).2
    unfold Binary.le Binary.place? at hle
    rw [if_pos hnan] at hle
    exact Bool.false_ne_true hle
  · exact ((rated_iff header).mpr hnone).ranked

/-- A NaN between an entry of quality 0.5 and one of quality 0.9. -/
def aroundNaN : String :=
  "text/plain;q=0.6, application/json;v=1;q=0.5, text/html;q=nan, application/json;q=0.9"

theorem not_ranked_around_nan : ¬Ranked (listed aroundNaN) (parse aroundNaN).entries := by
  intro hranked
  have hdescending := hranked.descending
  revert hdescending
  decide +kernel

/-- A type that its own entries refuse is accepted only through a range of positive quality. -/
theorem exists_range_of_accepts {a : Accept} {m : MediaType} (hsingle : m.isRange = false)
    (hrefused : ∀ e ∈ a.entries, e.type.sameEssence m = true →
      e.quality.same Binary.zero = true) (haccepts : a.accepts m = true) :
    ∃ e ∈ a.entries, e.type.isRange = true ∧ e.type.isCompatibleWith m = true ∧
      Binary.zero.lt e.quality = true := by
  obtain ⟨e, hentry, hcompatible⟩ := entryFor?_of_accepts haccepts
  have hmem : e ∈ a.entries := List.mem_of_find?_eq_some hentry
  have hquality : Binary.zero.lt e.quality = true := by
    rw [accepts, qualityFor, ← entryFor?, hentry, Option.map_some, Option.getD_some] at haccepts
    exact haccepts
  rcases MediaType.sameEssence_or_isRange hsingle hcompatible with hessence | hrange
  · have hzero := hrefused e hmem hessence
    obtain ⟨hnumber, hnumber'⟩ := Binary.isNaN_of_lt hquality
    rw [Binary.same_iff_place hnumber' hnumber] at hzero
    rw [Binary.lt_iff_place hnumber hnumber', hzero] at hquality
    exact absurd hquality (Int.lt_irrefl _)
  · exact ⟨e, hmem, hrange, hcompatible, hquality⟩

/-- A refusal is respected where no range of positive quality stands for the type, and if all
qualities are numbers only there. -/
theorem refusal_respected_unless_range (header : String) (m : MediaType)
    (hsingle : m.isRange = false)
    (hrefused : ∀ e ∈ listed header, e.type.sameEssence m = true →
      e.quality.same Binary.zero = true) :
    ((∀ e ∈ listed header, e.type.isRange = true → e.type.isCompatibleWith m = true →
      Binary.zero.lt e.quality = false) → (parse header).accepts m = false) ∧
    (¬MentionsNaN header → ∀ e ∈ listed header, e.type.isRange = true →
      e.type.isCompatibleWith m = true → Binary.zero.lt e.quality = true →
        (parse header).accepts m = true) := by
  have hmem (e : MediaRange) : e ∈ (parse header).entries ↔ e ∈ listed header :=
    (perm_entries_listed header).mem_iff
  constructor
  · intro hranges
    refine Bool.eq_false_iff.mpr fun haccepts => ?_
    obtain ⟨e, he, hrange, hcompatible, hpositive⟩ := exists_range_of_accepts hsingle
      (fun e he => hrefused e ((hmem e).mp he)) haccepts
    rw [hranges e ((hmem e).mp he) hrange hcompatible] at hpositive
    cases hpositive
  · intro hnone e he _ hcompatible hpositive
    exact ((rated_iff header).mpr hnone).accepts_of_mem ((hmem e).mpr he) hpositive hcompatible

/-- Every range but one that does not stand for the type refuses too. -/
theorem refusal_respected_text :
    (∃ e ∈ listed "application/*, text/plain;q=0, text/*;q=0.0, */*;q=0",
      e.type.sameEssence .textPlain = true) ∧
    (parse "application/*, text/plain;q=0, text/*;q=0.0, */*;q=0").accepts .textPlain = false :=
  ⟨by decide +kernel, (refusal_respected_unless_range
    "application/*, text/plain;q=0, text/*;q=0.0, */*;q=0" .textPlain (by decide +kernel)
    (by decide +kernel)).1 (by decide +kernel)⟩

/-- JSON is refused by name and accepted with everything else. -/
theorem range_outweighs_refusal :
    MediaType.json.isRange = false ∧
    (∃ e ∈ listed "application/json;q=0, */*", e.type.sameEssence .json = true) ∧
    (∀ e ∈ listed "application/json;q=0, */*", e.type.sameEssence .json = true →
      e.quality.same Binary.zero = true) ∧
    (parse "application/json;q=0, */*").accepts .json = true := by
  decide +kernel

end Accept

end RestDispatch
