import RestDispatch.Proofs.Media.Compatibility

/-!
# What a range covers

Covering is a preorder on media types: each type covers itself, and a range covers whatever the
ranges that it covers cover.  The suffix of a type is what follows its last plus sign, while a
range of subtypes asks for all that follows its first two characters.  The two agree as soon as
the range covers something by its suffix, for then no plus sign is left in what it asks for.

Covering is the one-sided form of compatibility.  So a type is compatible with those that it
covers, and two types are compatible if there is a third that both cover.
-/

namespace RestDispatch

namespace MediaType

theorem includes_self (m : MediaType) : m.includes m = true :=
  (includes_iff m m).mpr (.inr ⟨rfl, .inl (.inl rfl)⟩)

theorem suffix_of_star {m : MediaType} (h : m.subtype = "*") : m.suffix = none := by
  rw [suffix, h]
  rfl

/-- What is covered by a type of some suffix, other than a star, has this suffix too. -/
theorem suffix_of_includes {a b : MediaType} {suffix : String} (hany : a.isAnyType = false)
    (h : a.includes b = true) (ha : a.suffix = some suffix) : b.suffix = some suffix := by
  rw [includes_iff, hany] at h
  have hsub := (h.resolve_left Bool.false_ne_true).2
  cases hsub with
  | inl hsub =>
    cases hsub with
    | inl heq =>
      rw [MediaType.suffix, ← heq]
      exact ha
    | inr hstar =>
      rw [suffix_of_star hstar] at ha
      cases ha
  | inr hsub =>
    obtain ⟨other, hrange, hb⟩ := hsub
    have hother := suffix_of_range hrange hb
    rw [hb, ← hother, ha]

theorem includes_trans {a b c : MediaType} (hab : a.includes b = true)
    (hbc : b.includes c = true) : a.includes c = true := by
  have hab' := (includes_iff a b).mp hab
  have hbc' := (includes_iff b c).mp hbc
  apply (includes_iff a c).mpr
  by_cases hany : a.isAnyType = true
  · exact .inl hany
  have hany' : b.isAnyType = false := by
    have hmain := (hab'.resolve_left hany).1
    rw [isAnyType, ← hmain]
    exact (Bool.not_eq_true _).mp hany
  obtain ⟨hmain, hsub⟩ := hab'.resolve_left hany
  obtain ⟨hmain', hsub'⟩ := hbc'.resolve_left (by rw [hany']; exact Bool.false_ne_true)
  right
  constructor
  · exact hmain.trans hmain'
  · rcases hsub with (heq | hstar) | ⟨suffix, hrange, hsuffix⟩
    · rw [heq]
      exact hsub'
    · exact .inl (.inr hstar)
    · exact .inr ⟨suffix, hrange, suffix_of_includes hany' hbc hsuffix⟩

/-- A type is compatible with those that it covers. -/
theorem isCompatibleWith_of_includes_right {a b : MediaType} (h : a.includes b = true) :
    a.isCompatibleWith b = true :=
  isCompatibleWith_of_includes h (includes_self b)

/-- Covering is reflexive and transitive, compatibility is reflexive and symmetric, and two types
are compatible if one covers the other or both cover a third. -/
theorem covering_and_compatibility (a b c : MediaType) :
    (a.includes a = true ∧
      (a.includes b = true → b.includes c = true → a.includes c = true)) ∧
    (a.isCompatibleWith a = true ∧ a.isCompatibleWith b = b.isCompatibleWith a) ∧
    (a.includes b = true → a.isCompatibleWith b = true) ∧
    (a.includes c = true → b.includes c = true → a.isCompatibleWith b = true) := by
  constructor
  · exact ⟨includes_self a, includes_trans⟩
  constructor
  · exact ⟨isCompatibleWith_self a, isCompatibleWith_comm a b⟩
  · exact ⟨isCompatibleWith_of_includes_right, isCompatibleWith_of_includes⟩

/-- Every subtype, every subtype of JSON, and one of these. -/
theorem covering_and_compatibility_problem :
    (ofParts "application" "*").includes (ofParts "application" "*+json") = true ∧
    (ofParts "application" "*+json").includes (ofParts "application" "problem+json") = true ∧
    (ofParts "application" "*").includes (ofParts "application" "problem+json") = true ∧
    (ofParts "application" "*").isCompatibleWith (ofParts "application" "*+json") = true := by
  have hall : (ofParts "application" "*").includes (ofParts "application" "*+json") = true := by
    decide +kernel
  have hjson : (ofParts "application" "*+json").includes
      (ofParts "application" "problem+json") = true := by
    decide +kernel
  obtain ⟨⟨-, htrans⟩, -, -, hboth⟩ := covering_and_compatibility (ofParts "application" "*")
    (ofParts "application" "*+json") (ofParts "application" "problem+json")
  exact ⟨hall, hjson, htrans hall hjson, hboth (htrans hall hjson) hjson⟩

end MediaType

end RestDispatch
