import RestDispatch.Media.Accept
import RestDispatch.Proofs.Text.Cutting

/-!
# Compatible media types

Compatibility is symmetric, and two types are compatible as soon as something single connects
them: a type that both cover, or a type that is no range and compatible with both.  Through a
range two types may be connected without being compatible.
-/

namespace RestDispatch

namespace MediaType

theorem isAnySubtype_iff (m : MediaType) :
    m.isAnySubtype = true ↔ m.subtype = "*" ∨ ∃ rest, m.subtype.toList = '*' :: '+' :: rest := by
  unfold isAnySubtype
  rw [Bool.or_eq_true, beq_iff_eq, Option.isSome_iff_exists]
  exact or_congr_right (exists_congr fun rest => Text.stripStart_eq_some_iff)

/-- Two types of one main type are compatible when they agree, when one of them is a star, or
when one is a range of subtypes and both have one suffix. -/
theorem isCompatibleWith_iff (a b : MediaType) :
    a.isCompatibleWith b = true ↔
      (a.isAnyType = true ∨ b.isAnyType = true) ∨ a.mainType = b.mainType ∧
        (a.subtype = b.subtype ∨ (a.isAnySubtype = true ∨ b.isAnySubtype = true) ∧
          ((a.subtype = "*" ∨ b.subtype = "*") ∨
            ∃ suffix, a.suffix = some suffix ∧ b.suffix = some suffix)) := by
  have hsuffix : (a.suffix.isSome && a.suffix == b.suffix) = true ↔
      ∃ suffix, a.suffix = some suffix ∧ b.suffix = some suffix := by
    rw [Bool.and_eq_true, Option.isSome_iff_exists, beq_iff_eq]
    constructor
    · rintro ⟨⟨suffix, ha⟩, heq⟩
      exact ⟨suffix, ha, heq ▸ ha⟩
    · rintro ⟨suffix, ha, hb⟩
      exact ⟨⟨suffix, ha⟩, ha.trans hb.symm⟩
  unfold isCompatibleWith
  rw [← hsuffix]
  by_cases hany : a.isAnyType = true ∨ b.isAnyType = true
  · simp [hany]
  · by_cases hmain : a.mainType = b.mainType
    · by_cases hsub : a.subtype = b.subtype
      · simp [hmain, hsub]
      · by_cases hrange : a.isAnySubtype = true ∨ b.isAnySubtype = true
        · simp [hany, hmain, hsub, hrange]
        · simp [hany, hmain, hsub, hrange]
    · simp [hany, hmain]

theorem isCompatibleWith_self (m : MediaType) : m.isCompatibleWith m = true :=
  (isCompatibleWith_iff m m).mpr (.inr ⟨rfl, .inl rfl⟩)

theorem isCompatibleWith_comm (a b : MediaType) :
    a.isCompatibleWith b = b.isCompatibleWith a := by
  have himp (a b : MediaType) (h : a.isCompatibleWith b = true) :
      b.isCompatibleWith a = true := by
    rw [isCompatibleWith_iff] at h ⊢
    rcases h with hany | ⟨hmain, hsub | ⟨hrange, hstar | ⟨suffix, ha, hb⟩⟩⟩
    · exact .inl hany.symm
    · exact .inr ⟨hmain.symm, .inl hsub.symm⟩
    · exact .inr ⟨hmain.symm, .inr ⟨hrange.symm, .inl hstar.symm⟩⟩
    · exact .inr ⟨hmain.symm, .inr ⟨hrange.symm, .inr ⟨suffix, hb, ha⟩⟩⟩
  exact Bool.eq_iff_iff.mpr ⟨himp a b, himp b a⟩

theorem includes_iff (a b : MediaType) :
    a.includes b = true ↔
      a.isAnyType = true ∨ a.mainType = b.mainType ∧
        ((a.subtype = b.subtype ∨ a.subtype = "*") ∨
          ∃ suffix, a.subtype.toList = '*' :: '+' :: suffix ∧
            b.suffix = some (String.ofList suffix)) := by
  unfold includes
  by_cases hany : a.isAnyType = true
  · simp [hany]
  · by_cases hmain : a.mainType = b.mainType
    · by_cases hsub : a.subtype = b.subtype ∨ a.subtype = "*"
      · simp [hmain, hsub]
      · rcases hstrip : Text.stripStart ['*', '+'] a.subtype.toList with _ | suffix
        · have hnone : ∀ suffix, a.subtype.toList ≠ '*' :: '+' :: suffix := by
            intro suffix heq
            rw [Text.stripStart_eq_some_iff.mpr heq] at hstrip
            simp at hstrip
          simp [hany, hmain, hsub, hnone]
        · have hsome : a.subtype.toList = '*' :: '+' :: suffix :=
            Text.stripStart_eq_some_iff.mp hstrip
          simp [hany, hmain, hsub, hsome]
    · simp [hany, hmain]

/-- A suffix range has the suffix of the types it covers. -/
theorem suffix_of_range {a b : MediaType} {suffix : List Char}
    (ha : a.subtype.toList = '*' :: '+' :: suffix)
    (hb : b.suffix = some (String.ofList suffix)) : a.suffix = some (String.ofList suffix) := by
  unfold MediaType.suffix at hb ⊢
  obtain ⟨⟨before, behind⟩, hlast, heq⟩ := Option.map_eq_some_iff.mp hb
  obtain rfl : behind = suffix := String.ofList_injective heq
  have hcut := Text.splitLast_append ['*'] (Text.not_mem_of_splitLast hlast)
  rw [ha]
  exact congrArg (Option.map _) hcut

/-- Two types that cover one type are compatible. -/
theorem isCompatibleWith_of_includes {a b covered : MediaType}
    (ha : a.includes covered = true) (hb : b.includes covered = true) :
    a.isCompatibleWith b = true := by
  rw [includes_iff] at ha hb
  rw [isCompatibleWith_iff]
  have hstar (m : MediaType) (h : m.subtype = "*") : m.isAnySubtype = true :=
    (isAnySubtype_iff m).mpr (.inl h)
  rcases ha with hany | ⟨hma, hsa⟩
  · exact .inl (.inl hany)
  rcases hb with hany | ⟨hmb, hsb⟩
  · exact .inl (.inr hany)
  refine .inr ⟨hma.trans hmb.symm, ?_⟩
  rcases hsa with (hsa | hsa) | ⟨suffix, hsa, hca⟩
  · rcases hsb with (hsb | hsb) | ⟨suffix, hsb, hcb⟩
    · exact .inl (hsa.trans hsb.symm)
    · exact .inr ⟨.inr (hstar b hsb), .inl (.inr hsb)⟩
    · have hrange : b.isAnySubtype = true := (isAnySubtype_iff b).mpr (.inr ⟨suffix, hsb⟩)
      refine .inr ⟨.inr hrange, .inr ⟨_, ?_, suffix_of_range hsb hcb⟩⟩
      rw [MediaType.suffix, hsa]
      exact hcb
  · exact .inr ⟨.inl (hstar a hsa), .inl (.inl hsa)⟩
  · have hrange : a.isAnySubtype = true := (isAnySubtype_iff a).mpr (.inr ⟨suffix, hsa⟩)
    rcases hsb with (hsb | hsb) | ⟨other, hsb, hcb⟩
    · refine .inr ⟨.inl hrange, .inr ⟨_, suffix_of_range hsa hca, ?_⟩⟩
      rw [MediaType.suffix, hsb]
      exact hca
    · exact .inr ⟨.inl hrange, .inl (.inr hsb)⟩
    · refine .inr ⟨.inl hrange, .inr ⟨_, suffix_of_range hsa hca, ?_⟩⟩
      rw [suffix_of_range hsb hcb, ← hca, hcb]

/-- Two types compatible with one that is no range are compatible. -/
theorem isCompatibleWith_of_single {a b single : MediaType} (hsingle : single.isRange = false)
    (ha : single.isCompatibleWith a = true) (hb : single.isCompatibleWith b = true) :
    a.isCompatibleWith b = true := by
  obtain ⟨htype, hsubtype⟩ := Bool.or_eq_false_iff.mp hsingle
  have hstar : single.subtype ≠ "*" := by
    intro h
    rw [(isAnySubtype_iff single).mpr (.inl h)] at hsubtype
    exact Bool.noConfusion hsubtype
  rw [isCompatibleWith_iff] at ha hb ⊢
  simp only [htype, hsubtype, hstar, Bool.false_eq_true, false_or] at ha hb
  rcases ha with hany | ⟨hma, hsa⟩
  · exact .inl (.inl hany)
  rcases hb with hany | ⟨hmb, hsb⟩
  · exact .inl (.inr hany)
  refine .inr ⟨hma.symm.trans hmb, ?_⟩
  rcases hsa with hsa | ⟨hra, hsa⟩
  · rcases hsb with hsb | ⟨hrb, hsb | ⟨suffix, hcs, hcb⟩⟩
    · exact .inl (hsa.symm.trans hsb)
    · exact .inr ⟨.inr hrb, .inl (.inr hsb)⟩
    · refine .inr ⟨.inr hrb, .inr ⟨suffix, ?_, hcb⟩⟩
      rw [MediaType.suffix, ← hsa]
      exact hcs
  · refine .inr ⟨.inl hra, ?_⟩
    rcases hsa with hsa | ⟨suffix, hcs, hca⟩
    · exact .inl (.inl hsa)
    · rcases hsb with hsb | ⟨hrb, hsb | ⟨other, hcs', hcb⟩⟩
      · refine .inr ⟨suffix, hca, ?_⟩
        rw [MediaType.suffix, ← hsb]
        exact hcs
      · exact .inl (.inr hsb)
      · obtain rfl : suffix = other := Option.some.inj (hcs.symm.trans hcs')
        exact .inr ⟨suffix, hca, hcb⟩

end MediaType

namespace Accept

/-- The entry of a header that rates a type. -/
def entryFor? (a : Accept) (m : MediaType) : Option MediaRange :=
  a.entries.find? fun e => e.type.isCompatibleWith m

/-- A type of positive quality has it from an entry that is compatible with it. -/
theorem entryFor?_of_accepts {a : Accept} {m : MediaType} (h : a.accepts m = true) :
    ∃ e, a.entryFor? m = some e ∧ e.type.isCompatibleWith m = true := by
  rcases hentry : a.entryFor? m with _ | e
  · unfold entryFor? at hentry
    unfold accepts qualityFor at h
    rw [hentry] at h
    exact absurd h (by decide)
  · have hfound : a.entries.find? (fun e => e.type.isCompatibleWith m) = some e := hentry
    have hcompatible := List.find?_some hfound
    exact ⟨e, rfl, hcompatible⟩

end Accept

end RestDispatch
