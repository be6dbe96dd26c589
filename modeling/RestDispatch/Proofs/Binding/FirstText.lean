import RestDispatch.Proofs.Binding.RequiredValue

/-!
# Several texts for a scalar

A scalar is converted from the first of the texts that a source carries under its name, so the
other texts should not matter.  They do where a text counts as missing.  Beside a default an
empty text does, but of several texts all must be empty.  An empty text in front of others is
therefore converted, and of a string, which alone can be empty, the empty string is the result in
place of the default.  Every other scalar type converts the empty text to null, which is absent.
-/

namespace RestDispatch

theorem Ty.isText_iff (t : Ty) : t.isText = true ↔ t.unwrap = .string := by
  match t with
  | .optional t => exact t.isText_iff
  | .string => exact ⟨fun _ => rfl, fun _ => rfl⟩
  | .bool | .char | .integer _ | .single | .double | .bytes | .list _ | .set _ | .array _
  | .map _ | .cookie | .headers | .parsed _ | .object _ => simp [isText, unwrap]

/-- A text is a string as it is. -/
theorem Conversion.MadeFor.convert_of_isText {c : Conversion} {target : Ty} (h : c.MadeFor target)
    (htext : target.isText = true) (s : String) : c.convert s = .ok (.string s) := by
  have hstring : target.unwrap = .string := target.isText_iff.mp htext
  cases h with
  | scalar => simp [convert, Conversion.scalar, hstring, readScalar]
  | bytes hbytes => simp [hbytes] at hstring
  | list hlist => rcases hlist with h | h <;> simp [h] at hstring
  | set hset => simp [hset] at hstring

/-- The empty text in front of others is given to a string that has another default. -/
structure NamedValue.KeepsEmpty (v : NamedValue) (ty : Ty) (first : String)
    (others : List String) : Prop where
  isText : ty.isText = true
  first : first = ""
  others : ∃ text ∈ others, text ≠ ""
  default? : ∃ literal, v.default? = some literal ∧ literal ≠ ""

namespace Lookup

variable {l : Lookup} {kind : String} {c : Conversion} {ty : Ty} {first : String}
  {others : List String}

/-- The value of what does not count as missing: what it is converted to, unless that is null. -/
def converted (l : Lookup) (kind : String) (c : Option Conversion) (carried : Carried) :
    Except Error Value :=
  match l.convert kind c carried with
  | .ok .null => l.absent kind
  | result => result

theorem present_eq (l : Lookup) (kind : String) (c : Option Conversion) (carried : Carried) :
    l.present kind c carried =
      if l.default?.isSome && carried.isBlank then l.absent kind
      else l.converted kind c carried :=
  rfl

/-- Only the first text is converted. -/
theorem converted_multiple (hc : c.MadeFor ty) (hscalar : ty.isScalar = true) :
    l.converted kind (some c) (.multiple (first :: others)) =
      l.converted kind (some c) (.single first) := by
  simp only [converted, convert, convertRaw, hc.convertAll_cons hscalar]

/-- Where nothing counts as missing, the other texts do not matter. -/
theorem resolve_multiple_of_present (hc : c.MadeFor ty) (hscalar : ty.isScalar = true)
    (hpresent : l.default? = none ∨ first ≠ "") :
    l.resolve kind (some c) (some (.multiple (first :: others))) =
      l.resolve kind (some c) (some (.single first)) := by
  rcases hpresent with hnone | hfirst
  · simp only [resolve, present_eq, hnone, Option.isSome_none, Bool.false_and,
      converted_multiple hc hscalar]
  · have hblank : first.isEmpty = false := by simpa using hfirst
    simp only [resolve, present_eq, Carried.isBlank, List.all_cons, hblank, Bool.false_and,
      Bool.and_false, converted_multiple hc hscalar]

/-- An empty text does not count as missing among others. -/
theorem resolve_empty_among (hc : c.MadeFor ty) (hscalar : ty.isScalar = true)
    (hothers : ∃ text ∈ others, text ≠ "") :
    l.resolve kind (some c) (some (.multiple ("" :: others))) =
      l.converted kind (some c) (.single "") := by
  have hblank : (Carried.multiple ("" :: others)).isBlank = false := by
    obtain ⟨text, htext, hne⟩ := hothers
    rw [Bool.eq_false_iff]
    intro hall
    simp only [Carried.isBlank, List.all_eq_true, List.forall_mem_cons] at hall
    exact hne (String.isEmpty_iff.mp (hall.2 text htext))
  rw [resolve, present_eq, hblank, Bool.and_false, converted_multiple hc hscalar]
  · simp
  · simp

theorem converted_of_isText (hc : c.MadeFor ty) (htext : ty.isText = true) (text : String) :
    l.converted kind (some c) (.single text) = .ok (.string text) := by
  simp only [converted, convert, convertRaw, hc.convert_of_isText htext]

/-- Of all scalars only a string can be empty. -/
theorem converted_empty (hc : c.MadeFor ty) (hscalar : ty.isScalar = true)
    (htext : ty.isText = false) : l.converted kind (some c) (.single "") = l.absent kind := by
  have hstring : ty.unwrap ≠ .string := by
    rw [Ne, ← ty.isText_iff, htext]
    exact Bool.false_ne_true
  have hnull : c.convert "" = .ok .null := (hc.convert_eq_null_iff "").mpr ⟨hscalar, hstring, rfl⟩
  simp only [converted, convert, convertRaw, hnull]

section

variable {d : Value} (hdefault : l.default? = some d)

include hdefault

theorem absent_of_default : l.absent kind = .ok d := by
  rw [absent, hdefault]

/-- An empty text alone counts as missing beside a default. -/
theorem resolve_empty (c : Option Conversion) :
    l.resolve kind c (some (.single "")) = .ok d := by
  have hblank : (l.default?.isSome && (Carried.single "").isBlank) = true := by
    rw [hdefault]
    rfl
  rw [resolve, present_eq, if_pos hblank, absent_of_default hdefault]
  · simp

/-- In front of others it does too, unless it is kept as a string other than the default. -/
theorem resolve_empty_first (hc : c.MadeFor ty) (hscalar : ty.isScalar = true)
    (hstring : ty.isText = true → (∃ text ∈ others, text ≠ "") → d = .string "") :
    l.resolve kind (some c) (some (.multiple ("" :: others))) = .ok d := by
  by_cases hothers : ∃ text ∈ others, text ≠ ""
  · rw [resolve_empty_among hc hscalar hothers]
    cases htext : ty.isText with
    | false => rw [converted_empty hc hscalar htext, absent_of_default hdefault]
    | true => rw [converted_of_isText hc htext, hstring htext hothers]
  · have hblank : (l.default?.isSome && (Carried.multiple ("" :: others)).isBlank) = true := by
      rw [hdefault]
      simpa [Carried.isBlank] using hothers
    rw [resolve, present_eq, if_pos hblank, absent_of_default hdefault]
    · simp

end

/-- The default of a string is its literal. -/
theorem AsksFor.default_of_isText {v : NamedValue} {p : Param} {insists : Bool} {d : Value}
    (hl : l.AsksFor insists v p) (htext : p.ty.isText = true) (hd : l.default? = some d) :
    ∃ literal, v.default? = some literal ∧ d = .string literal := by
  obtain ⟨literal, c, hliteral, hc, hconverted⟩ := hl.converted d hd
  have hstring := (Conversion.madeFor_of? hc).convert_of_isText htext literal
  exact ⟨literal, hliteral, Except.ok.inj (hconverted.symm.trans hstring)⟩

/-- A scalar sees only the first of several texts, unless that one is empty and kept.  The empty
text alone always gives way to a default, so there the results differ. -/
theorem first_text_decides_iff {v : NamedValue} {p : Param} (hscalar : p.ty.isScalar = true)
    (hl : ofAnnotation v p (Conversion.of? p.ty) = .ok l) (required : Bool) (kind first : String)
    (others : List String) :
    let asked : Lookup := { l with required := required }
    let several := asked.resolve kind (Conversion.of? p.ty) (some (.multiple (first :: others)))
    let one := asked.resolve kind (Conversion.of? p.ty) (some (.single first))
    (several = one ↔ ¬ v.KeepsEmpty p.ty first others) ∧
      (first = "" → ∀ d, l.default? = some d → one = .ok d) ∧
      (v.KeepsEmpty p.ty first others → several = .ok (.string "")) := by
  intro asked several one
  have hasks : l.AsksFor true v p := returnsOnly_ofAnnotation v (fun c hc => hc) l hl
  obtain ⟨c, hc⟩ := Conversion.exists_of?_of_isScalar hscalar
  have hmade : c.MadeFor p.ty := Conversion.madeFor_of? hc
  have hone (hfirst : first = "") (d : Value) (hd : l.default? = some d) : one = .ok d := by
    subst hfirst
    exact resolve_empty (l := asked) hd _
  have hkept (h : v.KeepsEmpty p.ty first others) : several = .ok (.string "") := by
    obtain ⟨htext, rfl, hothers, -⟩ := h
    simp only [several, hc]
    rw [resolve_empty_among hmade hscalar hothers, converted_of_isText hmade htext]
  refine ⟨⟨?differ, ?agree⟩, hone, hkept⟩
  case differ =>
    intro heq h
    obtain ⟨literal, hliteral, hne⟩ := h.default?
    have hsome : l.default?.isSome = true := by
      rw [hasks.default?, hliteral]
      rfl
    obtain ⟨d, hd⟩ := Option.isSome_iff_exists.mp hsome
    obtain ⟨literal', hliteral', rfl⟩ := hasks.default_of_isText h.isText hd
    obtain rfl : literal = literal' := Option.some.inj (hliteral.symm.trans hliteral')
    have hempty : Except.ok (.string "") = (.ok (.string literal) : Except Error Value) :=
      (hkept h).symm.trans (heq.trans (hone h.first _ hd))
    cases hempty
    exact hne rfl
  case agree =>
    intro hnot
    rcases hdefault : l.default? with _ | d
    · simp only [several, one, hc]
      exact resolve_multiple_of_present (l := asked) hmade hscalar (.inl hdefault)
    · by_cases hfirst : first = ""
      · rw [hone hfirst d hdefault]
        simp only [several, hc, hfirst]
        refine resolve_empty_first (l := asked) hdefault hmade hscalar fun htext hothers => ?_
        obtain ⟨literal, hliteral, rfl⟩ := hasks.default_of_isText htext hdefault
        have hempty : literal = "" := by
          refine Decidable.byContradiction fun hne => ?_
          exact hnot ⟨htext, hfirst, hothers, literal, hliteral, hne⟩
        rw [hempty]
      · simp only [several, one, hc]
        exact resolve_multiple_of_present (l := asked) hmade hscalar (.inr hfirst)

/-- A size that is asked for by a header. -/
def sizeHeader : Param where
  name := "size"
  ty := .optional (.integer .u32)
  index := 0
  annotations := [.requestHeader ⟨"X-Size", true, some "20"⟩]
  owner := .bean "Page"

def modeHeader : Param where
  name := "mode"
  ty := .string
  index := 1
  annotations := [.requestHeader ⟨"X-Mode", true, some "plain"⟩]
  owner := .bean "Page"

/-- An empty size in front of another one. -/
theorem first_text_decides_iff_size :
    ∃ l, ofAnnotation ⟨"X-Size", true, some "20"⟩ sizeHeader (Conversion.of? sizeHeader.ty) =
        .ok l ∧
      l.resolve "header" (Conversion.of? sizeHeader.ty) (some (.multiple ["", "5"])) =
        l.resolve "header" (Conversion.of? sizeHeader.ty) (some (.single "")) ∧
      l.resolve "header" (Conversion.of? sizeHeader.ty) (some (.multiple ["", "5"])) =
        .ok (.uint 20) := by
  have hl : ofAnnotation ⟨"X-Size", true, some "20"⟩ sizeHeader (Conversion.of? sizeHeader.ty) =
      .ok ⟨"X-Size", false, some (.uint 20)⟩ := rfl
  have hdecides := first_text_decides_iff rfl hl false "header" "" ["5"]
  have hgone : ¬ NamedValue.KeepsEmpty ⟨"X-Size", true, some "20"⟩ sizeHeader.ty "" ["5"] :=
    fun h => Bool.false_ne_true h.isText
  have hsame := hdecides.1.mpr hgone
  exact ⟨_, hl, hsame, hsame.trans (hdecides.2.1 rfl _ rfl)⟩

/-- An empty mode in front of another one is kept in place of the default. -/
theorem empty_mode_kept :
    ¬ ∀ (v : NamedValue) (p : Param) (l : Lookup), p.ty.isScalar = true →
      ofAnnotation v p (Conversion.of? p.ty) = .ok l →
        ∀ (kind first : String) (others : List String),
          l.resolve kind (Conversion.of? p.ty) (some (.multiple (first :: others))) =
            l.resolve kind (Conversion.of? p.ty) (some (.single first)) := by
  intro hsame
  have hl : ofAnnotation ⟨"X-Mode", true, some "plain"⟩ modeHeader (Conversion.of? modeHeader.ty) =
      .ok ⟨"X-Mode", true, some (.string "plain")⟩ := rfl
  have hmode := hsame _ modeHeader _ rfl hl "header" "" ["fast"]
  have hkept : Except.ok (Value.string "") = (.ok (.string "plain") : Except Error Value) := hmode
  have hempty : "" = "plain" := Value.string.inj (Except.ok.inj hkept)
  exact absurd hempty (by decide)

end Lookup

end RestDispatch
