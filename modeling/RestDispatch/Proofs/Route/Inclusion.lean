import RestDispatch.Proofs.Route.SharedPath

/-!
# Patterns that match fewer paths

If every path of one pattern is a path of another one, the first should be tried first.  Ranks
give it this place as far as they count stars and literals: a pattern that matches fewer paths
never has fewer segments that take a part each, so it never comes first for having fewer
variables, or more segments.  Stars count before literals, whatever part of a path they stand
for; a pattern that trades a variable for a star is placed behind, however few paths it matches.

Whether a segment takes what another one takes is found out by paths that are made for it: the
segments that take one part each get the parts of a known path, or a text that the other pattern
does not spell, and `**` gets nothing, or one part more.
-/

namespace RestDispatch

namespace PathPart

/-- Some path has the part. -/
def Occurs (matrix : Bool) (part : PathPart) : Prop :=
  ∃ path, part ∈ ofPath matrix path

theorem occurs_iff {matrix : Bool} {part : PathPart} :
    part.Occurs matrix ↔ ∃ text, (text ≠ [] ∧ '/' ∉ text) ∧ cut matrix text = part := by
  constructor
  · rintro ⟨path, hpart⟩
    obtain ⟨text, htext, rfl⟩ := List.mem_map.mp hpart
    obtain ⟨hsplit, hnonempty⟩ := List.mem_filter.mp htext
    exact ⟨text, ⟨of_decide_eq_true hnonempty, Text.not_mem_of_mem_splitOn hsplit⟩, rfl⟩
  · rintro ⟨text, htext, rfl⟩
    refine ⟨PathPattern.joinTexts [text], ?_⟩
    rw [PathPattern.ofPath_joinTexts (by simpa using htext)]
    simp

/-- Parts of whatever paths make a path. -/
theorem exists_ofPath_eq {matrix : Bool} {parts : List PathPart}
    (hparts : ∀ part ∈ parts, part.Occurs matrix) : ∃ path, ofPath matrix path = parts := by
  have htexts : ∃ texts : List (List Char), (∀ text ∈ texts, text ≠ [] ∧ '/' ∉ text) ∧
      texts.map (cut matrix) = parts := by
    induction parts with
    | nil => exact ⟨[], by simp, rfl⟩
    | cons part parts ih =>
      obtain ⟨text, htext, hcut⟩ := occurs_iff.mp (hparts part List.mem_cons_self)
      obtain ⟨texts, htexts, hcuts⟩ := ih (List.forall_mem_of_forall_mem_cons hparts)
      exact ⟨text :: texts, List.forall_mem_cons.mpr ⟨htext, htexts⟩, by simp [hcut, hcuts]⟩
  obtain ⟨texts, htexts, rfl⟩ := htexts
  exact ⟨_, PathPattern.ofPath_joinTexts htexts matrix⟩

theorem forall_occurs {matrix : Bool} {extra : PathPart} {kept parts : List PathPart}
    (hextra : extra.Occurs matrix) (hkept : ∀ part ∈ kept, part.Occurs matrix)
    (hparts : ∀ part ∈ parts, part = extra ∨ part ∈ kept) : ∀ part ∈ parts, part.Occurs matrix := by
  intro part hpart
  rcases hparts part hpart with rfl | hmem
  · exact hextra
  · exact hkept part hmem

/-- A part that none of the given texts is about. -/
theorem exists_fresh (texts : List String) (matrix : Bool) :
    ∃ part : PathPart, part.Occurs matrix ∧ part.text ∉ texts := by
  let text := List.replicate ((texts.map String.toList).flatten.length + 1) 'a'
  have hchars : ∀ c ∈ text, c = 'a' := fun c hc => List.eq_of_mem_replicate hc
  have hplain : ';' ∉ text ∧ '/' ∉ text :=
    ⟨fun h => absurd (hchars _ h) (by decide), fun h => absurd (hchars _ h) (by decide)⟩
  refine ⟨⟨String.ofList text, none⟩, occurs_iff.mpr ⟨text, ⟨by simp [text], hplain.2⟩, ?_⟩, ?_⟩
  · rw [cut, if_neg fun h => hplain.1 h.2]
  · intro hmem
    have htext : text ∈ texts.map String.toList :=
      List.mem_map.mpr ⟨_, hmem, String.toList_ofList⟩
    have hle := (List.sublist_flatten_of_mem htext).length_le
    rw [List.length_replicate] at hle
    omega

end PathPart

namespace PathSegment

def isMany : PathSegment → Bool
  | .many => true
  | _ => false

def isOne : PathSegment → Bool
  | .one => true
  | _ => false

/-- The text that a literal spells. -/
def text? : PathSegment → Option String
  | .literal text => some text
  | _ => none

/-- Whether a segment is seen to take all that another one takes. -/
def covers : PathSegment → PathSegment → Bool
  | .literal text, .literal other => text == other
  | .capture _ none, segment => !segment.isMany
  | .one, segment => !segment.isMany
  | .many, .many => true
  | _, _ => false

theorem isMany_iff {segment : PathSegment} : segment.isMany = true ↔ segment = .many := by
  cases segment <;> simp [isMany]

theorem accepts_of_not_isLiteral {a : PathSegment} (ha : a.isUnconstrained = true)
    (hliteral : ¬a.isLiteral = true) (text : String) : a.accepts text = true := by
  apply accepts_of_isUnconstrained ha
  rintro lit rfl
  exact hliteral rfl

theorem accepts_of_covers {a b : PathSegment} (h : b.covers a = true) {text : String}
    (ha : a.accepts text = true) : b.accepts text = true := by
  cases b with
  | literal other =>
    cases a with
    | literal lit =>
      have heq : other = lit := beq_iff_eq.mp h
      rw [heq]
      exact ha
    | _ => exact Bool.noConfusion h
  | capture name constraint =>
    cases constraint with
    | none => rfl
    | some c => exact Bool.noConfusion h
  | _ => rfl

theorem many_iff_of_covers {a b : PathSegment} (h : b.covers a = true) :
    a = .many ↔ b = .many := by
  rcases b with lit | ⟨name, _ | c⟩ | _ | _ <;> cases a <;> simp_all [covers, isMany]

end PathSegment

namespace PathPattern

/-- How often a pattern has `**`. -/
def manies (p : PathPattern) : Nat := p.segments.countP PathSegment.isMany

/-- How often a pattern has `*`. -/
def ones (p : PathPattern) : Nat := p.segments.countP PathSegment.isOne

def literals (p : PathPattern) : Nat := p.segments.countP PathSegment.isLiteral

theorem manies_eq_zero_iff {p : PathPattern} : p.manies = 0 ↔ .many ∉ p.segments := by
  rw [manies, List.countP_eq_zero]
  constructor
  · exact fun h hmem => h _ hmem rfl
  · intro h segment hsegment hmany
    rw [PathSegment.isMany_iff] at hmany
    exact h (hmany ▸ hsegment)

/-- The segments that take a part each. -/
def takers (segments : List PathSegment) : List PathSegment := segments.filter (!·.isMany)

theorem length_eq (segments : List PathSegment) :
    segments.length = segments.countP PathSegment.isMany + segments.countP PathSegment.isOne +
      segments.countP PathSegment.isLiteral + segments.countP fun s => s.name?.isSome := by
  induction segments with
  | nil => rfl
  | cons segment segments ih =>
    simp only [List.length_cons, List.countP_cons, ih]
    cases segment <;>
      simp [PathSegment.isMany, PathSegment.isOne, PathSegment.isLiteral, PathSegment.name?] <;>
        omega

theorem length_takers (segments : List PathSegment) :
    (takers segments).length + segments.countP PathSegment.isMany = segments.length := by
  have hlength := List.length_eq_countP_add_countP PathSegment.isMany (l := segments)
  have htakers : (takers segments).length = segments.countP fun s => ¬s.isMany := by
    rw [takers, ← List.countP_eq_length_filter]
    simp
  omega

/-- Between patterns of which the more specific one has at least as many takers, variables and
length do not matter. -/
theorem rank_lt_iff {p q : PathPattern}
    (htakers : (takers q.segments).length ≤ (takers p.segments).length) :
    p.rank < q.rank ↔ p.manies < q.manies ∨ p.manies = q.manies ∧
      (p.ones < q.ones ∨ p.ones = q.ones ∧ q.literals < p.literals) := by
  have hp := length_eq p.segments
  have hq := length_eq q.segments
  have hp' := length_takers p.segments
  have hq' := length_takers q.segments
  have hrank (p : PathPattern) : p.rank = [(p.manies : Int), p.ones, -p.literals,
      (p.segments.countP fun s => s.name?.isSome : Nat), -p.segments.length] := rfl
  have hnil : ¬([] : List Int) < [] := List.lt_irrefl []
  rw [hrank, hrank]
  simp only [List.cons_lt_cons_iff, hnil, and_false, or_false, manies, ones, literals]
  omega

/-- Segments that take one part each, and the parts they take. -/
abbrev Fits (segments : List PathSegment) (parts : List PathPart) : Prop :=
  List.Forall₂ (fun segment part => segment.accepts part.text = true) segments parts

section

variable {segments : List PathSegment} {parts : List PathPart} {shares : List (List PathPart)}

theorem takers_many : takers (.many :: segments) = takers segments := rfl

theorem takers_cons {segment : PathSegment} (hs : segment ≠ .many) :
    takers (segment :: segments) = segment :: takers segments := by
  rw [takers, List.filter_cons_of_pos, takers]
  simpa [← PathSegment.isMany_iff] using hs

theorem takers_eq_self (hno : .many ∉ segments) : takers segments = segments := by
  rw [takers, List.filter_eq_self]
  intro segment hsegment
  have hs : segment ≠ .many := fun heq => hno (heq ▸ hsegment)
  simpa [← PathSegment.isMany_iff] using hs

theorem Alignment.length_eq (h : Alignment segments parts shares) (hno : .many ∉ segments) :
    parts.length = segments.length := by
  induction h with
  | done => rfl
  | many => simp at hno
  | _ => simp_all

/-- The parts that are not given to a `**`. -/
theorem Alignment.exists_fits (h : Alignment segments parts shares) :
    ∃ kept, kept.Sublist parts ∧ Fits (takers segments) kept := by
  induction segments generalizing parts shares with
  | nil =>
    cases h
    exact ⟨[], .slnil, .nil⟩
  | cons segment segments ih =>
    by_cases hs : segment = .many
    · subst hs
      obtain ⟨taken, rest, others, rfl, -, hrest⟩ := alignment_many_iff.mp h
      obtain ⟨kept, hkept, hfits⟩ := ih hrest
      exact ⟨kept, hkept.trans (List.sublist_append_right taken rest), hfits⟩
    · obtain ⟨part, rest, others, rfl, -, haccepts, hrest⟩ := (alignment_cons_iff hs).mp h
      obtain ⟨kept, hkept, hfits⟩ := ih hrest
      rw [takers_cons hs]
      exact ⟨part :: kept, hkept.cons_cons part, .cons haccepts hfits⟩

/-- A `**` may take nothing. -/
theorem exists_alignment_of_fits (h : Fits (takers segments) parts) :
    ∃ shares, Alignment segments parts shares := by
  induction segments generalizing parts with
  | nil =>
    cases h
    exact ⟨[], .done⟩
  | cons segment segments ih =>
    by_cases hs : segment = .many
    · subst hs
      obtain ⟨shares, hshares⟩ := ih h
      exact ⟨[] :: shares, .many [] hshares⟩
    · rw [takers_cons hs] at h
      obtain ⟨part, rest, haccepts, hrest, rfl⟩ := List.forall₂_cons_left_iff.mp h
      obtain ⟨shares, hshares⟩ := ih hrest
      exact ⟨_, (alignment_cons_iff hs).mpr ⟨part, rest, shares, rfl, rfl, haccepts, hshares⟩⟩

/-- A `**` may take one part. -/
theorem exists_alignment_with (extra : PathPart) (hmany : .many ∈ segments)
    (h : Fits (takers segments) parts) :
    ∃ longer shares, Alignment segments longer shares ∧ longer.length = parts.length + 1 ∧
      ∀ part ∈ longer, part = extra ∨ part ∈ parts := by
  induction segments generalizing parts with
  | nil => simp at hmany
  | cons segment segments ih =>
    by_cases hs : segment = .many
    · subst hs
      rw [takers_many] at h
      obtain ⟨shares, hshares⟩ := exists_alignment_of_fits h
      exact ⟨extra :: parts, [extra] :: shares, .many [extra] hshares, rfl, by simp⟩
    · rw [takers_cons hs] at h
      have hlater : .many ∈ segments := (List.mem_cons.mp hmany).resolve_left (Ne.symm hs)
      obtain ⟨part, rest, haccepts, hrest, rfl⟩ := List.forall₂_cons_left_iff.mp h
      obtain ⟨longer, shares, hshares, hlength, hmem⟩ := ih hlater hrest
      refine ⟨part :: longer, [part] :: shares, ?_, by simp [hlength], ?_⟩
      · exact (alignment_cons_iff hs).mpr ⟨part, longer, shares, rfl, rfl, haccepts, hshares⟩
      · intro other hother
        rcases List.mem_cons.mp hother with rfl | hother
        · simp
        · rcases hmem other hother with rfl | hmem
          · simp
          · simp [hmem]

/-- Without `**` every segment takes a part. -/
theorem exists_alignment_iff (hno : .many ∉ segments) :
    (∃ shares, Alignment segments parts shares) ↔ Fits segments parts := by
  have htakers := takers_eq_self hno
  constructor
  · rintro ⟨shares, hshares⟩
    obtain ⟨kept, hkept, hfits⟩ := hshares.exists_fits
    have hlength := hshares.length_eq hno
    rw [htakers] at hfits
    rwa [hkept.eq_of_length (by rw [← hfits.length_eq, hlength])] at hfits
  · intro h
    rw [← htakers] at h
    exact exists_alignment_of_fits h

/-- Literals take only parts that they spell. -/
theorem Alignment.literals_le (h : Alignment segments parts shares) {fresh : PathPart}
    (hfresh : .literal fresh.text ∉ segments) :
    segments.countP PathSegment.isLiteral ≤ parts.countP (· ≠ fresh) := by
  induction h with
  | done => exact Nat.le_refl 0
  | @literal segments parts shares text part htext _ ih =>
    have hpart : part ≠ fresh := by
      rintro rfl
      simp [htext] at hfresh
    have hle := ih fun hmem => hfresh (List.mem_cons_of_mem _ hmem)
    rw [List.countP_cons_of_pos (by rfl), List.countP_cons_of_pos (by simpa using hpart)]
    omega
  | capture _ _ ih | one _ ih =>
    have hle := ih fun hmem => hfresh (List.mem_cons_of_mem _ hmem)
    rw [List.countP_cons_of_neg (by simp [PathSegment.isLiteral]), List.countP_cons]
    omega
  | many taken _ ih =>
    have hle := ih fun hmem => hfresh (List.mem_cons_of_mem _ hmem)
    rw [List.countP_cons_of_neg (by simp [PathSegment.isLiteral]), List.countP_append]
    omega

end

/-- Segments that take one part each, which is the given one except for literals. -/
abbrev FitsWith (fresh : PathPart) (segments : List PathSegment) (parts : List PathPart) : Prop :=
  List.Forall₂ (fun segment part =>
    segment.accepts part.text = true ∧ (segment.isLiteral = true ∨ part = fresh)) segments parts

section

variable {as bs : List PathSegment} {parts : List PathPart} {fresh : PathPart}

theorem exists_fitsWith (hfree : ∀ segment ∈ as, segment.isUnconstrained = true)
    (fresh : PathPart) (h : Fits as parts) :
    ∃ refilled, FitsWith fresh as refilled ∧ ∀ part ∈ refilled, part = fresh ∨ part ∈ parts := by
  induction h with
  | nil => exact ⟨[], .nil, by simp⟩
  | @cons segment part as parts haccepts _ ih =>
    obtain ⟨refilled, hrefilled, hmem⟩ := ih (List.forall_mem_of_forall_mem_cons hfree)
    have hlater : ∀ other ∈ refilled, other = fresh ∨ other ∈ part :: parts :=
      fun other hother => (hmem other hother).imp_right (List.mem_cons_of_mem part)
    by_cases hliteral : segment.isLiteral = true
    · exact ⟨part :: refilled, .cons ⟨haccepts, .inl hliteral⟩ hrefilled,
        List.forall_mem_cons.mpr ⟨.inr List.mem_cons_self, hlater⟩⟩
    · have hunconstrained := hfree segment List.mem_cons_self
      have hany := PathSegment.accepts_of_not_isLiteral hunconstrained hliteral fresh.text
      exact ⟨fresh :: refilled, .cons ⟨hany, .inr rfl⟩ hrefilled,
        List.forall_mem_cons.mpr ⟨.inl rfl, hlater⟩⟩

theorem FitsWith.fits (h : FitsWith fresh as parts) : Fits as parts :=
  h.imp fun _ _ hab => hab.1

theorem FitsWith.countP_le (h : FitsWith fresh as parts) :
    parts.countP (· ≠ fresh) ≤ as.countP PathSegment.isLiteral := by
  induction h with
  | nil => exact Nat.le_refl 0
  | @cons segment part as parts hpart _ ih =>
    rcases hpart.2 with hliteral | rfl
    · rw [List.countP_cons_of_pos hliteral, List.countP_cons]
      split <;> omega
    · rw [List.countP_cons_of_neg (by simp), List.countP_cons]
      omega

/-- What a literal takes is taken by the same literal on the other side. -/
theorem FitsWith.eq_of_isLiteral (h : FitsWith fresh as parts) (hbs : Fits bs parts)
    (hfresh : .literal fresh.text ∉ bs) :
    List.Forall₂ (fun a b => b.isLiteral = true → a = b) as bs := by
  induction h generalizing bs with
  | nil =>
    cases hbs
    exact .nil
  | @cons a part as parts hpart _ ih =>
    obtain ⟨b, bs, hb, hrest, rfl⟩ := List.forall₂_cons_right_iff.mp hbs
    refine .cons ?_ (ih hrest fun hmem => hfresh (List.mem_cons_of_mem b hmem))
    intro hliteral
    cases b with
    | literal text =>
      have htext : text = part.text := beq_iff_eq.mp hb
      have hne : part ≠ fresh := by
        rintro rfl
        simp [htext] at hfresh
      cases a with
      | literal other =>
        have hother : other = part.text := beq_iff_eq.mp hpart.1
        rw [htext, hother]
      | _ => exact absurd (hpart.2.resolve_left (by simp [PathSegment.isLiteral])) hne
    | _ => exact Bool.noConfusion hliteral

theorem countP_isLiteral_le (h : List.Forall₂ (fun a b => b.isLiteral = true → a = b) as bs) :
    bs.countP PathSegment.isLiteral ≤ as.countP PathSegment.isLiteral := by
  induction h with
  | nil => exact Nat.le_refl 0
  | @cons a b as bs hab _ ih =>
    rw [List.countP_cons, List.countP_cons]
    by_cases hb : b.isLiteral = true
    · rw [hab hb, if_pos hb]
      omega
    · rw [if_neg hb]
      omega

/-- With no more literals on one side, they are the same on both. -/
theorem eq_of_isLiteral_of_le (h : List.Forall₂ (fun a b => b.isLiteral = true → a = b) as bs)
    (hle : as.countP PathSegment.isLiteral ≤ bs.countP PathSegment.isLiteral) :
    List.Forall₂ (fun a b => a.isLiteral = true → a = b) as bs := by
  induction h with
  | nil => exact .nil
  | @cons a b as bs hab hrest ih =>
    have hcount := countP_isLiteral_le hrest
    rw [List.countP_cons, List.countP_cons] at hle
    by_cases hb : b.isLiteral = true
    · have heq := hab hb
      rw [heq] at hle
      exact .cons (fun _ => heq) (ih (by omega))
    · rw [if_neg hb] at hle
      have ha : ¬a.isLiteral = true := by
        intro ha
        rw [if_pos ha] at hle
        omega
      exact .cons (fun h => absurd h ha) (ih (by omega))

theorem Fits.of_eq_of_isLiteral (hfree : ∀ segment ∈ as, segment.isUnconstrained = true)
    (h : List.Forall₂ (fun a b => a.isLiteral = true → a = b) as bs) (hbs : Fits bs parts) :
    Fits as parts := by
  induction h generalizing parts with
  | nil =>
    cases hbs
    exact .nil
  | @cons a b as bs hab _ ih =>
    obtain ⟨part, rest, hb, hrest, rfl⟩ := List.forall₂_cons_left_iff.mp hbs
    refine .cons ?_ (ih (List.forall_mem_of_forall_mem_cons hfree) hrest)
    by_cases hliteral : a.isLiteral = true
    · rw [hab hliteral]
      exact hb
    · exact PathSegment.accepts_of_not_isLiteral (hfree a List.mem_cons_self) hliteral _

end

/-- A pattern that matches some path, and fewer than another one. -/
structure Narrower (p q : PathPattern) (matrix : Bool) : Prop where
  reached : ∃ path, (p.matchPath? path matrix).isSome = true
  included : ∀ path, (p.matchPath? path matrix).isSome = true →
    (q.matchPath? path matrix).isSome = true
  proper : ∃ path, (q.matchPath? path matrix).isSome = true ∧ p.matchPath? path matrix = none

namespace Narrower

variable {p q : PathPattern} {matrix : Bool}

theorem exists_alignment (h : p.Narrower q matrix) {parts : List PathPart}
    (hparts : ∀ part ∈ parts, part.Occurs matrix)
    (haligned : ∃ shares, Alignment p.segments parts shares) :
    ∃ others, Alignment q.segments parts others := by
  obtain ⟨path, rfl⟩ := PathPart.exists_ofPath_eq hparts
  have hmatch := h.included path
  rw [isSome_matchPath_iff, isSome_matchPath_iff, cutPath_eq] at hmatch
  exact hmatch haligned

/-- Parts for the segments that take one, out of a path that is matched. -/
theorem exists_fits (h : p.Narrower q matrix) :
    ∃ kept, Fits (takers p.segments) kept ∧ ∀ part ∈ kept, part.Occurs matrix := by
  obtain ⟨path, hpath⟩ := h.reached
  rw [isSome_matchPath_iff, cutPath_eq] at hpath
  obtain ⟨shares, hshares⟩ := hpath
  obtain ⟨kept, hkept, hfits⟩ := hshares.exists_fits
  exact ⟨kept, hfits, fun part hpart => ⟨path, hkept.subset hpart⟩⟩

theorem length_takers_le (h : p.Narrower q matrix) :
    (takers q.segments).length ≤ (takers p.segments).length := by
  obtain ⟨kept, hfits, hoccur⟩ := h.exists_fits
  obtain ⟨others, hothers⟩ := h.exists_alignment hoccur (exists_alignment_of_fits hfits)
  obtain ⟨fewer, hfewer, hfits'⟩ := hothers.exists_fits
  rw [hfits.length_eq, hfits'.length_eq]
  exact hfewer.length_le

/-- A pattern without `**` matches only paths of one length. -/
theorem many_notMem (h : p.Narrower q matrix) (hq : .many ∉ q.segments) :
    .many ∉ p.segments := by
  intro hmany
  obtain ⟨kept, hfits, hoccur⟩ := h.exists_fits
  obtain ⟨extra, hextra, -⟩ := PathPart.exists_fresh [] matrix
  obtain ⟨longer, shares, hshares, hlength, hmem⟩ := exists_alignment_with extra hmany hfits
  have hlonger := PathPart.forall_occurs hextra hoccur hmem
  obtain ⟨others, hothers⟩ := h.exists_alignment hoccur (exists_alignment_of_fits hfits)
  obtain ⟨others', hothers'⟩ := h.exists_alignment hlonger ⟨shares, hshares⟩
  -- Both are as long as the wider pattern, though one of them has a part more.
  have heq := (hothers.length_eq hq).trans (hothers'.length_eq hq).symm
  omega

/-- Parts for the narrower pattern; what its literals do not take is spelt by no literal of the
wider one. -/
theorem exists_fitsWith (h : p.Narrower q matrix) (hfree : p.Unconstrained) :
    ∃ fresh refilled, .literal fresh.text ∉ q.segments ∧
      FitsWith fresh (takers p.segments) refilled ∧ ∀ part ∈ refilled, part.Occurs matrix := by
  obtain ⟨kept, hfits, hoccur⟩ := h.exists_fits
  obtain ⟨fresh, hfresh, hspelt⟩ := PathPart.exists_fresh
    (q.segments.filterMap PathSegment.text?) matrix
  have htakers : ∀ segment ∈ takers p.segments, segment.isUnconstrained = true :=
    fun segment hsegment => hfree segment (List.mem_filter.mp hsegment).1
  obtain ⟨refilled, hrefilled, hmem⟩ := PathPattern.exists_fitsWith htakers fresh hfits
  refine ⟨fresh, refilled, ?_, hrefilled, PathPart.forall_occurs hfresh hoccur hmem⟩
  intro hliteral
  exact hspelt (List.mem_filterMap.mpr ⟨_, hliteral, rfl⟩)

theorem literals_le (h : p.Narrower q matrix) (hfree : p.Unconstrained) :
    q.literals ≤ p.literals := by
  obtain ⟨fresh, refilled, hfresh, hfits, hoccur⟩ := h.exists_fitsWith hfree
  obtain ⟨others, hothers⟩ := h.exists_alignment hoccur (exists_alignment_of_fits hfits.fits)
  have hsublist : (takers p.segments).Sublist p.segments := List.filter_sublist
  calc q.literals ≤ refilled.countP (· ≠ fresh) := hothers.literals_le hfresh
    _ ≤ (takers p.segments).countP PathSegment.isLiteral := hfits.countP_le
    _ ≤ p.literals := hsublist.countP_le

/-- Without `**`, fewer paths are matched only by more literals. -/
theorem literals_lt (h : p.Narrower q matrix) (hfree : p.Unconstrained)
    (hq : .many ∉ q.segments) : q.literals < p.literals := by
  have hp := h.many_notMem hq
  have htakers := takers_eq_self hp
  obtain ⟨fresh, refilled, hfresh, hfits, hoccur⟩ := h.exists_fitsWith hfree
  obtain ⟨path, hpath, hnone⟩ := h.proper
  have haligned := h.exists_alignment hoccur (exists_alignment_of_fits hfits.fits)
  rw [htakers] at hfits
  have hagree := hfits.eq_of_isLiteral ((exists_alignment_iff hq).mp haligned) hfresh
  -- With the same literals on both sides, the narrower pattern would match every path of the other.
  by_contra hle
  have hsame := eq_of_isLiteral_of_le hagree (Nat.le_of_not_lt hle)
  rw [isSome_matchPath_iff, exists_alignment_iff hq] at hpath
  have hpath' : (p.matchPath? path matrix).isSome = true := by
    rw [isSome_matchPath_iff, exists_alignment_iff hp]
    exact Fits.of_eq_of_isLiteral hfree hsame hpath
  rw [hnone] at hpath'
  exact Bool.noConfusion hpath'

end Narrower

section

variable {as bs : List PathSegment} {parts : List PathPart} {shares : List (List PathPart)}

/-- Segments that are covered one by one take nothing that the others do not take. -/
theorem Alignment.of_covers (h : Alignment as parts shares)
    (hcovers : List.Forall₂ (fun a b => b.covers a = true) as bs) : Alignment bs parts shares := by
  induction hcovers generalizing parts shares with
  | nil => exact h
  | @cons a b as bs hab _ ih =>
    have hmany := PathSegment.many_iff_of_covers hab
    by_cases ha : a = .many
    · rw [hmany.mp ha]
      rw [ha] at h
      obtain ⟨taken, rest, others, rfl, rfl, hrest⟩ := alignment_many_iff.mp h
      exact .many taken (ih hrest)
    · obtain ⟨part, rest, others, rfl, rfl, haccepts, hrest⟩ := (alignment_cons_iff ha).mp h
      exact (alignment_cons_iff (mt hmany.mpr ha)).mpr
        ⟨part, rest, others, rfl, rfl, PathSegment.accepts_of_covers hab haccepts, ih hrest⟩

end

theorem isSome_matchPath_of_covers {p q : PathPattern}
    (h : List.Forall₂ (fun a b => b.covers a = true) p.segments q.segments) {path : String}
    {matrix : Bool} (hpath : (p.matchPath? path matrix).isSome = true) :
    (q.matchPath? path matrix).isSome = true := by
  rw [isSome_matchPath_iff] at hpath ⊢
  obtain ⟨shares, hshares⟩ := hpath
  exact ⟨shares, hshares.of_covers h⟩

/-- Narrower as far as it is seen segment by segment, with a path of both and one of the other
pattern alone. -/
def seesNarrower (p q : PathPattern) (matrix : Bool) (both wide : String) : Bool :=
  decide (List.Forall₂ (fun a b => b.covers a = true) p.segments q.segments) &&
    ((p.matchPath? both matrix).isSome &&
      ((q.matchPath? wide matrix).isSome && (p.matchPath? wide matrix).isNone))

theorem Narrower.of_seesNarrower {p q : PathPattern} {matrix : Bool} {both wide : String}
    (h : seesNarrower p q matrix both wide = true) : p.Narrower q matrix := by
  rw [seesNarrower, Bool.and_eq_true, Bool.and_eq_true, Bool.and_eq_true, decide_eq_true_eq] at h
  obtain ⟨hcovers, hboth, hwide, hnone⟩ := h
  constructor
  · exact ⟨both, hboth⟩
  · exact fun path hpath => isSome_matchPath_of_covers hcovers hpath
  · exact ⟨wide, hwide, Option.isNone_iff_eq_none.mp hnone⟩

end PathPattern

end RestDispatch
