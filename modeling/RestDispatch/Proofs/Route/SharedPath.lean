import RestDispatch.Proofs.Route.Overlap
import RestDispatch.Proofs.Route.PathMatch

/-!
# Paths that two patterns share

Overlap of two patterns never misses a path that both of them match.  Where no variable has a
constraint it is exact: patterns that overlap have a path in common.  Such a path is found
along the recursion of overlap.  Two segments that are compared share one part; a segment that
is left to a `**` of the other side gets a part of its own, which the `**` takes as well.

A part that is written down as a path and cut again stays one part only if it is not empty and
has no slash.  Literals are such texts, since the segments of a pattern are cut at slashes too.
-/

namespace RestDispatch

/-- A part that is cut out of a path again as it is: not empty, without slash and without
matrix parameters. -/
structure PathPart.Plain (part : PathPart) : Prop where
  nonempty : part.text.toList ≠ []
  slashless : '/' ∉ part.text.toList
  bare : part.params = none

namespace PathSegment

/-- Whether a segment asks no constraint. -/
def isUnconstrained : PathSegment → Bool
  | .capture _ constraint => constraint.isNone
  | _ => true

/-- A text that two segments may share. -/
def sharedText : PathSegment → PathSegment → String
  | .literal text, _ => text
  | _, .literal text => text
  | _, _ => "part"

/-- A segment whose text, if it is a literal, is one part of a path. -/
def Written (segment : PathSegment) : Prop :=
  ∀ text, segment = .literal text → (⟨text, none⟩ : PathPart).Plain

theorem accepts_of_isUnconstrained {a : PathSegment} (ha : a.isUnconstrained = true)
    (hliteral : ∀ lit, a ≠ .literal lit) (text : String) : a.accepts text = true := by
  cases a with
  | literal lit => exact absurd rfl (hliteral lit)
  | capture name constraint =>
    obtain rfl : constraint = none := Option.isNone_iff_eq_none.mp ha
    rfl
  | _ => rfl

/-- Segments without constraints that may share a part share the text. -/
theorem accepts_sharedText {a b : PathSegment} (h : a.mayShare b = true)
    (ha : a.isUnconstrained = true) (hb : b.isUnconstrained = true) :
    a.accepts (a.sharedText b) = true ∧ b.accepts (a.sharedText b) = true := by
  cases a with
  | literal lit =>
    refine ⟨beq_self_eq_true lit, ?_⟩
    cases b with
    | literal other =>
      have heq : lit = other := beq_iff_eq.mp h
      exact beq_iff_eq.mpr heq.symm
    | _ => exact h
  | _ =>
    refine ⟨accepts_of_isUnconstrained ha (by simp) _, ?_⟩
    cases b with
    | literal other => exact beq_self_eq_true other
    | _ => exact accepts_of_isUnconstrained hb (by simp) _

theorem plain_sharedText {a b : PathSegment} (ha : a.Written) (hb : b.Written) :
    (⟨a.sharedText b, none⟩ : PathPart).Plain := by
  have hpart : (⟨"part", none⟩ : PathPart).Plain := ⟨by decide, by decide, rfl⟩
  cases a with
  | literal lit => exact ha lit rfl
  | _ =>
    cases b with
    | literal other => exact hb other rfl
    | _ => exact hpart

theorem parseCapture_ne_literal (raw inner : List Char) (text : String) :
    parseCapture raw inner ≠ .ok (.literal text) := by
  intro h
  have hname (name : List Char) (constraint : Option Constraint) :
      (if name.isEmpty then .error (.configuration (.unnamedVariable (String.ofList raw)))
        else .ok (.capture (String.ofList name) constraint) : Except Error PathSegment) ≠
          .ok (.literal text) := by
    split <;> simp
  unfold parseCapture at h
  split at h
  next =>
    obtain ⟨⟨name, constraint⟩, -, h⟩ := bind_eq_ok_iff.mp h
    exact hname _ _ h
  next => exact hname _ _ h

/-- A literal is the text it was read from. -/
theorem eq_of_parse_literal {raw : List Char} {text : String}
    (h : parse raw = .ok (.literal text)) : text = String.ofList raw := by
  unfold parse at h
  split at h
  next => simp at h
  split at h
  next => simp at h
  split at h
  next => exact absurd h (parseCapture_ne_literal _ _ _)
  next =>
    split at h
    next => simp at h
    next => simpa using h.symm

end PathSegment

namespace PathPattern

/-- Segments that can stand in a pattern, and that ask no constraint. -/
def Open (segments : List PathSegment) : Prop :=
  ∀ segment ∈ segments, segment.Written ∧ segment.isUnconstrained = true

/-- Two sequences of segments can be aligned with the same plain parts. -/
def Share (as bs : List PathSegment) : Prop :=
  ∃ parts : List PathPart, (∀ part ∈ parts, part.Plain) ∧
    (∃ shares, Alignment as parts shares) ∧ ∃ others, Alignment bs parts others

namespace Share

variable {a b : PathSegment} {as bs : List PathSegment}

theorem symm (h : Share as bs) : Share bs as := by
  obtain ⟨parts, hplain, hshares, hothers⟩ := h
  exact ⟨parts, hplain, hothers, hshares⟩

/-- A `**` takes no part. -/
theorem skip (h : Share as bs) : Share (.many :: as) bs := by
  obtain ⟨parts, hplain, ⟨shares, hshares⟩, hothers⟩ := h
  exact ⟨parts, hplain, ⟨[] :: shares, .many [] hshares⟩, hothers⟩

/-- Two segments take one part, and the segments behind them the others. -/
theorem cons (ha : a ≠ .many) (hb : b ≠ .many) {part : PathPart} (hpart : part.Plain)
    (hatext : a.accepts part.text = true) (hbtext : b.accepts part.text = true)
    (h : Share as bs) : Share (a :: as) (b :: bs) := by
  obtain ⟨parts, hplain, ⟨shares, hshares⟩, others, hothers⟩ := h
  refine ⟨part :: parts, ?_, ⟨[part] :: shares, ?_⟩, [part] :: others, ?_⟩
  · intro other hother
    rcases List.mem_cons.mp hother with rfl | hmem
    · exact hpart
    · exact hplain other hmem
  · exact (alignment_cons_iff ha).mpr ⟨part, parts, shares, rfl, rfl, hatext, hshares⟩
  · exact (alignment_cons_iff hb).mpr ⟨part, parts, others, rfl, rfl, hbtext, hothers⟩

/-- A `**` takes one more part, which another segment takes alone. -/
theorem swallow (hb : b.Written ∧ b.isUnconstrained = true) (h : Share (.many :: as) bs) :
    Share (.many :: as) (b :: bs) := by
  by_cases hmany : b = .many
  · rw [hmany]
    exact h.symm.skip.symm
  · obtain ⟨parts, hplain, ⟨shares, hshares⟩, others, hothers⟩ := h
    obtain ⟨taken, rest, behind, rfl, rfl, hbehind⟩ := alignment_many_iff.mp hshares
    have hone : b.mayShare .one = true := by
      cases b <;> rfl
    have htext := (PathSegment.accepts_sharedText hone hb.2 rfl).1
    have hpart := PathSegment.plain_sharedText hb.1 (b := .one) (by simp [PathSegment.Written])
    refine ⟨⟨b.sharedText .one, none⟩ :: (taken ++ rest), ?_, ?_, ?_⟩
    · intro other hother
      rcases List.mem_cons.mp hother with rfl | hmem
      · exact hpart
      · exact hplain other hmem
    · exact ⟨_, .many (⟨b.sharedText .one, none⟩ :: taken) hbehind⟩
    · exact ⟨_, (alignment_cons_iff hmany).mpr ⟨_, _, others, rfl, rfl, htext, hothers⟩⟩

end Share

/-- Sequences of segments that overlap share parts, unless a constraint is asked. -/
theorem share_of_overlap {as bs : List PathSegment} (h : overlap as bs = true)
    (has : Open as) (hbs : Open bs) : Share as bs := by
  induction as, bs using overlap.induct with
  | case1 => exact ⟨[], by simp, ⟨[], .done⟩, [], .done⟩
  | case2 as ih =>
    rw [overlap_many_nil] at h
    exact (ih h (List.forall_mem_of_forall_mem_cons has) hbs).skip
  | case3 as b bs ih ih' =>
    rw [overlap_many_cons, Bool.or_eq_true] at h
    rcases h with h | h
    · exact (ih h (List.forall_mem_of_forall_mem_cons has) hbs).skip
    · have hshare := ih' h has (List.forall_mem_of_forall_mem_cons hbs)
      exact hshare.swallow (hbs b List.mem_cons_self)
  | case4 bs ih =>
    rw [overlap_nil_many] at h
    exact (ih h has (List.forall_mem_of_forall_mem_cons hbs)).symm.skip.symm
  | case5 a as bs ha ih ih' =>
    rw [overlap_cons_many as bs ha, Bool.or_eq_true] at h
    rcases h with h | h
    · exact (ih h has (List.forall_mem_of_forall_mem_cons hbs)).symm.skip.symm
    · have hshare := ih' h (List.forall_mem_of_forall_mem_cons has) hbs
      exact (hshare.symm.swallow (has a List.mem_cons_self)).symm
  | case6 b bs hb =>
    rw [overlap_nil_cons bs hb] at h
    exact Bool.noConfusion h
  | case7 a as ha =>
    rw [overlap_cons_nil as ha] at h
    exact Bool.noConfusion h
  | case8 a as b bs ha hb ih =>
    rw [overlap_cons_cons as bs ha hb, Bool.and_eq_true] at h
    have ⟨hawritten, hafree⟩ := has a List.mem_cons_self
    have ⟨hbwritten, hbfree⟩ := hbs b List.mem_cons_self
    obtain ⟨hatext, hbtext⟩ := PathSegment.accepts_sharedText h.1 hafree hbfree
    have hshare := ih h.2 (List.forall_mem_of_forall_mem_cons has)
      (List.forall_mem_of_forall_mem_cons hbs)
    exact hshare.cons ha hb (PathSegment.plain_sharedText hawritten hbwritten) hatext hbtext

/-- Texts written down as a path. -/
def joinTexts (texts : List (List Char)) : String :=
  "/".intercalate ("" :: (texts.map String.ofList ++ [""]))

/-- Texts that are written down as a path are its parts. -/
theorem ofPath_joinTexts {texts : List (List Char)}
    (htexts : ∀ text ∈ texts, text ≠ [] ∧ '/' ∉ text) (matrix : Bool) :
    PathPart.ofPath matrix (joinTexts texts) = texts.map (PathPart.cut matrix) := by
  have hsplit : (joinTexts texts).toList.splitOn '/' = [] :: texts ++ [[]] := by
    have hslash : "/".toList = ['/'] := rfl
    rw [joinTexts, String.toList_intercalate, hslash, List.splitOn_intercalate]
    · simp
    · intro text htext
      simp only [List.map_cons, List.map_append, List.map_map, List.mem_cons, List.mem_append,
        List.mem_map] at htext
      rcases htext with rfl | ⟨part, hpart, rfl⟩ | rfl | hnil
      · simp
      · simpa using (htexts part hpart).2
      · simp
      · simp at hnil
    · simp
  have hkeep : texts.filter (· ≠ []) = texts := by
    rw [List.filter_eq_self]
    exact fun text htext => decide_eq_true (htexts text htext).1
  rw [PathPart.ofPath, hsplit, List.filter_append, List.filter_cons, hkeep]
  simp

/-- Parts written down as a path. -/
def joinParts (parts : List PathPart) : String :=
  "/".intercalate ("" :: (parts.map PathPart.text ++ [""]))

/-- Plain parts that are written down and cut again are the same. -/
theorem cutPath_joinParts {parts : List PathPart} (hplain : ∀ part ∈ parts, part.Plain) :
    cutPath false (joinParts parts) = parts := by
  have hjoin : joinParts parts = joinTexts (parts.map fun part => part.text.toList) := by
    simp [joinParts, joinTexts, Function.comp_def]
  have hcut : ∀ part ∈ parts, PathPart.cut false part.text.toList = part := by
    intro part hpart
    have hbare := (hplain part hpart).bare
    simp [PathPart.cut, ← hbare]
  rw [cutPath_eq, hjoin, ofPath_joinTexts, List.map_map]
  · exact (List.map_congr_left hcut).trans (List.map_id parts)
  · intro text htext
    obtain ⟨part, hpart, rfl⟩ := List.mem_map.mp htext
    exact ⟨(hplain part hpart).nonempty, (hplain part hpart).slashless⟩

/-- The segments of a pattern are read from the texts between its slashes. -/
theorem exists_raw_of_parseSegments {given : String} {names : List String}
    {raws : List (List Char)} {segments : List PathSegment}
    (h : parseSegments given names raws = .ok segments) :
    ∀ segment ∈ segments, ∃ raw ∈ raws, PathSegment.parse raw = .ok segment := by
  induction raws generalizing names segments with
  | nil =>
    cases h
    simp
  | cons raw raws ih =>
    rw [parseSegments, bind_eq_ok_iff] at h
    obtain ⟨first, hfirst, h⟩ := h
    have hcons {names : List String} {rest : List PathSegment}
        (hrest : parseSegments given names raws = .ok rest) :
        ∀ segment ∈ first :: rest, ∃ r ∈ raw :: raws, PathSegment.parse r = .ok segment := by
      intro segment hsegment
      rcases List.mem_cons.mp hsegment with rfl | hmem
      · exact ⟨raw, List.mem_cons_self, hfirst⟩
      · obtain ⟨r, hr, hparse⟩ := ih hrest segment hmem
        exact ⟨r, List.mem_cons_of_mem raw hr, hparse⟩
    split at h
    next =>
      split at h
      next => simp at h
      next =>
        obtain ⟨rest, hrest, h⟩ := bind_eq_ok_iff.mp h
        cases h
        exact hcons hrest
    next =>
      obtain ⟨rest, hrest, h⟩ := bind_eq_ok_iff.mp h
      cases h
      exact hcons hrest

theorem written_of_parse {given : String} {p : PathPattern} (h : parse given = .ok p) :
    ∀ segment ∈ p.segments, segment.Written := by
  obtain ⟨segments, hsegments, h⟩ := bind_eq_ok_iff.mp h
  cases h
  intro segment hsegment text htext
  obtain ⟨raw, hraw, hparse⟩ := exists_raw_of_parseSegments hsegments segment hsegment
  rw [Text.splitOn_eq, Text.filter_not_isEmpty, List.mem_filter] at hraw
  obtain rfl := PathSegment.eq_of_parse_literal (htext ▸ hparse)
  refine ⟨?_, ?_, rfl⟩
  · simpa using hraw.2
  · simpa using Text.not_mem_of_mem_splitOn hraw.1

theorem written_of_alike {as bs : List PathSegment} (h : List.Forall₂ PathSegment.Alike as bs)
    (hbs : ∀ segment ∈ bs, segment.Written) : ∀ segment ∈ as, segment.Written := by
  induction h with
  | nil => simp
  | @cons a b as bs hab _ ih =>
    intro segment hsegment
    rcases List.mem_cons.mp hsegment with rfl | hmem
    · rintro text rfl
      cases hab
      exact hbs _ List.mem_cons_self text rfl
    · exact ih (List.forall_mem_of_forall_mem_cons hbs) segment hmem

theorem Declared.written {p : PathPattern} (hp : p.Declared) :
    ∀ segment ∈ p.segments, segment.Written := by
  obtain ⟨given, q, hparse, -, halike⟩ := hp
  exact written_of_alike halike (written_of_parse hparse)

/-- A pattern all of whose variables take any part. -/
def Unconstrained (p : PathPattern) : Prop :=
  ∀ segment ∈ p.segments, segment.isUnconstrained = true

theorem isSome_matchPath_iff (p : PathPattern) (path : String) (matrix : Bool) :
    (p.matchPath? path matrix).isSome ↔
      ∃ shares, Alignment p.segments (cutPath matrix path) shares := by
  rw [← search_iff []]
  unfold matchPath?
  rcases search p.segments (cutPath matrix path) [] with ⟨_ | _, found⟩
  · simp
  · simp

/-- Patterns that match one path overlap, whatever the tests of their constraints are;
overlap is symmetric; and patterns without constraints overlap only if some path, taken as it
is written, is matched by both. -/
theorem mayOverlap_sound_and_exact {p q : PathPattern} (hp : p.Declared) (hq : q.Declared) :
    ((∃ path matrix, (p.matchPath? path matrix).isSome ∧ (q.matchPath? path matrix).isSome) →
      p.mayOverlap q = true) ∧
    p.mayOverlap q = q.mayOverlap p ∧
    (p.Unconstrained → q.Unconstrained → p.mayOverlap q = true →
      ∃ path, (p.matchPath? path false).isSome ∧ (q.matchPath? path false).isSome) := by
  refine ⟨?_, mayOverlap_comm p q, ?_⟩
  · rintro ⟨path, matrix, hpath, hpath'⟩
    obtain ⟨shares, hshares⟩ := (isSome_matchPath_iff p path matrix).mp hpath
    obtain ⟨others, hothers⟩ := (isSome_matchPath_iff q path matrix).mp hpath'
    exact overlap_of_alignment hshares hothers
  · intro hpfree hqfree hoverlap
    have hpopen : Open p.segments := fun s hs => ⟨hp.written s hs, hpfree s hs⟩
    have hqopen : Open q.segments := fun s hs => ⟨hq.written s hs, hqfree s hs⟩
    obtain ⟨parts, hplain, hshares, hothers⟩ := share_of_overlap hoverlap hpopen hqopen
    refine ⟨joinParts parts, ?_, ?_⟩
    · rw [isSome_matchPath_iff, cutPath_joinParts hplain]
      exact hshares
    · rw [isSome_matchPath_iff, cutPath_joinParts hplain]
      exact hothers

/-- Two patterns with a `**` on both sides of a literal and of each other. -/
theorem mayOverlap_exact_nested :
    ∃ p q, parse "/**/a/**" = .ok p ∧ parse "/{x}/**/{y}/*" = .ok q ∧
      (p.mayOverlap q = true ∧ p.mayOverlap q = q.mayOverlap p) ∧
      ∃ path, (p.matchPath? path false).isSome ∧ (q.matchPath? path false).isSome := by
  have hrun : ((parse "/**/a/**").toOption.bind fun p =>
      (parse "/{x}/**/{y}/*").toOption.bind fun q =>
        some (p.segments.all PathSegment.isUnconstrained,
          q.segments.all PathSegment.isUnconstrained, p.mayOverlap q)) =
        some (true, true, true) := by
    decide +kernel
  obtain ⟨p, hp, hrun⟩ := Option.bind_eq_some_iff.mp hrun
  obtain ⟨q, hq, hrun⟩ := Option.bind_eq_some_iff.mp hrun
  simp only [Option.some.injEq, Prod.mk.injEq, List.all_eq_true] at hrun
  obtain ⟨hpfree, hqfree, hoverlap⟩ := hrun
  have hp := toOption_eq_some_iff.mp hp
  have hq := toOption_eq_some_iff.mp hq
  obtain ⟨-, hsymm, hexact⟩ := mayOverlap_sound_and_exact (.of_parse hp) (.of_parse hq)
  exact ⟨p, q, hp, hq, ⟨hoverlap, hsymm⟩, hexact hpfree hqfree hoverlap⟩

end PathPattern

end RestDispatch
