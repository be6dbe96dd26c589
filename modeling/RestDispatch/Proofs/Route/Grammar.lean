import RestDispatch.Proofs.Route.PathMatch
import RestDispatch.Proofs.Text.Trimming

/-!
# How patterns are spelled

A pattern is read exactly when each of its parts spells a segment and no variable is declared
twice: a part is a star or two, a text without braces, or a name between braces, perhaps with a
colon and a constraint.  The variables are those that the parts declare, in their order,
and the text of a pattern that was read is read as the same pattern.

Only the outer braces of a part are looked at.  A name may hold further braces, so a part with
two variables in it is read as one variable with a long name.  And a constraint is read within a
group, so an expression that closes this group and opens another passes for a constraint.  These
are the only parts that are read and are not well formed.
-/

namespace RestDispatch

/-- The expression that a constraint is read as: a group that takes the whole of a text. -/
def Constraint.grouped (source : List Char) : List Char :=
  "^(?:".toList ++ source ++ ")$".toList

/-- A variable between braces, perhaps with a constraint. -/
def PathPart.braced (inner : List Char) : List Char := '\x7b' :: (inner ++ ['\x7d'])

/-- Neither an opening nor a closing brace occurs. -/
def Text.BraceFree (text : List Char) : Prop := '\x7b' ∉ text ∧ '\x7d' ∉ text

namespace PathSegment

/-- How segments are spelled. -/
inductive Spelled : List Char → PathSegment → Prop
  | one : Spelled ['*'] .one
  | many : Spelled ['*', '*'] .many
  | literal {text : List Char} : text ≠ ['*'] → text ≠ ['*', '*'] → Text.BraceFree text →
      Spelled text (.literal (String.ofList text))
  | free {name : List Char} : ':' ∉ name → Text.trim name ≠ [] →
      Spelled (PathPart.braced name) (.capture (String.ofList (Text.trim name)) none)
  | constrained {name source : List Char} {r : Regex} : ':' ∉ name → Text.trim name ≠ [] →
      Regex.parse (Constraint.grouped source) = .ok r →
      Spelled (PathPart.braced (name ++ ':' :: source))
        (.capture (String.ofList (Text.trim name)) (some ⟨String.ofList source, r.isMatch⟩))

/-- A part as it should be written: a star or two, a text without braces, or a variable whose
name is not blank and holds no brace, and whose constraint is an expression in itself. -/
inductive WellFormed : List Char → Prop
  | one : WellFormed ['*']
  | many : WellFormed ['*', '*']
  | literal {text : List Char} : Text.BraceFree text → WellFormed text
  | free {name : List Char} : ':' ∉ name → Text.trim name ≠ [] → Text.BraceFree name →
      WellFormed (PathPart.braced name)
  | constrained {name source : List Char} {r : Regex} : ':' ∉ name → Text.trim name ≠ [] →
      Text.BraceFree name → Regex.parse source = .ok r →
      WellFormed (PathPart.braced (name ++ ':' :: source))

/-- A segment whose name holds no brace and whose constraint is an expression in itself. -/
def Proper : PathSegment → Prop
  | .capture name none => Text.BraceFree name.toList
  | .capture name (some c) => Text.BraceFree name.toList ∧ ∃ r, Regex.parse c.source.toList = .ok r
  | _ => True

/-- The name of the variable that a part declares. -/
def variableIn? (raw : List Char) : Option String :=
  if raw.head? = some '\x7b' then
    some (String.ofList (Text.trim (raw.tail.dropLast.takeWhile (· != ':'))))
  else none

end PathSegment

namespace Text

theorem mem_trim_iff {c : Char} (hc : isBlank c = false) {cs : List Char} :
    c ∈ trim cs ↔ c ∈ cs := by
  have hdrop (ds : List Char) (h : c ∈ ds) : c ∈ ds.dropWhile isBlank := by
    rw [← List.takeWhile_append_dropWhile (p := isBlank) (l := ds), List.mem_append] at h
    refine h.resolve_left fun hblank => ?_
    have hfront := List.mem_takeWhile_imp hblank
    simp [hc] at hfront
  refine ⟨mem_of_mem_trim, fun h => ?_⟩
  have hback := hdrop _ (List.mem_reverse.mpr (hdrop cs h))
  exact List.mem_reverse.mpr hback

theorem braceFree_trim_iff {text : List Char} : BraceFree (trim text) ↔ BraceFree text := by
  unfold BraceFree
  rw [mem_trim_iff (by decide), mem_trim_iff (by decide)]

theorem stripBraces_eq_some_iff {raw inner : List Char} :
    (stripStart ['\x7b'] raw).bind (stripEnd ['\x7d']) = some inner ↔
      raw = PathPart.braced inner := by
  have hend {cs : List Char} : stripEnd ['\x7d'] cs = some inner ↔ cs = inner ++ ['\x7d'] := by
    simp only [stripEnd, Option.map_eq_some_iff, stripStart_eq_some_iff]
    constructor
    · rintro ⟨rest, hrest, rfl⟩
      simpa using congrArg List.reverse hrest
    · rintro rfl
      exact ⟨inner.reverse, by simp, by simp⟩
  simp only [Option.bind_eq_some_iff, stripStart_eq_some_iff, hend]
  constructor
  · rintro ⟨rest, rfl, rfl⟩
    rfl
  · rintro rfl
    exact ⟨inner ++ ['\x7d'], rfl, rfl⟩

end Text

namespace PathSegment

variable {raw inner name source : List Char} {segment : PathSegment}

theorem braced_inj {other : List Char} (h : PathPart.braced inner = PathPart.braced other) :
    inner = other := by
  simpa [PathPart.braced] using h

theorem not_braceFree_braced : ¬Text.BraceFree (PathPart.braced inner) :=
  fun h => h.1 List.mem_cons_self

theorem parseConstraint_eq_ok_iff {c : Constraint} :
    parseConstraint name source = .ok c ↔
      ∃ r, Regex.parse (Constraint.grouped source) = .ok r ∧
        c = ⟨String.ofList source, r.isMatch⟩ := by
  have hgroup : "^(?:".toList ++ source ++ ")$".toList = Constraint.grouped source := rfl
  unfold parseConstraint
  rw [hgroup]
  cases Regex.parse (Constraint.grouped source) with
  | ok r => simp [eq_comm]
  | error fault => simp

/-- A spelled variable is cut at its first colon. -/
theorem spelled_braced_iff :
    Spelled (PathPart.braced inner) segment ↔
      (':' ∉ inner ∧ Text.trim inner ≠ [] ∧
        segment = .capture (String.ofList (Text.trim inner)) none) ∨
      ∃ name source c, Text.splitOnce ':' inner = some (name, source) ∧ Text.trim name ≠ [] ∧
        parseConstraint name source = .ok c ∧
        segment = .capture (String.ofList (Text.trim name)) (some c) := by
  constructor
  · intro h
    generalize hraw : PathPart.braced inner = raw at h
    cases h with
    | one => simp [PathPart.braced] at hraw
    | many => simp [PathPart.braced] at hraw
    | literal _ _ hfree => exact absurd (hraw ▸ hfree) not_braceFree_braced
    | free hcolon hname =>
      obtain rfl := braced_inj hraw
      exact .inl ⟨hcolon, hname, rfl⟩
    | constrained hcolon hname hr =>
      obtain rfl := braced_inj hraw
      refine .inr ⟨_, _, _, Text.splitOnce_append_cons hcolon _, hname, ?_, rfl⟩
      exact parseConstraint_eq_ok_iff.mpr ⟨_, hr, rfl⟩
  · rintro (⟨hcolon, hname, rfl⟩ | ⟨name, source, c, hsplit, hname, hc, rfl⟩)
    · exact .free hcolon hname
    · obtain ⟨rfl, hcolon⟩ := Text.eq_of_splitOnce hsplit
      obtain ⟨r, hr, rfl⟩ := parseConstraint_eq_ok_iff.mp hc
      exact .constrained hcolon hname hr

theorem named_eq_ok_iff (raw name : List Char) (constraint : Option Constraint) :
    (if (Text.trim name).isEmpty then
        .error (.configuration (.unnamedVariable (String.ofList raw)))
      else .ok (.capture (String.ofList (Text.trim name)) constraint) :
        Except Error PathSegment) = .ok segment ↔
      Text.trim name ≠ [] ∧ segment = .capture (String.ofList (Text.trim name)) constraint := by
  cases htrim : Text.trim name with
  | nil => simp
  | cons c rest =>
    simp only [List.isEmpty_cons, Bool.false_eq_true, if_false, Except.ok.injEq, ne_eq,
      List.cons_ne_nil, not_false_eq_true, true_and]
    exact eq_comm

theorem parseCapture_eq_ok_iff :
    parseCapture raw inner = .ok segment ↔ Spelled (PathPart.braced inner) segment := by
  rw [spelled_braced_iff]
  unfold parseCapture
  split
  next name source hsplit =>
    have hcolon : ':' ∈ inner := by
      obtain ⟨rfl, -⟩ := Text.eq_of_splitOnce hsplit
      simp
    cases hc : parseConstraint name source with
    | error e => simp [hcolon, hsplit, hc, Except.map, bind_eq_ok_iff]
    | ok c =>
      have hnamed := @named_eq_ok_iff segment raw name (some c)
      simp only [Except.map, bind_eq_ok_iff, Except.ok.injEq, exists_eq_left', hnamed]
      simp [hcolon, hsplit, hc]
  next hsplit =>
    have hcolon : ':' ∉ inner := Text.splitOnce_eq_none.mp hsplit
    have hnamed := @named_eq_ok_iff segment raw inner none
    simp only [bind_eq_ok_iff, Except.ok.injEq, exists_eq_left', hnamed]
    simp [hcolon, hsplit]

theorem parse_braced : parse (PathPart.braced inner) = parseCapture (PathPart.braced inner) inner := by
  have hone : PathPart.braced inner ≠ ['*'] := by simp [PathPart.braced]
  have hmany : PathPart.braced inner ≠ ['*', '*'] := by simp [PathPart.braced]
  have hstrip := Text.stripBraces_eq_some_iff.mpr (rfl : PathPart.braced inner = _)
  unfold parse
  rw [if_neg hone, if_neg hmany, hstrip]

/-- A part is read exactly as it is spelled. -/
theorem parse_eq_ok_iff : parse raw = .ok segment ↔ Spelled raw segment := by
  constructor
  · intro h
    unfold parse at h
    split at h
    next hone =>
      cases h
      exact hone ▸ .one
    next hone =>
      split at h
      next hmany =>
        cases h
        exact hmany ▸ .many
      next hmany =>
        split at h
        next inner hinner =>
          obtain rfl := Text.stripBraces_eq_some_iff.mp hinner
          exact parseCapture_eq_ok_iff.mp h
        next =>
          split at h
          next => cases h
          next hbrace =>
            cases h
            have hfree : Text.BraceFree raw := by simpa [Text.BraceFree] using hbrace
            exact .literal hone hmany hfree
  · intro h
    have hspelled := h
    cases h with
    | one => rfl
    | many => rfl
    | literal hone hmany hfree =>
      have hstrip : (Text.stripStart ['\x7b'] raw).bind (Text.stripEnd ['\x7d']) = none := by
        rw [Option.eq_none_iff_forall_ne_some]
        intro inner hinner
        have hraw := Text.stripBraces_eq_some_iff.mp hinner
        exact not_braceFree_braced (hraw ▸ hfree)
      unfold parse
      rw [if_neg hone, if_neg hmany, hstrip]
      simp [hfree.1, hfree.2]
    | free hcolon hname =>
      rw [parse_braced]
      exact parseCapture_eq_ok_iff.mpr hspelled
    | constrained hcolon hname hr =>
      rw [parse_braced]
      exact parseCapture_eq_ok_iff.mpr hspelled

theorem wellFormed_braced_iff :
    WellFormed (PathPart.braced inner) ↔
      (':' ∉ inner ∧ Text.trim inner ≠ [] ∧ Text.BraceFree inner) ∨
      ∃ name source r, inner = name ++ ':' :: source ∧ ':' ∉ name ∧ Text.trim name ≠ [] ∧
        Text.BraceFree name ∧ Regex.parse source = .ok r := by
  constructor
  · intro h
    generalize hraw : PathPart.braced inner = raw at h
    cases h with
    | one => simp [PathPart.braced] at hraw
    | many => simp [PathPart.braced] at hraw
    | literal hfree => exact absurd (hraw ▸ hfree) not_braceFree_braced
    | free hcolon hname hfree =>
      obtain rfl := braced_inj hraw
      exact .inl ⟨hcolon, hname, hfree⟩
    | constrained hcolon hname hfree hsource =>
      exact .inr ⟨_, _, _, braced_inj hraw, hcolon, hname, hfree, hsource⟩
  · rintro (⟨hcolon, hname, hfree⟩ | ⟨name, source, r, rfl, hcolon, hname, hfree, hsource⟩)
    · exact .free hcolon hname hfree
    · exact .constrained hcolon hname hfree hsource

/-- A part is well formed exactly when the segment that it is read as is proper. -/
theorem Spelled.wellFormed_iff (h : Spelled raw segment) : WellFormed raw ↔ segment.Proper := by
  cases h with
  | one => exact ⟨fun _ => trivial, fun _ => .one⟩
  | many => exact ⟨fun _ => trivial, fun _ => .many⟩
  | literal _ _ hfree => exact ⟨fun _ => trivial, fun _ => .literal hfree⟩
  | free hcolon hname =>
    rw [wellFormed_braced_iff, Proper, String.toList_ofList, Text.braceFree_trim_iff]
    constructor
    · rintro (⟨-, -, hfree⟩ | ⟨other, source, r, rfl, -⟩)
      · exact hfree
      · simp at hcolon
    · intro hfree
      exact .inl ⟨hcolon, hname, hfree⟩
  | constrained hcolon hname hr =>
    rw [wellFormed_braced_iff, Proper, String.toList_ofList, String.toList_ofList,
      Text.braceFree_trim_iff]
    constructor
    · rintro (⟨hnone, -⟩ | ⟨other, source, r, hsame, hother, -, hfree, hsource⟩)
      · simp at hnone
      · have hcut := congrArg (Text.splitOnce ':') hsame
        rw [Text.splitOnce_append_cons hcolon, Text.splitOnce_append_cons hother] at hcut
        cases hcut
        exact ⟨hfree, r, hsource⟩
    · rintro ⟨hfree, r, hsource⟩
      exact .inr ⟨_, _, r, rfl, hcolon, hname, hfree, hsource⟩

theorem variableIn?_braced :
    variableIn? (PathPart.braced inner) =
      some (String.ofList (Text.trim (inner.takeWhile (· != ':')))) := by
  rw [variableIn?, PathPart.braced, List.head?_cons, if_pos rfl, List.tail_cons,
    List.dropLast_concat]

theorem Spelled.name?_eq (h : Spelled raw segment) : segment.name? = variableIn? raw := by
  have htake {name : List Char} (hcolon : ':' ∉ name) : ∀ c ∈ name, (c != ':') = true :=
    fun c hc => bne_iff_ne.mpr fun heq => hcolon (heq ▸ hc)
  cases h with
  | one => rfl
  | many => rfl
  | literal _ _ hfree =>
    have hhead : raw.head? ≠ some '\x7b' := fun hhead => hfree.1 (List.mem_of_mem_head? hhead)
    rw [variableIn?, if_neg hhead]
    rfl
  | free hcolon _ =>
    rw [variableIn?_braced, List.takeWhile_eq_self_iff.mpr (htake hcolon)]
    rfl
  | constrained hcolon _ _ =>
    rw [variableIn?_braced, List.takeWhile_append_of_pos (htake hcolon)]
    simp [name?]

end PathSegment

namespace PathPattern

/-- The parts that a pattern is written as: the nonempty ones between its slashes, blanks around
the pattern aside. -/
def writtenParts (given : String) : List (List Char) :=
  ((Text.trim given.toList).splitOn '/').filter (· ≠ [])

section

variable {given : String} {names : List String} {raws : List (List Char)}
  {segments : List PathSegment} {p : PathPattern}

/-- Segments are read one by one, and no variable twice. -/
theorem parseSegments_eq_ok_iff :
    parseSegments given names raws = .ok segments ↔
      List.Forall₂ PathSegment.Spelled raws segments ∧
        (segments.filterMap PathSegment.name?).Nodup ∧
        ∀ name ∈ segments.filterMap PathSegment.name?, name ∉ names := by
  constructor
  · intro h
    refine ⟨?_, nodup_of_parseSegments h⟩
    induction raws generalizing names segments with
    | nil =>
      cases h
      exact .nil
    | cons raw raws ih =>
      rw [parseSegments, bind_eq_ok_iff] at h
      obtain ⟨segment, hsegment, h⟩ := h
      have hspelled := PathSegment.parse_eq_ok_iff.mp hsegment
      split at h
      next name hname =>
        split at h
        next => simp at h
        next =>
          obtain ⟨rest, hrest, h⟩ := bind_eq_ok_iff.mp h
          cases h
          exact .cons hspelled (ih hrest)
      next hname =>
        obtain ⟨rest, hrest, h⟩ := bind_eq_ok_iff.mp h
        cases h
        exact .cons hspelled (ih hrest)
  · rintro ⟨hspelled, hnodup, hnew⟩
    induction hspelled generalizing names with
    | nil => rfl
    | @cons raw segment raws segments hraw _ ih =>
      rw [parseSegments, PathSegment.parse_eq_ok_iff.mpr hraw, bind_eq_ok_iff]
      refine ⟨segment, rfl, ?_⟩
      cases hname : segment.name? with
      | none =>
        rw [List.filterMap_cons, hname] at hnodup hnew
        have hrest := ih hnodup hnew
        dsimp only
        rw [hrest]
        rfl
      | some name =>
        rw [List.filterMap_cons, hname] at hnodup hnew
        obtain ⟨hfresh, hnodup⟩ := List.nodup_cons.mp hnodup
        obtain ⟨hname, hnew⟩ := List.forall_mem_cons.mp hnew
        have hrest : parseSegments given (name :: names) raws = .ok segments := by
          apply ih hnodup
          intro other hother
          rw [List.mem_cons, not_or]
          exact ⟨fun heq => hfresh (heq ▸ hother), hnew other hother⟩
        dsimp only
        rw [if_neg (by simpa using hname), hrest]
        rfl

/-- The text of a pattern: as it was given, without blanks around it, and from a slash on. -/
def slashed (given : String) : List Char :=
  if (Text.trim given.toList).head? = some '/' then Text.trim given.toList
  else '/' :: Text.trim given.toList

/-- A pattern is read exactly when each part spells a segment and no variable is declared twice. -/
theorem parse_eq_ok_iff :
    parse given = .ok p ↔
      List.Forall₂ PathSegment.Spelled (writtenParts given) p.segments ∧
        p.variableNames.Nodup ∧ p.text = String.ofList (slashed given) := by
  have hparts : (Text.splitOn '/' (Text.trim given.toList)).filter (!·.isEmpty) =
      writtenParts given := by
    rw [Text.splitOn_eq, Text.filter_not_isEmpty]
    rfl
  unfold parse
  dsimp only
  rw [bind_eq_ok_iff, hparts]
  simp only [parseSegments_eq_ok_iff]
  constructor
  · rintro ⟨segments, ⟨hspelled, hnodup, -⟩, h⟩
    cases h
    exact ⟨hspelled, hnodup, rfl⟩
  · rintro ⟨hspelled, hnodup, htext⟩
    refine ⟨p.segments, ⟨hspelled, hnodup, by simp⟩, ?_⟩
    obtain ⟨text, segments⟩ := p
    rw [show text = String.ofList (slashed given) from htext]
    rfl

theorem trim_slashed (given : String) : Text.trim (slashed given) = slashed given := by
  by_cases hempty : Text.trim given.toList = []
  · rw [slashed, hempty]
    rfl
  · have hbare := Text.bare_trim hempty
    unfold slashed
    split
    · exact hbare.trim_self
    · have hslash : Text.Bare ('/' :: Text.trim given.toList) := by
        constructor
        · exact ⟨'/', _, rfl, by decide⟩
        · obtain ⟨front, c, hlast, hc⟩ := hbare.last
          exact ⟨'/' :: front, c, by rw [hlast]; rfl, hc⟩
      exact hslash.trim_self

theorem slashed_slashed (given : String) :
    slashed (String.ofList (slashed given)) = slashed given := by
  have hhead : (slashed given).head? = some '/' := by
    unfold slashed
    split
    next hhead => exact hhead
    next => rfl
  rw [slashed, String.toList_ofList, trim_slashed, if_pos hhead]

theorem writtenParts_slashed (given : String) :
    writtenParts (String.ofList (slashed given)) = writtenParts given := by
  unfold writtenParts
  rw [String.toList_ofList, trim_slashed]
  unfold slashed
  split
  · rfl
  · rw [← Text.splitOn_eq, ← Text.splitOn_eq, Text.splitOn, if_pos rfl]
    simp

theorem wellFormed_iff_proper (h : List.Forall₂ PathSegment.Spelled raws segments) :
    (∀ raw ∈ raws, PathSegment.WellFormed raw) ↔ ∀ segment ∈ segments, segment.Proper := by
  induction h with
  | nil => simp
  | cons hraw _ ih => simp only [List.forall_mem_cons, hraw.wellFormed_iff, ih]

theorem filterMap_name?_eq (h : List.Forall₂ PathSegment.Spelled raws segments) :
    segments.filterMap PathSegment.name? = raws.filterMap PathSegment.variableIn? := by
  induction h with
  | nil => rfl
  | cons hraw _ ih => rw [List.filterMap_cons, List.filterMap_cons, hraw.name?_eq, ih]

/-- What the parts of a pattern tell of the pattern that was read. -/
structure Reads (given : String) (p : PathPattern) : Prop where
  spelled : List.Forall₂ PathSegment.Spelled (writtenParts given) p.segments
  /-- The parts are well formed save where a name holds a brace, or a constraint is an
  expression in its group only. -/
  wellFormed_iff : (∀ part ∈ writtenParts given, PathSegment.WellFormed part) ↔
    ∀ segment ∈ p.segments, segment.Proper
  names : p.variableNames = (writtenParts given).filterMap PathSegment.variableIn?
  nodup : p.variableNames.Nodup
  again : parse p.text = .ok p

/-- Every pattern that is read is read part by part, and its text is read as the same pattern. -/
theorem reads_of_parse (h : parse given = .ok p) : Reads given p := by
  obtain ⟨hspelled, hnodup, htext⟩ := parse_eq_ok_iff.mp h
  refine ⟨hspelled, wellFormed_iff_proper hspelled, filterMap_name?_eq hspelled, hnodup, ?_⟩
  rw [htext, parse_eq_ok_iff, writtenParts_slashed, slashed_slashed]
  exact ⟨hspelled, hnodup, htext⟩

/-- Variables with and without a constraint, blanks and empty parts. -/
theorem reads_of_parse_pets :
    ∃ p, parse " pets//{ id }/{age:[0-9]+}/** " = .ok p ∧
      Reads " pets//{ id }/{age:[0-9]+}/** " p ∧ p.variableNames = ["id", "age"] ∧
      parse "/pets//{ id }/{age:[0-9]+}/**" = .ok p := by
  have hrun : (parse " pets//{ id }/{age:[0-9]+}/** ").toOption.map
      (fun p => (p.text, p.variableNames)) =
        some ("/pets//{ id }/{age:[0-9]+}/**", ["id", "age"]) := by
    decide +kernel
  obtain ⟨p, hparse, hrun⟩ := Option.map_eq_some_iff.mp hrun
  obtain ⟨htext, hnames⟩ := Prod.mk.inj hrun
  have hreads := reads_of_parse (toOption_eq_some_iff.mp hparse)
  exact ⟨p, toOption_eq_some_iff.mp hparse, hreads, hnames, htext ▸ hreads.again⟩

/-- A constraint that closes its group and opens another is no expression in itself. -/
example : (parse "/\x7bx:a)|(?:b\x7d").toOption.isSome = true ∧
    (Regex.parse "a)|(?:b".toList).toOption.isSome = false := by
  decide +kernel

/-- Two variables in one part are read as one variable with braces in its name. -/
theorem braces_in_name_read :
    ¬∀ (given : String) (p : PathPattern), parse given = .ok p →
      ∀ part ∈ writtenParts given, PathSegment.WellFormed part := by
  intro hall
  have hrun : (parse "/{a}-{b}").toOption.map variableNames = some ["a\x7d-\x7bb"] := by
    decide +kernel
  obtain ⟨p, hparse, hnames⟩ := Option.map_eq_some_iff.mp hrun
  have hp := toOption_eq_some_iff.mp hparse
  have hproper := (wellFormed_iff_proper (parse_eq_ok_iff.mp hp).1).mp (hall _ p hp)
  obtain ⟨segment, hsegment, hname⟩ : ∃ segment ∈ p.segments,
      segment.name? = some "a\x7d-\x7bb" := by
    have hmem : "a\x7d-\x7bb" ∈ p.variableNames := by simp [hnames]
    simpa [variableNames] using hmem
  have hfree := hproper segment hsegment
  match segment with
  | .capture name none =>
    cases hname
    exact absurd hfree.1 (by decide)
  | .capture name (some c) =>
    cases hname
    exact absurd hfree.1.1 (by decide)
  | .literal _ | .one | .many => simp [PathSegment.name?] at hname

end

end PathPattern

end RestDispatch
