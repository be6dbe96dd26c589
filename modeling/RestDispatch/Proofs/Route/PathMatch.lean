import Mathlib.Data.List.Forall2
import Mathlib.Data.List.TakeWhile
import RestDispatch.Proofs.Failure
import RestDispatch.Proofs.Http.MatrixVariables
import RestDispatch.Proofs.Route.Alignment
import RestDispatch.Proofs.Text.Cutting

/-!
# What a match tells of a path

A pattern matches a path exactly when its segments can be aligned with the parts of the path.
The match then gives the variables what the shortest alignment gives them, and nothing else:
every declared variable has the decoded text of the part it takes, and has matrix variables
exactly if that part has matrix parameters, namely the values written there.

The constraints of variables are arbitrary tests.  A declared pattern is one that could be
read, up to the tests behind the texts of its constraints.
-/

namespace RestDispatch

/-- The pairs of a key and a decoded value that one `key=value,value` parameter writes. -/
def PathPart.parameter (pair : List Char) : List (String × String) :=
  let key := Text.trim (pair.takeWhile (· != '='))
  if key = [] then []
  else (((pair.dropWhile (· != '=')).tail).splitOn ',').map fun value =>
    (String.ofList key, Text.decodeComponent (String.ofList value))

/-- The pairs that the matrix parameters of a part write, in order. -/
def PathPart.parameters (part : PathPart) : List (String × String) :=
  match part.params with
  | none => []
  | some params => ((params.toList.splitOn ';').filter (· ≠ [])).flatMap parameter

/-- A part of a path as it is written, and what counts of it. -/
def PathPart.cut (matrix : Bool) (part : List Char) : PathPart :=
  if matrix ∧ ';' ∈ part then
    ⟨String.ofList (part.takeWhile (· != ';')),
      some (String.ofList (part.dropWhile (· != ';')).tail)⟩
  else ⟨String.ofList part, none⟩

/-- The parts of a path: the nonempty ones between its slashes. -/
def PathPart.ofPath (matrix : Bool) (path : String) : List PathPart :=
  ((path.toList.splitOn '/').filter (· ≠ [])).map (cut matrix)

/-- Segments that differ at most in the test behind a constraint. -/
inductive PathSegment.Alike : PathSegment → PathSegment → Prop
  | literal (text : String) : Alike (.literal text) (.literal text)
  | free (name : String) : Alike (.capture name none) (.capture name none)
  | constrained (name source : String) (accepts accepts' : String → Bool) :
      Alike (.capture name (some ⟨source, accepts⟩)) (.capture name (some ⟨source, accepts'⟩))
  | one : Alike .one .one
  | many : Alike .many .many

theorem PathSegment.Alike.refl (segment : PathSegment) : segment.Alike segment := by
  rcases segment with text | ⟨name, _ | ⟨source, accepts⟩⟩ | _ | _
  · exact .literal text
  · exact .free name
  · exact .constrained name source accepts accepts
  · exact .one
  · exact .many

theorem PathSegment.Alike.name? {a b : PathSegment} (h : a.Alike b) : a.name? = b.name? := by
  cases h <;> rfl

namespace PathPattern

/-- A pattern that could be read, with any test behind each constraint. -/
def Declared (p : PathPattern) : Prop :=
  ∃ (given : String) (q : PathPattern), parse given = .ok q ∧ p.text = q.text ∧
    List.Forall₂ PathSegment.Alike p.segments q.segments

theorem Declared.of_parse {given : String} {p : PathPattern} (h : parse given = .ok p) :
    p.Declared :=
  ⟨given, p, h, rfl, List.forall₂_same.mpr fun segment _ => .refl segment⟩

section

variable {given : String} {names : List String} {raws : List (List Char)}
  {segments : List PathSegment}

/-- No variable is declared twice, and none of those that were declared before. -/
theorem nodup_of_parseSegments (h : parseSegments given names raws = .ok segments) :
    (segments.filterMap PathSegment.name?).Nodup ∧
      ∀ name ∈ segments.filterMap PathSegment.name?, name ∉ names := by
  induction raws generalizing names segments with
  | nil =>
    cases h
    simp
  | cons raw raws ih =>
    rw [parseSegments, bind_eq_ok_iff] at h
    obtain ⟨segment, -, h⟩ := h
    split at h
    next name hname =>
      split at h
      next => simp at h
      next hfresh =>
        obtain ⟨rest, hrest, h⟩ := bind_eq_ok_iff.mp h
        cases h
        obtain ⟨hnodup, hnew⟩ := ih hrest
        rw [List.filterMap_cons, hname]
        refine ⟨List.nodup_cons.mpr ⟨fun hmem => ?_, hnodup⟩, ?_⟩
        · exact hnew name hmem List.mem_cons_self
        · intro other hother
          rcases List.mem_cons.mp hother with rfl | hmem
          · simpa using hfresh
          · exact fun hold => hnew other hmem (List.mem_cons_of_mem _ hold)
    next hname =>
      obtain ⟨rest, hrest, h⟩ := bind_eq_ok_iff.mp h
      cases h
      rw [List.filterMap_cons, hname]
      exact ih hrest

end

theorem variableNames_eq_of_alike {p q : PathPattern}
    (h : List.Forall₂ PathSegment.Alike p.segments q.segments) :
    p.variableNames = q.variableNames := by
  unfold variableNames
  generalize p.segments = as at h
  generalize q.segments = bs at h
  induction h with
  | nil => rfl
  | cons hab _ ih => rw [List.filterMap_cons, List.filterMap_cons, hab.name?, ih]

theorem Declared.nodup {p : PathPattern} (hp : p.Declared) : p.variableNames.Nodup := by
  obtain ⟨given, q, hparse, -, halike⟩ := hp
  rw [variableNames_eq_of_alike halike]
  obtain ⟨segments, hsegments, h⟩ := bind_eq_ok_iff.mp hparse
  cases h
  exact (nodup_of_parseSegments hsegments).1

theorem cutPart_eq (matrix : Bool) (part : List Char) :
    cutPart matrix part = PathPart.cut matrix part := by
  unfold cutPart PathPart.cut
  rw [Text.splitOnce_eq]
  cases matrix with
  | false => simp
  | true =>
    by_cases h : ';' ∈ part
    · rw [if_pos h, if_pos ⟨rfl, h⟩]
    · rw [if_neg h, if_neg fun hboth => h hboth.2]

theorem cutPath_eq (matrix : Bool) (path : String) :
    cutPath matrix path = PathPart.ofPath matrix path := by
  unfold cutPath PathPart.ofPath
  rw [Text.splitOn_eq, Text.filter_not_isEmpty]
  exact List.map_congr_left fun part _ => cutPart_eq matrix part

theorem recordParameter_eq (name : String) (m : MatrixVariables) (pair : List Char) :
    recordParameter name m pair = m.insertAll name (PathPart.parameter pair) := by
  have hcut : (Text.splitOnce '=' pair).getD (pair, []) =
      (pair.takeWhile (· != '='), (pair.dropWhile (· != '=')).tail) := by
    rw [Text.splitOnce_eq]
    by_cases h : '=' ∈ pair
    · rw [if_pos h, Option.getD_some]
    · have hall : ∀ c ∈ pair, (c != '=') = true := by
        intro c hc
        exact bne_iff_ne.mpr fun heq => h (heq ▸ hc)
      rw [if_neg h, Option.getD_none, List.takeWhile_eq_self_iff.mpr hall,
        List.dropWhile_eq_nil_iff.mpr hall, List.tail_nil]
  unfold recordParameter PathPart.parameter
  rw [hcut]
  simp only [List.isEmpty_iff, Text.splitOn_eq]
  split
  · rfl
  · rw [MatrixVariables.insertAll, List.foldl_map]

theorem recordMatrix_eq (m : MatrixVariables) (name params : String) :
    recordMatrix m name params =
      m.insertAll name (((params.toList.splitOn ';').filter (· ≠ [])).flatMap
        PathPart.parameter) := by
  unfold recordMatrix
  rw [Text.splitOn_eq, Text.filter_not_isEmpty, MatrixVariables.insertAll, List.foldl_flatMap]
  congr
  funext m pair
  exact recordParameter_eq name m pair

theorem bind_eq (m : PathMatch) (name : String) (part : PathPart) :
    bind m (name, part) =
      { captured := m.captured.insert name (Text.decodeComponent part.text)
        matrix := m.matrix.insertAll name part.parameters } := by
  unfold bind PathPart.parameters
  rcases part with ⟨text, _ | params⟩
  · rfl
  · simp only [Option.map_some, Option.getD_some, recordMatrix_eq]

theorem captured_foldl_bind (bindings : Bindings) (m : PathMatch) :
    (bindings.foldl bind m).captured =
      bindings.foldl (fun d b => d.insert b.1 (Text.decodeComponent b.2.text)) m.captured := by
  induction bindings generalizing m with
  | nil => rfl
  | cons b bindings ih => rw [List.foldl_cons, ih, List.foldl_cons, bind_eq]

/-- No variable is captured twice. -/
theorem sorted_captured_foldl_bind (bindings : Bindings) :
    (bindings.foldl bind {}).captured.Sorted := by
  rw [captured_foldl_bind]
  exact Dictionary.sorted_nil.foldl_insert
    (fun b : String × PathPart => (b.1, Text.decodeComponent b.2.text)) bindings

/-- Each variable whose part has matrix parameters gets a segment of its own. -/
theorem segments_foldl_bind {bindings : Bindings} {m : PathMatch}
    (hnames : (m.matrix.segments.map Prod.fst ++ bindings.map Prod.fst).Nodup) :
    (bindings.foldl bind m).matrix.segments =
      m.matrix.segments ++ (bindings.filter fun b => b.2.parameters ≠ []).map fun b =>
        (b.1, MatrixVariables.segmentOf b.2.parameters) := by
  induction bindings generalizing m with
  | nil => simp
  | cons b bindings ih =>
    obtain ⟨name, part⟩ := b
    have hfresh : name ∉ m.matrix.segments.map Prod.fst := by
      intro hmem
      exact (List.nodup_append.mp hnames).2.2 name hmem name List.mem_cons_self rfl
    have hstep := MatrixVariables.segments_insertAll hfresh part.parameters
    rw [List.foldl_cons, bind_eq, ih, hstep]
    · by_cases hparams : part.parameters = []
      · simp [hparams]
      · simp [hparams]
    · simp only [hstep]
      split
      · refine hnames.sublist ?_
        simp
      · simpa using hnames

/-- The variables of an alignment are those of the pattern, in order. -/
theorem Alignment.map_fst_captures {segments : List PathSegment} {parts : List PathPart}
    {shares : List (List PathPart)} (h : Alignment segments parts shares) :
    (captures segments shares).map Prod.fst = segments.filterMap PathSegment.name? := by
  induction h with
  | done => rfl
  | literal _ _ ih => exact ih
  | capture _ _ ih => exact congrArg (List.cons _) ih
  | one _ ih => exact ih
  | many _ _ ih => exact ih

/-- What a match tells of the parts that the segments of its pattern take. -/
structure Reports (p : PathPattern) (shares : List (List PathPart)) (m : PathMatch) : Prop where
  /-- The variables that take a part are the declared ones. -/
  names : (captures p.segments shares).map Prod.fst = p.variableNames
  /-- A variable has the decoded text of its part, and no other name has a value. -/
  captured : ∀ name value, m.captured.get? name = some value ↔
    ∃ part, (name, part) ∈ captures p.segments shares ∧
      (Text.string? (Text.percentDecode (Text.bytes part.text))).getD part.text = value
  increasing : m.captured.Sorted
  /-- The variables with matrix variables are those whose parts have parameters. -/
  segments : m.matrix.segments.map Prod.fst =
    ((captures p.segments shares).filter fun c => c.2.parameters ≠ []).map Prod.fst
  /-- Every key has the values written for it in the part of the variable. -/
  values : ∀ name part, (name, part) ∈ captures p.segments shares → ∀ key,
    m.matrix.values name key = MatrixVariables.written part.parameters key

/-- What is made of the bindings of an alignment. -/
theorem reports_foldl_bind {p : PathPattern} (hp : p.Declared) {parts : List PathPart}
    {shares : List (List PathPart)} (h : Alignment p.segments parts shares) :
    Reports p shares ((captures p.segments shares).foldl bind {}) := by
  have hnames : (captures p.segments shares).map Prod.fst = p.variableNames :=
    h.map_fst_captures
  have hnodup : ((captures p.segments shares).map Prod.fst).Nodup := hnames ▸ hp.nodup
  have hsegments := segments_foldl_bind (m := {}) hnodup
  have hfst : ((captures p.segments shares).foldl bind {}).matrix.segments.map Prod.fst =
      ((captures p.segments shares).filter fun c => c.2.parameters ≠ []).map Prod.fst := by
    rw [hsegments, List.map_append, List.map_map]
    rfl
  refine ⟨hnames, ?_, ?_, hfst, ?_⟩
  · intro name value
    rw [captured_foldl_bind]
    refine (Dictionary.get?_foldl_insert (fun b : String × PathPart =>
      (b.1, Text.decodeComponent b.2.text)) hnodup Dictionary.sorted_nil name value).trans ?_
    constructor
    · rintro (⟨⟨_, part⟩, hmem, heq⟩ | ⟨-, hnone⟩)
      · cases heq
        exact ⟨part, hmem, rfl⟩
      · simp at hnone
    · rintro ⟨part, hmem, hvalue⟩
      exact .inl ⟨(name, part), hmem, by rw [← hvalue, Text.decodeComponent]⟩
  · exact sorted_captured_foldl_bind _
  · intro name part hmem key
    by_cases hparams : part.parameters = []
    · rw [hparams]
      refine MatrixVariables.values_of_not_mem (hfst ▸ fun hname => ?_) key
      obtain ⟨⟨_, other⟩, hother, rfl⟩ := List.mem_map.mp hname
      obtain ⟨hother, hothers⟩ := List.mem_filter.mp hother
      have hfound := (Dictionary.get?_of_mem hnodup hmem).symm.trans
        (Dictionary.get?_of_mem hnodup hother)
      exact of_decide_eq_true hothers (Option.some.inj hfound ▸ hparams)
    · have hsegment : (name, MatrixVariables.segmentOf part.parameters) ∈
          ((captures p.segments shares).foldl bind {}).matrix.segments := by
        rw [hsegments, List.mem_append]
        refine .inr (List.mem_map.mpr ⟨(name, part), ?_, rfl⟩)
        exact List.mem_filter.mpr ⟨hmem, decide_eq_true hparams⟩
      have hdistinct := hfst ▸ hnodup.sublist (List.filter_sublist.map Prod.fst)
      rw [MatrixVariables.values_of_mem hdistinct hsegment, MatrixVariables.get?_segmentOf]

/-- A declared pattern matches a path exactly when its segments can be aligned with the parts
of the path, and then the match tells of the shortest alignment. -/
theorem matchPath_shortest {p : PathPattern} (hp : p.Declared) (path : String)
    (matrix : Bool) :
    ((p.matchPath? path matrix).isSome ↔
      ∃ shares, Alignment p.segments (PathPart.ofPath matrix path) shares) ∧
    ∀ m, p.matchPath? path matrix = some m →
      ∃ shares, Shortest p.segments (PathPart.ofPath matrix path) shares ∧
        Reports p shares m := by
  rw [← cutPath_eq]
  unfold matchPath?
  constructor
  · rw [← search_iff []]
    rcases search p.segments (cutPath matrix path) [] with ⟨_ | _, found⟩
    · simp
    · simp
  · intro m hm
    split at hm
    next found hfound =>
      obtain ⟨shares, hshares, rfl⟩ := shortest_of_search hfound
      cases hm
      exact ⟨shares, hshares, reports_foldl_bind hp hshares.aligned⟩
    next => simp at hm

/-- Two `**` around a variable leave the first part to the variable. -/
theorem matchPath_shortest_between :
    ∃ p, parse "/**/{name}/**" = .ok p ∧
      p.matchPath? "/a;k=1,2/b%20;k=3/c" true =
        some ⟨[("name", "a")], ⟨[("name", [("k", ["1", "2"])])]⟩⟩ ∧
      ∃ shares, Shortest p.segments (PathPart.ofPath true "/a;k=1,2/b%20;k=3/c") shares ∧
        Reports p shares ⟨[("name", "a")], ⟨[("name", [("k", ["1", "2"])])]⟩⟩ := by
  have hmatch : ((parse "/**/{name}/**").toOption.bind fun p =>
      p.matchPath? "/a;k=1,2/b%20;k=3/c" true) =
        some ⟨[("name", "a")], ⟨[("name", [("k", ["1", "2"])])]⟩⟩ := by
    decide +kernel
  obtain ⟨p, hparse, hmatch⟩ := Option.bind_eq_some_iff.mp hmatch
  have hparse := toOption_eq_some_iff.mp hparse
  exact ⟨p, hparse, hmatch, (matchPath_shortest (Declared.of_parse hparse) _ _).2 _ hmatch⟩

end PathPattern

end RestDispatch
