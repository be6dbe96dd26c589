import RestDispatch.Proofs.Route.SharedPath
import RestDispatch.Proofs.Text.Trimming

/-!
# Paths without their matrix parameters

Where matrix parameters are used, they are cut off a path after its empty parts were dropped.
Searching does not look at them.  So a path is matched like the path without its parameters, by
every pattern and with the same values, unless a part of it begins with its parameters.  Such a
part still counts, with an empty text, while nothing of it is left in the path without them.
How many parts a path has is seen by patterns of stars alone.
-/

namespace RestDispatch

namespace PathPattern

/-- A path without the matrix parameters of its parts. -/
def dropParameters (path : String) : String :=
  String.ofList (['/'].intercalate ((path.toList.splitOn '/').map (·.takeWhile (· != ';'))))

/-- Some part of a path has nothing in front of its matrix parameters. -/
def LeadsWithParameters (path : String) : Prop :=
  ∃ part ∈ path.toList.splitOn '/', part.head? = some ';'

instance (path : String) : Decidable (LeadsWithParameters path) :=
  inferInstanceAs (Decidable (∃ part ∈ path.toList.splitOn '/', part.head? = some ';'))

/-- A part without its matrix parameters. -/
def withoutParams (part : PathPart) : PathPart := { part with params := none }

/-- A variable with its part, the matrix parameters of the part left out. -/
def withoutParamsAt (b : String × PathPart) : String × PathPart := (b.1, withoutParams b.2)

section

variable {attempt : List PathPart → Bindings → Bool × Bindings}

theorem searchBehind_withoutParams
    (h : ∀ parts bindings, attempt (parts.map withoutParams) (bindings.map withoutParamsAt) =
      (attempt parts bindings).map id (List.map withoutParamsAt))
    (parts : List PathPart) (bindings : Bindings) :
    searchBehind attempt (bindings.map withoutParamsAt) (parts.map withoutParams) =
      (searchBehind attempt bindings parts).map id (List.map withoutParamsAt) := by
  induction parts generalizing bindings with
  | nil =>
    have hrun := h [] bindings
    rw [List.map_nil] at hrun ⊢
    unfold searchBehind
    rw [hrun]
    rcases attempt [] bindings with ⟨_ | _, found⟩
    · simp
    · rfl
  | cons part parts ih =>
    have hrun := h (part :: parts) bindings
    rw [List.map_cons] at hrun ⊢
    unfold searchBehind
    rw [hrun]
    rcases attempt (part :: parts) bindings with ⟨_ | _, left⟩
    · simp [← ih, List.map_take]
    · rfl

end

/-- Matrix parameters take no part in a search. -/
theorem search_withoutParams (segments : List PathSegment) (parts : List PathPart)
    (bindings : Bindings) :
    search segments (parts.map withoutParams) (bindings.map withoutParamsAt) =
      (search segments parts bindings).map id (List.map withoutParamsAt) := by
  induction segments generalizing parts bindings with
  | nil => cases parts <;> rfl
  | cons segment segments ih =>
    by_cases hs : segment = .many
    · subst hs
      exact searchBehind_withoutParams ih parts bindings
    · match parts with
      | [] =>
        rw [List.map_nil, search_cons_nil hs, search_cons_nil hs]
        rfl
      | part :: parts =>
        rw [List.map_cons, search_cons hs, search_cons hs]
        have htext : (withoutParams part).text = part.text := rfl
        rw [htext]
        split
        · rw [← ih, List.map_append]
          cases segment.name? <;> rfl
        · rfl

theorem captured_foldl_bind_withoutParams (bindings : Bindings) :
    ((bindings.map withoutParamsAt).foldl bind {}).captured =
      (bindings.foldl bind {}).captured := by
  rw [captured_foldl_bind, captured_foldl_bind, List.foldl_map]
  rfl

theorem splitOn_dropParameters (path : String) :
    (dropParameters path).toList.splitOn '/' =
      (path.toList.splitOn '/').map (·.takeWhile (· != ';')) := by
  rw [dropParameters, String.toList_ofList, List.splitOn_intercalate]
  · intro part hpart hslash
    obtain ⟨whole, hwhole, rfl⟩ := List.mem_map.mp hpart
    exact Text.not_mem_of_mem_splitOn hwhole (List.takeWhile_subset _ hslash)
  · simp

/-- A part is empty without its parameters when it is empty or begins with them. -/
theorem takeWhile_eq_nil_iff {part : List Char} :
    part.takeWhile (· != ';') = [] ↔ part = [] ∨ part.head? = some ';' := by
  cases part with
  | nil => simp
  | cons c rest => by_cases hc : c = ';' <;> simp [hc]

theorem withoutParams_cut (part : List Char) :
    withoutParams (PathPart.cut true part) = PathPart.cut false (part.takeWhile (· != ';')) := by
  by_cases h : ';' ∈ part
  · simp [PathPart.cut, withoutParams, h]
  · have hall : ∀ c ∈ part, (c != ';') = true := by
      intro c hc
      exact bne_iff_ne.mpr fun heq => h (heq ▸ hc)
    simp [PathPart.cut, withoutParams, h, List.takeWhile_eq_self_iff.mpr hall]

theorem ofPath_dropParameters {path : String} (h : ¬LeadsWithParameters path) :
    PathPart.ofPath false (dropParameters path) =
      (PathPart.ofPath true path).map withoutParams := by
  have hkept : (path.toList.splitOn '/').filter (fun part => part.takeWhile (· != ';') ≠ []) =
      (path.toList.splitOn '/').filter (· ≠ []) := by
    refine List.filter_congr fun part hpart => ?_
    have hhead : part.head? ≠ some ';' := fun hhead => h ⟨part, hpart, hhead⟩
    rw [decide_eq_decide, ne_eq, ne_eq, takeWhile_eq_nil_iff, or_iff_left hhead]
  rw [PathPart.ofPath, splitOn_dropParameters, List.filter_map, PathPart.ofPath, List.map_map,
    List.map_map, ← hkept]
  exact List.map_congr_left fun part _ => (withoutParams_cut part).symm

/-- A pattern of `n` stars. -/
def stars (n : Nat) : List Char := (List.replicate n ['/', '*']).flatten

theorem trim_stars (n : Nat) : Text.trim (stars n) = stars n := by
  cases n with
  | zero => rfl
  | succ n =>
    refine Text.Bare.trim_self ⟨⟨'/', '*' :: stars n, rfl, by decide⟩, ?_⟩
    refine ⟨stars n ++ ['/'], '*', ?_, by decide⟩
    simp [stars, List.replicate_succ']

theorem splitOn_stars (n : Nat) : Text.splitOn '/' (stars n) = [] :: List.replicate n ['*'] := by
  induction n with
  | zero => rfl
  | succ n ih =>
    have hcons : stars (n + 1) = '/' :: '*' :: stars n := rfl
    rw [hcons, Text.splitOn, if_pos rfl, Text.splitOn, if_neg (by decide), ih]
    rfl

theorem parseSegments_stars (given : String) (names : List String) (n : Nat) :
    parseSegments given names (List.replicate n ['*']) = .ok (List.replicate n .one) := by
  induction n with
  | zero => rfl
  | succ n ih =>
    rw [List.replicate_succ, parseSegments, bind_eq_ok_iff]
    refine ⟨.one, rfl, ?_⟩
    dsimp only [PathSegment.name?]
    rw [bind_eq_ok_iff]
    exact ⟨_, ih, rfl⟩

theorem parse_stars (n : Nat) :
    ∃ p, parse (String.ofList (stars n)) = .ok p ∧ p.segments = List.replicate n .one := by
  have hraws : (Text.splitOn '/' (Text.trim (String.ofList (stars n)).toList)).filter
      (!·.isEmpty) = List.replicate n ['*'] := by
    rw [String.toList_ofList, trim_stars, splitOn_stars]
    simp
  refine ⟨_, bind_eq_ok_iff.mpr ⟨List.replicate n .one, ?_, rfl⟩, rfl⟩
  rw [hraws]
  exact parseSegments_stars _ _ n

/-- Stars take exactly as many parts. -/
theorem alignment_stars_iff {n : Nat} {parts : List PathPart} :
    (∃ shares, Alignment (List.replicate n .one) parts shares) ↔ parts.length = n := by
  induction n generalizing parts with
  | zero =>
    constructor
    · rintro ⟨_, ⟨⟩⟩
      rfl
    · intro h
      obtain rfl := List.length_eq_zero_iff.mp h
      exact ⟨[], .done⟩
  | succ n ih =>
    rw [List.replicate_succ]
    constructor
    · rintro ⟨shares, h⟩
      obtain ⟨part, rest, others, rfl, -, -, hrest⟩ := (alignment_cons_iff (by simp)).mp h
      rw [List.length_cons, ih.mp ⟨others, hrest⟩]
    · intro h
      obtain ⟨part, rest, rfl⟩ := List.exists_cons_of_length_eq_add_one h
      obtain ⟨shares, hshares⟩ := ih.mpr (Nat.succ.inj h)
      exact ⟨[part] :: shares, .one hshares⟩

/-- A part in front of whose parameters nothing stands counts only before it is cut. -/
theorem length_ofPath_dropParameters {path : String} (h : LeadsWithParameters path) :
    (PathPart.ofPath false (dropParameters path)).length <
      (PathPart.ofPath true path).length := by
  obtain ⟨part, hpart, hhead⟩ := h
  have hkept : part ≠ [] := by
    rintro rfl
    simp at hhead
  have hdropped : part.takeWhile (· != ';') = [] := takeWhile_eq_nil_iff.mpr (.inr hhead)
  have hfewer (parts : List (List Char)) :
      parts.countP (fun part => part.takeWhile (· != ';') ≠ []) ≤ parts.countP (· ≠ []) := by
    refine List.countP_mono_left fun part _ hcut => ?_
    rw [decide_eq_true_eq, ne_eq, takeWhile_eq_nil_iff, not_or] at hcut
    exact decide_eq_true hcut.1
  obtain ⟨front, behind, hparts⟩ := List.append_of_mem hpart
  rw [PathPart.ofPath, splitOn_dropParameters, PathPart.ofPath, List.length_map, List.length_map,
    ← List.countP_eq_length_filter, ← List.countP_eq_length_filter, List.countP_map, hparts]
  rw [List.countP_append, List.countP_append, List.countP_cons, List.countP_cons,
    if_neg (by simp [hdropped]), if_pos (decide_eq_true hkept)]
  exact Nat.add_lt_add_of_le_of_lt (hfewer front) (Nat.lt_succ_of_le (hfewer behind))

/-- A path no part of which begins with its matrix parameters is matched like the path without
all parameters, by every pattern and with the same values.  Of every other path some pattern
tells the two apart. -/
theorem captured_matchPath_dropParameters (path : String) :
    (¬LeadsWithParameters path → ∀ p : PathPattern,
      (p.matchPath? path true).map PathMatch.captured =
        (p.matchPath? (dropParameters path) false).map PathMatch.captured) ∧
    (LeadsWithParameters path → ∃ p : PathPattern, p.Declared ∧
      (p.matchPath? path true).isSome ∧ p.matchPath? (dropParameters path) false = none) := by
  constructor
  · intro hpath p
    have hsearch := search_withoutParams p.segments (PathPart.ofPath true path) []
    unfold matchPath?
    rw [cutPath_eq, cutPath_eq, ofPath_dropParameters hpath]
    rw [List.map_nil] at hsearch
    rw [hsearch]
    rcases search p.segments (PathPart.ofPath true path) [] with ⟨_ | _, found⟩
    · rfl
    · exact congrArg some (captured_foldl_bind_withoutParams found).symm
  · intro hpath
    obtain ⟨p, hparse, hsegments⟩ := parse_stars (PathPart.ofPath true path).length
    refine ⟨p, .of_parse hparse, ?_, ?_⟩
    · rw [isSome_matchPath_iff, cutPath_eq, hsegments, alignment_stars_iff]
    · rw [← Option.not_isSome_iff_eq_none, isSome_matchPath_iff, cutPath_eq, hsegments,
        alignment_stars_iff]
      exact Nat.ne_of_lt (length_ofPath_dropParameters hpath)

/-- Parameters of every part that is matched, and an empty part among them. -/
theorem captured_matchPath_cars :
    ∃ p, parse "/cars/{car}/**/{owner}" = .ok p ∧
      ¬LeadsWithParameters "/cars;fleet=x/bmw;color=red;/a=1//owners/ada;year=1990" ∧
      dropParameters "/cars;fleet=x/bmw;color=red;/a=1//owners/ada;year=1990" =
        "/cars/bmw/a=1//owners/ada" ∧
      (p.matchPath? "/cars/bmw/a=1//owners/ada" false).map PathMatch.captured =
        some [("car", "bmw"), ("owner", "ada")] := by
  have hmatch : ((parse "/cars/{car}/**/{owner}").toOption.bind fun p =>
      (p.matchPath? "/cars;fleet=x/bmw;color=red;/a=1//owners/ada;year=1990" true).map
        PathMatch.captured) = some [("car", "bmw"), ("owner", "ada")] := by
    decide +kernel
  have hpath : ¬LeadsWithParameters "/cars;fleet=x/bmw;color=red;/a=1//owners/ada;year=1990" := by
    decide +kernel
  have hdrop : dropParameters "/cars;fleet=x/bmw;color=red;/a=1//owners/ada;year=1990" =
      "/cars/bmw/a=1//owners/ada" := by
    decide +kernel
  obtain ⟨p, hparse, hmatch⟩ := Option.bind_eq_some_iff.mp hmatch
  have heq := (captured_matchPath_dropParameters _).1 hpath p
  rw [hdrop, hmatch] at heq
  exact ⟨p, toOption_eq_some_iff.mp hparse, hpath, hdrop, heq.symm⟩

/-- A variable takes an empty text in front of parameters, but no empty part of a path. -/
theorem leading_parameters_matched :
    ¬∀ p : PathPattern, p.Declared → ∀ path : String,
      (p.matchPath? path true).map PathMatch.captured =
        (p.matchPath? (dropParameters path) false).map PathMatch.captured := by
  intro hall
  have hmatch : ((parse "/users/{id}").toOption.map fun p =>
      ((p.matchPath? "/users/;x=1" true).map PathMatch.captured,
        (p.matchPath? (dropParameters "/users/;x=1") false).map PathMatch.captured)) =
      some (some [("id", "")], none) := by
    decide +kernel
  obtain ⟨p, hparse, hmatch⟩ := Option.map_eq_some_iff.mp hmatch
  obtain ⟨htaken, hdropped⟩ := Prod.mk.inj hmatch
  have heq := hall p (.of_parse (toOption_eq_some_iff.mp hparse)) "/users/;x=1"
  rw [htaken, hdropped] at heq
  simp at heq

end PathPattern

end RestDispatch
