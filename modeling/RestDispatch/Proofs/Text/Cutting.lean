import RestDispatch.Text.Basic

/-!
# Cutting and the list library

Cutting at a character agrees with the functions of the list library, so what they are known
to satisfy holds of every header, path and query string that is cut.
-/

namespace RestDispatch.Text

theorem splitOn_eq (sep : Char) (cs : List Char) : splitOn sep cs = cs.splitOn sep := by
  induction cs with
  | nil => rw [splitOn, List.splitOn_nil]
  | cons c cs ih =>
    rw [List.splitOn_cons_eq_if_modifyHead, splitOn, ih]
    by_cases h : c = sep
    · rw [if_pos h, if_pos (beq_iff_eq.mpr h)]
    · rw [if_neg h, if_neg (mt beq_iff_eq.mp h)]
      rcases hparts : cs.splitOn sep with _ | ⟨part, parts⟩
      · exact absurd hparts (List.splitOn_ne_nil sep cs)
      · rfl

/-- No part keeps a separator. -/
theorem not_mem_of_mem_splitOn {sep : Char} {cs part : List Char}
    (h : part ∈ cs.splitOn sep) : sep ∉ part := by
  rw [← splitOn_eq] at h
  induction cs generalizing part with
  | nil =>
    obtain rfl : part = [] := by simpa [splitOn] using h
    exact List.not_mem_nil
  | cons c cs ih =>
    rw [splitOn] at h
    split at h
    next =>
      rcases List.mem_cons.mp h with rfl | hmem
      · exact List.not_mem_nil
      · exact ih hmem
    next hc =>
      split at h
      next =>
        obtain rfl := List.mem_singleton.mp h
        simpa using Ne.symm hc
      next first rest hparts =>
        rcases List.mem_cons.mp h with rfl | hmem
        · have hfirst : sep ∉ first := ih (hparts ▸ List.mem_cons_self)
          simpa [Ne.symm hc] using hfirst
        · exact ih (hparts ▸ List.mem_cons_of_mem first hmem)

theorem splitOn_of_not_mem {sep : Char} {cs : List Char} (h : sep ∉ cs) :
    splitOn sep cs = [cs] := by
  induction cs with
  | nil => rfl
  | cons c cs ih =>
    rw [List.mem_cons, not_or] at h
    rw [splitOn, if_neg (Ne.symm h.1), ih h.2]

/-- A text with parts behind separators is cut there, and each part is cut in turn. -/
theorem splitOn_append_flatMap (sep : Char) (cs : List Char) (parts : List (List Char)) :
    splitOn sep (cs ++ parts.flatMap (sep :: ·)) =
      splitOn sep cs ++ parts.flatMap (splitOn sep) := by
  induction parts generalizing cs with
  | nil => rw [List.flatMap_nil, List.flatMap_nil, List.append_nil, List.append_nil]
  | cons part parts ih =>
    rw [List.flatMap_cons, List.flatMap_cons, List.cons_append, splitOn_eq,
      List.splitOn_append_cons_self, ← splitOn_eq, ← splitOn_eq, ih]

theorem flatMap_splitOn {sep : Char} {parts : List (List Char)}
    (h : ∀ part ∈ parts, sep ∉ part) : parts.flatMap (splitOn sep) = parts := by
  induction parts with
  | nil => rfl
  | cons part parts ih =>
    rw [List.forall_mem_cons] at h
    rw [List.flatMap_cons, splitOn_of_not_mem h.1, ih h.2, List.singleton_append]

theorem joinWith_eq (sep : List Char) (parts : List (List Char)) :
    joinWith sep parts = sep.intercalate parts := by
  induction parts with
  | nil => rfl
  | cons part parts ih =>
    cases parts with
    | nil => simp [joinWith]
    | cons next parts =>
      rw [joinWith, ih, List.intercalate_cons_cons, List.append_assoc]
      exact List.cons_ne_nil next parts

/-- Two parts have a separator between them. -/
theorem mem_joinWith {sep : Char} {parts : List (List Char)} (hmany : 2 ≤ parts.length) :
    sep ∈ joinWith [sep] parts := by
  match parts, hmany with
  | first :: second :: others, _ => simp [joinWith]

/-- A cut recovers the parts between which a separator was written. -/
theorem splitOn_joinWith {sep : Char} {parts : List (List Char)} (hne : parts ≠ [])
    (hparts : ∀ part ∈ parts, sep ∉ part) : splitOn sep (joinWith [sep] parts) = parts := by
  rw [splitOn_eq, joinWith_eq]
  exact List.splitOn_intercalate sep hparts hne

theorem filter_not_isEmpty (parts : List (List Char)) :
    parts.filter (!·.isEmpty) = parts.filter (· ≠ []) := by
  refine List.filter_congr fun part _ => ?_
  cases part <;> rfl

/-- A cut at the first separator keeps what is in front of it and what is behind it. -/
theorem splitOnce_eq (sep : Char) (cs : List Char) :
    splitOnce sep cs =
      if sep ∈ cs then some (cs.takeWhile (· != sep), (cs.dropWhile (· != sep)).tail)
      else none := by
  induction cs with
  | nil => rfl
  | cons c cs ih =>
    unfold splitOnce
    by_cases h : c = sep
    · simp [h]
    · have htest : (c != sep) = true := bne_iff_ne.mpr h
      have htake : (c :: cs).takeWhile (· != sep) = c :: cs.takeWhile (· != sep) := by
        rw [List.takeWhile_cons, if_pos htest]
      have hdrop : (c :: cs).dropWhile (· != sep) = cs.dropWhile (· != sep) := by
        rw [List.dropWhile_cons, if_pos htest]
      rw [if_neg h, ih, htake, hdrop]
      by_cases hmem : sep ∈ cs
      · rw [if_pos hmem, if_pos (List.mem_cons_of_mem c hmem)]
        rfl
      · rw [if_neg hmem, if_neg (by simp [hmem, Ne.symm h])]
        rfl

theorem splitOnce_append_cons {sep : Char} {cs : List Char} (h : sep ∉ cs)
    (behind : List Char) : splitOnce sep (cs ++ sep :: behind) = some (cs, behind) := by
  induction cs with
  | nil => rw [List.nil_append, splitOnce, if_pos rfl]
  | cons c cs ih =>
    rw [List.mem_cons, not_or] at h
    rw [List.cons_append, splitOnce, if_neg (Ne.symm h.1), ih h.2, Option.map_some]

theorem eq_of_splitOnce {sep : Char} {cs before behind : List Char}
    (h : splitOnce sep cs = some (before, behind)) :
    cs = before ++ sep :: behind ∧ sep ∉ before := by
  induction cs generalizing before with
  | nil => simp [splitOnce] at h
  | cons c cs ih =>
    rw [splitOnce] at h
    split at h
    next hc =>
      cases h
      exact ⟨by rw [hc]; rfl, List.not_mem_nil⟩
    next hc =>
      obtain ⟨⟨front, rest⟩, hsplit, heq⟩ := Option.map_eq_some_iff.mp h
      cases heq
      obtain ⟨rfl, hnot⟩ := ih hsplit
      exact ⟨rfl, by simp [Ne.symm hc, hnot]⟩

theorem splitLast_eq_none {sep : Char} {cs : List Char} :
    splitLast sep cs = none ↔ sep ∉ cs := by
  induction cs with
  | nil => simp [splitLast]
  | cons c cs ih =>
    unfold splitLast
    rcases hlast : splitLast sep cs with _ | ⟨before, behind⟩
    · have hnone := ih.mp hlast
      by_cases hc : c = sep
      · simp [hc]
      · simp [hc, hnone, Ne.symm hc]
    · have hsome : sep ∈ cs := by
        refine Decidable.byContradiction fun hnone => ?_
        rw [ih.mpr hnone] at hlast
        simp at hlast
      simp [hsome]

theorem splitLast_append {sep : Char} (before : List Char) {behind : List Char}
    (hbehind : sep ∉ behind) :
    splitLast sep (before ++ sep :: behind) = some (before, behind) := by
  induction before with
  | nil => rw [List.nil_append, splitLast, splitLast_eq_none.mpr hbehind, if_pos rfl]
  | cons c before ih => rw [List.cons_append, splitLast, ih]

/-- A cut at the last separator leaves none behind it. -/
theorem not_mem_of_splitLast {sep : Char} {cs before behind : List Char}
    (h : splitLast sep cs = some (before, behind)) : sep ∉ behind := by
  induction cs generalizing before with
  | nil => simp [splitLast] at h
  | cons c cs ih =>
    unfold splitLast at h
    split at h
    next front rest hlast =>
      cases h
      exact ih hlast
    next hlast =>
      split at h
      · cases h
        exact splitLast_eq_none.mp hlast
      · simp at h

theorem stripStart_eq_some_iff {start cs rest : List Char} :
    stripStart start cs = some rest ↔ cs = start ++ rest := by
  induction start generalizing cs with
  | nil => simp [stripStart, eq_comm]
  | cons p ps ih =>
    cases cs with
    | nil => simp [stripStart]
    | cons c cs =>
      unfold stripStart
      split
      next heq => rw [ih, List.cons_append, List.cons.injEq, heq, eq_self, true_and]
      next hne => simp [Ne.symm hne]

end RestDispatch.Text
