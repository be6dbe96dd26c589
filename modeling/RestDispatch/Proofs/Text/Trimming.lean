import Mathlib.Data.List.DropRight
import RestDispatch.Text.Basic

/-!
# Trimming and small letters

A text that is neither empty nor blank at one of its ends is what trimming leaves, and trimming
does nothing more to it, nor to its beginning when more text follows.  Letters in lower case
stay as they are, and no letter becomes a blank or another separator.
-/

namespace RestDispatch.Text

theorem toNat_toLower (c : Char) :
    c.toLower.toNat = if 65 ≤ c.toNat ∧ c.toNat ≤ 90 then c.toNat + 32 else c.toNat := by
  have hupper : (c.val ≥ 'A'.val ∧ c.val ≤ 'Z'.val) ↔ 65 ≤ c.toNat ∧ c.toNat ≤ 90 := by
    simp [UInt32.le_iff_toNat_le, ← Char.toNat_val]
  unfold Char.toLower
  split
  next h =>
    have hbound := (hupper.mp h).2
    have hstep : ('a'.val - 'A'.val).toNat = 32 := rfl
    rw [if_pos (hupper.mp h)]
    rw [← Char.toNat_val] at hbound ⊢
    rw [UInt32.toNat_add, hstep, Nat.mod_eq_of_lt (by omega)]
    rfl
  next h => rw [if_neg fun hbounds => h (hupper.mpr hbounds)]

theorem isBlank_toLower (c : Char) : isBlank c.toLower = isBlank c := by
  unfold isBlank
  rw [toNat_toLower]
  split
  next h =>
    rw [Bool.eq_iff_iff]
    simp only [Bool.or_eq_true, Bool.and_eq_true, decide_eq_true_eq, beq_iff_eq]
    omega
  next => rfl

/-- No letter is mapped to a character in front of the letters. -/
theorem mem_map_toLower {c : Char} (hc : c.toNat < 65) (cs : List Char) :
    c ∈ cs.map Char.toLower ↔ c ∈ cs := by
  have heq (d : Char) : d.toLower = c ↔ d = c := by
    rw [← Char.toNat_inj, ← Char.toNat_inj, toNat_toLower]
    split <;> omega
  simp [heq]

theorem lower_lower (s : String) : lower (lower s) = lower s := by
  unfold lower
  rw [String.toList_ofList, List.map_map]
  refine congrArg String.ofList (List.map_congr_left fun c _ => Char.toNat_inj.mp ?_)
  have hsmall : ¬(65 ≤ c.toLower.toNat ∧ c.toLower.toNat ≤ 90) := by
    rw [toNat_toLower]
    split <;> omega
  rw [Function.comp_apply, toNat_toLower, if_neg hsmall]

theorem mem_of_mem_trim {c : Char} {cs : List Char} (h : c ∈ trim cs) : c ∈ cs :=
  (List.dropWhile_sublist _).subset ((List.rdropWhile_prefix _ _).subset h)

/-- Trimming at the end goes through a list from its front, except where nothing is left. -/
theorem rdropWhile_cons (p : Char → Bool) (c : Char) (cs : List Char) :
    (c :: cs).rdropWhile p =
      if cs.rdropWhile p = [] ∧ p c = true then [] else c :: cs.rdropWhile p := by
  induction cs using List.reverseRecOn with
  | nil => simp [List.rdropWhile_singleton]
  | append_singleton cs d ih =>
    rw [← List.cons_append]
    by_cases hd : p d = true
    · rw [List.rdropWhile_concat_pos _ _ _ hd, List.rdropWhile_concat_pos _ _ _ hd, ih]
    · rw [List.rdropWhile_concat_neg _ _ _ hd, List.rdropWhile_concat_neg _ _ _ hd,
        if_neg (by simp), List.cons_append]

/-- Not empty, and not blank at either end. -/
structure Bare (cs : List Char) : Prop where
  first : ∃ c rest, cs = c :: rest ∧ isBlank c = false
  last : ∃ front c, cs = front ++ [c] ∧ isBlank c = false

theorem trim_eq (cs : List Char) : trim cs = (cs.dropWhile isBlank).rdropWhile isBlank := rfl

theorem bare_trim {cs : List Char} (h : trim cs ≠ []) : Bare (trim cs) where
  first := by
    obtain ⟨c, rest, hcs⟩ := List.exists_cons_of_ne_nil h
    obtain ⟨behind, hprefix⟩ := List.rdropWhile_prefix isBlank (cs.dropWhile isBlank)
    rw [← trim_eq, hcs, List.cons_append] at hprefix
    have hc := List.head?_dropWhile_not isBlank cs
    rw [← hprefix] at hc
    exact ⟨c, rest, hcs, by simpa using hc⟩
  last := by
    have hlast := List.rdropWhile_last_not isBlank (cs.dropWhile isBlank) h
    exact ⟨_, _, (List.dropLast_append_getLast h).symm, (Bool.not_eq_true _).mp hlast⟩

namespace Bare

variable {cs : List Char} (h : Bare cs)

include h

theorem ne_nil : cs ≠ [] := by
  obtain ⟨c, rest, rfl, -⟩ := h.first
  exact List.cons_ne_nil c rest

theorem map_toLower : Bare (cs.map Char.toLower) where
  first := by
    obtain ⟨c, rest, rfl, hc⟩ := h.first
    exact ⟨c.toLower, rest.map Char.toLower, rfl, by rw [isBlank_toLower, hc]⟩
  last := by
    obtain ⟨front, c, rfl, hc⟩ := h.last
    exact ⟨front.map Char.toLower, c.toLower, by simp, by rw [isBlank_toLower, hc]⟩

theorem append_cons {other : List Char} (hother : Bare other) (sep : Char) :
    Bare (cs ++ sep :: other) where
  first := by
    obtain ⟨c, rest, rfl, hc⟩ := h.first
    exact ⟨c, rest ++ sep :: other, rfl, hc⟩
  last := by
    obtain ⟨front, c, rfl, hc⟩ := hother.last
    exact ⟨cs ++ sep :: front, c, by simp, hc⟩

/-- What is behind a text that does not begin with a blank is all that trimming touches. -/
theorem trim_append (behind : List Char) :
    trim (cs ++ behind) = (cs ++ behind).rdropWhile isBlank := by
  obtain ⟨c, rest, rfl, hc⟩ := h.first
  rw [trim_eq, List.cons_append, List.dropWhile_cons, hc, if_neg (by simp)]

theorem trim_self : trim cs = cs := by
  have htrim := h.trim_append []
  obtain ⟨front, c, rfl, hc⟩ := h.last
  rw [List.append_nil] at htrim
  rw [htrim, List.rdropWhile_concat_neg _ _ _ (by simp [hc])]

theorem rdropWhile_append (behind : List Char) :
    (cs ++ behind).rdropWhile isBlank = cs ++ behind.rdropWhile isBlank := by
  obtain ⟨front, c, rfl, hc⟩ := h.last
  clear h
  induction front with
  | nil =>
    have hkept : ¬(behind.rdropWhile isBlank = [] ∧ isBlank c = true) := by
      simp [hc]
    rw [List.nil_append, List.singleton_append, rdropWhile_cons, if_neg hkept,
      List.singleton_append]
  | cons d front ih =>
    rw [List.cons_append, List.cons_append, rdropWhile_cons, ih, if_neg (by simp),
      List.cons_append]

end Bare

/-- A text without blanks at its ends is left as it is, also when it is empty. -/
theorem trim_eq_self {cs : List Char} (hfirst : ∀ c ∈ cs.head?, isBlank c = false)
    (hlast : ∀ c ∈ cs.getLast?, isBlank c = false) : trim cs = cs := by
  cases cs with
  | nil => rfl
  | cons c rest =>
    have hne := List.cons_ne_nil c rest
    have hend := hlast _ (List.getLast?_eq_some_getLast hne)
    exact Bare.trim_self ⟨⟨c, rest, rfl, hfirst c rfl⟩,
      ⟨_, _, (List.dropLast_append_getLast hne).symm, hend⟩⟩

theorem trim_ne_nil_of_mem {c : Char} {cs : List Char} (hmem : c ∈ cs)
    (hc : isBlank c = false) : trim cs ≠ [] := by
  intro hnil
  rw [trim_eq, List.rdropWhile_eq_nil_iff] at hnil
  have hparts := List.takeWhile_append_dropWhile (p := isBlank) (l := cs)
  rw [← hparts, List.mem_append] at hmem
  have hblank : isBlank c = true := hmem.elim List.mem_takeWhile_imp (hnil c)
  rw [hc] at hblank
  exact Bool.noConfusion hblank

/-- The two ends may be trimmed in either order. -/
theorem dropWhile_rdropWhile (p : Char → Bool) (cs : List Char) :
    (cs.rdropWhile p).dropWhile p = (cs.dropWhile p).rdropWhile p := by
  induction cs with
  | nil => rfl
  | cons c cs ih =>
    by_cases hc : p c = true
    · rw [List.dropWhile_cons_of_pos hc, ← ih, rdropWhile_cons]
      split
      next hall => rw [hall.1]
      next => rw [List.dropWhile_cons_of_pos hc]
    · have hkept : (c :: cs).rdropWhile p = c :: cs.rdropWhile p := by
        rw [rdropWhile_cons, if_neg fun hall => hc hall.2]
      rw [List.dropWhile_cons_of_neg hc, hkept, List.dropWhile_cons_of_neg hc]

theorem trimWhile_trimWhile (p : Char → Bool) (cs : List Char) :
    trimWhile p (trimWhile p cs) = trimWhile p cs := by
  have htrim (cs : List Char) : trimWhile p cs = (cs.dropWhile p).rdropWhile p := rfl
  rw [htrim, htrim, dropWhile_rdropWhile, List.dropWhile_idempotent, List.rdropWhile_idempotent]

theorem trimWhile_sublist (p : Char → Bool) (cs : List Char) : (trimWhile p cs).Sublist cs :=
  (List.rdropWhile_prefix p _).sublist.trans (List.dropWhile_sublist p)

theorem trim_rdropWhile (cs : List Char) : trim (cs.rdropWhile isBlank) = trim cs := by
  rw [trim_eq, trim_eq, dropWhile_rdropWhile, List.rdropWhile_idempotent]

/-- Where the separator is no blank, a text trimmed at its end has the same parts up to blanks
at their ends. -/
theorem map_rdropWhile_splitOn {sep : Char} (hsep : isBlank sep = false) (cs : List Char) :
    (splitOn sep (cs.rdropWhile isBlank)).map (List.rdropWhile isBlank) =
      (splitOn sep cs).map (List.rdropWhile isBlank) := by
  induction cs with
  | nil => rfl
  | cons c cs ih =>
    obtain ⟨part, parts, hparts⟩ := List.exists_cons_of_ne_nil (splitOn_ne_nil sep cs)
    obtain ⟨part', parts', hparts'⟩ :=
      List.exists_cons_of_ne_nil (splitOn_ne_nil sep (cs.rdropWhile isBlank))
    rw [rdropWhile_cons]
    by_cases hc : c = sep
    · have hkept : ¬(cs.rdropWhile isBlank = [] ∧ isBlank c = true) := by
        simp [hc, hsep]
      rw [if_neg hkept, splitOn, splitOn, if_pos hc, if_pos hc, List.map_cons, List.map_cons, ih]
    · rw [hparts, hparts', List.map_cons, List.map_cons, List.cons.injEq] at ih
      obtain ⟨hfirst, hrest⟩ := ih
      split
      next hall =>
        rw [hall.1] at hparts'
        obtain ⟨rfl, rfl⟩ : [] = part' ∧ [] = parts' := List.cons.inj hparts'
        rw [List.rdropWhile_nil] at hfirst
        rw [splitOn, splitOn, if_neg hc, hparts]
        dsimp only
        rw [List.map_cons, List.map_cons, ← hrest, rdropWhile_cons, ← hfirst,
          if_pos ⟨rfl, hall.2⟩]
        rfl
      next =>
        rw [splitOn, splitOn, if_neg hc, if_neg hc, hparts, hparts']
        dsimp only
        rw [List.map_cons, List.map_cons, hrest, rdropWhile_cons, rdropWhile_cons, hfirst]

end RestDispatch.Text
