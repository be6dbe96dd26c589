import RestDispatch.Proofs.Conversion.Typing
import RestDispatch.Proofs.Text.Cutting
import RestDispatch.Proofs.Text.Trimming

/-!
# Repeated texts and texts joined by commas

A collection comes from several texts, one element each, or from a single text that is cut at
its commas.  Texts that can be told apart once commas stand between them are converted alike
either way, down to the first of them that is refused: the single text is cut into them again,
and trimming leaves each as it was.  A text that is empty stays a part of its own.
-/

namespace RestDispatch

/-- A text that is kept between commas as it is: there is no comma in it and no blank at either
of its ends. -/
structure Text.KeptBetweenCommas (text : List Char) : Prop where
  comma : ',' ∉ text
  first : ∀ c ∈ text.head?, isBlank c = false
  last : ∀ c ∈ text.getLast?, isBlank c = false

instance (text : List Char) : Decidable (Text.KeptBetweenCommas text) :=
  decidable_of_iff (',' ∉ text ∧ text.head?.all (!Text.isBlank ·) ∧
      text.getLast?.all (!Text.isBlank ·)) <| by
    rw [Option.all_eq_true, Option.all_eq_true]
    simp only [Bool.not_eq_true']
    exact ⟨fun ⟨comma, first, last⟩ => ⟨comma, first, last⟩, fun h => ⟨h.comma, h.first, h.last⟩⟩

namespace Conversion

section

variable {target : Ty} {c : Conversion} {texts : List String}

/-- Lists, arrays and sets are collected, behind optional wrappers too. -/
theorem MadeFor.arity_of_isCollection (h : c.MadeFor target)
    (hcollection : target.isCollection = true) : c.arity = .list ∨ c.arity = .set := by
  have hunwrap : target.unwrap.isCollection = true := by
    rw [Ty.isCollection_unwrap, hcollection]
  cases h with
  | bytes hbytes =>
    rw [hbytes] at hunwrap
    exact Bool.noConfusion hunwrap
  | scalar hscalar =>
    rw [Ty.not_isScalar_of_isCollection hunwrap target.isOptional_unwrap] at hscalar
    exact Bool.noConfusion hscalar
  | list => exact .inl rfl
  | set => exact .inr rfl

/-- The parts of the joined text are the texts. -/
theorem parts_join (hmany : 2 ≤ texts.length)
    (htexts : ∀ text ∈ texts, Text.KeptBetweenCommas text.toList) :
    ((Text.splitOn ',' (Text.join "," texts).toList).map fun part =>
      String.ofList (Text.trim part)) = texts := by
  have hne : texts.map String.toList ≠ [] := by
    intro hnil
    rw [List.map_eq_nil_iff] at hnil
    simp [hnil] at hmany
  have hcommas : ∀ part ∈ texts.map String.toList, ',' ∉ part :=
    List.forall_mem_map.mpr fun text htext => (htexts text htext).comma
  have hcut : Text.splitOn ',' (Text.join "," texts).toList = texts.map String.toList := by
    rw [Text.join, String.toList_ofList]
    exact Text.splitOn_joinWith hne hcommas
  rw [hcut, List.map_map]
  refine (List.map_congr_left fun text htext => ?_).trans (List.map_id texts)
  rw [Function.comp_apply, Text.trim_eq_self (htexts text htext).first (htexts text htext).last,
    String.ofList_toList, id]

/-- Splitting the joined text converts the texts one by one. -/
theorem split_join (hmany : 2 ≤ texts.length)
    (htexts : ∀ text ∈ texts, Text.KeptBetweenCommas text.toList) :
    c.split (Text.join "," texts) = c.each texts := by
  have hcomma : ',' ∈ (Text.join "," texts).toList := by
    rw [Text.join, String.toList_ofList]
    exact Text.mem_joinWith (by rwa [List.length_map])
  have hpresent : ¬(Text.trim (Text.join "," texts).toList).isEmpty = true := by
    rw [List.isEmpty_iff]
    exact Text.trim_ne_nil_of_mem hcomma rfl
  rw [split, if_neg hpresent, parts_join hmany htexts]

/-- Several texts are collected one by one. -/
theorem convertAll_of_many (hmany : 2 ≤ texts.length)
    (hcollects : c.arity = .list ∨ c.arity = .set) :
    c.convertAll texts =
      (c.each texts).map (if c.arity = .list then Value.list else Value.ofItems) := by
  match texts, hmany with
  | first :: second :: others, _ => rcases hcollects with h | h <;> simp [convertAll, h]

/-- A single text is collected from its parts. -/
theorem convertAll_singleton (hcollects : c.arity = .list ∨ c.arity = .set) (text : String) :
    c.convertAll [text] =
      (c.split text).map (if c.arity = .list then Value.list else Value.ofItems) := by
  rcases hcollects with h | h <;> simp [convertAll, convert, h]

/-- Several texts and the text that joins them by commas are converted to the same collection,
or refused with the same fault. -/
theorem convertAll_join (hc : of target = .ok c) (hcollection : target.isCollection = true)
    (hmany : 2 ≤ texts.length) (htexts : ∀ text ∈ texts, Text.KeptBetweenCommas text.toList) :
    c.convertAll texts = c.convertAll [Text.join "," texts] := by
  have hcollects := (madeFor_of hc).arity_of_isCollection hcollection
  rw [convertAll_of_many hmany hcollects, convertAll_singleton hcollects,
    split_join hmany htexts]

/-- A set that drops an empty text and the second of two equal numbers, and a text in it that is
no number. -/
theorem convertAll_join_set :
    let set : Conversion := ⟨.optional (.set (.integer .i8)), .integer .i8, .set⟩
    let texts := ["7", "", "+7", "-1"]
    let refused := ["7", "", "x y", "1000"]
    of set.target = .ok set ∧
      (Text.join "," texts = "7,,+7,-1" ∧
        set.convertAll texts = .ok (.set [.int 7, .int (-1)]) ∧
        set.convertAll texts = set.convertAll [Text.join "," texts]) ∧
      set.convertAll refused =
          .error (.badRequest "cannot convert 'x y' to i8: invalid digit found in string") ∧
        set.convertAll refused = set.convertAll [Text.join "," refused] := by
  intro set texts refused
  have hset : of set.target = .ok set := rfl
  have htexts : ∀ text ∈ texts, Text.KeptBetweenCommas text.toList := by decide
  have hrefused : ∀ text ∈ refused, Text.KeptBetweenCommas text.toList := by decide
  exact ⟨hset, ⟨by rfl, by rfl, convertAll_join hset rfl (by decide) htexts⟩, by rfl,
    convertAll_join hset rfl (by decide) hrefused⟩

end

end Conversion

end RestDispatch
