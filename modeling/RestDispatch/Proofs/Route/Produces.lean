import RestDispatch.Proofs.Media.Ranking
import RestDispatch.Route.Condition

/-!
# The declared types that a client accepts

Without an `Accept` header every declared type is offered, as declared.  With one, a route offers
the declared types that the header accepts, sorted by the quality that the header gives them.
Only positive qualities take part, and these are numbers, so the sort is a stable one whatever
the header holds.
-/

namespace RestDispatch

namespace Accept

/-- Whether the first type has the greater quality. -/
def rates (a : Accept) (m n : MediaType) : Bool := (a.qualityFor n).lt (a.qualityFor m)

/-- The accepted ones among declared types, by descending quality, those of one quality in the
order in which they are declared. -/
structure Offers (a : Accept) (declared offered : List MediaType) : Prop where
  perm : offered.Perm (declared.filter a.accepts)
  descending : offered.Pairwise fun m n => (a.qualityFor n).le (a.qualityFor m) = true
  stable : ∀ quality : Single, offered.filter (fun m => (a.qualityFor m).same quality) =
    (declared.filter a.accepts).filter fun m => (a.qualityFor m).same quality

variable {a : Accept}

/-- Only a number is a positive quality. -/
theorem isNaN_qualityFor_of_accepts {m : MediaType} (h : a.accepts m = true) :
    (a.qualityFor m).isNaN = false :=
  (Binary.isNaN_of_lt h).2

theorem offers_stableSort (declared : List MediaType) :
    a.Offers declared (stableSort a.rates (declared.filter a.accepts)) := by
  have hnumber {m : MediaType} (hm : m ∈ declared.filter a.accepts) :
      (a.qualityFor m).isNaN = false :=
    isNaN_qualityFor_of_accepts (List.mem_filter.mp hm).2
  have hsort : stableSort a.rates (declared.filter a.accepts) =
      stableSort (fun m n => decide ((a.qualityFor n).place < (a.qualityFor m).place))
        (declared.filter a.accepts) := by
    refine stableSort_congr fun m hm n hn => ?_
    rw [Bool.eq_iff_iff, rates, Binary.lt_iff_place (hnumber hn) (hnumber hm), decide_eq_true_eq]
  have hperm := perm_stableSort a.rates (declared.filter a.accepts)
  refine ⟨hperm, ?_, fun quality => ?_⟩
  · have hordered := (weakOrder_descending fun m => (a.qualityFor m).place).inOrder_stableSort
      (declared.filter a.accepts)
    rw [← hsort] at hordered
    refine hordered.imp_of_mem fun {m n} hm hn hmn => ?_
    rw [Binary.le_iff_place (hnumber (hperm.mem_iff.mp hn)) (hnumber (hperm.mem_iff.mp hm))]
    rw [decide_eq_false_iff_not] at hmn
    exact Int.not_lt.mp hmn
  · cases hquality : quality.isNaN with
    | true =>
      have hnone (types : List MediaType) :
          types.filter (fun m => (a.qualityFor m).same quality) = [] :=
        List.filter_eq_nil_iff.mpr fun m _ =>
          Bool.eq_false_iff.mp (Binary.same_eq_false_of_isNaN hquality _).2
      rw [hnone, hnone]
    | false =>
      have hkey {types : List MediaType} (htypes : types.Perm (declared.filter a.accepts)) :
          types.filter (fun m => (a.qualityFor m).same quality) =
            types.filter fun m => (a.qualityFor m).place == quality.place := by
        refine List.filter_congr fun m hm => ?_
        rw [Bool.eq_iff_iff, Binary.same_iff_place (hnumber (htypes.mem_iff.mp hm)) hquality,
          beq_iff_eq]
      rw [hkey hperm, hkey (List.Perm.refl _), hsort]
      exact filter_key_stableSort (fun m => (a.qualityFor m).place) quality.place _

end Accept

namespace RouteCondition

/-- With a header, the accepted types are sorted; without any, declared types are refused. -/
theorem compatible?_some (declared : List MediaType) (header : String) :
    compatible? declared (some header) =
      if declared ≠ [] ∧ declared.filter (Accept.parse header).accepts = [] then none
      else some (stableSort (Accept.parse header).rates
        (declared.filter (Accept.parse header).accepts)) := by
  cases declared with
  | nil => rfl
  | cons m rest =>
    -- Rating first and dropping the zeros then is filtering first and rating then.
    have hrated : compatible? (m :: rest) (some header) =
        let rated := ((m :: rest).filter (Accept.parse header).accepts).map
          fun m => ((Accept.parse header).qualityFor m, m)
        if rated.isEmpty then none
        else some ((stableSort (fun a b => b.1.lt a.1) rated).map (·.2)) := by
      unfold compatible?
      dsimp only
      rw [List.filter_map]
      rfl
    have hsorted := map_stableSort (fun a b : Single × MediaType => b.1.lt a.1)
      (fun m => ((Accept.parse header).qualityFor m, m))
      ((m :: rest).filter (Accept.parse header).accepts)
    rw [hrated]
    dsimp only
    rw [← hsorted, List.map_map]
    by_cases hnone : (m :: rest).filter (Accept.parse header).accepts = []
    · simp only [hnone, List.map_nil, List.isEmpty_nil, ne_eq, reduceCtorEq, not_false_eq_true,
        and_self, if_true]
    · simp only [hnone, and_false, if_false, List.isEmpty_iff, List.map_eq_nil_iff]
      exact congrArg some (List.map_id' _)

/-- A route that declares types offers them as declared to a client that says nothing, and else
those that the client accepts, best first; it refuses a client that accepts none of them. -/
theorem compatible?_offers (declared : List MediaType) (r : Request) :
    (compatible? declared (r.header? "Accept") = none ↔
      declared ≠ [] ∧ ∃ header, r.header? "Accept" = some header ∧
        ∀ m ∈ declared, (Accept.parse header).accepts m = false) ∧
    (r.header? "Accept" = none →
      compatible? declared (r.header? "Accept") = some declared) ∧
    ∀ header offered, r.header? "Accept" = some header →
      compatible? declared (r.header? "Accept") = some offered →
      (Accept.parse header).Offers declared offered := by
  cases hheader : r.header? "Accept" with
  | none =>
    have hall : compatible? declared none = some declared := by cases declared <;> rfl
    simp [hall]
  | some header =>
    have hfilter : declared.filter (Accept.parse header).accepts = [] ↔
        ∀ m ∈ declared, (Accept.parse header).accepts m = false := by
      simp only [List.filter_eq_nil_iff, Bool.not_eq_true]
    rw [compatible?_some]
    refine ⟨?_, fun h => (by cases h), fun header' offered h hoffered => ?_⟩
    · simp only [Option.some.injEq, exists_eq_left', ← hfilter]
      split
      next h => exact iff_of_true rfl h
      next h => exact iff_of_false (Option.some_ne_none _) h
    · cases h
      split at hoffered
      · cases hoffered
      · cases hoffered
        exact Accept.offers_stableSort declared

/-- A client that takes any text before JSON, and nothing else. -/
def textReader : Request :=
  (Request.ofUri .get "/page").addHeader "Accept" "application/json;q=0.5, text/*"

theorem compatible?_offers_text_first :
    compatible? [.json, .octetStream, .textPlain] (textReader.header? "Accept") =
        some [.textPlain, .json] ∧
      (Accept.parse "application/json;q=0.5, text/*").Offers
        [.json, .octetStream, .textPlain] [.textPlain, .json] := by
  have hoffered : compatible? [.json, .octetStream, .textPlain] (textReader.header? "Accept") =
      some [.textPlain, .json] := by decide +kernel
  exact ⟨hoffered, (compatible?_offers _ textReader).2.2 _ _ (by decide +kernel) hoffered⟩

end RouteCondition

end RestDispatch
