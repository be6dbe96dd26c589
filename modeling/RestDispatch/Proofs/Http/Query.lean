import RestDispatch.Http.Request
import RestDispatch.Proofs.Http.MatrixVariables
import RestDispatch.Proofs.Text.Cutting
import RestDispatch.Proofs.Text.FormEncoding

/-!
# Written query strings

Pairs of a key and a value are written behind a path.  What a key or a value has of the characters
that keep keys and values apart is written as percent triples, so reading cuts where the pairs were
put together, and nowhere else.  However they were spelled, the request has the path, and each key
has its values in the order in which they were written.  Every list of pairs can be written, so
requests give their parameters any values whatever.
-/

namespace RestDispatch

namespace Request

open MatrixVariables (written)
open Text (FormWritten)

/-- The parts of a query string write a list of pairs. -/
inductive PartsWritten : List (String × String) → List (List Char) → Prop
  | nil : PartsWritten [] []
  | cons {key value : String} {pairs : List (String × String)}
      {writtenKey writtenValue : List Char} {parts : List (List Char)} :
      FormWritten key.toList writtenKey → FormWritten value.toList writtenValue →
        PartsWritten pairs parts →
        PartsWritten ((key, value) :: pairs) ((writtenKey ++ '=' :: writtenValue) :: parts)

/-- A URI writes a path and, behind a question mark, pairs of a key and a value. -/
def UriWritten (path : String) (pairs : List (String × String)) (uri : String) : Prop :=
  ∃ parts, PartsWritten pairs parts ∧
    uri = path ++ "?" ++ "&".intercalate (parts.map String.ofList)

/-- A request has a path and, as parameters, the values that pairs give to their keys. -/
structure Reads (r : Request) (path : String) (pairs : List (String × String)) : Prop where
  path : r.path = path
  params? : ∀ key, r.params? key =
    if written pairs key = [] then none else some (written pairs key)
  param? : ∀ key, r.param? key = (written pairs key).head?

/-- A written part adds its pair. -/
theorem addQueryPart_written {key value : String} {writtenKey writtenValue : List Char}
    (hkey : FormWritten key.toList writtenKey) (hvalue : FormWritten value.toList writtenValue)
    (params : Dictionary (List String)) :
    addQueryPart params (writtenKey ++ '=' :: writtenValue) =
      MatrixVariables.addValue params key value := by
  have hcut : Text.splitOnce '=' (writtenKey ++ '=' :: writtenValue) =
      some (writtenKey, writtenValue) :=
    Text.splitOnce_append_cons (hkey.not_mem (by decide)) writtenValue
  unfold addQueryPart
  rw [if_neg (by simp), hcut, Option.getD_some]
  dsimp only
  rw [Text.decodeFormComponent_written hkey, Text.decodeFormComponent_written hvalue]
  rfl

theorem exists_partsWritten (pairs : List (String × String)) :
    ∃ parts, PartsWritten pairs parts := by
  induction pairs with
  | nil => exact ⟨[], .nil⟩
  | cons pair pairs ih =>
    obtain ⟨parts, hparts⟩ := ih
    obtain ⟨writtenKey, hkey⟩ := Text.exists_formWritten pair.1.toList
    obtain ⟨writtenValue, hvalue⟩ := Text.exists_formWritten pair.2.toList
    exact ⟨_, .cons hkey hvalue hparts⟩

section

variable {pairs : List (String × String)} {parts : List (List Char)}

theorem PartsWritten.not_mem (h : PartsWritten pairs parts) : ∀ part ∈ parts, '&' ∉ part := by
  induction h with
  | nil => exact fun part hpart => absurd hpart List.not_mem_nil
  | cons hkey hvalue _ ih =>
    rw [List.forall_mem_cons]
    refine ⟨?_, ih⟩
    rw [List.mem_append, List.mem_cons, not_or, not_or]
    exact ⟨hkey.not_mem (by decide), by decide, hvalue.not_mem (by decide)⟩

theorem PartsWritten.foldl_addQueryPart (h : PartsWritten pairs parts)
    (params : Dictionary (List String)) :
    parts.foldl addQueryPart params = pairs.foldl
      (fun params pair => MatrixVariables.addValue params pair.1 pair.2) params := by
  induction h generalizing params with
  | nil => rfl
  | cons hkey hvalue _ ih =>
    rw [List.foldl_cons, List.foldl_cons, addQueryPart_written hkey hvalue, ih]

/-- A query string that writes pairs is read as these pairs. -/
theorem PartsWritten.parseQuery_eq (h : PartsWritten pairs parts) :
    parseQuery (String.ofList (Text.joinWith ['&'] parts)) =
      MatrixVariables.segmentOf pairs := by
  have hparts : (Text.splitOn '&' (Text.joinWith ['&'] parts)).foldl addQueryPart [] =
      parts.foldl addQueryPart [] := by
    cases parts with
    -- Without parts the text is empty, and its one empty part adds nothing.
    | nil => rfl
    | cons part parts => rw [Text.splitOn_joinWith (List.cons_ne_nil part parts) h.not_mem]
  rw [parseQuery, String.toList_ofList, hparts, h.foldl_addQueryPart]
  rfl

end

section

variable {path : String} {pairs : List (String × String)}

theorem exists_uriWritten (path : String) (pairs : List (String × String)) :
    ∃ uri, UriWritten path pairs uri := by
  obtain ⟨parts, hparts⟩ := exists_partsWritten pairs
  exact ⟨_, parts, hparts, rfl⟩

/-- The first question mark is the one behind the path, and the parts are the query string. -/
theorem UriWritten.ofUri_eq {uri : String} (h : UriWritten path pairs uri)
    (hpath : '?' ∉ path.toList) (method : Method) :
    (ofUri method uri).path = path ∧
      (ofUri method uri).queryParams = MatrixVariables.segmentOf pairs := by
  obtain ⟨parts, hparts, rfl⟩ := h
  have huri : (path ++ "?" ++ "&".intercalate (parts.map String.ofList)).toList =
      path.toList ++ '?' :: Text.joinWith ['&'] parts := by
    have htexts : (parts.map String.ofList).map String.toList = parts := by
      simp
    rw [String.toList_append, String.toList_append, String.toList_intercalate, htexts,
      Text.joinWith_eq, List.append_assoc]
    rfl
  unfold ofUri
  rw [huri, Text.splitOnce_append_cons hpath]
  exact ⟨String.ofList_toList, hparts.parseQuery_eq⟩

/-- What is read off the query string answers for every key. -/
theorem reads_of_queryParams {r : Request} (hpath : r.path = path)
    (hqueryParams : r.queryParams = MatrixVariables.segmentOf pairs) : Reads r path pairs := by
  have hparams (key : String) : r.params? key =
      if written pairs key = [] then none else some (written pairs key) := by
    rw [Request.params?, hqueryParams, MatrixVariables.get?_segmentOf_eq_ite]
  refine ⟨hpath, hparams, fun key => ?_⟩
  rw [Request.param?, hparams]
  split
  next hnone => rw [hnone, Option.bind_none, List.head?_nil]
  next => rw [Option.bind_some]

/-- Reading inverts writing: every list of pairs can be written behind a path without question mark,
and the request for each URI that writes them has the path, and gives every key its values. -/
theorem reads_ofUri (hpath : '?' ∉ path.toList) (pairs : List (String × String)) :
    (∃ uri, UriWritten path pairs uri) ∧
      ∀ uri, UriWritten path pairs uri → ∀ method, Reads (ofUri method uri) path pairs := by
  refine ⟨exists_uriWritten path pairs, fun uri huri method => ?_⟩
  obtain ⟨hsame, hqueryParams⟩ := huri.ofUri_eq hpath method
  exact reads_of_queryParams hsame hqueryParams

/-- A key in two spellings, separators within values, and an empty pair. -/
theorem reads_ofUri_search :
    '?' ∉ "/search".toList ∧
      UriWritten "/search" [("a b", "=é"), ("", ""), ("a b", "&")]
        "/search?a+b=%3D%c3%A9&=&a%20b=%26" ∧
      Reads (ofUri .get "/search?a+b=%3D%c3%A9&=&a%20b=%26") "/search"
        [("a b", "=é"), ("", ""), ("a b", "&")] := by
  have hpath : '?' ∉ "/search".toList := by decide
  have hspace : Text.Triples (String.utf8EncodeChar ' ') ['%', '2', '0'] :=
    .cons (by decide) (by decide) .nil
  have hequals : Text.Triples (String.utf8EncodeChar '=') ['%', '3', 'D'] :=
    .cons (by decide) (by decide) .nil
  have haccent : Text.Triples (String.utf8EncodeChar 'é') ['%', 'c', '3', '%', 'A', '9'] :=
    .cons (by decide) (by decide) (.cons (by decide) (by decide) .nil)
  have hand : Text.Triples (String.utf8EncodeChar '&') ['%', '2', '6'] :=
    .cons (by decide) (by decide) .nil
  have hplus : FormWritten ['a', ' ', 'b'] ['a', '+', 'b'] :=
    .plain (by decide) (.plus (.plain (by decide) .nil))
  have htriple : FormWritten ['a', ' ', 'b'] ['a', '%', '2', '0', 'b'] :=
    .plain (by decide) (.triples hspace (.plain (by decide) .nil))
  have hwritten : UriWritten "/search" [("a b", "=é"), ("", ""), ("a b", "&")]
      "/search?a+b=%3D%c3%A9&=&a%20b=%26" :=
    ⟨_, .cons hplus (.triples hequals (.triples haccent .nil))
      (.cons .nil .nil (.cons htriple (.triples hand .nil) .nil)), by decide⟩
  exact ⟨hpath, hwritten, (reads_ofUri hpath _).2 _ hwritten .get⟩

/-- Some request has a list of pairs for its parameters, each name with its first value. -/
theorem exists_uri_param? (method : Method) (pairs : List (String × String)) :
    ∃ uri, ∀ name, (ofUri method uri).param? name = (written pairs name).head? := by
  obtain ⟨uri, huri⟩ := exists_uriWritten "/" pairs
  obtain ⟨hpath, hqueryParams⟩ := huri.ofUri_eq (by decide) method
  exact ⟨uri, (reads_of_queryParams hpath hqueryParams).param?⟩

end

end Request

end RestDispatch
