import RestDispatch.Proofs.Dictionary
import RestDispatch.Proofs.Media.Header

/-!
# Parameters read back from headers

Reading a media type puts its parameters in a normal form: names in small letters and without
blanks at their ends, values without quotation marks at theirs, no separators in either, and the
names in increasing order.  A header writes a value as it is, without the quotation marks it may
have been read from.  So a value is read back without the blanks at its ends, and a media type
with all its parameters if and only if there are none.
-/

namespace RestDispatch

namespace MediaType

/-- What reading leaves of a value. -/
def readValue (value : List Char) : String :=
  String.ofList (Text.trimWhile (· == '"') (Text.trim value))

/-- A parameter as reading leaves it. -/
structure NormalParam (param : String × String) : Prop where
  name : Text.trim param.1.toList = param.1.toList
  lower : Text.lower param.1 = param.1
  equals : '=' ∉ param.1.toList
  semicolon : ';' ∉ param.1.toList ∧ ';' ∉ param.2.toList
  quality : param.1 ≠ "q"
  quotes : Text.trimWhile (· == '"') param.2.toList = param.2.toList

/-- The parameters of a media type as reading leaves them. -/
structure NormalParams (m : MediaType) : Prop where
  sorted : Dictionary.Sorted m.params
  normal : ∀ param ∈ m.params, NormalParam param

theorem trim_map_toLower (cs : List Char) :
    Text.trim ((Text.trim cs).map Char.toLower) = (Text.trim cs).map Char.toLower := by
  by_cases hempty : Text.trim cs = []
  · rw [hempty]
    rfl
  · exact (Text.bare_trim hempty).map_toLower.trim_self

/-- A name and a value that are read are in normal form. -/
theorem normalParam_read {name value : List Char} (hequals : '=' ∉ name)
    (hname : ';' ∉ name) (hvalue : ';' ∉ value)
    (hquality : Text.lower (String.ofList (Text.trim name)) ≠ "q") :
    NormalParam (Text.lower (String.ofList (Text.trim name)), readValue value) := by
  have hlower : (Text.lower (String.ofList (Text.trim name))).toList =
      (Text.trim name).map Char.toLower := by
    rw [Text.lower, String.toList_ofList, String.toList_ofList]
  have hnot {c : Char} (hc : c.toNat < 65) (h : c ∉ name) :
      c ∉ (Text.lower (String.ofList (Text.trim name))).toList := by
    rw [hlower, Text.mem_map_toLower hc]
    exact fun hmem => h (Text.mem_of_mem_trim hmem)
  have hkept : ';' ∉ (readValue value).toList := by
    rw [readValue, String.toList_ofList]
    intro hmem
    exact hvalue (Text.mem_of_mem_trim ((Text.trimWhile_sublist _ _).subset hmem))
  constructor
  case name =>
    rw [hlower]
    exact trim_map_toLower name
  case lower => exact Text.lower_lower _
  case equals => exact hnot (by decide) hequals
  case semicolon => exact ⟨hnot (by decide) hname, hkept⟩
  case quality => exact hquality
  case quotes =>
    rw [readValue, String.toList_ofList]
    exact Text.trimWhile_trimWhile _ _

theorem NormalParams.addParam {m : MediaType} (hm : m.NormalParams) {text : List Char}
    (htext : ';' ∉ text) : (m.addParam text).NormalParams := by
  unfold MediaType.addParam
  split
  next => exact hm
  next name value hcut =>
    obtain ⟨heq, hequals⟩ := Text.eq_of_splitOnce hcut
    have hpart {c : Char} (hc : c ∈ name ∨ c ∈ value) : c ∈ text := by
      apply Text.mem_of_mem_trim
      rw [heq]
      cases hc with
      | inl hname => simp [hname]
      | inr hvalue => simp [hvalue]
    dsimp only
    split
    next => exact hm
    next hquality =>
      have hnormal := normalParam_read hequals (fun hmem => htext (hpart (.inl hmem)))
        (fun hmem => htext (hpart (.inr hmem))) hquality
      constructor
      case sorted => exact hm.sorted.insert _ _
      case normal => exact Dictionary.forall_mem_modify (fun _ => hnormal) hm.normal

theorem NormalParams.foldl_addParam {m : MediaType} (hm : m.NormalParams)
    {texts : List (List Char)} (htexts : ∀ text ∈ texts, ';' ∉ text) :
    (texts.foldl MediaType.addParam m).NormalParams := by
  induction texts generalizing m with
  | nil => exact hm
  | cons text texts ih =>
    rw [List.forall_mem_cons] at htexts
    exact ih (hm.addParam htexts.1) htexts.2

/-- Whatever is read has its parameters in normal form. -/
theorem normalParams_of_parse {s : String} {m : MediaType} (h : parse s = some m) :
    m.NormalParams := by
  unfold parse at h
  split at h
  next => cases h
  next essence texts hparts =>
    have htexts : ∀ text ∈ texts, ';' ∉ text := by
      intro text htext
      rw [Text.splitOn_eq] at hparts
      exact Text.not_mem_of_mem_splitOn (hparts ▸ List.mem_cons_of_mem _ htext)
    split at h
    next => cases h
    next mainType subtype _ =>
      dsimp only at h
      split at h
      next => cases h
      next =>
        have hempty : (ofParts (String.ofList (Text.trim mainType))
            (String.ofList (Text.trim subtype))).NormalParams := by
          constructor
          case sorted => exact Dictionary.sorted_nil
          case normal => exact fun param hparam => absurd hparam List.not_mem_nil
        rw [← Option.some.inj h]
        exact hempty.foldl_addParam htexts

section

variable (m : MediaType)

/-- A parameter with a name in normal form is read with its name. -/
theorem addParam_written {param : String × String} (hparam : NormalParam param) :
    m.addParam (param.1.toList ++ '=' :: param.2.toList) =
      { m with params := m.params.insert param.1 (readValue param.2.toList) } := by
  have hbare : Text.Bare (param.1.toList ++ ['=']) := by
    constructor
    case first =>
      by_cases hempty : param.1.toList = []
      · exact ⟨'=', [], by rw [hempty]; rfl, rfl⟩
      · have hname : Text.Bare (Text.trim param.1.toList) := by
          apply Text.bare_trim
          rw [hparam.name]
          exact hempty
        obtain ⟨c, rest, heq, hc⟩ := hname.first
        rw [hparam.name] at heq
        exact ⟨c, rest ++ ['='], by rw [heq, List.cons_append], hc⟩
    case last => exact ⟨param.1.toList, '=', rfl, rfl⟩
  have htrim : Text.trim (param.1.toList ++ '=' :: param.2.toList) =
      param.1.toList ++ '=' :: param.2.toList.rdropWhile Text.isBlank := by
    have hwhole := hbare.trim_append param.2.toList
    rw [hbare.rdropWhile_append, List.append_assoc, List.append_assoc] at hwhole
    exact hwhole
  unfold addParam
  rw [htrim, Text.splitOnce_append_cons hparam.equals]
  dsimp only
  rw [hparam.name, String.ofList_toList, hparam.lower, if_neg hparam.quality,
    Text.trim_rdropWhile]
  rfl

theorem foldl_addParam_written {params : Dictionary String}
    (hparams : ∀ param ∈ params, NormalParam param) :
    (params.map fun param => param.1.toList ++ '=' :: param.2.toList).foldl addParam m =
      { m with
        params := params.foldl
          (fun d param => d.insert param.1 (readValue param.2.toList)) m.params } := by
  induction params generalizing m with
  | nil => rfl
  | cons param params ih =>
    rw [List.forall_mem_cons] at hparams
    rw [List.map_cons, List.foldl_cons, m.addParam_written hparams.1, ih _ hparams.2]
    rfl

end

/-- The header of what was read is read with every value as it is read bare. -/
theorem parse_header {s : String} {m : MediaType} (h : parse s = some m) :
    parse m.header =
      some { m with params := m.params.map fun param => (param.1, readValue param.2.toList) } := by
  have hnormal := normalParams_of_parse h
  have htexts : ∀ text ∈ m.params.map fun param => param.1.toList ++ '=' :: param.2.toList,
      ';' ∉ text := by
    intro text htext
    obtain ⟨param, hparam, rfl⟩ := List.mem_map.mp htext
    have hsemicolon := (hnormal.normal param hparam).semicolon
    simp [hsemicolon.1, hsemicolon.2]
  have hinserted := Dictionary.foldl_insert_of_sorted
    (fun param : String × String => readValue param.2.toList) hnormal.sorted (d := [])
    fun entry hentry => absurd hentry List.not_mem_nil
  rw [(normal_of_parse h).parse_written m.toList_header, Text.flatMap_splitOn htexts,
    foldl_addParam_written _ hnormal.normal, hinserted, List.nil_append]

/-- A value without quotation marks at its ends is read as itself if and only if it has no blanks
there. -/
theorem readValue_eq_self_iff {value : String}
    (hquotes : Text.trimWhile (· == '"') value.toList = value.toList) :
    readValue value.toList = value ↔ Text.trim value.toList = value.toList := by
  constructor
  · intro heq
    -- What is read is part of what trimming leaves, which is part of the value.
    have hread : (readValue value.toList).toList.Sublist (Text.trim value.toList) := by
      rw [readValue, String.toList_ofList]
      exact Text.trimWhile_sublist _ _
    rw [heq] at hread
    exact (Text.trimWhile_sublist _ _).antisymm hread
  · intro htrim
    rw [readValue, htrim, hquotes, String.ofList_toList]

theorem map_readValue_eq_self_iff {params : Dictionary String}
    (hparams : ∀ param ∈ params, NormalParam param) :
    (params.map fun param => (param.1, readValue param.2.toList)) = params ↔
      ∀ param ∈ params, Text.trim param.2.toList = param.2.toList := by
  induction params with
  | nil => simp
  | cons param params ih =>
    have hfirst : (param.1, readValue param.2.toList) = param ↔
        Text.trim param.2.toList = param.2.toList := by
      rw [← readValue_eq_self_iff (List.forall_mem_cons.mp hparams).1.quotes, Prod.ext_iff]
      exact and_iff_right rfl
    rw [List.map_cons, List.cons.injEq, hfirst, ih (List.forall_mem_cons.mp hparams).2,
      List.forall_mem_cons]

/-- The header of what was read is read as the same if and only if no value begins or ends with
a blank.  In any case it is read, with the same names and, value by value, what reading leaves of
the bare value. -/
theorem parse_header_eq_self_iff {s : String} {m : MediaType} (h : parse s = some m) :
    parse m.header =
        some { m with params := m.params.map fun param => (param.1, readValue param.2.toList) } ∧
      (parse m.header = some m ↔
        ∀ param ∈ m.params, Text.trim param.2.toList = param.2.toList) := by
  have hparams := map_readValue_eq_self_iff (normalParams_of_parse h).normal
  refine ⟨parse_header h, ?_⟩
  rw [parse_header h, Option.some.injEq, ← hparams]
  constructor
  · intro heq
    exact congrArg MediaType.params heq
  · intro heq
    rw [heq]

/-- Read in small letters, without quotation marks and quality, it survives its header. -/
theorem parse_header_eq_self_iff_charset :
    ∃ m, parse "Application/JSON; charset=\"UTF-8\"; q=0.2" = some m ∧ parse m.header = some m := by
  have hread : parse "Application/JSON; charset=\"UTF-8\"; q=0.2" =
      some ⟨"application", "json", [("charset", "UTF-8")]⟩ := by
    decide +kernel
  have hends : ∀ param ∈ [("charset", "UTF-8")],
      Text.trim param.2.toList = param.2.toList := by
    decide +kernel
  exact ⟨_, hread, (parse_header_eq_self_iff hread).2.mpr hends⟩

/-- Blanks between quotation marks are read, written without the marks and not read again. -/
theorem quoted_blanks_lost : ∃ m, parse "text/plain;k=\" x \"" = some m ∧
    m.header = "text/plain;k= x " ∧ parse m.header = some (m.withParam "k" "x") ∧
      parse m.header ≠ some m := by
  have hread : parse "text/plain;k=\" x \"" = some ⟨"text", "plain", [("k", " x ")]⟩ := by
    decide +kernel
  exact ⟨_, hread, by decide +kernel, by decide +kernel, by decide +kernel⟩

end MediaType

end RestDispatch
