import RestDispatch.Media.MediaType
import RestDispatch.Proofs.Text.Cutting
import RestDispatch.Proofs.Text.Trimming

/-!
# Media types read back from headers

A media type that was read from a text is in a normal form: its two names are in small letters,
not blank at either end, and free of the characters that end them.  So the text that a header
carries for it is read as a media type with the same names, whatever becomes of its parameters.
-/

namespace RestDispatch

namespace MediaType

/-- The two names of a media type as reading leaves them. -/
structure Normal (m : MediaType) : Prop where
  mainType : Text.Bare m.mainType.toList
  subtype : Text.Bare m.subtype.toList
  slash : '/' ∉ m.mainType.toList
  semicolon : ';' ∉ m.mainType.toList ∧ ';' ∉ m.subtype.toList
  lower : Text.lower m.mainType = m.mainType ∧ Text.lower m.subtype = m.subtype

theorem Normal.congr {m m' : MediaType} (hm : m.Normal) (hmain : m'.mainType = m.mainType)
    (hsub : m'.subtype = m.subtype) : m'.Normal := by
  constructor
  case mainType => exact hmain ▸ hm.mainType
  case subtype => exact hsub ▸ hm.subtype
  case slash => exact hmain ▸ hm.slash
  case semicolon => exact ⟨hmain ▸ hm.semicolon.1, hsub ▸ hm.semicolon.2⟩
  case lower => exact ⟨by rw [hmain, hm.lower.1], by rw [hsub, hm.lower.2]⟩

theorem sameEssence_addParam (m : MediaType) (text : List Char) :
    (m.addParam text).mainType = m.mainType ∧ (m.addParam text).subtype = m.subtype := by
  unfold addParam
  split
  · exact ⟨rfl, rfl⟩
  · dsimp only
    split
    · exact ⟨rfl, rfl⟩
    · exact ⟨rfl, rfl⟩

theorem sameEssence_foldl_addParam (params : List (List Char)) (m : MediaType) :
    (params.foldl addParam m).mainType = m.mainType ∧
      (params.foldl addParam m).subtype = m.subtype := by
  induction params generalizing m with
  | nil => exact ⟨rfl, rfl⟩
  | cons param params ih =>
    rw [List.foldl_cons, (ih _).1, (ih _).2]
    exact sameEssence_addParam m param

theorem normal_ofParts {mainType subtype : List Char} (hmain : Text.trim mainType ≠ [])
    (hsub : Text.trim subtype ≠ []) (hslash : '/' ∉ mainType) (hmain' : ';' ∉ mainType)
    (hsub' : ';' ∉ subtype) :
    (ofParts (String.ofList (Text.trim mainType)) (String.ofList (Text.trim subtype))).Normal := by
  have hlower (cs : List Char) : (Text.lower (String.ofList cs)).toList = cs.map Char.toLower := by
    rw [Text.lower, String.toList_ofList, String.toList_ofList]
  have hnot {c : Char} {cs : List Char} (hc : c.toNat < 65) (h : c ∉ cs) :
      c ∉ (Text.lower (String.ofList (Text.trim cs))).toList := by
    rw [hlower, Text.mem_map_toLower hc]
    exact fun hmem => h (Text.mem_of_mem_trim hmem)
  constructor
  case mainType =>
    rw [ofParts, hlower]
    exact (Text.bare_trim hmain).map_toLower
  case subtype =>
    rw [ofParts, hlower]
    exact (Text.bare_trim hsub).map_toLower
  case slash => exact hnot (by decide) hslash
  case semicolon => exact ⟨hnot (by decide) hmain', hnot (by decide) hsub'⟩
  case lower => exact ⟨Text.lower_lower _, Text.lower_lower _⟩

/-- Whatever is read is in normal form. -/
theorem normal_of_parse {s : String} {m : MediaType} (h : parse s = some m) : m.Normal := by
  unfold parse at h
  split at h
  next => cases h
  next essence params hparts =>
    have hsemicolon : ';' ∉ essence := by
      rw [Text.splitOn_eq] at hparts
      exact Text.not_mem_of_mem_splitOn (hparts ▸ List.mem_cons_self)
    split at h
    next => cases h
    next mainType subtype hessence =>
      obtain ⟨heq, hslash⟩ := Text.eq_of_splitOnce hessence
      have hmem {c : Char} (hc : c ∈ mainType ++ '/' :: subtype) : c ∈ essence :=
        Text.mem_of_mem_trim (heq ▸ hc)
      dsimp only at h
      split at h
      next => cases h
      next hne =>
        simp only [Bool.or_eq_true, List.isEmpty_iff, not_or] at hne
        have hnormal : (ofParts (String.ofList (Text.trim mainType))
            (String.ofList (Text.trim subtype))).Normal :=
          normal_ofParts hne.1 hne.2 hslash (fun hc => hsemicolon (hmem (by simp [hc])))
            fun hc => hsemicolon (hmem (by simp [hc]))
        obtain ⟨hmain, hsub⟩ := sameEssence_foldl_addParam params
          (ofParts (String.ofList (Text.trim mainType)) (String.ofList (Text.trim subtype)))
        rw [Option.some.inj h] at hmain hsub
        exact hnormal.congr hmain hsub

theorem toList_foldl_params (params : Dictionary String) (text : String) :
    (params.foldl (fun text (name, value) => text ++ ";" ++ name ++ "=" ++ value) text).toList =
      text.toList ++
        (params.map fun param => param.1.toList ++ '=' :: param.2.toList).flatMap (';' :: ·) := by
  induction params generalizing text with
  | nil => simp
  | cons param params ih =>
    rw [List.foldl_cons, ih]
    simp

/-- A header begins with the names, and writes each parameter behind a semicolon. -/
theorem toList_header (m : MediaType) :
    m.header.toList = m.mainType.toList ++ '/' :: m.subtype.toList ++
      (m.params.map fun param => param.1.toList ++ '=' :: param.2.toList).flatMap (';' :: ·) := by
  rw [header, toList_foldl_params, essence]
  simp

/-- Blanks at the end of a parameter do not count. -/
theorem addParam_rdropWhile (m : MediaType) (text : List Char) :
    m.addParam (text.rdropWhile Text.isBlank) = m.addParam text := by
  unfold addParam
  rw [Text.trim_rdropWhile]

theorem foldl_addParam_congr (m : MediaType) {texts texts' : List (List Char)}
    (h : texts.map (List.rdropWhile Text.isBlank) = texts'.map (List.rdropWhile Text.isBlank)) :
    texts.foldl addParam m = texts'.foldl addParam m := by
  have hends (texts : List (List Char)) : texts.foldl addParam m =
      (texts.map (List.rdropWhile Text.isBlank)).foldl addParam m := by
    rw [List.foldl_map]
    simp only [addParam_rdropWhile]
  rw [hends texts, h, ← hends]

/-- Names in normal form with texts behind semicolons are read as these names, with the parameters
that the texts are cut into. -/
theorem Normal.parse_written {m : MediaType} (hm : m.Normal) {text : String}
    {texts : List (List Char)}
    (htext : text.toList = m.mainType.toList ++ '/' :: m.subtype.toList ++
      texts.flatMap (';' :: ·)) :
    parse text =
      some ((texts.flatMap (Text.splitOn ';')).foldl addParam { m with params := [] }) := by
  have hnames : Text.Bare (m.mainType.toList ++ '/' :: m.subtype.toList) :=
    hm.mainType.append_cons hm.subtype '/'
  have hsemicolon : ';' ∉ m.mainType.toList ++ '/' :: m.subtype.toList := by
    simp [hm.semicolon.1, hm.semicolon.2]
  have hblank : Text.isBlank ';' = false := rfl
  have hparts := Text.map_rdropWhile_splitOn hblank text.toList
  rw [htext, Text.splitOn_append_flatMap, Text.splitOn_of_not_mem hsemicolon,
    List.singleton_append, ← hnames.trim_append, ← htext] at hparts
  obtain ⟨essence, read, hread⟩ :=
    List.exists_cons_of_ne_nil (Text.splitOn_ne_nil ';' (Text.trim text.toList))
  rw [hread, List.map_cons, List.map_cons, List.cons.injEq] at hparts
  have hessence : Text.trim essence = m.mainType.toList ++ '/' :: m.subtype.toList := by
    rw [← Text.trim_rdropWhile, hparts.1, Text.trim_rdropWhile, hnames.trim_self]
  have hmain := hm.mainType.ne_nil
  have hsub := hm.subtype.ne_nil
  unfold parse
  simp only [hread, hessence, Text.splitOnce_append_cons hm.slash, hm.mainType.trim_self,
    hm.subtype.trim_self]
  rw [if_neg (by simp [hmain, hsub]), String.ofList_toList, String.ofList_toList, ofParts,
    hm.lower.1, hm.lower.2]
  exact congrArg some (foldl_addParam_congr _ hparts.2)

/-- The header of a media type in normal form is read as one with the same names. -/
theorem Normal.exists_parse_header {m : MediaType} (hm : m.Normal) :
    ∃ m', parse m.header = some m' ∧ m'.mainType = m.mainType ∧ m'.subtype = m.subtype :=
  ⟨_, hm.parse_written m.toList_header, sameEssence_foldl_addParam _ _⟩

end MediaType

end RestDispatch
