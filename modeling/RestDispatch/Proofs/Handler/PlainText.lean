import RestDispatch.Proofs.Conversion.Typing
import RestDispatch.Proofs.Handler.Writing
import RestDispatch.Proofs.Number.Digits
import RestDispatch.Proofs.Text.Encoding

/-!
# Results in plain text

Scalars and bytes are written as they are.  The writer is chosen by the declared type, and what
is written depends on the value alone: a string, a number, a truth value, a character and bytes
are a body, null is an empty one, and instances have none.  A type that is read from texts is a
scalar type whose values are instances.  So a value of a scalar type is written unless it is an
instance of such a type.

A text is read as the value of an exact type that it was written for, except that a blank
character is read as an absent value, as blank texts are.
-/

namespace RestDispatch

/-- The registered type that the values of a scalar type are instances of. -/
def Ty.parsed? : Ty → Option ParsedType
  | .parsed p => some p
  | .optional t => t.parsed?
  | _ => none

/-- Strings, truth values, characters and integers, each of which has a text of its own. -/
inductive Ty.IsExact : Ty → Prop
  | string : IsExact .string
  | bool : IsExact .bool
  | char : IsExact .char
  | integer (t : IntegerType) : IsExact (.integer t)

namespace Value

variable {v : Value} {ty : Ty}

/-- The values of scalar types and of bytes: null, instances, and what has a body of its own. -/
inductive PlainForm (v : Value) (ty : Ty) : Prop
  | absent : v = .null → PlainForm v ty
  | parsed {p : ParsedType} {fields : Fields} : ty.parsed? = some p →
      v = .object p.name fields → PlainForm v ty
  | written {body : PlainBody} : ty.parsed? = none → v.isNull = false →
      PlainBody.ofValue? v = some body → PlainForm v ty

theorem plainForm (hv : v.HasType ty) (hty : ty.isScalar = true ∨ ty.isBytes = true) :
    v.PlainForm ty := by
  induction hv with
  | string | bool | char | int | uint | single | double | bytes => exact .written rfl rfl rfl
  | absent => exact .absent rfl
  | present _ ih =>
    cases ih hty with
    | absent hnull => exact .absent hnull
    | parsed hp hobject => exact .parsed hp hobject
    | written hp hpresent hbody => exact .written hp hpresent hbody
  | parsed => exact .parsed rfl rfl
  | list | array | set | map | cookie | headers | object =>
    rcases hty with hscalar | hbytes
    · simp [Ty.isScalar] at hscalar
    · simp [Ty.isBytes] at hbytes

/-- What the text of a value is read as: a blank character is an absent value. -/
def readBack : Value → Value
  | .char c => if Text.isBlank c then .null else .char c
  | v => v

end Value

namespace ResultWriter

variable {σ : Type} {x : Exchange σ}

/-- Scalars and bytes without a fixed format are written as they are. -/
theorem of_eq_plain {m : HandlerMethod} (hfixed : fixedFormat? m = none) {ty : Ty}
    (hty : ty.isScalar = true ∨ ty.isBytes = true) (formats : FormatTable) (options : Options) :
    of m (some ty) formats options = .ok .plain := by
  simp only [of, hfixed]
  exact if_pos ((Bool.or_eq_true _ _).mpr hty)

theorem runOn_plain_null (hx : x.response.committed = false) (r : Request) :
    (ResultWriter.plain.write .null r).runOn x =
      (.ok (), x.respond fun response => { response with body := [], committed := true }) :=
  runOn_sendNothing hx

theorem runOn_plain_body (hx : x.response.committed = false) {v : Value} {body : PlainBody}
    (hpresent : v.isNull = false) (hbody : PlainBody.ofValue? v = some body) (r : Request) :
    (ResultWriter.plain.write v r).runOn x = (.ok (), x.respond fun response =>
      { response with
        headers := response.headers.insert "Content-Type" body.type.header
        body := body.content
        committed := true }) := by
  simp only [write, hpresent, hbody]
  exact runOn_sendAs hx body.type body.content

theorem runOn_plain_object (type : String) (fields : Fields) (r : Request) :
    (ResultWriter.plain.write (.object type fields) r).runOn x =
      (.error (.serialization ("cannot write " ++ type ++ " as plain text")), x) := rfl

/-- The writer chosen for a scalar type or for bytes writes a value of the type into an open
response, and commits it, exactly when the value is no instance of a type that is read from
texts.  It refuses every such instance, whatever text it was read from. -/
theorem declared_written_iff {m : HandlerMethod} (hfixed : fixedFormat? m = none) {ty : Ty}
    (hty : ty.isScalar = true ∨ ty.isBytes = true) {v : Value} (hv : v.HasType ty)
    (hx : x.response.committed = false) (formats : FormatTable) (options : Options)
    (r : Request) :
    ∃ w, of m (some ty) formats options = .ok w ∧
      ((∃ y, (w.write v r).runOn x = (.ok (), y) ∧ y.response.committed = true) ↔
        v = .null ∨ ty.parsed? = none) ∧
      ∀ p, ty.parsed? = some p → v ≠ .null →
        (w.write v r).runOn x =
          (.error (.serialization ("cannot write " ++ p.name ++ " as plain text")), x) := by
  refine ⟨.plain, of_eq_plain hfixed hty formats options, ?_⟩
  cases Value.plainForm hv hty with
  | absent hnull =>
    subst hnull
    constructor
    · exact iff_of_true ⟨_, runOn_plain_null hx r, rfl⟩ (.inl rfl)
    · intro p _ hne
      exact absurd rfl hne
  | @parsed p fields hp hobject =>
    subst hobject
    constructor
    · refine iff_of_false ?_ ?_
      · rintro ⟨y, hrun, -⟩
        rw [runOn_plain_object] at hrun
        cases hrun
      · simp [hp]
    · intro q hq _
      cases hp.symm.trans hq
      exact runOn_plain_object p.name fields r
  | written hp hpresent hbody =>
    constructor
    · exact iff_of_true ⟨_, runOn_plain_body hx hpresent hbody r, rfl⟩ (.inr hp)
    · intro p hq
      cases hp.symm.trans hq

/-- A handler of a class without annotations. -/
def tellColour : HandlerMethod := { name := "colour", declaring := { name := "Pets" } }

/-- Colours such as `#0a0b0c`. -/
def colour : ParsedType where
  name := "Colour"
  parse
    | '#' :: digits => .ok [("digits", .string (String.ofList digits))]
    | _ => .error "a colour begins with a hash"

def darkGrey : Value := .object colour.name [("digits", .string "0a0b0c")]

theorem hasType_darkGrey : darkGrey.HasType (.parsed colour) := .parsed _

/-- No colour is written, and an absent one is. -/
theorem declared_written_iff_colour :
    (∃ w, of tellColour (some (.parsed colour)) .empty {} = .ok w ∧
      (w.write darkGrey (.ofUri .get "/colour")).runOn draft =
        (.error (.serialization "cannot write Colour as plain text"), draft)) ∧
    ∃ w, of tellColour (some (.optional (.parsed colour))) .empty {} = .ok w ∧
      ∃ y, (w.write .null (.ofUri .get "/colour")).runOn draft = (.ok (), y) ∧
        y.response.committed = true := by
  constructor
  · obtain ⟨w, hw, -, hrefused⟩ := declared_written_iff (m := tellColour) rfl (.inl rfl)
      hasType_darkGrey (x := draft) rfl .empty {} (.ofUri .get "/colour")
    exact ⟨w, hw, hrefused colour rfl (by simp [darkGrey])⟩
  · obtain ⟨w, hw, hwritten, -⟩ := declared_written_iff (m := tellColour) rfl (.inl rfl)
      (.absent (.parsed colour)) (x := draft) rfl .empty {} (.ofUri .get "/colour")
    exact ⟨w, hw, hwritten.mpr (.inl rfl)⟩

/-- The writer chosen for colours writes none of them into the empty response. -/
theorem colour_has_no_writer :
    ¬ ∀ (m : HandlerMethod) (ty : Ty) (formats : FormatTable) (options : Options) (v : Value)
      (r : Request) (x : Exchange Unit), fixedFormat? m = none →
        ty.isScalar = true ∨ ty.isBytes = true → v.HasType ty → x.response.committed = false →
          ∃ w, of m (some ty) formats options = .ok w ∧
            ∃ y, (w.write v r).runOn x = (.ok (), y) := by
  intro hwritten
  obtain ⟨w, hw, y, hrun⟩ := hwritten tellColour (.parsed colour) .empty {} darkGrey
    (.ofUri .get "/") { shared := () } rfl (.inl rfl) hasType_darkGrey rfl
  cases hw
  cases (runOn_plain_object colour.name _ _).symm.trans hrun

end ResultWriter

namespace Conversion

variable {ty : Ty} {v : Value}

/-- Trimming leaves a text alone that does not begin or end with a blank. -/
theorem readScalar_of_bare {text : List Char} (hty : ty ≠ .string) (htext : Text.Bare text) :
    readScalar ty text = readTrimmed ty text text := by
  unfold readScalar
  split
  next => exact absurd rfl hty
  next =>
    rw [htext.trim_self]
    exact if_neg (by simp [htext.ne_nil])

theorem readScalar_boolText (b : Bool) :
    readScalar .bool (boolText b).toList = .ok (.bool b) := by
  cases b <;> rfl

/-- A character is read as itself, unless it is blank. -/
theorem readScalar_singleton (c : Char) :
    readScalar .char [c] = .ok (Value.char c).readBack := by
  by_cases hc : Text.isBlank c = true
  · simp [readScalar, Value.readBack, hc, Text.trim_eq]
  · have hbare : Text.Bare [c] := {
      first := ⟨c, [], rfl, (Bool.not_eq_true _).mp hc⟩
      last := ⟨[], c, rfl, (Bool.not_eq_true _).mp hc⟩ }
    rw [readScalar_of_bare (by simp) hbare, Value.readBack, if_neg hc]
    rfl

theorem readScalar_integerText {t : IntegerType} {n : Int} (hn : t.range.contains n = true) :
    readScalar (.integer t) (Number.integerText n).toList =
      .ok (if t.isSigned then .int n else .uint n.toNat) := by
  rw [readScalar_of_bare (by simp) (Number.bare_integerText n), readTrimmed, readInteger,
    IntegerRange.read_integerText t.contains_zero hn]

/-- A value of an exact type is written as a text that is read as the value again. -/
theorem exists_text_of_isExact (hty : ty.IsExact) (hv : v.HasType ty) :
    ∃ text, PlainBody.ofValue? v = some (.ofText text) ∧
      readScalar ty text.toList = .ok v.readBack := by
  cases hty with
  | string =>
    cases hv with
    | string s =>
      refine ⟨s, rfl, ?_⟩
      rw [readScalar, String.ofList_toList]
      rfl
  | bool =>
    cases hv with
    | bool b => exact ⟨boolText b, rfl, readScalar_boolText b⟩
  | char =>
    cases hv with
    | char c =>
      refine ⟨String.singleton c, rfl, ?_⟩
      rw [String.toList_singleton]
      exact readScalar_singleton c
  | integer t =>
    cases hv with
    | @int _ n hsigned hn =>
      refine ⟨Number.integerText n, rfl, ?_⟩
      rw [readScalar_integerText hn, if_pos hsigned]
      rfl
    | @uint _ n hunsigned hn =>
      refine ⟨Number.integerText n, rfl, ?_⟩
      rw [readScalar_integerText hn, hunsigned]
      rfl

theorem of_of_isExact (hty : ty.IsExact) : of ty = .ok ⟨ty, ty, .scalar⟩ := by
  cases hty <;> rfl

/-- The text written for a value of an exact type is converted to that very value again, a blank
character alone being converted to null. -/
theorem convert_written {σ : Type} {x : Exchange σ} (hty : ty.IsExact) (hv : v.HasType ty)
    (hx : x.response.committed = false) (r : Request) :
    ∃ y text c, (ResultWriter.plain.write v r).runOn x = (.ok (), y) ∧
      y.response.committed = true ∧ y.response.body = Text.bytes text ∧
      Text.string? y.response.body = some text ∧ of ty = .ok c ∧
      c.convert text = .ok v.readBack := by
  obtain ⟨text, hbody, hread⟩ := exists_text_of_isExact hty hv
  have hpresent : v.isNull = false := by
    cases v with
    | null => cases hbody
    | _ => rfl
  refine ⟨_, text, _, ResultWriter.runOn_plain_body hx hpresent hbody r, rfl, rfl,
    Text.string?_bytes text, of_of_isExact hty, ?_⟩
  rw [convert, scalar, hread]

/-- The least signed integer of the widest type, a letter and a space. -/
theorem convert_written_least :
    let request := Request.ofUri .get "/numbers"
    (∃ y text c, (ResultWriter.plain.write (.int (-9223372036854775808)) request).runOn
        ResultWriter.draft = (.ok (), y) ∧ y.response.body = Text.bytes text ∧
      of (.integer .i64) = .ok c ∧ c.convert text = .ok (.int (-9223372036854775808))) ∧
    (∃ y text c, (ResultWriter.plain.write (.char 'é') request).runOn ResultWriter.draft =
        (.ok (), y) ∧ y.response.body = Text.bytes text ∧
      of .char = .ok c ∧ c.convert text = .ok (.char 'é')) ∧
    ∃ y text c, (ResultWriter.plain.write (.char ' ') request).runOn ResultWriter.draft =
        (.ok (), y) ∧ y.response.body = Text.bytes text ∧
      of .char = .ok c ∧ c.convert text = .ok .null := by
  intro request
  refine ⟨?_, ?_, ?_⟩
  · obtain ⟨y, text, c, hrun, -, hbody, -, hc, hread⟩ := convert_written (.integer .i64)
      (.int (n := -9223372036854775808) rfl (by decide)) (x := ResultWriter.draft) rfl request
    exact ⟨y, text, c, hrun, hbody, hc, hread⟩
  · obtain ⟨y, text, c, hrun, -, hbody, -, hc, hread⟩ := convert_written .char (.char 'é')
      (x := ResultWriter.draft) rfl request
    exact ⟨y, text, c, hrun, hbody, hc, hread⟩
  · obtain ⟨y, text, c, hrun, -, hbody, -, hc, hread⟩ := convert_written .char (.char ' ')
      (x := ResultWriter.draft) rfl request
    exact ⟨y, text, c, hrun, hbody, hc, hread⟩

/-- A space is written, and its text is converted to null. -/
theorem space_converted_to_null :
    ¬ ∀ (ty : Ty) (v : Value) (r : Request) (x : Exchange Unit), ty.IsExact → v.HasType ty →
      x.response.committed = false →
        ∃ y text c, (ResultWriter.plain.write v r).runOn x = (.ok (), y) ∧
          Text.string? y.response.body = some text ∧ of ty = .ok c ∧ c.convert text = .ok v := by
  intro hback
  obtain ⟨y, text, c, hrun, htext, hc, hread⟩ :=
    hback .char (.char ' ') (.ofUri .get "/") { shared := () } .char (.char ' ') rfl
  have hbody : PlainBody.ofValue? (.char ' ') = some (.ofText " ") := rfl
  have hnull : convert ⟨.char, .char, .scalar⟩ " " = .ok .null := rfl
  cases (ResultWriter.runOn_plain_body rfl rfl hbody _).symm.trans hrun
  cases (Text.string?_bytes " ").symm.trans htext
  cases hc
  cases hnull.symm.trans hread

end Conversion

end RestDispatch
