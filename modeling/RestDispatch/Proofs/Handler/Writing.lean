import RestDispatch.Proofs.Handler.Effect

/-!
# Writing a result into an open response

Whatever can fail when a result is written, comes first: no format that can write is found, the
value has no text, some value in it has no document or its codec finds none, or it is not a
message of its type that can be encoded.  What follows are changes of the response that cannot
fail as long as it is open, the last of which commits it.  So a failed write leaves the response
as it was, and a write that succeeds commits it with the type of its content.

A format that streams writes behind the pending body, any other in place of it.  That is the only
difference it makes.
-/

namespace RestDispatch

/-- An inserted header has the inserted value alone, however its name was spelled before. -/
theorem Headers.getAll_insert (h : Headers) (name value : String) :
    (h.insert name value).getAll name = [value] := by
  have hnone : (h.without name).entries.filter (fun e => Text.sameName e.1 name) = [] := by
    refine List.filter_eq_nil_iff.mpr fun e he hsame => ?_
    have hother := (List.mem_filter.mp he).2
    rw [hsame] at hother
    exact Bool.noConfusion hother
  rw [getAll, insert, append, List.filter_append, hnone]
  simp [Text.sameName_refl]

namespace Response

variable {a : Response}

theorem send_of_open (ha : a.committed = false) (bs : Bytes) :
    a.send bs = .ok { a with body := bs, committed := true } := by
  rw [send, ha, if_neg Bool.false_ne_true]

theorem commit_of_open (ha : a.committed = false) :
    a.commit = .ok { a with committed := true } := by
  rw [commit, ha, if_neg Bool.false_ne_true]

end Response

namespace Handling

variable {σ α : Type} {P : Response → Prop}

/-- On an open response a step that fails leaves the response as it was, and a step that succeeds
commits it with some property. -/
structure AllOrNothing (P : Response → Prop) (step : Handling σ α) : Prop where
  failed : ∀ (x y : Exchange σ) (e : Error), x.response.committed = false →
    step.runOn x = (.error e, y) → y.response = x.response
  done : ∀ (x y : Exchange σ) (a : α), x.response.committed = false →
    step.runOn x = (.ok a, y) → y.response.committed = true ∧ P y.response

theorem allOrNothing_throw (e : Error) : (throw e : Handling σ α).AllOrNothing P where
  failed x y e' _ hrun := by
    cases hrun
    rfl
  done x y a _ hrun := by cases hrun

theorem AllOrNothing.imp {Q : Response → Prop} {step : Handling σ α} (h : step.AllOrNothing P)
    (hPQ : ∀ r, P r → Q r) : step.AllOrNothing Q where
  failed := h.failed
  done x y a hx hrun := (h.done x y a hx hrun).imp_right (hPQ y.response)

/-- A report changes no response. -/
theorem AllOrNothing.report {step : Handling σ α} (h : step.AllOrNothing P) (e : Event) :
    (do Handling.report e; step).AllOrNothing P where
  failed x y e' hx hrun := by
    rw [runOn_bind, runOn_report] at hrun
    exact h.failed (x.report e) y e' hx hrun
  done x y a hx hrun := by
    rw [runOn_bind, runOn_report] at hrun
    exact h.done (x.report e) y a hx hrun

end Handling

/-- One header tells the type of the content. -/
def Response.HasOneType (r : Response) : Prop :=
  ∃ type, r.headers.getAll "Content-Type" = [type]

namespace BodyFormat

/-- A write that fails leaves the headers as they were. -/
def RestoresHeaders (f : BodyFormat) : Prop :=
  ∀ m ty v h, (∃ bs, (f.write m ty v h).1 = .ok bs) ∨ (f.write m ty v h).2 = h

/-- A message is encoded before any header is set. -/
theorem restoresHeaders_protobuf : protobuf.RestoresHeaders := by
  intro m ty v h
  change (∃ bs, (writeMessage ty v h).1 = .ok bs) ∨ (writeMessage ty v h).2 = h
  unfold writeMessage
  split
  · split
    · split
      · exact .inl ⟨_, rfl⟩
      · exact .inr rfl
    · exact .inr rfl
  · exact .inr rfl

theorem IsBuiltIn.restoresHeaders {f : BodyFormat} (hf : f.IsBuiltIn) : f.RestoresHeaders := by
  cases hf with
  | json streaming => exact fun _ _ _ _ => .inr rfl
  | protobuf => exact restoresHeaders_protobuf

theorem write_json (streaming : Bool) (m : MediaType) (ty : Ty) (v : Value) (h : Headers) :
    (json streaming).write m ty v h =
      ((Json.ofValue (some ty) v).map fun j => Text.encodeUtf8 j.render, h) := rfl

end BodyFormat

/-- All that is written is written by built-in formats. -/
structure FormatTable.WritesBuiltIn (t : FormatTable) : Prop where
  writers : ∀ f ∈ t.writers, f.IsBuiltIn
  classes : ∀ c f, t.instance? c = some f → f.IsBuiltIn

namespace ResultWriter

variable {σ : Type} {x : Exchange σ}

section

variable (hx : x.response.committed = false)

include hx

theorem runOn_sendNothing :
    (sendNothing : Handling σ Unit).runOn x =
      (.ok (), x.respond fun r => { r with body := [], committed := true }) := by
  rw [sendNothing, Handling.runOn_tryRespond, Response.send_of_open hx]
  rfl

theorem runOn_sendAs (m : MediaType) (bs : Bytes) :
    (sendAs m bs).runOn x = (.ok (), x.respond fun r =>
      { r with
        headers := r.headers.insert "Content-Type" m.header
        body := bs
        committed := true }) := by
  have hset : (x.respond (·.setHeader "Content-Type" m.header)).response.committed = false := hx
  simp only [sendAs, Handling.runOn_bind, Handling.runOn_respond, Handling.runOn_tryRespond,
    Response.send_of_open hset]
  rfl

/-- What a value that is written makes of an open response. -/
theorem runOn_sendFormatted (f : BodyFormat) (m : MediaType) (ty : Ty) (v : Value) :
    (sendFormatted f m ty v).runOn x =
      match f.write m ty v x.response.headers with
      | (.ok bs, headers) => (.ok (), x.respond fun r =>
        { r with
          headers := headers.insert "Content-Type" m.header
          body := if f.isStreaming then r.body ++ bs else bs
          committed := true })
      | (.error e, headers) => (.error e, x.respond ({ · with headers := headers })) := by
  rw [sendFormatted, Handling.runOn_bind, Handling.runOn_withHeaders]
  rcases f.write m ty v x.response.headers with ⟨e | bs, headers⟩
  · rfl
  · have hopen : (x.respond ({ · with headers := headers })).response.committed = false := hx
    cases f.isStreaming with
    | false => exact runOn_sendAs hopen m bs
    | true =>
      have hset : ((x.respond ({ · with headers := headers })).respond fun r =>
          (r.write bs).setHeader "Content-Type" m.header).response.committed = false := hx
      simp only [if_true, Handling.runOn_bind, Handling.runOn_respond, Handling.runOn_tryRespond,
        Response.commit_of_open hset]
      rfl

end

theorem allOrNothing_sendNothing {P : Response → Prop} (hP : ∀ r, P r) :
    (sendNothing : Handling σ Unit).AllOrNothing P where
  failed x y e hx hrun := by
    rw [runOn_sendNothing hx] at hrun
    cases hrun
  done x y a hx hrun := by
    rw [runOn_sendNothing hx] at hrun
    cases hrun
    exact ⟨rfl, hP _⟩

theorem allOrNothing_sendAs (m : MediaType) (bs : Bytes) :
    (sendAs m bs : Handling σ Unit).AllOrNothing Response.HasOneType where
  failed x y e hx hrun := by
    rw [runOn_sendAs hx] at hrun
    cases hrun
  done x y a hx hrun := by
    rw [runOn_sendAs hx] at hrun
    cases hrun
    exact ⟨rfl, m.header, Headers.getAll_insert _ _ _⟩

theorem allOrNothing_sendFormatted {f : BodyFormat} (hf : f.RestoresHeaders) (m : MediaType)
    (ty : Ty) (v : Value) :
    (sendFormatted f m ty v : Handling σ Unit).AllOrNothing Response.HasOneType where
  failed x y e hx hrun := by
    rw [runOn_sendFormatted hx] at hrun
    have hrestored := hf m ty v x.response.headers
    rcases hwrite : f.write m ty v x.response.headers with ⟨e' | bs, headers⟩
    · rw [hwrite] at hrun hrestored
      obtain rfl : headers = x.response.headers := hrestored.resolve_left (by simp)
      cases hrun
      rfl
    · rw [hwrite] at hrun
      cases hrun
  done x y a hx hrun := by
    rw [runOn_sendFormatted hx] at hrun
    rcases hwrite : f.write m ty v x.response.headers with ⟨e | bs, headers⟩
    · rw [hwrite] at hrun
      cases hrun
    · rw [hwrite] at hrun
      cases hrun
      exact ⟨rfl, m.header, Headers.getAll_insert _ _ _⟩

/-- Whether a writer uses built-in formats only. -/
def IsBuiltIn : ResultWriter → Prop
  | .fixed _ f => f.IsBuiltIn
  | .negotiated _ formats _ => ∀ f ∈ formats.writers, f.IsBuiltIn
  | _ => True

theorem choose?_eq_some {formats : FormatTable} {ty : Ty} {candidates : List MediaType}
    {m : MediaType} {f : BodyFormat} (h : choose? formats ty candidates = some (m, f)) :
    m ∈ candidates ∧ f ∈ formats.writers ∧ f.canWrite m ty = true := by
  obtain ⟨candidate, hmem, hchoice⟩ := List.exists_of_findSome?_eq_some h
  obtain ⟨format, hwriter, heq⟩ := Option.map_eq_some_iff.mp hchoice
  cases heq
  unfold FormatTable.writer? at hwriter
  have hcan := List.find?_some hwriter
  exact ⟨hmem, List.mem_of_find?_eq_some hwriter, hcan⟩

/-- However results are written, they are written as a whole or not at all. -/
theorem allOrNothing_write {w : ResultWriter} (hw : w.IsBuiltIn) (v : Value) (r : Request) :
    (w.write v r : Handling σ Unit).AllOrNothing fun response =>
      w ≠ .empty → v.isNull = false → response.HasOneType := by
  have hnothing (hnull : v.isNull = true) :
      (sendNothing : Handling σ Unit).AllOrNothing fun response =>
        w ≠ .empty → v.isNull = false → response.HasOneType :=
    allOrNothing_sendNothing fun _ _ hnot => Bool.noConfusion (hnull.symm.trans hnot)
  have hsent {step : Handling σ Unit} (h : step.AllOrNothing Response.HasOneType) :
      step.AllOrNothing fun response => w ≠ .empty → v.isNull = false → response.HasOneType :=
    h.imp fun _ htype _ _ => htype
  unfold write
  cases w with
  | empty => exact allOrNothing_sendNothing fun _ hne => absurd rfl hne
  | plain =>
    dsimp only
    split
    next hnull => exact hnothing hnull
    next =>
      split
      next body _ => exact hsent (allOrNothing_sendAs body.type body.content)
      next => exact Handling.allOrNothing_throw _
  | fixed ty f =>
    dsimp only
    split
    next hnull => exact hnothing hnull
    next =>
      have hf : f.IsBuiltIn := hw
      exact hsent (allOrNothing_sendFormatted hf.restoresHeaders f.ownType ty v)
  | negotiated ty formats parameter? =>
    dsimp only
    split
    next hnull => exact hnothing hnull
    next =>
      split
      next m f hchoice =>
        have hf : f.IsBuiltIn := hw f (choose?_eq_some hchoice).2.1
        exact hsent ((allOrNothing_sendFormatted hf.restoresHeaders _ ty v).report _)
      next => exact Handling.allOrNothing_throw _

section

variable {m : HandlerMethod} {returns : Option Ty} {formats : FormatTable} {options : Options}
  {w : ResultWriter}

theorem isBuiltIn_of (hformats : formats.WritesBuiltIn)
    (hw : of m returns formats options = .ok w) : w.IsBuiltIn := by
  unfold of at hw
  split at hw
  next => exact Except.ok.inj hw ▸ trivial
  next ty =>
    split at hw
    next c _ =>
      split at hw
      next f hf => exact Except.ok.inj hw ▸ hformats.classes c f hf
      next => cases hw
    next =>
      split at hw
      next => exact Except.ok.inj hw ▸ trivial
      next => exact Except.ok.inj hw ▸ hformats.writers

theorem ne_empty_of_returns {ty : Ty} (hw : of m (some ty) formats options = .ok w) :
    w ≠ .empty := by
  rintro rfl
  unfold of at hw
  dsimp only at hw
  split at hw
  · split at hw <;> cases hw
  · split at hw <;> cases hw

/-- With the built-in formats a result that cannot be written leaves an open response as it was,
headers and pending body included.  One that is written is committed, and what a declared type is
written as has exactly one type of content. -/
theorem failed_write_leaves_no_trace (hformats : formats.WritesBuiltIn)
    (hw : of m returns formats options = .ok w) (v : Value) (r : Request) :
    (w.write v r : Handling σ Unit).AllOrNothing fun response =>
      returns.isSome = true → v.isNull = false → response.HasOneType := by
  refine (allOrNothing_write (isBuiltIn_of hformats hw) v r).imp
    fun response htype hreturns hnull => ?_
  obtain ⟨ty, rfl⟩ := Option.isSome_iff_exists.mp hreturns
  exact htype (ne_empty_of_returns hw) hnull

end

/-- An open response to which something has been written already. -/
def draft : Exchange Unit where
  response := {
    headers := ⟨[("content-type", "text/html"), ("X-Draft", "1"), ("Content-Type", "text/css")]⟩
    body := Text.bytes "draft" }
  shared := ()

/-- Notes have a document as long as they have a text. -/
def noteJson : JsonCodec where
  decode _ := .ok []
  encode fields :=
    match fields.lookup "text" with
    | some (.string text) => .ok (.string text)
    | _ => .error (.serialization "a note without a text")

def noteLists : Ty := .list (.list (.object ⟨"Note", some noteJson, none, none⟩))

def thanks : Value := .list [.list [.object "Note" [("text", .string "thanks")]]]

/-- A note without a document, two lists deep. -/
def blank : Value :=
  .list [.list [.object "Note" [("text", .string "thanks")]], .list [.object "Note" []]]

def listNotes : HandlerMethod := { name := "list", declaring := { name := "Notes" } }

/-- Documents are streamed. -/
def streaming : FormatTable := (FormatTable.empty.register (.json true)).register .protobuf

theorem writesBuiltIn_streaming : streaming.WritesBuiltIn where
  writers := List.forall_mem_cons.mpr ⟨.json true, List.forall_mem_singleton.mpr .protobuf⟩
  classes c f hf := by cases hf

/-- A blank note leaves the draft alone, and thanks are sent behind it as JSON. -/
theorem failed_write_leaves_no_trace_draft :
    streaming.WritesBuiltIn ∧ ∃ w, of listNotes (some noteLists) streaming {} = .ok w ∧
      (∃ e y, (w.write blank (.ofUri .get "/notes")).runOn draft = (.error e, y) ∧
        y.response = draft.response) ∧
      ∃ y, (w.write thanks (.ofUri .get "/notes")).runOn draft = (.ok (), y) ∧
        y.response.committed = true ∧ y.response.HasOneType := by
  have hw : of listNotes (some noteLists) streaming {} =
      .ok (.negotiated noteLists streaming none) := rfl
  refine ⟨writesBuiltIn_streaming, _, hw, ?_, ?_⟩
  · have hfails : ((write (.negotiated noteLists streaming none) blank
        (.ofUri .get "/notes")).runOn draft).1.isOk = false := by
      decide +kernel
    rcases hrun : (write (.negotiated noteLists streaming none) blank
      (.ofUri .get "/notes")).runOn draft with ⟨e | a, y⟩
    · exact ⟨e, y, rfl,
        (failed_write_leaves_no_trace writesBuiltIn_streaming hw blank _).failed draft y e rfl hrun⟩
    · rw [hrun] at hfails
      cases hfails
  · have hsucceeds : ((write (.negotiated noteLists streaming none) thanks
        (.ofUri .get "/notes")).runOn draft).1.isOk = true := by
      decide +kernel
    rcases hrun : (write (.negotiated noteLists streaming none) thanks
      (.ofUri .get "/notes")).runOn draft with ⟨e | a, y⟩
    · rw [hrun] at hsucceeds
      cases hsucceeds
    · obtain ⟨hcommitted, htype⟩ :=
        (failed_write_leaves_no_trace writesBuiltIn_streaming hw thanks _).done draft y a rfl hrun
      exact ⟨y, rfl, hcommitted, htype rfl rfl⟩

/-- Streamed or not, a document is written or refused alike.  The bodies differ in the pending
body, which streaming leaves in front of the document, and so in nothing where there is none. -/
theorem streamed_eq_buffered_iff (hx : x.response.committed = false) (m : MediaType) (ty : Ty)
    (v : Value) :
    let streamed := (sendFormatted (.json true) m ty v).runOn x
    let buffered := (sendFormatted (.json false) m ty v).runOn x
    streamed.1 = buffered.1 ∧
      (∀ e, buffered.1 = .error e → streamed.2.response = buffered.2.response) ∧
      (buffered.1 = .ok () → streamed.2.response =
        { buffered.2.response with body := x.response.body ++ buffered.2.response.body }) ∧
      (streamed.2.response = buffered.2.response ↔
        x.response.body = [] ∨ ∃ e, buffered.1 = .error e) := by
  intro streamed buffered
  have hstreamed := runOn_sendFormatted hx (.json true) m ty v
  have hbuffered := runOn_sendFormatted hx (.json false) m ty v
  rw [BodyFormat.write_json] at hstreamed hbuffered
  cases hresult : Json.ofValue (some ty) v with
  | error e =>
    rw [hresult] at hstreamed hbuffered
    simp [streamed, buffered, hstreamed, hbuffered, Except.map]
  | ok j =>
    rw [hresult] at hstreamed hbuffered
    simp [streamed, buffered, hstreamed, hbuffered, Except.map, Exchange.respond, BodyFormat.json]

/-- Lists of numbers. -/
def numberLists : Ty := .list (.list (.integer .i32))

/-- Numbers that are streamed behind the draft. -/
theorem streamed_eq_buffered_iff_draft :
    let streamed := (sendFormatted (.json true) .json numberLists (.list [])).runOn draft
    let buffered := (sendFormatted (.json false) .json numberLists (.list [])).runOn draft
    draft.response.committed = false ∧ streamed.1 = buffered.1 ∧
      streamed.2.response =
        { buffered.2.response with body := draft.response.body ++ buffered.2.response.body } := by
  have hdraft := streamed_eq_buffered_iff (x := draft) rfl .json numberLists (.list [])
  exact ⟨rfl, hdraft.1, hdraft.2.2.1 rfl⟩

/-- The draft stays in front of an empty list. -/
theorem draft_before_document :
    ¬ ∀ (m : MediaType) (ty : Ty) (v : Value) (x : Exchange Unit),
      x.response.committed = false →
        ((sendFormatted (.json true) m ty v).runOn x).2.response =
          ((sendFormatted (.json false) m ty v).runOn x).2.response := by
  intro hsame
  have hdraft := hsame .json numberLists (.list []) draft rfl
  exact absurd hdraft (by decide +kernel)

end ResultWriter

end RestDispatch
