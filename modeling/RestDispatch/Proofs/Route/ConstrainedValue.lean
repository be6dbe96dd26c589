import RestDispatch.Proofs.Route.PathMatch
import RestDispatch.Proofs.Text.Encoding

/-!
# Values of constrained variables

A path is matched as it is written.  The constraint of a variable is asked of the part that the
variable takes, percent signs and all, and only the value that is delivered is decoded.  Where
decoding has nothing to do the value is accepted too; but encoded dots pass a constraint that
takes no dot, and are delivered as dots.
-/

namespace RestDispatch

namespace PathPattern

/-- A variable of a pattern has a constraint. -/
def Constrains (p : PathPattern) (name : String) (c : Constraint) : Prop :=
  PathSegment.capture name (some c) ∈ p.segments

/-- In an alignment every variable has a part, which its constraint accepts. -/
theorem Alignment.exists_capture {segments : List PathSegment} {parts : List PathPart}
    {shares : List (List PathPart)} (h : Alignment segments parts shares) {name : String}
    {constraint : Option Constraint} (hmem : .capture name constraint ∈ segments) :
    ∃ part, (name, part) ∈ captures segments shares ∧
      ∀ c ∈ constraint, c.accepts part.text = true := by
  induction h with
  | done => simp at hmem
  | literal _ _ ih => exact ih (by simpa using hmem)
  | @capture _ _ _ _ _ part haccepts _ ih =>
    rcases List.mem_cons.mp hmem with heq | hlater
    · cases heq
      exact ⟨part, List.mem_cons_self, haccepts⟩
    · obtain ⟨other, hother, hconstraint⟩ := ih hlater
      exact ⟨other, List.mem_cons_of_mem _ hother, hconstraint⟩
  | one _ ih => exact ih (by simpa using hmem)
  | many _ _ ih => exact ih (by simpa using hmem)

/-- A match is made of the bindings of the shortest alignment. -/
theorem exists_shortest_of_matchPath {p : PathPattern} {path : String} {matrix : Bool}
    {m : PathMatch} (h : p.matchPath? path matrix = some m) :
    ∃ shares, Shortest p.segments (PathPart.ofPath matrix path) shares ∧
      m = (captures p.segments shares).foldl bind {} := by
  rw [← cutPath_eq]
  unfold matchPath? at h
  split at h
  next found hfound =>
    obtain ⟨shares, hshares, rfl⟩ := shortest_of_search hfound
    exact ⟨shares, hshares, (Option.some.inj h).symm⟩
  next => simp at h

/-- What a constraint tells of the value that its variable is given. -/
structure Keeps (c : Constraint) (part : PathPart) (value : String) : Prop where
  /-- The part is accepted as it is written. -/
  accepted : c.accepts part.text = true
  decoded : value = (Text.string? (Text.percentDecode (Text.bytes part.text))).getD part.text
  /-- So is the value, where the part has no percent sign. -/
  accepted_value : '%' ∉ part.text.toList → c.accepts value = true

/-- Where a pattern matches, every variable with a constraint has a value.  It is the decoded
form of the part that the variable takes, and it is this part that the constraint accepts. -/
theorem constrained_value {p : PathPattern} (hp : p.Declared) {path : String} {matrix : Bool}
    {m : PathMatch} (hm : p.matchPath? path matrix = some m) :
    ∃ shares, Shortest p.segments (PathPart.ofPath matrix path) shares ∧
      ∀ name c, p.Constrains name c → ∃ part value,
        (name, part) ∈ captures p.segments shares ∧ m.captured.get? name = some value ∧
          Keeps c part value := by
  obtain ⟨shares, hshares, rfl⟩ := exists_shortest_of_matchPath hm
  have hreports := reports_foldl_bind hp hshares.aligned
  refine ⟨shares, hshares, ?_⟩
  intro name c hc
  obtain ⟨part, hpart, haccepts⟩ := hshares.aligned.exists_capture hc
  have hvalue := (hreports.captured name _).mpr ⟨part, hpart, rfl⟩
  refine ⟨part, _, hpart, hvalue, haccepts c rfl, rfl, ?_⟩
  intro hplain
  rw [← Text.decodeComponent, Text.decodeComponent_of_not_mem hplain]
  exact haccepts c rfl

/-- Whether some variable has a constraint that passes a test. -/
def anyConstraint (p : PathPattern) (test : String → Constraint → Bool) : Bool :=
  p.segments.any fun
    | .capture name (some c) => test name c
    | _ => false

theorem exists_of_anyConstraint {p : PathPattern} {test : String → Constraint → Bool}
    (h : p.anyConstraint test = true) :
    ∃ name c, p.Constrains name c ∧ test name c = true := by
  obtain ⟨segment, hmem, htest⟩ := List.any_eq_true.mp h
  match segment with
  | .capture name (some c) => exact ⟨name, c, hmem, htest⟩
  | .capture _ none | .literal _ | .one | .many => simp at htest

/-- The one variable of this pattern takes no dots, and is given two of them. -/
theorem exists_encodedDots :
    ∃ p c m, parse "/files/{name:[A-Z0-9%]+}" = .ok p ∧ p.Constrains "name" c ∧
      p.matchPath? "/files/%2E%2E" true = some m ∧ m.captured.get? "name" = some ".." ∧
        c.accepts ".." = false := by
  have hrun : ((parse "/files/{name:[A-Z0-9%]+}").toOption.bind fun p =>
      (p.matchPath? "/files/%2E%2E" true).bind fun m =>
        some (m.captured.get? "name",
          p.anyConstraint fun name c => name == "name" && !c.accepts "..")) =
        some (some "..", true) := by
    decide +kernel
  obtain ⟨p, hparse, hrun⟩ := Option.bind_eq_some_iff.mp hrun
  obtain ⟨m, hmatch, hrun⟩ := Option.bind_eq_some_iff.mp hrun
  simp only [Option.some.injEq, Prod.mk.injEq] at hrun
  obtain ⟨name, c, hc, htest⟩ := exists_of_anyConstraint hrun.2
  simp only [Bool.and_eq_true, beq_iff_eq, Bool.not_eq_true'] at htest
  exact ⟨p, c, m, toOption_eq_some_iff.mp hparse, htest.1 ▸ hc, hmatch, hrun.1, htest.2⟩

/-- The encoded dots are accepted as they are written. -/
theorem constrained_value_encoded :
    ∃ p c m part, parse "/files/{name:[A-Z0-9%]+}" = .ok p ∧ p.Constrains "name" c ∧
      p.matchPath? "/files/%2E%2E" true = some m ∧ Keeps c part ".." := by
  obtain ⟨p, c, m, hparse, hc, hmatch, hvalue, -⟩ := exists_encodedDots
  obtain ⟨shares, -, hall⟩ := constrained_value (.of_parse hparse) hmatch
  obtain ⟨part, value, -, hget, hkeeps⟩ := hall "name" c hc
  obtain rfl : ".." = value := Option.some.inj (hvalue.symm.trans hget)
  exact ⟨p, c, m, part, hparse, hc, hmatch, hkeeps⟩

/-- A value need not be accepted by the constraint of its variable. -/
theorem decoded_value_refused :
    ¬∀ p : PathPattern, p.Declared → ∀ (path : String) (matrix : Bool) (m : PathMatch),
      p.matchPath? path matrix = some m → ∀ name c, p.Constrains name c →
        ∀ value, m.captured.get? name = some value → c.accepts value = true := by
  intro hall
  obtain ⟨p, c, m, hparse, hc, hmatch, hvalue, hrefused⟩ := exists_encodedDots
  have haccepts := hall p (.of_parse hparse) _ _ m hmatch "name" c hc ".." hvalue
  rw [hrefused] at haccepts
  exact Bool.noConfusion haccepts

end PathPattern

end RestDispatch
