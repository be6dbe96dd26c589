import RestDispatch.Text.CharRanges

/-!
# Properties with values

A property may give every code point one of several values.  It is the list of the places
where a run of one value begins.  Tables write such a list as a text of runs: the length of
a run, which is left out where it is one, and the value, a capital letter and small letters.
-/

namespace RestDispatch.Text

/-- The values of the code points, by the places where a run of one value begins. -/
structure ValueMap where
  starts : List (Nat × String)

/-- Read a text of runs, of which the first begins at `start`.  `length` is what has been
read of the length of this run, and `value` of its value, the last letter first. -/
def readRuns (start length : Nat) (value : List Char) : List Char → List (Nat × String)
  | [] => [(start, String.ofList value.reverse)]
  | c :: cs =>
    if c.isLower then readRuns start length (c :: value) cs
    else if value.isEmpty then
      if c.isDigit then readRuns start (length * 10 + decimal [c]) [] cs
      else readRuns start length [c] cs
    else
      let next := start + max length 1
      (start, String.ofList value.reverse) ::
        (if c.isDigit then readRuns next (decimal [c]) [] cs else readRuns next 0 [c] cs)

/-- The values that a text of runs gives the code points from zero on.  Blanks in the text
have no meaning. -/
def ValueMap.ofText (text : String) : ValueMap :=
  ⟨readRuns 0 0 [] (text.toList.filter (!isBlank ·))⟩

/-- The bounds of the runs whose value satisfies `p`; `inside` tells whether the value of the
runs in front does. -/
def runBounds (p : String → Bool) (inside : Bool) : List (Nat × String) → List Nat
  | [] => []
  | (start, value) :: runs => boundIf (inside != p value) start (runBounds p (p value) runs)

/-- The code points whose value satisfies `p`. -/
def ValueMap.where (m : ValueMap) (p : String → Bool) : CharRanges :=
  ⟨(runBounds p false m.starts).toArray⟩

end RestDispatch.Text
