/-!
# Cutting text

Every header, path and query string is cut at single characters and trimmed.  The
functions here work on lists of characters, so that each is a short recursion on its
input; the `String` forms at the end only change the carrier.  Blank characters are
the twenty-five code points with the Unicode property White_Space.  Case is ASCII
case throughout: no other letter is ever folded.
-/

namespace RestDispatch.Text

/-- The characters with the Unicode property White_Space. -/
def isBlank (c : Char) : Bool :=
  let n := c.toNat
  (9 ≤ n && n ≤ 13) || n == 0x20 || n == 0x85 || n == 0xA0 || n == 0x1680 ||
    (0x2000 ≤ n && n ≤ 0x200A) || n == 0x2028 || n == 0x2029 || n == 0x202F ||
    n == 0x205F || n == 0x3000

/-- Drop a maximal run of characters satisfying `p` at the end. -/
def dropEndWhile (p : Char → Bool) (cs : List Char) : List Char :=
  (cs.reverse.dropWhile p).reverse

/-- Drop maximal runs of characters satisfying `p` at both ends. -/
def trimWhile (p : Char → Bool) (cs : List Char) : List Char :=
  dropEndWhile p (cs.dropWhile p)

/-- Drop blank characters at both ends. -/
def trim (cs : List Char) : List Char := trimWhile isBlank cs

/-- The parts between the occurrences of `sep`: `n` separators give `n + 1` parts. -/
def splitOn (sep : Char) : List Char → List (List Char)
  | [] => [[]]
  | c :: cs =>
    if c = sep then [] :: splitOn sep cs
    else
      match splitOn sep cs with
      | [] => [[c]]
      | part :: parts => (c :: part) :: parts

/-- Cut at the first occurrence of `sep`, which neither half keeps. -/
def splitOnce (sep : Char) : List Char → Option (List Char × List Char)
  | [] => none
  | c :: cs =>
    if c = sep then some ([], cs)
    else (splitOnce sep cs).map fun (before, after) => (c :: before, after)

/-- Cut at the last occurrence of `sep`, which neither half keeps. -/
def splitLast (sep : Char) : List Char → Option (List Char × List Char)
  | [] => none
  | c :: cs =>
    match splitLast sep cs with
    | some (before, after) => some (c :: before, after)
    | none => if c = sep then some ([], cs) else none

/-- Cut at the first occurrence of `a` directly followed by `b`. -/
def splitOnPair (a b : Char) : List Char → Option (List Char × List Char)
  | c :: d :: cs =>
    if c = a ∧ d = b then some ([], cs)
    else (splitOnPair a b (d :: cs)).map fun (before, after) => (c :: before, after)
  | _ => none

/-- What follows `start`, when the text begins with it. -/
def stripStart : List Char → List Char → Option (List Char)
  | [], cs => some cs
  | _ :: _, [] => none
  | p :: ps, c :: cs => if p = c then stripStart ps cs else none

/-- What precedes `finish`, when the text ends with it. -/
def stripEnd (finish cs : List Char) : Option (List Char) :=
  (stripStart finish.reverse cs.reverse).map List.reverse

/-- The texts one after the other with `sep` between neighbours. -/
def joinWith (sep : List Char) : List (List Char) → List Char
  | [] => []
  | [part] => part
  | part :: parts => part ++ sep ++ joinWith sep parts

/-- Map ASCII capital letters to small letters and keep every other character. -/
def lower (s : String) : String := String.ofList (s.toList.map Char.toLower)

/-- Map ASCII small letters to capital letters and keep every other character. -/
def upper (s : String) : String := String.ofList (s.toList.map Char.toUpper)

/-- Equality up to the case of ASCII letters. -/
def sameName (a b : String) : Bool := lower a == lower b

/-- `trim` on strings. -/
def trimmed (s : String) : String := String.ofList (trim s.toList)

/-- `splitOn` on strings. -/
def parts (sep : Char) (s : String) : List String := (splitOn sep s.toList).map String.ofList

/-- The strings one after the other with `sep` between neighbours. -/
def join (sep : String) (texts : List String) : String :=
  String.ofList (joinWith sep.toList (texts.map String.toList))

theorem splitOn_ne_nil (sep : Char) (cs : List Char) : splitOn sep cs ≠ [] := by
  cases cs with
  | nil => simp [splitOn]
  | cons c cs =>
    unfold splitOn
    split
    · simp
    · split <;> simp

theorem splitOnce_eq_none {sep : Char} {cs : List Char} :
    splitOnce sep cs = none ↔ sep ∉ cs := by
  induction cs with
  | nil => simp [splitOnce]
  | cons c cs ih =>
    unfold splitOnce
    by_cases h : c = sep
    · simp [h]
    · simp [h, ih, Ne.symm h]

theorem sameName_iff (a b : String) : sameName a b = true ↔ lower a = lower b := beq_iff_eq

theorem sameName_refl (a : String) : sameName a a = true := by simp [sameName]

theorem sameName_symm (a b : String) : sameName a b = sameName b a := by
  simp only [sameName]
  exact BEq.comm

end RestDispatch.Text
