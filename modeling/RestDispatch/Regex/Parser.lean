import RestDispatch.Regex.Property
import RestDispatch.Regex.Size
import RestDispatch.Text.Addition

/-!
# Reading regular expressions

The written form of regular expressions: alternatives, groups with flags, counted and
uncounted repetition, bracketed classes with set operations, escapes and assertions.
Neither back-references nor conditions on the surroundings of a match belong to the
language.  A question mark behind a repetition only chooses between several matches and
does not change what is matched.
-/

namespace RestDispatch.Regex

/-- Why a text is no regular expression. -/
inductive Fault
  | unclosedGroup
  | unopenedGroup
  | nothingToRepeat
  | malformedCount
  | lookAround
  | backReference
  | unknownEscape
  | malformedCode
  | unknownProperty
  | unclosedClass
  | malformedClass
  | malformedInterval
  | malformedFlags
  | malformedName
  /-- A class reaches beyond ASCII while classes are restricted to ASCII. -/
  | notText
  | tooDeep
  | tooLarge
  deriving DecidableEq, Repr

def Fault.message : Fault → String
  | .unclosedGroup => "unclosed group"
  | .unopenedGroup => "unopened group"
  | .nothingToRepeat => "repetition operator missing expression"
  | .malformedCount => "invalid repetition count"
  | .lookAround => "look-around is not supported"
  | .backReference => "backreferences are not supported"
  | .unknownEscape => "unrecognized escape sequence"
  | .malformedCode => "invalid hexadecimal code"
  | .unknownProperty => "Unicode property not found"
  | .unclosedClass => "unclosed character class"
  | .malformedClass => "invalid item in character class"
  | .malformedInterval => "invalid character class range"
  | .malformedFlags => "invalid flags"
  | .malformedName => "invalid capture group name"
  | .notText => "pattern can match invalid UTF-8"
  | .tooDeep => "exceeded the maximum number of nested expressions"
  | .tooLarge => "compiled regex exceeds size limit"

/-- The flags in force at a place of an expression. -/
structure Flags where
  caseless : Bool := false
  multiline : Bool := false
  dotAll : Bool := false
  /-- Carriage returns end lines as well. -/
  returns : Bool := false
  /-- Classes follow Unicode rather than ASCII. -/
  unicode : Bool := true
  /-- Blanks and comments are skipped. -/
  spaced : Bool := false
  deriving DecidableEq, Repr

/-- What is left to read. -/
abbrev Rest := List Char

/-- Drop blanks and comments up to the end of their line. -/
def dropSpace (inComment : Bool) : Rest → Rest
  | [] => []
  | c :: cs =>
    if inComment then dropSpace (c != '\n') cs
    else if Text.isBlank c then dropSpace false cs
    else if c = '#' then dropSpace true cs
    else c :: cs

/-- Skip blanks and comments where the flags say so. -/
def Flags.skip (fl : Flags) (cs : Rest) : Rest := if fl.spaced then dropSpace false cs else cs

/-- A single item outside or inside brackets. -/
inductive Primitive
  /-- A character; `byte` when it was written as two hexadecimal digits. -/
  | literal (c : Char) (byte : Bool)
  | look (l : Look)
  | cls (s : CharClass)
  | dot

/-! Escapes. -/

/-- Characters with a meaning of their own. -/
def isMeta (c : Char) : Bool := "\\.+*?()|[]\x7b\x7d^$#&-~".toList.contains c

/-- Whether a backslash in front of a character leaves it as it is. -/
def isEscapable (c : Char) : Bool :=
  isMeta c || (c.toNat < 0x80 && !c.isAlphanum && c != '<' && c != '>')

def hexDigit? (c : Char) : Option Nat :=
  if c.isDigit then some (c.toNat - '0'.toNat)
  else if 'a' ≤ c && c ≤ 'f' then some (c.toNat - 'a'.toNat + 10)
  else if 'A' ≤ c && c ≤ 'F' then some (c.toNat - 'A'.toNat + 10)
  else none

def charOfCode (n : Nat) : Except Fault Char :=
  if n.isValidChar then .ok (Char.ofNat n) else .error .malformedCode

/-- A code of a fixed number of hexadecimal digits. -/
def fixedCode (fl : Flags) (value : Nat) : Nat → Rest → Except Fault (Nat × Rest)
  | 0, cs => .ok (value, cs)
  | n + 1, cs =>
    match cs with
    | [] => .error .malformedCode
    | c :: cs =>
      match hexDigit? c with
      | some d => fixedCode fl (value * 16 + d) n (fl.skip cs)
      | none => .error .malformedCode

/-- A code of hexadecimal digits up to a closing brace. -/
def bracedCode (spaced : Bool) (value : Option Nat) : Rest → Except Fault (Nat × Rest)
  | [] => .error .malformedCode
  | c :: cs =>
    if c = '\x7d' then
      match value with
      | some n => .ok (n, cs)
      | none => .error .malformedCode
    else if spaced && Text.isBlank c then bracedCode spaced value cs
    else
      match hexDigit? c with
      | some d => bracedCode spaced (some (value.getD 0 * 16 + d)) cs
      | none => .error .malformedCode

/-- The code behind `\x`, `\u` or `\U`, which take two, four or eight digits. -/
def code (fl : Flags) (digits : Nat) (cs : Rest) : Except Fault (Primitive × Rest) :=
  match fl.skip cs with
  | [] => .error .malformedCode
  | '\x7b' :: cs => do
    let (n, cs) ← bracedCode fl.spaced none cs
    return (.literal (← charOfCode n) false, fl.skip cs)
  | cs => do
    let (n, cs) ← fixedCode fl 0 digits cs
    return (.literal (← charOfCode n) (digits == 2), cs)

/-- A class or its complement; outside Unicode a complement would not match texts. -/
def signedClass (fl : Flags) (negated : Bool) (s : CharClass) : Except Fault CharClass :=
  if !negated then .ok s
  else if fl.unicode then .ok s.compl
  else .error .notText

/-- A class under the flag that makes case irrelevant. -/
def foldedClass (fl : Flags) (s : CharClass) : CharClass :=
  if !fl.caseless then s
  else if fl.unicode then s.caseless
  else .ascii ∩ (.ascii ∩ s : CharClass).caseless

def wordClass (fl : Flags) : CharClass := if fl.unicode then .wordChar else .asciiWord

/-- The classes named by a letter: digits, blanks and word characters. -/
def letterClass (fl : Flags) (letter : Char) : CharClass :=
  match letter with
  | 'd' => if fl.unicode then .decimalDigit else .asciiDigit
  | 's' => if fl.unicode then .whiteSpace else .asciiBlank
  | _ => wordClass fl

/-- The class of a property text such as `Lu`, `gc=Lu` or `Script:Greek`. -/
def propertyClass (text : List Char) (negated : Bool) : Option (CharClass × Bool) :=
  match Text.splitOnPair '!' '=' text with
  | some (p, v) => (CharClass.ofPropertyValue? p v).map (·, !negated)
  | none =>
    match Text.splitOnce ':' text <|> Text.splitOnce '=' text with
    | some (p, v) => (CharClass.ofPropertyValue? p v).map (·, negated)
    | none => (CharClass.ofPropertyName? text).map (·, negated)

/-- The text up to a closing brace, without blanks and comments where those are skipped. -/
def propertyText (spaced inComment : Bool) : Rest → Option (List Char × Rest)
  | [] => none
  | c :: cs =>
    if inComment then propertyText spaced (c != '\n') cs
    else if spaced && (Text.isBlank c || c = '#') then propertyText spaced (c = '#') cs
    else if c = '\x7d' then some ([], cs)
    else (propertyText spaced false cs).map fun (text, rest) => (c :: text, rest)

/-- The property behind `\p` or `\P`: one letter, or a text between braces. -/
def property (fl : Flags) (negated : Bool) (cs : Rest) : Except Fault (Primitive × Rest) := do
  let (text, rest) ←
    match fl.skip cs with
    | [] => .error .unknownProperty
    | '\x7b' :: cs =>
      match propertyText fl.spaced false cs with
      | some (text, rest) => .ok (text, rest)
      | none => .error .unknownProperty
    | c :: cs => if c = '\\' then .error .unknownProperty else .ok ([c], fl.skip cs)
  if !fl.unicode then .error .notText
  else
    match propertyClass text negated with
    | some (s, negated) => return (.cls (← signedClass fl negated (foldedClass fl s)), rest)
    | none => .error .unknownProperty

/-- The letters and hyphens inside the braces of a word boundary. -/
def boundaryName (spaced : Bool) (cs : Rest) : List Char × Rest :=
  match cs with
  | [] => ([], [])
  | c :: rest =>
    if spaced && Text.isBlank c then boundaryName spaced rest
    else if c.isAlpha || c = '-' then
      let (name, rest) := boundaryName spaced rest
      (c :: name, rest)
    else ([], c :: rest)

/-- The assertion behind `\b`, which may be made special by a name between braces; a brace
that no letter follows begins a repetition. -/
def wordBoundary (fl : Flags) (cs : Rest) : Except Fault (Primitive × Rest) :=
  let word := wordClass fl
  let plain := .ok (.look (.wordEdge word), cs)
  match cs with
  | '\x7b' :: inner =>
    match fl.skip inner with
    | [] => .error .malformedCount
    | c :: more =>
      if c.isAlpha || c = '-' then
        match boundaryName fl.spaced (c :: more) with
        | (name, '\x7d' :: rest) =>
          match String.ofList name with
          | "start" => .ok (.look (.wordStart word), rest)
          | "end" => .ok (.look (.wordEnd word), rest)
          | "start-half" => .ok (.look (.noWordBefore word), rest)
          | "end-half" => .ok (.look (.noWordAfter word), rest)
          | _ => .error .unknownEscape
        | _ => .error .unknownEscape
      else plain
  | _ => plain

/-- What stands behind a backslash. -/
def escape (fl : Flags) : Rest → Except Fault (Primitive × Rest)
  | [] => .error .unknownEscape
  | c :: cs =>
    if c.isDigit then .error .backReference
    else if isEscapable c then .ok (.literal c false, cs)
    else
      match c with
      | 'x' => code fl 2 cs
      | 'u' => code fl 4 cs
      | 'U' => code fl 8 cs
      | 'p' => property fl false cs
      | 'P' => property fl true cs
      | 'd' | 's' | 'w' => .ok (.cls (letterClass fl c), cs)
      | 'D' => (signedClass fl true (letterClass fl 'd')).map (.cls ·, cs)
      | 'S' => (signedClass fl true (letterClass fl 's')).map (.cls ·, cs)
      | 'W' => (signedClass fl true (letterClass fl 'w')).map (.cls ·, cs)
      | 'a' => .ok (.literal '\x07' false, cs)
      | 'f' => .ok (.literal '\x0c' false, cs)
      | 't' => .ok (.literal '\t' false, cs)
      | 'n' => .ok (.literal '\n' false, cs)
      | 'r' => .ok (.literal '\r' false, cs)
      | 'v' => .ok (.literal '\x0b' false, cs)
      | 'A' => .ok (.look .textStart, cs)
      | 'z' => .ok (.look .textEnd, cs)
      | 'b' => wordBoundary fl cs
      | 'B' => .ok (.look (.noWordEdge (wordClass fl)), cs)
      | '<' => .ok (.look (.wordStart (wordClass fl)), cs)
      | '>' => .ok (.look (.wordEnd (wordClass fl)), cs)
      | _ => .error .unknownEscape

/-! Bracketed classes. -/

/-- The class of an item between brackets. -/
def Primitive.toClass (fl : Flags) : Primitive → Except Fault CharClass
  | .literal c _ =>
    if fl.unicode || c.toNat < 0x80 then .ok (.single c) else .error .notText
  | .cls s => .ok s
  | _ => .error .malformedClass

/-- The character of an end of an interval. -/
def Primitive.toChar (fl : Flags) : Primitive → Except Fault Char
  | .literal c _ => if fl.unicode || c.toNat < 0x80 then .ok c else .error .notText
  | _ => .error .malformedClass

/-- One item between brackets. -/
def classItem (fl : Flags) : Rest → Except Fault (Primitive × Rest)
  | [] => .error .unclosedClass
  | '\\' :: cs => escape fl cs
  | c :: cs => .ok (.literal c false, cs)

/-- An item or an interval between brackets.  A hyphen in front of a closing bracket or of
another hyphen does not make an interval. -/
def classEntry (fl : Flags) (cs : Rest) : Except Fault (CharClass × Rest) := do
  let (first, cs) ← classItem fl cs
  match fl.skip cs with
  | [] => .error .unclosedClass
  | '-' :: after =>
    match fl.skip after with
    | [] => .error .unclosedClass
    | ']' :: _ => return (← first.toClass fl, '-' :: after)
    | '-' :: _ => return (← first.toClass fl, '-' :: after)
    | last => do
      let (last, rest) ← classItem fl last
      let a ← first.toChar fl
      let b ← last.toChar fl
      if a ≤ b then return (.interval a.toNat b.toNat, rest) else .error .malformedInterval
  | rest => return (← first.toClass fl, rest)

/-- A named class such as `[:alpha:]`, from behind its opening bracket. -/
def namedClass? (cs : Rest) : Option (CharClass × Bool × Rest) :=
  match cs with
  | ':' :: cs =>
    let (negated, cs) :=
      match cs with
      | '^' :: cs => (true, cs)
      | cs => (false, cs)
    match Text.splitOnce ':' cs with
    | some (name, ']' :: rest) =>
      (CharClass.ofAsciiName? (String.ofList name)).map fun s => (s, negated, rest)
    | _ => none
  | _ => none

/-- Hyphens at the start of a class, which stand for themselves. -/
def leadingHyphens (fl : Flags) : Nat → CharClass → Rest → CharClass × Rest
  | 0, s, cs => (s, cs)
  | fuel + 1, s, cs =>
    match cs with
    | '-' :: cs => leadingHyphens fl fuel (s ∪ .single '-') (fl.skip cs)
    | cs => (s, cs)

/-- The start of a class behind its opening bracket: whether it is negated, and the
hyphens or the closing bracket that stand for themselves. -/
def classStart (fl : Flags) (cs : Rest) : Bool × CharClass × Rest :=
  let cs := fl.skip cs
  let (negated, cs) :=
    match cs with
    | '^' :: cs => (true, fl.skip cs)
    | cs => (false, cs)
  match cs with
  | ']' :: cs => (negated, .single ']', fl.skip cs)
  | cs =>
    let (s, cs) := leadingHyphens fl cs.length ∅ cs
    (negated, s, cs)

/-- The set operations between brackets. -/
inductive SetOperation
  | intersection
  | difference
  | symmetric
  deriving DecidableEq, Repr

/-- A class and the operation that waits for its other side. -/
abbrev Pending := Option (SetOperation × CharClass)

/-- Apply a waiting operation. -/
def Pending.apply (fl : Flags) (p : Pending) (right : CharClass) : CharClass :=
  match p with
  | none => right
  | some (op, left) =>
    let left := foldedClass fl left
    let right := foldedClass fl right
    match op with
    | .intersection => left ∩ right
    | .difference => left \ right
    | .symmetric => left.symmDiff right

/-- The nesting of brackets and groups that is refused from. -/
def depthLimit : Nat := 250

/-- The inside of a class up to its closing bracket; `items` is the union read so far. -/
def classBody (fl : Flags) (depth : Nat) :
    Nat → Pending → CharClass → Rest → Except Fault (CharClass × Rest)
  | 0, _, _, _ => .error .unclosedClass
  | fuel + 1, pending, items, cs =>
    match fl.skip cs with
    | [] => .error .unclosedClass
    | ']' :: rest => .ok (pending.apply fl items, rest)
    | '&' :: '&' :: rest =>
      classBody fl depth fuel (some (.intersection, pending.apply fl items)) ∅ rest
    | '-' :: '-' :: rest =>
      classBody fl depth fuel (some (.difference, pending.apply fl items)) ∅ rest
    | '~' :: '~' :: rest =>
      classBody fl depth fuel (some (.symmetric, pending.apply fl items)) ∅ rest
    | '[' :: rest =>
      match namedClass? rest with
      | some (s, negated, rest) => do
        let s ← signedClass fl negated (foldedClass fl s)
        classBody fl depth fuel pending (items ∪ s) rest
      | none => do
        if depth ≥ depthLimit then throw .tooDeep
        let (negated, start, rest) := classStart fl rest
        let (s, rest) ← classBody fl (depth + 1) fuel none start rest
        let s ← signedClass fl negated (foldedClass fl s)
        classBody fl depth fuel pending (items ∪ s) rest
    | cs => do
      let (s, rest) ← classEntry fl cs
      classBody fl depth fuel pending (items ∪ s) rest

def bracketed (fl : Flags) (cs : Rest) : Except Fault (CharClass × Rest) := do
  let (negated, start, rest) := classStart fl cs
  let (s, rest) ← classBody fl 1 (rest.length + 1) none start rest
  return (← signedClass fl negated (foldedClass fl s), rest)

/-! Groups and flags. -/

def Flags.set (fl : Flags) (letter : Char) (on : Bool) : Option Flags :=
  match letter with
  | 'i' => some { fl with caseless := on }
  | 'm' => some { fl with multiline := on }
  | 's' => some { fl with dotAll := on }
  | 'R' => some { fl with returns := on }
  | 'u' => some { fl with unicode := on }
  | 'x' => some { fl with spaced := on }
  | 'U' => some fl
  | _ => none

/-- The flags of a group up to `:` or `)`, where each letter and the hyphen may come once
and the hyphen not last. -/
def flagList (fl : Flags) (seen : List Char) : Rest → Except Fault (Flags × List Char × Rest)
  | [] => .error .malformedFlags
  | c :: cs =>
    if c = ':' || c = ')' then
      if seen.head? = some '-' then .error .malformedFlags else .ok (fl, seen, c :: cs)
    else if seen.contains c then .error .malformedFlags
    else if c = '-' then flagList fl (c :: seen) cs
    else
      match fl.set c (!seen.contains '-') with
      | some fl => flagList fl (c :: seen) cs
      | none => .error .malformedFlags

/-- Whether a character may stand in the name of a group. -/
def isNameChar (first : Bool) (c : Char) : Bool :=
  c == '_' || Text.CharRanges.latestAlphabetic.contains c ||
    (!first && (c == '.' || c == '[' || c == ']' || Text.CharRanges.latestNumber.contains c))

/-- The name of a group up to `>`. -/
def groupName (cs : Rest) : Except Fault (List Char × Rest) :=
  match Text.splitOnce '>' cs with
  | none => .error .malformedName
  | some ([], _) => .error .malformedName
  | some (c :: name, rest) =>
    if isNameChar true c && name.all (isNameChar false) then .ok (c :: name, rest)
    else .error .malformedName

/-- What an opening parenthesis begins. -/
inductive Opening
  | flags (fl : Flags)
  /-- A group with its flags; `captures` tells whether it is a part of its own of a match. -/
  | group (fl : Flags) (captures : Bool) (name : Option (List Char))

/-- Read the start of a group. -/
def opening (fl : Flags) (cs : Rest) : Except Fault (Opening × Rest) :=
  match fl.skip cs with
  | '?' :: '=' :: _ => .error .lookAround
  | '?' :: '!' :: _ => .error .lookAround
  | '?' :: '<' :: '=' :: _ => .error .lookAround
  | '?' :: '<' :: '!' :: _ => .error .lookAround
  | '?' :: 'P' :: '<' :: cs => do
    let (name, cs) ← groupName cs
    return (.group fl true (some name), cs)
  | '?' :: '<' :: cs => do
    let (name, cs) ← groupName cs
    return (.group fl true (some name), cs)
  | '?' :: cs => do
    match ← flagList fl [] cs with
    | (_, [], ')' :: _) => .error .nothingToRepeat
    | (fl, _, ')' :: cs) => return (.flags fl, cs)
    | (fl, _, cs) => return (.group fl false none, cs.drop 1)
  | cs => .ok (.group fl true none, cs)

/-! Repetition. -/

/-- A decimal count with blanks around it, below 2 ^ 32. -/
def count (fl : Flags) (cs : Rest) : Except Fault (Option Nat × Rest) :=
  let cs := cs.dropWhile Text.isBlank
  let digits := cs.takeWhile fun c => c.isDigit || (fl.spaced && Text.isBlank c)
  let rest := (fl.skip (cs.drop digits.length)).dropWhile Text.isBlank
  let digits := digits.filter Char.isDigit
  let n := digits.foldl (fun n c => n * 10 + (c.toNat - '0'.toNat)) 0
  if digits.isEmpty then .ok (none, rest)
  else if n < Nat.pow 2 32 then .ok (some n, rest)
  else .error .malformedCount

/-- The bounds of a repetition behind an opening brace. -/
def bounds (fl : Flags) (cs : Rest) : Except Fault (Nat × Option Nat × Rest) := do
  match ← count fl (fl.skip cs) with
  | (some n, '\x7d' :: rest) => return (n, some n, rest)
  | (least, ',' :: rest) =>
    match fl.skip rest with
    | '\x7d' :: rest =>
      match least with
      | some n => return (n, none, rest)
      | none => .error .malformedCount
    | rest =>
      match least, ← count fl rest with
      | some n, (some m, '\x7d' :: rest) =>
        if n ≤ m then return (n, some m, rest) else .error .malformedCount
      | _, _ => .error .malformedCount
  | _ => .error .malformedCount

/-- Drop a question mark. -/
def dropLazy : Rest → Rest
  | '?' :: cs => cs
  | cs => cs

/-! Expressions. -/

/-- An expression with the depth of its nesting. -/
structure Item where
  regex : Regex
  depth : Nat := 0
  /-- Flags count as an item that cannot be repeated. -/
  isFlags : Bool := false

def literalItem (fl : Flags) (c : Char) (byte : Bool) : Except Fault Item :=
  if !fl.unicode && byte && c.toNat ≥ 0x80 then .error .notText
  else if !fl.unicode && c.toNat ≥ 0x80 then .ok ⟨.char (.single c), 0, false⟩
  else .ok ⟨.char (foldedClass fl (.single c)), 0, false⟩

/-- Any character but the ends of lines, or any at all. -/
def dotItem (fl : Flags) : Except Fault Item :=
  if !fl.unicode then .error .notText
  else if fl.dotAll then .ok ⟨.char .all, 0, false⟩
  else if fl.returns then .ok ⟨.char (CharClass.ofText "\r\n").compl, 0, false⟩
  else .ok ⟨.char (Text.CharRanges.single '\n').compl, 0, false⟩

def startLook (fl : Flags) : Look :=
  if !fl.multiline then .textStart else if fl.returns then .returnLineStart else .lineStart

def endLook (fl : Flags) : Look :=
  if !fl.multiline then .textEnd else if fl.returns then .returnLineEnd else .lineEnd

/-- The expression of an item outside brackets. -/
def Primitive.toItem (fl : Flags) : Primitive → Except Fault Item
  | .literal c byte => literalItem fl c byte
  | .look l => .ok ⟨.look l, 0, false⟩
  | .cls s => .ok ⟨.char s, 0, false⟩
  | .dot => dotItem fl

def sequenced : List Item → Item
  | [] => ⟨.empty, 0, false⟩
  | [item] => { item with isFlags := false }
  | items =>
    ⟨items.foldl (fun r item => item.regex.andThen r) .empty,
      1 + items.foldl (fun d item => max d item.depth) 0, false⟩

def alternatives : List Item → Item
  | [] => ⟨.empty, 0, false⟩
  | [item] => item
  | items =>
    ⟨.anyOf (items.reverse.map (·.regex)),
      1 + items.foldl (fun d item => max d item.depth) 0, false⟩

def repeatLast (least : Nat) (most : Option Nat) : List Item → Except Fault (List Item)
  | [] => .error .nothingToRepeat
  | item :: items =>
    if item.isFlags then .error .nothingToRepeat
    else .ok (⟨item.regex.times least most, item.depth + 1, false⟩ :: items)

/-- The state behind an expression: the names of groups so far and what is left. -/
structure After where
  names : List (List Char)
  rest : Rest

/-- Read alternatives up to a closing parenthesis or the end.  `done` holds the finished
alternatives and `items` the items of the present one, the last one first. -/
def expression : Nat → Flags → List Item → List Item → After → Except Fault (Item × After)
  | 0, _, _, _, _ => .error .tooDeep
  | fuel + 1, fl, done, items, st =>
    let next (items : List Item) (rest : Rest) :=
      expression fuel fl done items { st with rest := rest }
    let finish := alternatives (sequenced items :: done)
    match fl.skip st.rest with
    | [] => .ok (finish, { st with rest := [] })
    | ')' :: rest => .ok (finish, { st with rest := ')' :: rest })
    | '|' :: rest =>
      expression fuel fl (sequenced items :: done) [] { st with rest := rest }
    | '(' :: rest => do
      match ← opening fl rest with
      | (.flags inner, rest) =>
        expression fuel inner done (⟨.empty, 0, true⟩ :: items) { st with rest := rest }
      | (.group inner captures name, rest) =>
        let names := name.toList ++ st.names
        if name.any st.names.contains then throw .malformedName
        match ← expression fuel inner [] [] ⟨names, rest⟩ with
        | (item, ⟨names, ')' :: rest⟩) =>
          let regex := if captures then .group item.regex else item.regex
          expression fuel fl done (⟨regex, item.depth + 1, false⟩ :: items) ⟨names, rest⟩
        | _ => .error .unclosedGroup
    | '[' :: rest => do
      let (s, rest) ← bracketed fl rest
      next (⟨.char s, 1, false⟩ :: items) rest
    | '?' :: rest => do next (← repeatLast 0 (some 1) items) (dropLazy rest)
    | '*' :: rest => do next (← repeatLast 0 none items) (dropLazy rest)
    | '+' :: rest => do next (← repeatLast 1 none items) (dropLazy rest)
    | '\x7b' :: rest => do
      let _ ← repeatLast 0 none items
      let (least, most, rest) ← bounds fl rest
      next (← repeatLast least most items) (dropLazy (fl.skip rest))
    | '\\' :: rest => do
      let (p, rest) ← escape fl rest
      next ((← p.toItem fl) :: items) rest
    | '.' :: rest => do next ((← dotItem fl) :: items) rest
    | '^' :: rest => next (⟨.look (startLook fl), 0, false⟩ :: items) rest
    | '$' :: rest => next (⟨.look (endLook fl), 0, false⟩ :: items) rest
    | c :: rest => do next ((← literalItem fl c false) :: items) rest

/-- Read a regular expression. -/
def parse (text : List Char) : Except Fault Regex := do
  let (item, st) ← expression (text.length + 1) {} [] [] ⟨[], text⟩
  if !st.rest.isEmpty then .error .unopenedGroup
  else if item.depth > depthLimit then .error .tooDeep
  else if item.regex.compiledBytes > sizeLimit then .error .tooLarge
  else .ok item.regex

end RestDispatch.Regex
