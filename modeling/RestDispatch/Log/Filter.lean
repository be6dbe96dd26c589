import RestDispatch.Text.Basic

/-!
# Log filters

A filter is a list of directives behind commas.  A directive is a level, or a target with
an optional span in brackets and an optional level behind an equals sign.
-/

namespace RestDispatch.LogFilter

/-- The words and digits for levels, in letters of either case. -/
def isLevel (cs : List Char) : Bool :=
  ["trace", "debug", "info", "warn", "error", "off", "0", "1", "2", "3", "4", "5"].contains
    (Text.lower (String.ofList cs))

def isTargetChar (c : Char) : Bool :=
  c.isAlphanum || c == '_' || c == ':' || c == '-' || 0x80 ≤ c.toNat

/-- Whether a text is nothing, or an equals sign and perhaps a level. -/
def isLevelPart : List Char → Bool
  | [] => true
  | '=' :: level => level.isEmpty || isLevel level
  | _ => false

def isDirective (cs : List Char) : Bool :=
  let cs := Text.trim cs
  match cs.takeWhile isTargetChar, cs.dropWhile isTargetChar with
  | _, '[' :: rest =>
    match Text.splitOnce ']' rest with
    | some (_, rest) => isLevelPart rest
    | none => false
  | [], _ => false
  | _, rest => isLevelPart rest

def isValid (directives : String) : Bool :=
  directives.isEmpty || (Text.splitOn ',' directives.toList).all isDirective

end RestDispatch.LogFilter
