import RestDispatch.Error
import RestDispatch.Event
import RestDispatch.Log.Filter

/-!
# Log configuration

Which events are written, in which form and where.  Configuring ends by installing the
listener of the whole program, which can happen once: a filter that cannot be read is
reported first, then a file that cannot be opened, then a listener that is there already.
-/

namespace RestDispatch

/-- The level of a word, blanks around it aside. -/
def Level.parse (text : String) : Except Error Level :=
  match Text.lower (Text.trimmed text) with
  | "trace" => .ok .trace
  | "debug" => .ok .debug
  | "info" => .ok .info
  | "warn" => .ok .warn
  | "warning" => .ok .warn
  | "error" => .ok .error
  | word => .error (.configuration (.unknownLogLevel word))

/-- The form of log lines. -/
inductive LogFormat
  /-- One JSON object for each event. -/
  | json
  | plain
  deriving DecidableEq, Repr

namespace LogFormat

/-- The format of a word, blanks around it aside. -/
def parse (text : String) : Except Error LogFormat :=
  match Text.lower (Text.trimmed text) with
  | "json" => .ok .json
  | "plain" => .ok .plain
  | "text" => .ok .plain
  | word => .error (.configuration (.unknownLogFormat word))

def name : LogFormat → String
  | .json => "json"
  | .plain => "plain"

def listing : LogFormat → String
  | .json => "Json"
  | .plain => "Plain"

end LogFormat

/-- Where log lines go. -/
inductive LogOutput
  | stdout
  | stderr
  /-- Behind the end of a file. -/
  | file (path : String)
  deriving DecidableEq, Repr

def LogOutput.listing : LogOutput → String
  | .stdout => "Stdout"
  | .stderr => "Stderr"
  | .file path => "File(" ++ Text.quoted path ++ ")"

/-- The configuration of the log. -/
structure LogConfig where
  level : Level := .info
  format : LogFormat := .json
  output : LogOutput := .stdout
  /-- Whether lines name the module that an event comes from. -/
  targets : Bool := true
  colors : Bool := false
  /-- Directives that take the place of the level. -/
  filter : Option String := none
  deriving DecidableEq, Repr

namespace LogConfig

def ofVariables (vars : List (String × String)) : Except Error LogConfig := do
  let level ← ((vars.lookup "RESTLIGHT_LOG_LEVEL").map Level.parse).getD (.ok .info)
  let format ← ((vars.lookup "RESTLIGHT_LOG_FORMAT").map LogFormat.parse).getD (.ok .json)
  let output := ((vars.lookup "RESTLIGHT_LOG_FILE").map LogOutput.file).getD .stdout
  return { level, format, output }

/-- What a configuration finds in the program that it is installed in. -/
structure Host where
  /-- Why a file cannot be opened, if it cannot. -/
  refusal? : String → Option String
  hasListener : Bool

def install (c : LogConfig) (host : Host) : Except Error Unit := do
  if let some directives := c.filter then
    if !LogFilter.isValid directives then
      throw (.configuration (.invalidLogFilter directives "invalid filter directive"))
  if let .file path := c.output then
    if let some reason := host.refusal? path then throw (.io reason)
  if host.hasListener then
    throw (.configuration (.subscriberInstalled "a subscriber has already been set"))

end LogConfig

end RestDispatch
