import Gatehouse.Config.Environment
import Gatehouse.Config.Setting
import Gatehouse.Text.Plain

/-!
Reading the settings from the arguments and the environment. An option takes its value from behind
an equals sign or from the next argument; an argument beats the environment, and that beats the
default.
-/
namespace Gatehouse

inductive Argument where
  | separator
  | long (name : String) (value : Option String)
  | short (letter : Char)
  | plain (text : String)
deriving DecidableEq

def Argument.ofText (text : String) : Argument :=
  match text.toList with
  | ['-', '-'] => .separator
  | '-' :: '-' :: cs =>
    match Fields.cut? '=' cs with
    | some (name, value) => .long (String.ofList name) (some (String.ofList value))
    | none => .long (String.ofList cs) none
  | '-' :: c :: _ => .short c
  | _ => .plain text

/-- Why the arguments give no settings: a fault, or a request to show help or the version instead.
-/
inductive ArgumentError where
  | help (long : Bool)
  | version
  | unexpected (argument : String)
  | unexpectedValue (flag value : String)
  | missingValue (setting : Setting)
  | repeated (setting : Setting)
  | invalidValue (setting : Setting) (value : String) (error : ValueError)
deriving DecidableEq

namespace ArgumentError

def versionText : String := "courier-server 0.1.0"

def summary : String := "HTTP and gRPC host for the courier request middleware"

def longSummary : String := "Command-line arguments for the \x60courier-server\x60 binary."

def pieces : ArgumentError → List String
  | .help long => [if long then longSummary else summary]
  | .version => [versionText]
  | .unexpected argument => ["error: unexpected argument '", argument, "' found"]
  | .unexpectedValue flag value =>
    ["error: unexpected value '", value, "' for '", flag, "' found; no more were expected"]
  | .missingValue s =>
    ["error: a value is required for '", s.usage, "' but none was supplied"]
  | .repeated s => ["error: the argument '", s.usage, "' cannot be used multiple times"]
  | .invalidValue s value e =>
    ["error: invalid value '", value, "' for '", s.usage, "'"] ++
      (match e.reason? with
      | some reason => [": " ++ reason]
      | none => [])

def headline (e : ArgumentError) : String := Plain.firstLine .forGood e.pieces

def printed (e : ArgumentError) : String := Plain.firstLine .forNow e.pieces

def isAnswer : ArgumentError → Bool
  | .help _ | .version => true
  | _ => false

end ArgumentError

/-- The text of a setting, read. An empty format counts as a missing one. -/
def Supplied.read (v : Supplied) (s : Setting) (text : String) :
    Except ArgumentError Supplied :=
  match v.supply s text with
  | .ok v => .ok v
  | .error .format => .error (if text = "" then .missingValue s else .invalidValue s text .format)
  | .error e => .error (.invalidValue s text e)

/-- The arguments read so far: what they supplied, and the last option with the value that came
behind it, if any did. -/
structure ArgumentReader where
  supplied : Supplied := {}
  last : Option (Setting × Option String) := none
deriving DecidableEq

namespace ArgumentReader

def take (v : Supplied) (s : Setting) (text : String) : Except ArgumentError Supplied :=
  if v.has s then .error (.repeated s) else v.read s text

def settle (r : ArgumentReader) : Except ArgumentError Supplied :=
  match r.last with
  | none => .ok r.supplied
  | some (s, none) => .error (.missingValue s)
  | some (s, some text) => take r.supplied s text

def finish (r : ArgumentReader) (e : ArgumentError) : Except ArgumentError ArgumentReader :=
  match r.settle with
  | .ok _ => .error e
  | .error e => .error e

def long (r : ArgumentReader) (name : String) (value : Option String) :
    Except ArgumentError ArgumentReader :=
  match Setting.ofName? name with
  | some s => do
    let v ← r.settle
    match value with
    | some text => return { supplied := ← take v s text }
    | none => return ⟨v, some (s, none)⟩
  | none =>
    if name = "help" then
      match value with
      | some text => .error (.unexpectedValue "--help" text)
      | none => r.finish (.help true)
    else if name = "version" then
      match value with
      | some text => .error (.unexpectedValue "--version" text)
      | none => r.finish .version
    else .error (.unexpected ("--" ++ name))

/-- Reads an argument that begins with a letter; only the first letter of it is looked at. -/
def short (r : ArgumentReader) (letter : Char) : Except ArgumentError ArgumentReader :=
  if letter = 'h' then r.finish (.help false)
  else if letter = 'V' then r.finish .version
  else .error (.unexpected (String.ofList ['-', letter]))

def plain (r : ArgumentReader) (text : String) : Except ArgumentError ArgumentReader :=
  match r.last with
  | some (s, none) => .ok { r with last := some (s, some text) }
  | _ => .error (.unexpected text)

def run (r : ArgumentReader) : List String → Except ArgumentError Supplied
  | [] => r.settle
  | text :: rest =>
    match Argument.ofText text with
    | .separator =>
      match rest with
      | [] => r.settle
      | next :: _ => .error (.unexpected next)
    | .long name value => do (← r.long name value).run rest
    | .short letter => do (← r.short letter).run rest
    | .plain text => do (← r.plain text).run rest

end ArgumentReader

def Supplied.readVariable (env : Environment) (v : Supplied) (s : Setting) :
    Except ArgumentError Supplied :=
  if v.has s then .ok v
  else
    match env.get? s.variableName with
    | some text => v.read s text
    | none => .ok v

/-- Reads all settings. The environment is looked at once all arguments are read. -/
def Settings.read (env : Environment) (arguments : List String) :
    Except ArgumentError Settings := do
  let given ← ArgumentReader.run {} arguments
  let supplied ← Setting.all.foldlM (Supplied.readVariable env) given
  return supplied.settings

end Gatehouse
