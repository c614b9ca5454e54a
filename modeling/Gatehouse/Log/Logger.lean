import Gatehouse.Log.Filter
import Gatehouse.Text.Hex

namespace Gatehouse.Inert

def steers (c : Char) : Bool :=
  c = '\x07' || c = '\x08' || c = '\x0c' || c = '\x1b' || c = '\x7f'

def isLateControl (c : Char) : Bool := 0x80 ≤ c.toNat && c.toNat ≤ 0x9F

def escape (c : Char) : List Char :=
  if steers c then '\\' :: 'x' :: Hex.fixed 2 c.toNat
  else if isLateControl c then ['\\', 'u', '\x7b'] ++ Hex.digits c.toNat ++ ['\x7d']
  else [c]

def text (s : String) : String := String.ofList (s.toList.flatMap escape)

end Gatehouse.Inert

namespace Gatehouse

inductive LogFormat where
  | pretty
  | json
deriving DecidableEq

namespace LogFormat

def name : LogFormat → String
  | .pretty => "pretty"
  | .json => "json"

def ofText? (s : String) : Option LogFormat :=
  if s = "pretty" then some .pretty else if s = "json" then some .json else none

end LogFormat

structure LoggingConfig where
  format : LogFormat := .pretty
  filter : String := "info"
deriving DecidableEq

structure Logger where
  format : LogFormat
  filter : Filter
deriving DecidableEq

inductive InstallError where
  | filter (error : FilterError)
  | alreadyInstalled
deriving DecidableEq

namespace InstallError

def message : InstallError → String
  | .filter e => e.message
  | .alreadyInstalled => "a global default trace dispatcher has already been set"

def source? : InstallError → Option String
  | .filter .invalidLevel => some FilterError.invalidLevel.message
  | _ => none

end InstallError

/-- A written line. The pretty format shows no fields but within its text. -/
inductive LogLine where
  | json (level target message : String) (fields : List (String × FieldValue))
      (span : Option RequestId)
  | pretty (level target message : String)
deriving DecidableEq

def FieldValue.json : FieldValue → String
  | .text s => String.ofList (JsonString.encode s.toList)
  | .number n => Decimal.text n
  | .milliseconds d => Duration.inUnits d.nanos 1000000 6 ""

namespace LogLine

def member (name value : String) : String :=
  String.ofList (JsonString.encode name.toList) ++ ":" ++ value

def object (members : List String) : String := "\x7b" ++ ",".intercalate members ++ "\x7d"

def text : LogLine → String
  | .json level target message fields span =>
    object ([member "level" (FieldValue.text level).json,
        member "fields" (object ((("message", .text message) :: fields).map fun f =>
          member f.1 f.2.json)),
        member "target" (FieldValue.text target).json] ++
      (span.map fun id => member "span"
        (object [member "name" "\"request\"", member "request_id" id.json])).toList)
  | .pretty level target message => level ++ " " ++ target ++ ": " ++ message

end LogLine

namespace Logger

/-- Installs a logger where none is; the filter is built before that is looked at. -/
def install (current : Option Logger) (config : LoggingConfig) (override : Option String) :
    Except InstallError Logger :=
  match Filter.build config.filter override with
  | .error e => .error (.filter e)
  | .ok filter =>
    match current with
    | some _ => .error .alreadyInstalled
    | none => .ok ⟨config.format, filter⟩

def spanTarget : String := "courier_server::middleware::request_id"

def beforeComma : List Char → List Char
  | ',' :: ' ' :: _ => []
  | c :: cs => c :: beforeComma cs
  | [] => []

/-- What the pretty format shows of a message: it can take up several lines, and the first of them
holds its beginning. -/
def headline (message : String) : String :=
  String.ofList (beforeComma (Fields.firstLine ((Inert.text message).toList ++ ['\n'])))

def line (l : Logger) (e : Event) : LogLine :=
  match l.format with
  | .json =>
    let span := if l.filter.allows spanTarget .info then e.spans.getLast? else none
    .json e.level.upperName e.target e.message e.fields span
  | .pretty => .pretty e.level.upperName e.target (headline e.message)

def lines (l : Logger) (events : List Event) : List LogLine :=
  (events.filter fun e => l.filter.allows e.target e.level).map l.line

end Logger

end Gatehouse
