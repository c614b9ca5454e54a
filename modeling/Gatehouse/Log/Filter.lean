import Gatehouse.Event
import Gatehouse.Text.CharClass

/-!
Log filters: directives that bound the level of events by target. Directives about spans and their
fields, which stand in brackets, are left out, and so are blanks.
-/
namespace Gatehouse

/-- The most verbose level let through, if any is. -/
abbrev LevelLimit := Option Level

namespace LevelLimit

def verbosity (l : LevelLimit) : Nat := (l.map Level.verbosity).getD 0

def name : LevelLimit → String
  | none => "off"
  | some level => level.name

def all : List LevelLimit :=
  [none, some .error, some .warn, some .info, some .debug, some .trace]

def allows (l : LevelLimit) (level : Level) : Bool := level.verbosity ≤ l.verbosity

def max (l m : LevelLimit) : LevelLimit := if l.verbosity < m.verbosity then m else l

def number? (cs : List Char) : Option Nat :=
  match cs with
  | '+' :: ds => Decimal.read? ds
  | ds => Decimal.read? ds

/-- A limit by its name in any letter case, or by its number. -/
def ofChars? (cs : List Char) : Option LevelLimit :=
  match (number? cs).bind (all[·]?) with
  | some l => some l
  | none => all.find? fun l => l.name.toList = cs.map Char.toLower

end LevelLimit

/-- A limit for the events of a target, or for all events. -/
structure Directive where
  target : Option String
  limit : LevelLimit
deriving DecidableEq

inductive FilterError where
  | invalidDirective
  | invalidLevel
deriving DecidableEq

def FilterError.message : FilterError → String
  | .invalidDirective => "invalid filter directive"
  | .invalidLevel =>
    "error parsing level filter: expected one of \"off\", \"error\", \"warn\", \"info\", " ++
      "\"debug\", \"trace\", or a number 0-5"

namespace Directive

def mayStart (c : Char) : Bool := c = '-' || c = ':' || c = '_' || isAlphanumeric c

def unbounded : LevelLimit := some .trace

def ofChars? (cs : List Char) : Except FilterError Directive :=
  if !cs.head?.any mayStart then .error .invalidDirective
  else
    match Fields.cut? '=' cs with
    | some (target, []) => .ok ⟨some (String.ofList target), unbounded⟩
    | some (target, level) =>
      match LevelLimit.ofChars? level with
      | some limit => .ok ⟨some (String.ofList target), limit⟩
      | none => .error .invalidLevel
    | none =>
      match LevelLimit.ofChars? cs with
      | some limit => .ok ⟨none, limit⟩
      | none => .ok ⟨some (String.ofList cs), unbounded⟩

def text (d : Directive) : String :=
  match d.target with
  | some target => target ++ "=" ++ d.limit.name
  | none => d.limit.name

/-- Longer targets stand before shorter ones, equally long ones in descending order, and the bare
level last. -/
def precedes (d e : Directive) : Bool :=
  match d.target, e.target with
  | none, _ => false
  | some _, none => true
  | some s, some t =>
    s.utf8ByteSize > t.utf8ByteSize || (s.utf8ByteSize = t.utf8ByteSize && s > t)

def covers (d : Directive) (target : String) : Bool :=
  match d.target with
  | some t => t.toList.isPrefixOf target.toList
  | none => true

end Directive

/-- Directives in canonical order, and the most verbose limit of all that were ever added. -/
structure Filter where
  directives : List Directive := []
  maxLimit : LevelLimit := none
deriving DecidableEq

namespace Filter

def insert (d : Directive) : List Directive → List Directive
  | [] => [d]
  | e :: es =>
    if e.target = d.target then d :: es
    else if d.precedes e then d :: e :: es
    else e :: insert d es

def add (f : Filter) (d : Directive) : Filter :=
  ⟨insert d f.directives, f.maxLimit.max d.limit⟩

/-- Reads directives between commas, empty ones skipped; the first bad one decides. -/
def ofText? (s : String) : Except FilterError Filter := do
  let pieces := (Fields.split ',' s.toList).filter (· ≠ [])
  let directives ← pieces.mapM Directive.ofChars?
  return directives.foldl add {}

def text (f : Filter) : String := ",".intercalate (f.directives.map Directive.text)

/-- The filter of the overriding text if that is valid, else of the configured one. -/
def build (configured : String) (override : Option String) : Except FilterError Filter :=
  match override.map ofText? with
  | some (.ok f) => .ok f
  | _ => ofText? configured

def limitFor (f : Filter) (target : String) : LevelLimit :=
  match f.directives.find? (·.covers target) with
  | some d => d.limit
  | none => none

def allows (f : Filter) (target : String) (level : Level) : Bool := (f.limitFor target).allows level

end Filter

end Gatehouse
