import Gatehouse.Text.CharClass

/-!
Environment variables, and files of them with lines such as `NAME=value`. Loading a file sets the
variables that are not set yet, up to the first line that cannot be read.
-/
namespace Gatehouse

/-- Environment variables; the first of a name counts. -/
abbrev Environment := List (String × String)

namespace Environment

def get? (env : Environment) (name : String) : Option String := env.lookup name

def setDefault (env : Environment) (name value : String) : Environment :=
  if (env.get? name).isSome then env else env ++ [(name, value)]

end Environment

end Gatehouse

namespace Gatehouse.EnvFile

def quote : Char := '\x27'

inductive Place where
  | bare
  | blank
  | escaped
  | quoted (mark : Char)
  | quotedEscape (mark : Char)
deriving DecidableEq

/-- Where the reader stands after a character. A blank counts only right before the next one. -/
def Place.step (p : Place) (c : Char) : Place :=
  match p with
  | .escaped => .bare
  | .quoted q => if c = '\\' then .quotedEscape q else if c = q then .bare else .quoted q
  | .quotedEscape q => .quoted q
  | .bare | .blank =>
    if c = '\\' then .escaped
    else if c = '"' || c = quote then .quoted c
    else if p = .bare && isWhiteSpace c && c ≠ '\n' && c ≠ '\r' then .blank
    else .bare

/-- Reads one line of the file: what is kept of it, and where the reader stands behind it, unless a
comment ended the line. -/
def scan (p : Place) : List Char → List Char × Option Place
  | [] => ([], some p)
  | c :: cs =>
    if p = .blank ∧ c = '#' then ([], none)
    else
      let (kept, last) := scan (p.step c) cs
      (c :: kept, last)

def lines : List Char → List (List Char)
  | [] => []
  | c :: cs =>
    if c = '\n' then [c] :: lines cs
    else
      match lines cs with
      | [] => [[c]]
      | line :: rest => (c :: line) :: rest

def isComment (line : List Char) : Bool := (trimStart line).head? = some '#'

/-- The entries of a file, each on one line or more; there is none where the file ends too early.
`begun` is what has been read of an entry. -/
def entriesFrom (begun : List Char) (p : Place) : List (List Char) → List (Option (List Char))
  | [] => if p = .bare then [] else [none]
  | line :: rest =>
    if begun.isEmpty && isComment line then some [] :: entriesFrom [] .bare rest
    else
      match scan p line with
      | (kept, none) | (kept, some .bare) => some (begun ++ kept) :: entriesFrom [] .bare rest
      | (kept, some q) => entriesFrom (begun ++ kept) q rest

def entries (text : List Char) : List (Option (List Char)) :=
  entriesFrom [] .bare (lines (if text.head? = some '\ufeff' then text.drop 1 else text))

/-- What the reader of a value is at: ordinary text, a hard quotation, the character behind a
backslash, the end of the value, or a reference to a variable. -/
inductive Mode where
  | text
  | hard
  | escape
  | ended
  | reference (name : List Char)
  | braced (name : List Char)
deriving DecidableEq

structure ValueReader where
  output : List Char := []
  mode : Mode := .text
  soft : Bool := false
deriving DecidableEq

namespace ValueReader

def escape? (c : Char) : Option Char :=
  if c = '\\' || c = quote || c = '"' || c = '$' || c = ' ' then some c
  else if c = 'n' then some '\n'
  else none

def push (r : ValueReader) (c : Char) : ValueReader := { r with output := r.output ++ [c] }

def substitute (env : Environment) (r : ValueReader) (name : List Char) : ValueReader :=
  { r with
    output := r.output ++ ((env.get? (String.ofList name)).getD "").toList
    mode := .text }

def stepText (r : ValueReader) (c : Char) : ValueReader :=
  if c = '$' then { r with mode := .reference [] }
  else if c = '\\' then { r with mode := .escape }
  else if r.soft then if c = '"' then { r with soft := false } else r.push c
  else if c = quote then { r with mode := .hard }
  else if c = '"' then { r with soft := true }
  else if c = ' ' || c = '\t' then { r with mode := .ended }
  else r.push c

/-- A reference without braces ends at the first character that is no letter or digit. -/
def stepReference (env : Environment) (r : ValueReader) (name : List Char) (c : Char) :
    ValueReader :=
  if isAlphanumeric c then { r with mode := .reference (name ++ [c]) }
  else if c = '\x7b' && name.isEmpty then { r with mode := .braced [] }
  else
    let r := r.substitute env name
    if c = '$' then { r with mode := .reference [] } else r.push c

/-- One character on; behind the end of the value only blanks may stand. -/
def step (env : Environment) (r : ValueReader) (c : Char) : Option ValueReader :=
  match r.mode with
  | .text => some (r.stepText c)
  | .hard => some (if c = quote then { r with mode := .text } else r.push c)
  | .escape => (escape? c).map fun x => { r.push x with mode := .text }
  | .ended => if c = ' ' || c = '\t' then some r else none
  | .reference name => some (r.stepReference env name c)
  | .braced name =>
    some (if c = '\x7d' then r.substitute env name
      else { r with mode := .braced (name ++ [c]) })

def run (env : Environment) (r : ValueReader) : List Char → Option ValueReader
  | [] => some r
  | c :: cs =>
    if r.mode = .ended ∧ c = '#' then some r
    else do (← r.step env c).run env cs

def finish (env : Environment) (r : ValueReader) : Option (List Char) :=
  if r.soft then none
  else
    match r.mode with
    | .hard | .braced _ => none
    | .reference name => some (r.substitute env name).output
    | _ => some r.output

end ValueReader

def value? (env : Environment) (text : List Char) : Option (List Char) :=
  if text.head? = some '#' then some []
  else do (← ValueReader.run env {} text).finish env

def isNameStart (c : Char) : Bool := c.isAlpha || c = '_'

def isNameChar (c : Char) : Bool := c.isAlphanum || c = '_' || c = '.'

def name? (cs : List Char) : Option (List Char × List Char) :=
  if cs.head?.any isNameStart then
    some (cs.takeWhile isNameChar, trimStart (cs.dropWhile isNameChar))
  else none

def afterEquals? : List Char → Option (List Char)
  | '=' :: cs => some (trimStart cs)
  | _ => none

/-- The name and the text of the value in an entry. The name may stand behind the word `export`,
which is a name itself if an equals sign follows it. -/
def assignment? (entry : List Char) : Option (List Char × List Char) := do
  let (name, rest) ← name? entry
  match afterEquals? rest with
  | some text => return (name, text)
  | none =>
    if name = "export".toList then
      let (name, rest) ← name? rest
      return (name, ← afterEquals? rest)
    else none

def loadEntries (env : Environment) : List (Option (List Char)) → Environment
  | [] => env
  | none :: _ => env
  | some entry :: rest =>
    let entry := trimStart (trimEnd entry)
    if entry.isEmpty || entry.head? = some '#' then loadEntries env rest
    else
      match assignment? entry with
      | none => env
      | some (name, text) =>
        match value? env text with
        | none => env
        | some value =>
          loadEntries (env.setDefault (String.ofList name) (String.ofList value)) rest

def load (env : Environment) (text : String) : Environment := loadEntries env (entries text.toList)

end Gatehouse.EnvFile
