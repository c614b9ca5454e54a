import Gatehouse.Text.Fields

/-!
Request targets: the path and the query of a URI in origin, asterisk, absolute or authority form.
-/
namespace Gatehouse

/-- What is kept of a URI; a query may be present and empty. -/
structure Uri where
  path : String
  query : Option String
deriving DecidableEq

namespace Uri

def maxLength : Nat := 65534

def isGraphic (c : Char) : Bool := '\x21' ≤ c && c ≠ '\x7f'

def isPathChar (c : Char) : Bool :=
  isGraphic c && c ≠ '<' && c ≠ '>' && c ≠ '\x60' && c ≠ '?' && c ≠ '#'

def isQueryChar (c : Char) : Bool :=
  isGraphic c && c ≠ '"' && c ≠ '<' && c ≠ '>' && c ≠ '#'

def dropFragment (cs : List Char) : List Char := cs.takeWhile (· ≠ '#')

def pathAndQuery? (cs : List Char) : Option (List Char × Option (List Char)) :=
  match Fields.cut? '?' (dropFragment cs) with
  | none =>
    let path := dropFragment cs
    if path.all isPathChar then some (path, none) else none
  | some (path, query) =>
    if path.all isPathChar && query.all isQueryChar then some (path, some query) else none

def isAuthorityChar (c : Char) : Bool :=
  c.isAlphanum || "!$&'()*+,-.:;=@[]_~".toList.contains c

/-- What has been seen of an authority: colons and a percent sign that are not yet accounted for,
brackets, and whether the last character was an at sign. -/
structure AuthorityScan where
  colons : Nat := 0
  percent : Bool := false
  opened : Bool := false
  closed : Bool := false
  lastAt : Bool := false

def AuthorityScan.step (s : AuthorityScan) (c : Char) : Option AuthorityScan :=
  if c = ':' then
    if s.colons ≥ 8 then none else some { s with colons := s.colons + 1, lastAt := false }
  else if c = '[' then
    if s.percent || s.opened then none else some { s with opened := true, lastAt := false }
  else if c = ']' then
    if !s.opened || s.closed then none
    else some { s with closed := true, colons := 0, percent := false, lastAt := false }
  else if c = '@' then some { s with colons := 0, percent := false, lastAt := true }
  else if c = '%' then some { s with percent := true, lastAt := false }
  else if isAuthorityChar c then some { s with lastAt := false }
  else none

/-- Brackets match, at most one colon is left for the port, and something follows an at sign. -/
def AuthorityScan.complete (s : AuthorityScan) : Bool :=
  s.opened = s.closed && s.colons ≤ 1 && !s.lastAt && !s.percent

def isAuthority (cs : List Char) : Bool :=
  match cs.foldlM AuthorityScan.step {} with
  | some s => s.complete
  | none => false

def isSchemeChar (c : Char) : Bool := c.isAlphanum || c = '+' || c = '-' || c = '.' || c = '~'

def cutScheme? (cs : List Char) : Option (List Char × List Char) :=
  match cs.dropWhile isSchemeChar with
  | ':' :: '/' :: '/' :: rest => some (cs.takeWhile isSchemeChar, rest)
  | _ => none

def endsAuthority (c : Char) : Bool := c = '/' || c = '?' || c = '#'

def ofAbsolute? (cs : List Char) : Option Uri := do
  let authority := cs.takeWhile (!endsAuthority ·)
  if authority.isEmpty || !isAuthority authority then none
  else
    let (path, query) ← pathAndQuery? (cs.dropWhile (!endsAuthority ·))
    return ⟨if path.isEmpty then "/" else String.ofList path, query.map String.ofList⟩

def ofChars? (cs : List Char) : Option Uri :=
  match cs with
  | [] => none
  | ['*'] => some ⟨"*", none⟩
  | '/' :: _ => do
    let (path, query) ← pathAndQuery? cs
    return ⟨String.ofList path, query.map String.ofList⟩
  | _ =>
    match cutScheme? cs with
    | some (scheme, rest) => if scheme.length > 64 then none else ofAbsolute? rest
    | none => if isAuthority cs then some ⟨"", none⟩ else none

def ofText? (s : String) : Option Uri :=
  if s.utf8ByteSize > maxLength then none else ofChars? s.toList

end Uri

end Gatehouse
