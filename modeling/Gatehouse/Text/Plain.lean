import Gatehouse.Text.Fields
import Gatehouse.Text.Utf8

/-!
Text for a plain terminal: control characters are left out, blanks excepted, and so are the
sequences that an escape character begins.
-/
namespace Gatehouse.Plain

/-- Where a reader stands: in the text, inside what an escape character began, or in a text that
interrupts it. -/
inductive Place where
  | text
  | escape
  | intermediate
  | sequence
  | command
  | device
  | parameters
  | qualifier
  | body
  | interrupted (place : Place)
deriving DecidableEq

def isBlankControl (c : Char) : Bool := c = '\t' || c = '\n' || c = '\x0c' || c = '\r'

def isControl (c : Char) : Bool := c.toNat < 0x20

def isShown (c : Char) : Bool := if isControl c then isBlankControl c else c ≠ '\x7f'

def isBetween (low high c : Char) : Bool := low ≤ c && c ≤ high

/-- Whether a byte that ends a string is among those of a character. -/
def endsString (c : Char) : Bool := (Utf8.encodeChar c).contains 0x9C

namespace Place

def next (place : Place) (c : Char) : Place :=
  match place with
  | .escape =>
    if c = '[' then .sequence
    else if c = ']' then .command
    else if c = 'P' then .device
    else if c = 'X' || c = '^' || c = '_' then .body
    else if isBetween ' ' '/' c then .intermediate
    else if isBetween '0' '~' c then .text
    else .escape
  | .intermediate => if isBetween '0' '~' c then .text else .intermediate
  | .sequence => if isBetween '@' '~' c then .text else .sequence
  | .command => if c = '\x07' then .text else .command
  | .device =>
    if isBetween ' ' '/' c then .qualifier
    else if isBetween '0' '?' c then .parameters
    else if isBetween '@' '~' c then .body
    else .device
  | .parameters =>
    if isBetween ' ' '/' c then .qualifier
    else if isBetween '<' '~' c then .body
    else .parameters
  | .qualifier => if isBetween '0' '~' c then .body else .qualifier
  | .body => if endsString c then .text else .body
  | .text => .text
  | .interrupted place => place

def admitsBlanks : Place → Bool
  | .escape | .intermediate | .sequence => true
  | _ => false

end Place

/-- How far a blank breaks into a sequence: up to its end, so that the rest of it is text, or up to
the next character that is left out. -/
inductive Break where
  | forGood
  | forNow
deriving DecidableEq

def step (mode : Break) (place : Place) (c : Char) : Place × Bool :=
  if c = '\x1b' then (.escape, false)
  else if c = '\x18' || c = '\x1a' then (.text, false)
  else
    match place with
    | .text => (.text, isShown c)
    | .interrupted place =>
      if isShown c then (if c.toNat < 0x80 then .interrupted place else .text, true)
      else (place, false)
    | place =>
      if place.admitsBlanks && isBlankControl c then
        (if mode = .forNow then .interrupted place else .text, true)
      else (place.next c, false)

def shownFrom (mode : Break) (place : Place) : List Char → List Char
  | [] => []
  | c :: cs =>
    let (next, shows) := step mode place c
    if shows then c :: shownFrom mode next cs else shownFrom mode next cs

/-- What is shown of a text in pieces of different styles: where the style changes, whatever an
escape character began ends. -/
def shown (mode : Break) (pieces : List String) : List Char :=
  pieces.flatMap fun piece => shownFrom mode .text piece.toList

def firstLine (mode : Break) (pieces : List String) : String :=
  String.ofList (Fields.firstLine (shown mode pieces))

end Gatehouse.Plain
