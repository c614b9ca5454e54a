import Gatehouse.Http.StatusCode
import Gatehouse.Http.Uri
import Gatehouse.Outcome
import Gatehouse.Text.Utf8

/-!
Requests and responses as the middleware sees them. A header name is kept in lowercase; a list of
headers keeps repeated names in the order they came.
-/
namespace Gatehouse

/-- Letters, digits and the signs that separate nothing. -/
def isTokenChar (c : Char) : Bool :=
  c.isAlphanum || "!#$%&'*+-.^_`|~".toList.contains c

structure Method where
  text : String
  nonempty : text.toList ≠ []
  tokens : text.toList.all isTokenChar = true
deriving DecidableEq

namespace Method

def ofText? (s : String) : Option Method :=
  if h : s.toList ≠ [] then
    if t : s.toList.all isTokenChar = true then some ⟨s, h, t⟩ else none
  else none

def get : Method := ⟨"GET", by decide, by decide⟩

def head : Method := ⟨"HEAD", by decide, by decide⟩

end Method

def isHeaderName (cs : List Char) : Bool :=
  !cs.isEmpty && cs.length ≤ 65535 && cs.all fun c => isTokenChar c && c.toLower = c

structure HeaderName where
  text : String
  valid : isHeaderName text.toList = true
deriving DecidableEq

namespace HeaderName

def ofText? (s : String) : Option HeaderName :=
  let lower := String.ofList (s.toList.map Char.toLower)
  if h : isHeaderName lower.toList = true then some ⟨lower, h⟩ else none

def contentType : HeaderName := ⟨"content-type", by decide⟩

def userAgent : HeaderName := ⟨"user-agent", by decide⟩

def allow : HeaderName := ⟨"allow", by decide⟩

def requestId : HeaderName := ⟨"x-request-id", by decide⟩

def grpcStatus : HeaderName := ⟨"grpc-status", by decide⟩

def grpcMessage : HeaderName := ⟨"grpc-message", by decide⟩

def grpcDetails : HeaderName := ⟨"grpc-status-details-bin", by decide⟩

end HeaderName

/-- Bytes that may stand in a header value: all but controls, the tab excepted. -/
def isValueByte (b : UInt8) : Bool := b = 9 || (b ≥ 32 && b ≠ 127)

def isVisibleByte (b : UInt8) : Bool := b = 9 || (b ≥ 32 && b < 127)

/-- The bytes that the characters of a text stand for, each below U+0100 for one byte. -/
def bytesOf? (s : String) : Option (List UInt8) :=
  s.toList.mapM fun c => if c.toNat < 256 then some c.toNat.toUInt8 else none

def textOfBytes (bytes : List UInt8) : String :=
  String.ofList (bytes.map fun b => Char.ofNat b.toNat)

structure HeaderValue where
  bytes : List UInt8
  valid : bytes.all isValueByte = true
deriving DecidableEq

namespace HeaderValue

def ofBytes? (bytes : List UInt8) : Option HeaderValue :=
  if h : bytes.all isValueByte = true then some ⟨bytes, h⟩ else none

def ofText? (s : String) : Option HeaderValue := ofBytes? (Utf8.encode s.toList)

def text? (v : HeaderValue) : Option String :=
  if v.bytes.all isVisibleByte then some (textOfBytes v.bytes) else none

end HeaderValue

structure Headers where
  entries : List (HeaderName × HeaderValue)
deriving DecidableEq

inductive HeaderError where
  | name
  | byteString
  | value
deriving DecidableEq

namespace Headers

def empty : Headers := ⟨[]⟩

def readLine (line : String × String) : Except HeaderError (HeaderName × HeaderValue) :=
  match HeaderName.ofText? line.1 with
  | none => .error .name
  | some name =>
    match bytesOf? line.2 with
    | none => .error .byteString
    | some bytes =>
      match HeaderValue.ofBytes? bytes with
      | none => .error .value
      | some value => .ok (name, value)

/-- Reads lines of names and values; the first bad one decides. -/
def ofLines (lines : List (String × String)) : Except HeaderError Headers :=
  (lines.mapM readLine).map fun entries => ⟨entries⟩

def values (hs : Headers) (name : HeaderName) : List HeaderValue :=
  hs.entries.filterMap fun e => if e.1 = name then some e.2 else none

def get? (hs : Headers) (name : HeaderName) : Option HeaderValue := (hs.values name).head?

def append (hs : Headers) (name : HeaderName) (value : HeaderValue) : Headers :=
  ⟨hs.entries ++ [(name, value)]⟩

/-- Makes `value` the only value of a name. -/
def set (hs : Headers) (name : HeaderName) (value : HeaderValue) : Headers :=
  ⟨hs.entries.filter (·.1 ≠ name) ++ [(name, value)]⟩

@[simp] theorem values_set_self (hs : Headers) (name : HeaderName) (value : HeaderValue) :
    (hs.set name value).values name = [value] := by
  simp only [values, set, List.filterMap_append, List.filterMap_cons, List.filterMap_nil]
  simp [List.filterMap_eq_nil_iff]

theorem values_set_of_ne (hs : Headers) {name other : HeaderName} (h : other ≠ name)
    (value : HeaderValue) : (hs.set name value).values other = hs.values other := by
  cases hs with
  | mk entries =>
    simp only [values, set, List.filterMap_append, List.filterMap_cons, if_neg (Ne.symm h),
      List.filterMap_nil, List.append_nil]
    induction entries with
    | nil => rfl
    | cons e es ih => by_cases hn : e.1 = name <;> by_cases ho : e.1 = other <;> simp_all

@[simp] theorem get?_set_self (hs : Headers) (name : HeaderName) (value : HeaderValue) :
    (hs.set name value).get? name = some value := by simp [get?]

theorem get?_set_of_ne (hs : Headers) {name other : HeaderName} (h : other ≠ name)
    (value : HeaderValue) : (hs.set name value).get? other = hs.get? other :=
  congrArg List.head? (hs.values_set_of_ne h value)

def sorted (hs : Headers) : List (HeaderName × HeaderValue) :=
  hs.entries.mergeSort fun e f => e.1.text ≤ f.1.text

end Headers

structure Request where
  method : Method := .get
  uri : Uri
  headers : Headers := .empty
  remoteAddr : Option SocketAddress := none
deriving DecidableEq

/-- A response, with the correlation ID attached to it beside its headers. -/
structure Response where
  status : StatusCode
  headers : Headers := .empty
  body : String := ""
  requestId : Option RequestId := none
deriving DecidableEq

end Gatehouse
