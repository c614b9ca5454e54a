import Gatehouse.Log.Logger
import Gatehouse.Pipeline.Layer

/-!
The settings of the server, each with a flag, an environment variable, a default and a way to read
its text.
-/
namespace Gatehouse

inductive Setting where
  | httpAddr
  | grpcAddr
  | handlerTimeout
  | requestIdHeader
  | logFormat
  | logFilter
deriving DecidableEq

namespace Setting

def all : List Setting :=
  [.httpAddr, .grpcAddr, .handlerTimeout, .requestIdHeader, .logFormat, .logFilter]

@[simp] theorem mem_all (s : Setting) : s ∈ all := by cases s <;> decide

def name : Setting → String
  | .httpAddr => "http-addr"
  | .grpcAddr => "grpc-addr"
  | .handlerTimeout => "handler-timeout-ms"
  | .requestIdHeader => "request-id-header"
  | .logFormat => "log-format"
  | .logFilter => "log-filter"

def placeholder : Setting → String
  | .httpAddr => "HTTP_ADDR"
  | .grpcAddr => "GRPC_ADDR"
  | .handlerTimeout => "HANDLER_TIMEOUT_MS"
  | .requestIdHeader => "REQUEST_ID_HEADER"
  | .logFormat => "LOG_FORMAT"
  | .logFilter => "LOG_FILTER"

def variableName (s : Setting) : String := "COURIER_" ++ s.placeholder

def usage (s : Setting) : String := "--" ++ s.name ++ " <" ++ s.placeholder ++ ">"

def ofName? (name : String) : Option Setting := all.find? fun s => s.name = name

@[simp] theorem ofName?_name (s : Setting) : ofName? s.name = some s := by cases s <;> decide

end Setting

inductive ValueError where
  | address
  | emptyNumber
  | digit
  | numberTooLarge
  | format
deriving DecidableEq

def ValueError.reason? : ValueError → Option String
  | .address => some "invalid socket address syntax"
  | .emptyNumber => some "cannot parse integer from empty string"
  | .digit => some "invalid digit found in string"
  | .numberTooLarge => some "number too large to fit in target type"
  | .format => none

/-- Digits read onto a number of 64 bits, up to the first that is none or does not fit. -/
def millisFrom : Nat → List Char → Except ValueError UInt64
  | n, [] => .ok n.toUInt64
  | n, c :: cs =>
    match Decimal.value? c with
    | none => .error .digit
    | some d => if 10 * n + d < UInt64.size then millisFrom (10 * n + d) cs else .error .numberTooLarge

def millisOf (cs : List Char) : Except ValueError UInt64 :=
  match cs with
  | [] => .error .emptyNumber
  | ['+'] => .error .digit
  | '+' :: ds => millisFrom 0 ds
  | ds => millisFrom 0 ds

structure Settings where
  httpAddr : SocketAddress := .v4 ⟨0, 0, 0, 0⟩ 8080
  grpcAddr : SocketAddress := .v4 ⟨0, 0, 0, 0⟩ 50051
  handlerTimeout : UInt64 := 0
  requestIdHeader : String := RequestId.defaultHeader
  logFormat : LogFormat := .pretty
  logFilter : String := "info"
deriving DecidableEq

def Settings.text (v : Settings) : Setting → String
  | .httpAddr => v.httpAddr.text
  | .grpcAddr => v.grpcAddr.text
  | .handlerTimeout => Decimal.text v.handlerTimeout.toNat
  | .requestIdHeader => v.requestIdHeader
  | .logFormat => v.logFormat.name
  | .logFilter => v.logFilter

structure Supplied where
  httpAddr : Option SocketAddress := none
  grpcAddr : Option SocketAddress := none
  handlerTimeout : Option UInt64 := none
  requestIdHeader : Option String := none
  logFormat : Option LogFormat := none
  logFilter : Option String := none
deriving DecidableEq

namespace Supplied

def has (v : Supplied) : Setting → Bool
  | .httpAddr => v.httpAddr.isSome
  | .grpcAddr => v.grpcAddr.isSome
  | .handlerTimeout => v.handlerTimeout.isSome
  | .requestIdHeader => v.requestIdHeader.isSome
  | .logFormat => v.logFormat.isSome
  | .logFilter => v.logFilter.isSome

def addressOf (text : String) : Except ValueError SocketAddress :=
  match SocketAddress.ofText? text with
  | some a => .ok a
  | none => .error .address

def supply (v : Supplied) (s : Setting) (text : String) : Except ValueError Supplied :=
  match s with
  | .httpAddr => (addressOf text).map fun a => { v with httpAddr := some a }
  | .grpcAddr => (addressOf text).map fun a => { v with grpcAddr := some a }
  | .handlerTimeout => (millisOf text.toList).map fun n => { v with handlerTimeout := some n }
  | .requestIdHeader => .ok { v with requestIdHeader := some text }
  | .logFormat =>
    match LogFormat.ofText? text with
    | some f => .ok { v with logFormat := some f }
    | none => .error .format
  | .logFilter => .ok { v with logFilter := some text }

/-- The defaults fill in what has not been supplied. -/
def settings (v : Supplied) : Settings :=
  let defaults : Settings := {}
  { httpAddr := v.httpAddr.getD defaults.httpAddr
    grpcAddr := v.grpcAddr.getD defaults.grpcAddr
    handlerTimeout := v.handlerTimeout.getD defaults.handlerTimeout
    requestIdHeader := v.requestIdHeader.getD defaults.requestIdHeader
    logFormat := v.logFormat.getD defaults.logFormat
    logFilter := v.logFilter.getD defaults.logFilter }

end Supplied

end Gatehouse
