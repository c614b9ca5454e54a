import Gatehouse.Grpc.Status

/-!
What differs between plain HTTP and remote calls.
-/
namespace Gatehouse

inductive Protocol where
  | http
  | grpc
deriving DecidableEq

namespace Protocol

/-- What is recorded of a request. For remote calls that is the method and the target only. -/
def describe (p : Protocol) (r : Request) : RequestInfo :=
  match p with
  | .http =>
    { method := r.method.text
      target := r.uri.path
      remoteAddr := r.remoteAddr
      userAgent := (r.headers.get? .userAgent).bind HeaderValue.text?
      query := r.uri.query.filter (· ≠ "") }
  | .grpc => { method := r.method.text, target := r.uri.path }

/-- The outcome of a finished response and a detail of what went wrong. -/
def classify (p : Protocol) (status : StatusCode) (headers : Headers) :
    Except Grpc.ReadError (OutcomeStatus × Option String) :=
  match p with
  | .http => .ok (.http status.number, none)
  | .grpc => do
    match ← Grpc.Status.ofHeaders? headers with
    | some s =>
      return (.rpc s.code, if s.code ≠ .ok ∧ s.message ≠ "" then some s.message else none)
    | none =>
      if status = .ok then return (.rpc .ok, none)
      else return (.rpc .unknown, some ("http status " ++ status.text))

/-- The status recorded when the service fails without a response. -/
def transportFailure : Protocol → OutcomeStatus
  | .http => .http 500
  | .grpc => .rpc .unknown

def plainTextValue : HeaderValue :=
  ⟨Utf8.encode "text/plain; charset=utf-8".toList, by decide⟩

def deadlineExceeded (p : Protocol) (timeout : Duration) : Response :=
  match p with
  | .http =>
    { status := .gatewayTimeout
      headers := Headers.empty.set .contentType plainTextValue
      body := deadlineMessage timeout }
  | .grpc => Grpc.Status.toResponse ⟨.deadlineExceeded, deadlineMessage timeout⟩

def handlerAborted : Protocol → Response
  | .http => { status := .serviceUnavailable }
  | .grpc => Grpc.Status.toResponse ⟨.unavailable, "handler task aborted"⟩

end Protocol

end Gatehouse
