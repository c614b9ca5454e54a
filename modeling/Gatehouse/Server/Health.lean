import Gatehouse.Pipeline.Layer
import Gatehouse.Server.Lifecycle

namespace Gatehouse

structure HealthReport where
  state : HealthState
  uptimeSecs : Nat
  requestId : Option RequestId
deriving DecidableEq

namespace HealthReport

def idJson : Option RequestId → String
  | some id => id.json
  | none => "null"

def json (r : HealthReport) : String :=
  "\x7b\"request_id\":" ++ idJson r.requestId ++ ",\"state\":\"" ++ r.state.name ++
    "\",\"uptime_secs\":" ++ Decimal.text r.uptimeSecs ++ "\x7d"

end HealthReport

inductive Probe where
  | report
  | liveness
  | readiness
deriving DecidableEq

namespace Probe

def path : Probe → String
  | .report => "/health"
  | .liveness => "/health/live"
  | .readiness => "/health/ready"

def all : List Probe := [.report, .liveness, .readiness]

/-- The probe at a path; paths match in full. -/
def ofPath? (path : String) : Option Probe := all.find? fun p => p.path = path

def jsonValue : HeaderValue := ⟨Utf8.encode "application/json".toList, by decide⟩

/-- The server is live while it answers, and ready only while it takes requests. -/
def answer (state : HealthState) (uptimeSecs : Nat) (scope : Scope) : Probe → Response
  | .report =>
    { status := .ok
      headers := Headers.empty.set .contentType jsonValue
      body := HealthReport.json ⟨state, uptimeSecs, scope.requestId⟩ }
  | .liveness => { status := .ok }
  | .readiness => { status := if state = .ready then .ok else .serviceUnavailable }

end Probe

end Gatehouse
