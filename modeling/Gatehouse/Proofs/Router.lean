import Gatehouse.Proofs.Configuration
import Gatehouse.Proofs.JsonStrings
import Gatehouse.Proofs.Lifecycle
import Gatehouse.Proofs.Pipeline
import Gatehouse.Proofs.Timing
import Gatehouse.Server.Router

namespace Gatehouse

namespace Context

variable {ctx : Context} {g : Guard} {task : Run} {m : Moment} {ending : Ending}

end Context

theorem HealthReport.toList_json (r : HealthReport) :
    r.json.toList = '\x7b' :: ((JsonString.encode "request_id".toList ++ ':' ::
      ((idJson r.requestId).toList ++ ',' :: (JsonString.encode "state".toList ++ ':' ::
        ('"' :: (r.state.name.toList ++ ['"']) ++ ',' ::
          (JsonString.encode "uptime_secs".toList ++ ':' ::
            (Decimal.text r.uptimeSecs).toList))))) ++ ['\x7d']) := by
  have text : r.json = "\x7b\"request_id\":" ++ idJson r.requestId ++ ",\"state\":\"" ++
    r.state.name ++ "\",\"uptime_secs\":" ++ Decimal.text r.uptimeSecs ++ "\x7d" := rfl
  have id : "\x7b\"request_id\":".toList =
    '\x7b' :: (JsonString.encode "request_id".toList ++ [':']) := rfl
  have state : ",\"state\":\"".toList = ',' :: (JsonString.encode "state".toList ++ [':', '"']) :=
    rfl
  have uptime : "\",\"uptime_secs\":".toList =
    '"' :: ',' :: (JsonString.encode "uptime_secs".toList ++ [':']) := rfl
  have stop : "\x7d".toList = ['\x7d'] := rfl
  rw [text]
  simp only [String.toList_append, id, state, uptime, stop, List.append_assoc, List.cons_append,
    List.nil_append]

namespace Router

variable {config : MiddlewareConfig} {state : HealthState} {uptimeSecs : Nat} {now : Instant}
  {request : Request} {ids : IdSource} {deadline : Deadline}

end Router

end Gatehouse
