import Gatehouse.Proofs.Addresses
import Gatehouse.Proofs.Effects

namespace Gatehouse

namespace Event

def field? (e : Event) (name : String) : Option FieldValue := e.fields.lookup name

/-- What an event itself says, without its duration and without the spans around it. -/
def content (e : Event) : Event :=
  { e with fields := e.fields.filter fun field => field.1 ≠ "duration_ms", spans := [] }

end Event

theorem Event.field?_content {name : String} (h : name ≠ "duration_ms") (e : Event) :
    e.content.field? name = e.field? name := by
  rw [field?, field?, content]
  induction e.fields with
  | nil => rfl
  | cons field fields ih =>
    obtain ⟨key, value⟩ := field
    by_cases hk : key = "duration_ms"
    · have hn : (name == key) = false := by simpa [hk] using h
      rw [List.filter_cons_of_neg (by simpa using hk), ih, List.lookup_cons, hn]
    · rw [List.filter_cons_of_pos (by simpa using hk), List.lookup_cons, List.lookup_cons, ih]

/-- What an event tells of a request over HTTP. -/
structure Event.TellsHttp (e : Event) (o : RequestOutcome) (code : UInt16) : Prop where
  message : e.message = "request completed"
  method : e.field? "method" = some (.text o.request.method)
  path : e.field? "path" = some (.text o.request.target)
  remoteAddr : e.field? "remote_addr" = (o.request.remoteAddr.map (·.text)).map .text
  status : e.field? "status" = some (.number code.toNat)
  requestId : e.field? "request_id" = (o.requestId.map (·.text)).map .text
  userAgent : e.field? "user_agent" = o.request.userAgent.map .text
  query : e.field? "query" = o.request.query.map .text

structure Event.TellsCall (e : Event) (o : RequestOutcome) (code : RpcCode) : Prop where
  message : e.message = "rpc completed"
  method : e.field? "rpc_method" = some (.text o.request.target)
  number : e.field? "grpc_code" = some (.number code.number)
  name : e.field? "grpc_status" = some (.text code.name)
  requestId : e.field? "request_id" = (o.requestId.map (·.text)).map .text
  error : e.field? "error" = o.error.map .text

section

variable {o p : RequestOutcome} {e : Event}

theorem Event.TellsHttp.content {code : UInt16} (h : e.TellsHttp o code) :
    e.content.TellsHttp o code where
  message := h.message
  method := (field?_content (by decide) e).trans h.method
  path := (field?_content (by decide) e).trans h.path
  remoteAddr := (field?_content (by decide) e).trans h.remoteAddr
  status := (field?_content (by decide) e).trans h.status
  requestId := (field?_content (by decide) e).trans h.requestId
  userAgent := (field?_content (by decide) e).trans h.userAgent
  query := (field?_content (by decide) e).trans h.query

theorem Event.TellsCall.content {code : RpcCode} (h : e.TellsCall o code) :
    e.content.TellsCall o code where
  message := h.message
  method := (field?_content (by decide) e).trans h.method
  number := (field?_content (by decide) e).trans h.number
  name := (field?_content (by decide) e).trans h.name
  requestId := (field?_content (by decide) e).trans h.requestId
  error := (field?_content (by decide) e).trans h.error

theorem eq_of_map_text_eq {a b : Option String}
    (h : a.map FieldValue.text = b.map FieldValue.text) : a = b :=
  Option.map_injective (fun _ _ h => FieldValue.text.inj h) h

theorem RequestId.eq_of_map_text_eq {a b : Option RequestId}
    (h : a.map (·.text) = b.map (·.text)) : a = b :=
  Option.map_injective (fun _ _ h => congrArg RequestId.mk h) h

theorem Event.TellsHttp.unique {c d : UInt16} (ho : e.TellsHttp o c) (hp : e.TellsHttp p d) :
    o.request = p.request ∧ c = d ∧ o.requestId = p.requestId := by
  have method : o.request.method = p.request.method := by
    simpa using ho.method.symm.trans hp.method
  have target : o.request.target = p.request.target := by
    simpa using ho.path.symm.trans hp.path
  have remoteAddr : o.request.remoteAddr = p.request.remoteAddr :=
    Option.map_injective (fun _ _ => SocketAddress.eq_of_text_eq)
      (eq_of_map_text_eq (ho.remoteAddr.symm.trans hp.remoteAddr))
  have userAgent : o.request.userAgent = p.request.userAgent :=
    eq_of_map_text_eq (ho.userAgent.symm.trans hp.userAgent)
  have query : o.request.query = p.request.query :=
    eq_of_map_text_eq (ho.query.symm.trans hp.query)
  have request : o.request = p.request := by
    rw [show o.request = ⟨_, _, _, _, _⟩ from rfl, method, target, remoteAddr, userAgent, query]
  have code : c.toNat = d.toNat := by simpa using ho.status.symm.trans hp.status
  have requestId : o.requestId = p.requestId :=
    RequestId.eq_of_map_text_eq (eq_of_map_text_eq (ho.requestId.symm.trans hp.requestId))
  exact ⟨request, UInt16.toNat_inj.1 code, requestId⟩

theorem Event.TellsCall.unique {c d : RpcCode} (ho : e.TellsCall o c) (hp : e.TellsCall p d) :
    o.request.target = p.request.target ∧ c = d ∧ o.requestId = p.requestId ∧
      o.error = p.error := by
  have target : o.request.target = p.request.target := by
    simpa using ho.method.symm.trans hp.method
  have number : c.number = d.number := by simpa using ho.number.symm.trans hp.number
  have requestId : o.requestId = p.requestId :=
    RequestId.eq_of_map_text_eq (eq_of_map_text_eq (ho.requestId.symm.trans hp.requestId))
  have error : o.error = p.error := eq_of_map_text_eq (ho.error.symm.trans hp.error)
  exact ⟨target, RpcCode.number_injective number, requestId, error⟩

end

end Gatehouse
