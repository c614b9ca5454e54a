import Gatehouse.Pipeline.Layer
import Gatehouse.Guard

/-!
A request on its way in. Every layer does its part before anything runs, so IDs, deadlines and
descriptions are fixed once the innermost layer is reached.
-/
namespace Gatehouse

/-- A request that has passed the layers of a stack, from the outermost layer in. -/
inductive Call where
  | handler (scope : Scope) (script : Script)
  | logged (position : Nat) (protocol : Protocol) (sink : Sink) (request : RequestInfo)
      (slot : Option RequestId) (inner : Call)
  | tagged (header : HeaderName) (id : RequestId) (inner : Call)
  | guarded (guard : Guard) (inner : Call)
deriving DecidableEq

namespace Call

def scope : Call → Scope
  | .handler scope _ => scope
  | .logged _ _ _ _ _ inner => inner.scope
  | .tagged _ _ inner => inner.scope
  | .guarded _ inner => inner.scope

def guards : Call → Nat
  | .handler _ _ => 0
  | .logged _ _ _ _ _ inner => inner.guards
  | .tagged _ _ inner => inner.guards
  | .guarded _ inner => inner.guards + 1

def ids : Call → List RequestId
  | .handler _ _ => []
  | .logged _ _ _ _ _ inner => inner.ids
  | .tagged _ id inner => id :: inner.ids
  | .guarded _ inner => inner.ids

end Call

/-- A call, and the ID that an access log right outside it learns: the first one assigned before
another access log is passed. -/
structure Entered where
  call : Call
  learned : Option RequestId
deriving DecidableEq

/-- Takes a request through a stack, the first layer standing at `position`. There is no call if a
deadline is out of the range of the clock. -/
def enter (now : Instant) (handler : Handler) (request : Request) :
    List Layer → Nat → Scope → IdSource → Option Entered × IdSource
  | [], _, scope, ids => (some ⟨.handler scope (handler request scope), none⟩, ids)
  | .accessLog protocol sink :: rest, position, scope, ids =>
    let (inner, ids) := enter now handler request rest (position + 1) scope ids
    (inner.map fun e =>
      ⟨.logged position protocol sink (protocol.describe request) e.learned e.call, none⟩, ids)
  | .requestId header :: rest, position, scope, ids =>
    let inbound := (request.headers.get? header).bind HeaderValue.text?
    let (id, ids) := ids.assign inbound
    let (inner, ids) :=
      enter now handler request rest (position + 1) { scope with requestId := some id } ids
    (inner.map fun e => ⟨.tagged header id e.call, some id⟩, ids)
  | .deadline protocol configured :: rest, position, scope, ids =>
    match Deadline.derive? now scope.deadline (effectiveTimeout configured) with
    | none => (none, ids)
    | some deadline =>
      let (inner, ids) :=
        enter now handler request rest (position + 1) { scope with deadline := some deadline } ids
      let guard := ⟨protocol, deadline, scope.deadline.map (·.timeout)⟩
      (inner.map fun e => ⟨.guarded guard e.call, e.learned⟩, ids)

/-- Gives a response its ID: the only value of the header, and the ID attached to it. An ID that no
header can hold is only attached. -/
def publish (header : HeaderName) (id : RequestId) (response : Response) : Response :=
  match HeaderValue.ofText? id.text with
  | some value =>
    { response with headers := response.headers.set header value, requestId := some id }
  | none => { response with requestId := some id }

end Gatehouse
