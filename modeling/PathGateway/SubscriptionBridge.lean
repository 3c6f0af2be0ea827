import PathGateway.Machine
import PathGateway.SubscriptionRegistry

/-! A websocket bridge with its registry, between a client and an endpoint connection that is
replaced now and then. Beside the registry the machine keeps what happened on the two sides: the
requests that the current connection has not answered yet, and the subscriptions that the client
holds with their ids. No step of the registry reads either. -/

namespace PathGateway.Websockets

open SubscriptionRegistry Option GoMap

structure Outstanding where
  key : String
  subscription : Option ℕ
  replay : Bool
  deriving DecidableEq, Repr

/-- A subscription that the client has been given an id for and has not unsubscribed from. -/
structure Held where
  first : String
  current : Option String
  deriving DecidableEq, Repr

structure Bridge (β : Type) where
  registry : SubscriptionRegistry β
  outstanding : List Outstanding
  held : GoMap ℕ Held

def Bridge.start {β : Type} : Bridge β := ⟨newSubscriptionRegistry, [], ∅⟩

inductive BridgeEvent (β : Type) where
  | client (frame : β)
  | endpoint (answers : Option ℕ) (frame : β)
  | rebind

variable {β : Type} (json : RawJSON β)

namespace Bridge

variable (s : Bridge β)

def send (frame : β) : Bridge β :=
  match readRequest json frame with
  | none => s
  | some req =>
    let key := rawKey json req.id
    let asked := if key = "" then s.outstanding
      else s.outstanding ++ [⟨key,
        if req.method = methodSubscribe then some s.registry.subs.length else none, false⟩]
    let kept := if req.method = methodUnsubscribe then
        (firstStringParam json req.params).elim s.held (fun id =>
          retain (fun _ h => h.first ≠ id) s.held)
      else s.held
    { s with outstanding := asked, held := kept }

def grant (p : ℕ) (replay forwarded : Bool) (id : String) : Bridge β :=
  if replay then
    { s with held := modify (fun h => { h with current := some id }) p s.held }
  else if forwarded then { s with held := s.held.insert p ⟨id, some id⟩ }
  else s

def idFree (p : ℕ) (id : String) : Prop :=
  ∀ q h, s.held.lookup q = some h → q ≠ p → h.current ≠ some id

instance (p : ℕ) (id : String) : Decidable (s.idFree p id) :=
  decidable_of_iff (∀ e ∈ s.held.entries, e.1 ≠ p → e.2.current ≠ some id) (by
    constructor
    · intro h q held hq
      exact h ⟨q, held⟩ (AList.mem_lookup_iff.mp hq)
    · intro h e he
      exact h e.1 e.2 (AList.mem_lookup_iff.mpr he))

def translate (frame : β) : (β × Bool) × SubscriptionRegistry β :=
  s.registry.translateEndpointMessage json frame

def answer (i : ℕ) (frame : β) : Option (Bridge β) :=
  (s.outstanding[i]?).bind (fun req =>
    (readResponse json frame).bind (fun resp =>
      if resp.1 = req.key then
        let r := s.translate json frame
        let answered := { s with registry := r.2, outstanding := s.outstanding.eraseIdx i }
        match req.subscription, json.rawString resp.2 with
        | some p, some id =>
          if s.idFree p id then some (answered.grant p req.replay r.1.2 id) else none
        | _, _ => some answered
      else none))

/-- The active frames are replayed, and nothing else is known to the new connection. -/
def rebind : Bridge β :=
  { s with
    outstanding := s.registry.established.map (fun e => ⟨e.2.reqID, some e.1, true⟩)
    held := mapValues (fun h => { h with current := none }) s.held }

def step (s : Bridge β) : BridgeEvent β → Option (Bridge β)
  | .client frame => some { s.send json frame with
      registry := (s.registry.trackClientMessage json frame).2 }
  | .endpoint none frame => some { s with registry := (s.translate json frame).2 }
  | .endpoint (some i) frame => s.answer json i frame
  | .rebind => some s.rebind

variable {json s} {s' : Bridge β} {e : BridgeEvent β}

theorem registry_grant {p : ℕ} {replay forwarded : Bool} {id : String} :
    (s.grant p replay forwarded id).registry = s.registry := by
  rw [grant]
  split
  · rfl
  · split <;> rfl

theorem registry_answer {i : ℕ} {frame : β} (h : s.answer json i frame = some s') :
    s'.registry = (s.translate json frame).2 := by
  obtain ⟨req, -, h⟩ := bind_eq_some_iff.mp h
  obtain ⟨resp, -, h⟩ := bind_eq_some_iff.mp h
  obtain ⟨-, h⟩ := ite_none_right_eq_some.mp h
  split at h
  · obtain ⟨-, h⟩ := ite_none_right_eq_some.mp h
    cases h
    exact registry_grant
  · cases h
    rfl

theorem registry_endpoint {answers : Option ℕ} {frame : β}
    (h : s.step json (.endpoint answers frame) = some s') :
    s'.registry = (s.translate json frame).2 := by
  cases answers with
  | none =>
    cases h
    rfl
  | some => exact registry_answer h

theorem indexed_step (hs : s.registry.Indexed) (h : s.step json e = some s') :
    s'.registry.Indexed := by
  cases e with
  | client frame =>
    cases h
    exact indexed_trackClientMessage hs json frame
  | endpoint answers frame =>
    rw [registry_endpoint h]
    exact indexed_translateEndpointMessage hs json frame
  | rebind =>
    cases h
    exact hs

end Bridge

section Samples

def sampleRequest (method id : String) (params : List RawTree) : RawTree :=
  .object [("id", .atom id), ("method", .string method), ("params", .array params)]

def sampleResponse (id result : String) : RawTree :=
  .object [("id", .atom id), ("result", .string result)]

def sampleNotification (id : String) : RawTree :=
  .object [("method", .string methodNotification),
    ("params", .object [("subscription", .string id)])]

def subscribed (reqID id : String) : List (BridgeEvent RawTree) :=
  [.client (sampleRequest methodSubscribe reqID []), .endpoint (some 0) (sampleResponse reqID id)]

end Samples

end PathGateway.Websockets
