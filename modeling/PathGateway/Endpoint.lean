import PathGateway.GoMap
import PathGateway.GoStrings

/-! Endpoints of a session, their URLs per RPC type, and the cached map from
endpoint addresses to endpoints that every selection starts from. -/

namespace PathGateway

abbrev ServiceID := String
abbrev EndpointAddr := String

/-- The endpoints of the sample runs. -/
def addrA : EndpointAddr := "pokt1a-https://a.example.com"

def addrB : EndpointAddr := "pokt1b-https://b.sample.com"

def addrC : EndpointAddr := "pokt1c-https://c.test.org"

def rmAddr : EndpointAddr := "pokt1a-https://rm.example.com"

inductive RPCType where
  | unknownRPC
  | grpc
  | websocket
  | jsonRPC
  | rest
  | cometBFT
  deriving DecidableEq, Repr

namespace RPCType

def name : RPCType → String
  | unknownRPC => "UNKNOWN_RPC"
  | grpc => "GRPC"
  | websocket => "WEBSOCKET"
  | jsonRPC => "JSON_RPC"
  | rest => "REST"
  | cometBFT => "COMET_BFT"

def label : RPCType → String
  | unknownRPC => "unknown_rpc"
  | grpc => "grpc"
  | websocket => "websocket"
  | jsonRPC => "json_rpc"
  | rest => "rest"
  | cometBFT => "comet_bft"

def ofName (s : String) : RPCType :=
  (([grpc, websocket, jsonRPC, rest, cometBFT].find? (fun t => t.name == s))).getD unknownRPC

end RPCType

structure SupplierEndpoint where
  supplier : String
  rpcType : RPCType
  url : String
  deriving DecidableEq, Repr

structure SupplierEndpoints where
  first : SupplierEndpoint
  rest : List SupplierEndpoint
  deriving DecidableEq, Repr

structure Session where
  sessionId : String
  sessionStartBlockHeight : Int
  allEndpoints : Option (List SupplierEndpoints)
  deriving DecidableEq, Repr

structure ProtocolEndpoint where
  supplier : String
  rpcTypeURLs : GoMap RPCType String
  defaultURL : String
  session : Session
  deriving DecidableEq

structure FallbackEndpoint where
  defaultURL : String
  rpcTypeURLs : GoMap RPCType String
  deriving DecidableEq

inductive Endpoint where
  | protocol (e : ProtocolEndpoint)
  | fallback (e : FallbackEndpoint)
  deriving DecidableEq

def fallbackSupplierString : String := "fallback"

namespace Endpoint

def isFallback : Endpoint → Bool
  | protocol _ => false
  | fallback _ => true

def supplier : Endpoint → String
  | protocol e => e.supplier
  | fallback _ => fallbackSupplierString

def addr : Endpoint → EndpointAddr
  | protocol e => e.supplier ++ "-" ++ e.defaultURL
  | fallback e => fallbackSupplierString ++ "-" ++ e.defaultURL

def publicURL : Endpoint → String
  | protocol e => e.defaultURL
  | fallback _ => ""

/-- A protocol endpoint has no URL for an RPC type it does not serve; a fallback
endpoint answers with its default URL instead. -/
def getURL : Endpoint → RPCType → String
  | protocol e, .unknownRPC => e.defaultURL
  | protocol e, t => (e.rpcTypeURLs.lookup t).getD ""
  | fallback e, .unknownRPC => e.defaultURL
  | fallback e, t => (e.rpcTypeURLs.lookup t).getD e.defaultURL

def session : Endpoint → Session
  | protocol e => e.session
  | fallback _ => ⟨"", 0, some []⟩

def judgedURL (e : Endpoint) (t : RPCType) : String :=
  if e.getURL t = "" then e.publicURL else e.getURL t

theorem judgedURL_of_ne {e : Endpoint} {t : RPCType} (h : e.getURL t ≠ "") :
    e.judgedURL t = e.getURL t :=
  if_neg h

theorem judgedURL_of_eq {e : Endpoint} {t : RPCType} (h : e.getURL t = "") :
    e.judgedURL t = e.publicURL :=
  if_pos h

end Endpoint

abbrev EndpointMap := GoMap EndpointAddr Endpoint

/-- The endpoints of one session: all of them protocol endpoints, each under its
own address. -/
structure SessionEndpoints where
  endpoints : EndpointMap
  addressed : ∀ addr ep, endpoints.lookup addr = some ep →
    ep.addr = addr ∧ ep.isFallback = false

def supplierURL (e : ProtocolEndpoint) (s : SupplierEndpoint) : ProtocolEndpoint :=
  if s.rpcType = .unknownRPC then e
  else { e with
    rpcTypeURLs := e.rpcTypeURLs.insert s.rpcType s.url
    defaultURL := if e.defaultURL = "" then s.url else e.defaultURL }

def supplierEndpoint (session : Session) (s : SupplierEndpoints) : ProtocolEndpoint :=
  (s.first :: s.rest).foldl supplierURL ⟨s.first.supplier, ∅, "", session⟩

def SessionEndpoints.add (eps : SessionEndpoints) (e : ProtocolEndpoint) : SessionEndpoints where
  endpoints := eps.endpoints.insert (Endpoint.protocol e).addr (.protocol e)
  addressed := by
    intro addr ep hl
    rcases GoMap.lookup_insert_eq_some.mp hl with ⟨rfl, rfl⟩ | ⟨-, hl⟩
    · exact ⟨rfl, rfl⟩
    · exact eps.addressed addr ep hl

def endpointsFromSession (session : Session) : Option SessionEndpoints :=
  session.allEndpoints.map (fun suppliers =>
    suppliers.foldl (fun eps s => eps.add (supplierEndpoint session s))
      ⟨∅, fun _ _ h => by simp at h⟩)

abbrev SessionEndpointsCache := GoMap String SessionEndpoints

def getOrCreateSessionEndpoints (cache : SessionEndpointsCache) (session : Session) :
    Option SessionEndpoints × SessionEndpointsCache :=
  match cache.lookup session.sessionId with
  | some cached =>
    match cached.endpoints.entries with
    | [] => (some cached, cache)
    | first :: _ =>
      if first.2.session.sessionStartBlockHeight = session.sessionStartBlockHeight then
        (some cached, cache)
      else
        match endpointsFromSession session with
        | none => (none, cache.erase session.sessionId)
        | some eps => (some eps, cache.insert session.sessionId eps)
  | none =>
    match endpointsFromSession session with
    | none => (none, cache)
    | some eps => (some eps, cache.insert session.sessionId eps)

/-- The endpoints of the sessions in order; a session whose endpoints cannot be
listed is skipped. No later filter touches the cache. -/
def resolveSessions : SessionEndpointsCache → List Session → List SessionEndpoints
  | _, [] => []
  | cache, s :: ss =>
    match getOrCreateSessionEndpoints cache s with
    | (none, cache) => resolveSessions cache ss
    | (some eps, cache) => eps :: resolveSessions cache ss

def supplierOfAddr (addr : EndpointAddr) : String :=
  if GoStrings.before '-' addr = "" then addr else GoStrings.before '-' addr

end PathGateway
