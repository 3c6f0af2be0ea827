import PathGateway.RebindSelection
import PathGateway.RunningBridge

/-! The rebinds of one WebSocket connection. A rebind is an episode of up to five attempts, and
each attempt changes what the next one reads: the request to leave the operator is consumed by the
first, and a failed dial leaves the connection bound to the endpoint that did not answer. -/

namespace PathGateway.Shannon

open Selector Websockets Machine Option GoMap

inductive RebindTrigger where
  | rollover
  | stall
  | admin
  | sessionExpired
  deriving DecidableEq, Repr

structure Candidates where
  endpoints : EndpointMap
  addressed : ∀ addr ep, endpoints.lookup addr = some ep → ep.addr = addr

/-- What one attempt meets: the candidates, unless the sessions or their endpoints cannot be had,
their scores, what chance draws, and whether the headers are built, the handshake is signed and
the endpoint answers the dial. -/
structure Attempt where
  candidates : Option Candidates
  scoreOf : Endpoint → ℚ
  draws : List ℕ
  headersBuilt : Bool
  handshakeSigned : Bool
  dialed : Bool

inductive ReconnectResult where
  | connected (ep : Endpoint)
  | failed (reason : RebindFailure)
  | panicked

def ReconnectResult.boundAddr : ReconnectResult → Option EndpointAddr
  | .connected ep => some ep.addr
  | _ => none

def getWebsocketEndpointURL : Endpoint → Option String
  | .protocol e =>
    let url := (Endpoint.protocol e).getURL .websocket
    if url = "" then none else some url
  | .fallback e => e.rpcTypeURLs.lookup .websocket

structure WebsocketRequestContext where
  selectedEndpoint : Endpoint
  reconnectEndpoint : Option Endpoint := none
  lastReconnectDifferentSupplier : Bool := false
  lastReconnectReason : Option RebindFailure := none
  lastReconnectTrigger : Option RebindTrigger := none
  sessionExpiryRebindRequested : Bool := false
  adminTumbleRequested : Bool := false

namespace WebsocketRequestContext

variable (w : WebsocketRequestContext) (c : RebindSettings)

def signingEndpoint : Endpoint :=
  w.reconnectEndpoint.getD w.selectedEndpoint

def onTumbleRequested : WebsocketRequestContext :=
  { w with adminTumbleRequested := true }

def onSessionExpiryRebindRequested : WebsocketRequestContext :=
  { w with sessionExpiryRebindRequested := true }

def takeTrigger (avoidCurrentSupplier : Bool) : RebindAvoidScope × WebsocketRequestContext :=
  if w.adminTumbleRequested then
    (.avoidBoundOperator,
      { w with lastReconnectTrigger := some .admin, adminTumbleRequested := false })
  else if avoidCurrentSupplier then
    (.avoidBoundBackend, { w with lastReconnectTrigger := some .stall })
  else if w.sessionExpiryRebindRequested then
    (.avoidNothing,
      { w with
        lastReconnectTrigger := some .sessionExpired
        sessionExpiryRebindRequested := false })
  else (.avoidNothing, { w with lastReconnectTrigger := some .rollover })

def getReconnectEndpoint (avoidScope : RebindAvoidScope) (a : Attempt) : RebindChoice :=
  match a.candidates with
  | none => .failed .sessionError
  | some cands =>
    if cands.endpoints.isEmpty then .failed .noEndpoints
    else (c.chooseRebindEndpoint cands.endpoints w.signingEndpoint.addr avoidScope a.scoreOf
      a.draws).1

def failReconnect (reason : RebindFailure) : ReconnectResult × WebsocketRequestContext :=
  (.failed reason, { w with lastReconnectReason := some reason })

def bindEndpoint (ep : Endpoint) (differentSupplier : Bool) (a : Attempt) :
    ReconnectResult × WebsocketRequestContext :=
  let w := { w with
    reconnectEndpoint := some ep
    lastReconnectDifferentSupplier := differentSupplier }
  if getWebsocketEndpointURL ep = none then w.failReconnect .select
  else if !ep.isFallback && !(a.headersBuilt && a.handshakeSigned) then w.failReconnect .select
  else if a.dialed then (.connected ep, w)
  else w.failReconnect .dial

def reconnect (avoidCurrentSupplier : Bool) (a : Attempt) :
    ReconnectResult × WebsocketRequestContext :=
  let taken := w.takeTrigger avoidCurrentSupplier
  match taken.2.getReconnectEndpoint c taken.1 a with
  | .panicked => (.panicked, taken.2)
  | .failed reason => taken.2.failReconnect reason
  | .chosen ep differentSupplier => taken.2.bindEndpoint ep differentSupplier a

end WebsocketRequestContext

/-- A run of `reconnectWithBackoff`: `result` is there once the loop is left. -/
structure Episode where
  context : WebsocketRequestContext
  avoidCurrentSupplier : Bool
  attempts : ℕ := 0
  result : Option ReconnectResult := none

/-- One pass of the loop. Without a further attempt the bridge's context is cancelled. -/
def Episode.step (c : RebindSettings) (e : Episode) (a : Attempt) : Option Episode :=
  if e.result.isSome then none
  else
    let (result, context) := e.context.reconnect c e.avoidCurrentSupplier a
    let again : Bool := match result with
      | .failed _ => e.attempts + 1 < reconnectMaxAttempts
      | _ => false
    some { e with
      context, attempts := e.attempts + 1, result := if again then none else some result }

def WebsocketRequestContext.beginRebind (w : WebsocketRequestContext) : RebindTrigger → Episode
  | .rollover => { context := w, avoidCurrentSupplier := false }
  | .stall => { context := w, avoidCurrentSupplier := true }
  | .admin => { context := w.onTumbleRequested, avoidCurrentSupplier := true }
  | .sessionExpired =>
    { context := w.onSessionExpiryRebindRequested, avoidCurrentSupplier := false }

def WebsocketRequestContext.rebind (c : RebindSettings) (w : WebsocketRequestContext)
    (r : RebindTrigger × List Attempt) : Option WebsocketRequestContext :=
  if r.2 = [] then none
  else (run (Episode.step c) (w.beginRebind r.1) r.2).map Episode.context

variable (net : NetLib) (a : Attempt)

/-- The address is outside the operator that a tumble leaves, or the backend that a stall
leaves. -/
def Leaves : RebindTrigger → EndpointAddr → EndpointAddr → Prop
  | .admin, origin, addr => operatorKey net addr ≠ operatorKey net origin
  | .stall, origin, addr => backendKey net addr ≠ backendKey net origin
  | _, _, _ => True

instance Leaves.decidable : ∀ trigger origin addr, Decidable (Leaves net trigger origin addr)
  | .admin, _, _ => inferInstanceAs (Decidable (_ ≠ _))
  | .stall, _, _ => inferInstanceAs (Decidable (_ ≠ _))
  | .rollover, _, _ => .isTrue trivial
  | .sessionExpired, _, _ => .isTrue trivial

def Attempt.addresses : List EndpointAddr :=
  a.candidates.elim [] (fun cands => cands.endpoints.keys)

def Attempt.topBand
    (preferredAddr : EndpointAddr) (scope : RebindAvoidScope) (a : Attempt) : List EndpointAddr :=
  a.candidates.elim [] (fun cands => reconnectTopBand a.scoreOf
    (applyAvoidScope net cands.endpoints preferredAddr scope).1.entries)

/-- If a later attempt than the first can connect, the candidates tied for best outside its own
scope are all outside what the rebind has to leave. -/
def KeepsAway
    (trigger : RebindTrigger) (origin : EndpointAddr) (e : Episode) (a : Attempt) : Prop :=
  e.attempts ≠ 0 → a.dialed = true →
    ∀ addr ∈ a.topBand net e.context.signingEndpoint.addr
      (e.context.takeTrigger e.avoidCurrentSupplier).1, Leaves net trigger origin addr

instance KeepsAway.decidable (trigger : RebindTrigger) (origin : EndpointAddr)
    (e : Episode) (a : Attempt) : Decidable (KeepsAway net trigger origin e a) := by
  unfold KeepsAway
  infer_instance

section Attempts

variable {c : RebindSettings} {w : WebsocketRequestContext} {a : Attempt} {ep : Endpoint}
  {avoid : Bool}

theorem takeTrigger_adminTumbleRequested :
    (w.takeTrigger avoid).2.adminTumbleRequested = false := by
  rw [WebsocketRequestContext.takeTrigger]
  split_ifs with htumble <;> simp_all

theorem takeTrigger_scope :
    (w.takeTrigger avoid).1 = if w.adminTumbleRequested then .avoidBoundOperator
      else if avoid then .avoidBoundBackend else .avoidNothing := by
  rw [WebsocketRequestContext.takeTrigger]
  split_ifs <;> rfl

theorem takeTrigger_signingEndpoint :
    (w.takeTrigger avoid).2.signingEndpoint = w.signingEndpoint := by
  rw [WebsocketRequestContext.takeTrigger]
  split_ifs <;> rfl

theorem reconnect_adminTumbleRequested :
    (w.reconnect c avoid a).2.adminTumbleRequested = false := by
  have htaken : (w.takeTrigger avoid).2.adminTumbleRequested = false :=
    takeTrigger_adminTumbleRequested
  rw [WebsocketRequestContext.reconnect]
  split
  · exact htaken
  · exact htaken
  · rw [WebsocketRequestContext.bindEndpoint]
    split_ifs <;> exact htaken

theorem chosen_of_connected (h : (w.reconnect c avoid a).1 = .connected ep) :
    a.dialed = true ∧ ∃ diff, (w.takeTrigger avoid).2.getReconnectEndpoint c
    (w.takeTrigger avoid).1 a = .chosen ep diff := by
  rw [WebsocketRequestContext.reconnect] at h
  split at h
  · cases h
  · cases h
  · rename_i ep' diff hchosen
    rw [WebsocketRequestContext.bindEndpoint] at h
    split_ifs at h with hurl hsign hdial
    all_goals cases h
    exact ⟨hdial, diff, hchosen⟩

theorem mem_topBand_of_connected (hscope : (w.takeTrigger avoid).1 ≠ .avoidNothing)
    (h : (w.reconnect c avoid a).1 = .connected ep) :
    ep.addr ∈ a.topBand c.net w.signingEndpoint.addr (w.takeTrigger avoid).1 := by
  obtain ⟨-, diff, hchosen⟩ := chosen_of_connected h
  rw [WebsocketRequestContext.getReconnectEndpoint, takeTrigger_signingEndpoint] at hchosen
  rw [Attempt.topBand]
  split at hchosen
  · cases hchosen
  · rename_i cands hcands
    split at hchosen
    · cases hchosen
    · rcases always_chooseRebindEndpoint hscope a.draws with hfail | ⟨addr, e, heq, hl, hband⟩
      · rw [hfail] at hchosen
        cases hchosen
      · rw [heq] at hchosen
        cases hchosen
        rw [hcands, elim_some, cands.addressed addr ep (lookup_of_applyAvoidScope hl)]
        exact hband

end Attempts

section Episodes

variable {c : RebindSettings} {net : NetLib} {w : WebsocketRequestContext} {e e' : Episode}
  {a : Attempt} {attempts : List Attempt} {trigger : RebindTrigger} {origin addr : EndpointAddr}
  {ep : Endpoint}

def RebindTrigger.scope : RebindTrigger → RebindAvoidScope
  | .admin => .avoidBoundOperator
  | .stall => .avoidBoundBackend
  | _ => .avoidNothing

theorem leaves_iff :
    Leaves net trigger origin addr ↔ excludedByScope net addr origin trigger.scope = false := by
  cases trigger <;> simp [Leaves, RebindTrigger.scope, excludedByScope]

theorem beginRebind_signingEndpoint :
    (w.beginRebind trigger).context.signingEndpoint = w.signingEndpoint := by
  cases trigger <;> rfl

theorem beginRebind_scope (hrest : w.adminTumbleRequested = false) :
    ((w.beginRebind trigger).context.takeTrigger (w.beginRebind trigger).avoidCurrentSupplier).1 =
      trigger.scope :=
    by
  rw [takeTrigger_scope]
  cases trigger <;> simp [WebsocketRequestContext.beginRebind, RebindTrigger.scope, hrest,
    WebsocketRequestContext.onTumbleRequested,
    WebsocketRequestContext.onSessionExpiryRebindRequested]

theorem takeTrigger_forced : (w.takeTrigger true).1 ≠ .avoidNothing := by
  rw [takeTrigger_scope]
  cases w.adminTumbleRequested <;> simp

theorem avoids_of_scope (h : trigger.scope ≠ .avoidNothing) :
    (w.beginRebind trigger).avoidCurrentSupplier = true := by
  cases trigger with
  | rollover | sessionExpired => exact absurd rfl h
  | stall | admin => rfl

theorem leaves_of_mem_topBand (hscope : trigger.scope ≠ .avoidNothing)
    (hoffer : ∃ addr ∈ a.addresses, Leaves net trigger origin addr)
    (hmem : addr ∈ a.topBand net origin trigger.scope) : Leaves net trigger origin addr := by
  obtain ⟨out, hout, hleaves⟩ := hoffer
  rw [Attempt.addresses] at hout
  rw [Attempt.topBand] at hmem
  cases hcands : a.candidates with
  | none => simp [hcands] at hmem
  | some =>
    rw [hcands, elim_some] at hmem hout
    obtain ⟨outEp, hl⟩ := isSome_iff_exists.mp (AList.lookup_isSome.mpr hout)
    rw [applyAvoidScope_eq hscope hl (leaves_iff.mp hleaves)] at hmem
    obtain ⟨ep, hep, -⟩ := mem_reconnectTopBand.mp hmem
    exact leaves_iff.mpr (lookup_outsideScope.mp (AList.mem_lookup_iff.mpr hep)).2

theorem step_eq_some (h : e.step c a = some e') :
    e'.attempts = e.attempts + 1 ∧ e'.avoidCurrentSupplier = e.avoidCurrentSupplier ∧
    e'.context = (e.context.reconnect c e.avoidCurrentSupplier a).2 ∧
    ∀ r, e'.result = some r → (e.context.reconnect c e.avoidCurrentSupplier a).1 = r := by
  rw [Episode.step] at h
  split at h
  · cases h
  · cases h
    refine ⟨rfl, rfl, rfl, fun r hr => ?_⟩
    dsimp only at hr
    split_ifs at hr
    exact some.inj hr

theorem rebind_adminTumbleRequested {w' : WebsocketRequestContext} {r : RebindTrigger ×
    List Attempt} (h : w.rebind c r = some w') : w'.adminTumbleRequested = false := by
  rw [WebsocketRequestContext.rebind] at h
  split at h
  · cases h
  · rename_i hne
    obtain ⟨e, hrun, rfl⟩ := map_eq_some_iff.mp h
    obtain ⟨a, rest, hcons⟩ := List.exists_cons_of_ne_nil hne
    rw [hcons] at hrun
    obtain ⟨e', hstep, hrun⟩ := run_cons.mp hrun
    have hstays : ∀ s a s', s.context.adminTumbleRequested = false →
        Episode.step c s a = some s' → s'.context.adminTumbleRequested = false := by
      intro s a s' _ hs
      rw [(step_eq_some hs).2.2.1]
      exact reconnect_adminTumbleRequested
    refine invariant_of_step (I := fun s => s.context.adminTumbleRequested = false) hstays ?_ hrun
    rw [(step_eq_some hstep).2.2.1]
    exact reconnect_adminTumbleRequested

theorem adminTumbleRequested_of_run {w' : WebsocketRequestContext}
    {history : List (RebindTrigger × List Attempt)} (hrest : w.adminTumbleRequested = false)
    (hrun : run (WebsocketRequestContext.rebind c) w history = some w') :
    w'.adminTumbleRequested = false :=
  invariant_of_step (I := fun w => w.adminTumbleRequested = false)
    (fun _ _ _ _ h => rebind_adminTumbleRequested h) hrest hrun

theorem leaves_of_step (hscope : trigger.scope ≠ .avoidNothing)
    (havoid : e.avoidCurrentSupplier = true) (hfirst : e.attempts = 0 →
    (e.context.takeTrigger true).1 = trigger.scope ∧ e.context.signingEndpoint.addr = origin)
    (hoffer : ∃ addr ∈ a.addresses, Leaves c.net trigger origin addr)
    (haway : KeepsAway c.net trigger origin e a) (h : e.step c a = some e')
    (hresult : e'.result = some (.connected ep)) : Leaves c.net trigger origin ep.addr := by
  have hconnected := (step_eq_some h).2.2.2 _ hresult
  rw [havoid] at hconnected
  have hband := mem_topBand_of_connected takeTrigger_forced hconnected
  rw [KeepsAway, havoid] at haway
  by_cases hzero : e.attempts = 0
  · obtain ⟨htaken, horigin⟩ := hfirst hzero
    rw [htaken, horigin] at hband
    exact leaves_of_mem_topBand hscope hoffer hband
  · exact haway hzero (chosen_of_connected hconnected).1 _ hband

/-- A tumble or a stall leaves what it has to leave, if no later attempt that can connect has
something of it among its best candidates. -/
theorem forcedRebind_leaves (c : RebindSettings) (selected : Endpoint)
    (history : List (RebindTrigger × List Attempt)) (w : WebsocketRequestContext)
    (trigger : RebindTrigger) (attempts : List Attempt) (e : Episode) (ep : Endpoint)
    (hlife : run (WebsocketRequestContext.rebind c) { selectedEndpoint := selected }
      history = some w)
    (hoffers : ∀ a ∈ attempts,
      ∃ addr ∈ a.addresses, Leaves c.net trigger w.signingEndpoint.addr addr)
    (haway : Machine.Meets (Episode.step c) (KeepsAway c.net trigger w.signingEndpoint.addr)
      (w.beginRebind trigger) attempts)
    (hrun : run (Episode.step c) (w.beginRebind trigger) attempts = some e)
    (hbound : e.result = some (.connected ep)) :
    Leaves c.net trigger w.signingEndpoint.addr ep.addr := by
  have hrest : w.adminTumbleRequested = false := adminTumbleRequested_of_run rfl hlife
  by_cases hscope : trigger.scope = .avoidNothing
  · rw [leaves_iff, hscope]
    rfl
  · have havoid := avoids_of_scope (w := w) hscope
    let I (e : Episode) : Prop := e.avoidCurrentSupplier = true ∧
      (e.attempts = 0 → (e.context.takeTrigger true).1 = trigger.scope ∧
        e.context.signingEndpoint.addr = w.signingEndpoint.addr) ∧
      ∀ ep, e.result = some (.connected ep) → Leaves c.net trigger w.signingEndpoint.addr ep.addr
    have hstep : ∀ s a s', I s → (KeepsAway c.net trigger w.signingEndpoint.addr s a ∧
        ∃ addr ∈ a.addresses, Leaves c.net trigger w.signingEndpoint.addr addr) →
        s.step c a = some s' → I s' := by
      rintro s a s' ⟨hs, hfirst, -⟩ ⟨hkeeps, hoffer⟩ h
      obtain ⟨hcount, hsame, -, -⟩ := step_eq_some h
      refine ⟨hsame.trans hs, fun hzero => ?_, fun ep hep => ?_⟩
      · rw [hcount] at hzero
        cases hzero
      · exact leaves_of_step hscope hs hfirst hoffer hkeeps h hep
    have hbegin : I (w.beginRebind trigger) := by
      refine ⟨havoid, fun _ => ⟨?_, ?_⟩, fun ep hep => ?_⟩
      · rw [← havoid]
        exact beginRebind_scope hrest
      · rw [beginRebind_signingEndpoint]
      · cases trigger <;> cases hep
    exact (invariant hstep hbegin (haway.and hoffers) hrun).2.2 ep hbound

def webSocketEndpoint (supplier url : String) : Endpoint :=
  .protocol ⟨supplier, build (fun _ => some url) [.websocket], url, ⟨"session", 1, some []⟩⟩

def attemptAmong (scored : List (Endpoint × ℚ)) (dialed : Bool) : Attempt where
  candidates := some ⟨index Endpoint.addr (scored.map Prod.fst),
    fun _ _ => key_of_lookup_index⟩
  scoreOf ep := ((scored.find? (fun s => s.1.addr = ep.addr)).map Prod.snd).getD 0
  draws := []
  headersBuilt := true
  handshakeSigned := true
  dialed

def uniformRebinds : RebindSettings := ⟨.ascii, {}, "eth", 0, true⟩

def firstOperator : Endpoint := webSocketEndpoint "s1" "https://a.one.io"

def secondOperator : Endpoint := webSocketEndpoint "s2" "https://b.two.io"

def thirdOperator : Endpoint := webSocketEndpoint "s3" "https://c.three.io"

def boundToFirst : WebsocketRequestContext := { selectedEndpoint := firstOperator }

def onToThird : List Attempt :=
  [attemptAmong [(firstOperator, 80), (secondOperator, 90), (thirdOperator, 80)] false,
    attemptAmong [(firstOperator, 80), (secondOperator, 70), (thirdOperator, 85)] true]

theorem tumbled_onto_third : ∃ e ep,
    run (Episode.step uniformRebinds) (boundToFirst.beginRebind .admin) onToThird = some e ∧
      e.result = some (.connected ep) ∧ ep.addr = thirdOperator.addr ∧
      Leaves .ascii .admin firstOperator.addr ep.addr := by
  obtain ⟨e, hrun, r, he, haddr⟩ : ∃ e,
      run (Episode.step uniformRebinds) (boundToFirst.beginRebind .admin) onToThird =
        some e ∧ ∃ r, e.result = some r ∧ r.boundAddr = some thirdOperator.addr := by
    decide +kernel
  cases r with
  | failed | panicked => cases haddr
  | connected ep =>
    refine ⟨e, ep, hrun, he, some.inj haddr, ?_⟩
    exact forcedRebind_leaves uniformRebinds firstOperator [] boundToFirst .admin onToThird e ep
      rfl (by decide +kernel) (by decide +kernel) hrun he

theorem failed_dial_leads_back : ∃ attempts, ∀ trigger ∈ [RebindTrigger.admin, .stall],
    (∀ a ∈ attempts, ∃ addr ∈ a.addresses, Leaves .ascii trigger firstOperator.addr addr) ∧
      ((run (Episode.step uniformRebinds) (boundToFirst.beginRebind trigger) attempts).bind
        Episode.result).bind ReconnectResult.boundAddr = some firstOperator.addr ∧
      ¬Leaves .ascii trigger boundToFirst.signingEndpoint.addr firstOperator.addr :=
  ⟨[attemptAmong [(firstOperator, 80), (secondOperator, 80)] false,
    attemptAmong [(firstOperator, 80), (secondOperator, 80)] true], by decide +kernel⟩

end Episodes

end PathGateway.Shannon
