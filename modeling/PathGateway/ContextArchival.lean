import PathGateway.BatchArchival
import PathGateway.RelayHandling
import PathGateway.SingleRequest

/-! The relays over the protocol contexts of a request: over its one context where it has a single
payload, and over all of them in parallel where it has several contexts. Each relay is kept with
the lookup that its endpoint is from. -/

namespace PathGateway.Evm

open BatchGateway Lookup List Option

structure Setup extends Lookup where
  selectDraws : List ℕ
  build : EndpointAddr → BuildOutcome
  fresh : EndpointAddr → Lookup

variable {requiresArchival : Bool}

namespace BatchGateway

section Contexts

variable (gw : BatchGateway)

def relaySettings : RelaySettings := ⟨gw.evm.net, gw.heur, gw.retryConfig, gw.scored⟩

def requestAnswers (requiresArchival : Bool) (setup : Setup) : RequestAnswers where
  available := setup.available
  select := gw.select setup.toLookup requiresArchival setup.selectDraws
  build := setup.build
  fresh ep := (setup.fresh ep).available

def setupLookup (setup : Setup) : Lookup :=
  { setup.toLookup with
    available := setup.available.map (avoidBroken gw.evm.net gw.circuitBreaker) }

def contexts (requiresArchival : Bool) (setup : Setup) : RelayLog :=
  ((buildProtocolContexts gw.evm.net gw.circuitBreaker gw.maxParallelEndpoints
    (gw.requestAnswers requiresArchival setup)).toOption.getD []).map
    (fun ctx => (ctx.1, some (ctx.2.elim (gw.setupLookup setup) setup.fresh)))

end Contexts

variable {gw : BatchGateway} {setup : Setup}

structure ArchivalSetup (gw : BatchGateway) (setup : Setup) : Prop where
  selected : ∀ addr ∈ (gw.setupLookup setup).pool gw.evm false, setup.build addr = .built →
    addr ∈ (gw.setupLookup setup).pool gw.evm true
  replaced : ∀ ep ∈ (gw.setupLookup setup).pool gw.evm false, setup.build ep = .unavailable →
    ∀ addr ∈ (setup.fresh ep).endpoints, addr ≠ ep → setup.build addr = .built →
      addr ∈ (setup.fresh ep).pool gw.evm true

theorem select_eq_ok {l : Lookup} {draws : List ℕ} {numEndpoints : ℕ}
    {endpoints selected : List EndpointAddr}
    (h : gw.select l requiresArchival draws endpoints numEndpoints = .ok selected) :
    (∀ addr ∈ selected, addr ∈ l.service.pool gw.evm l.now requiresArchival endpoints) ∧
    selected.length ≤ max 1 numEndpoints := by
  refine ServiceState.always_selectMultipleWithArchival_subset draws selected ?_
  rw [select] at h
  cases hselect : (l.service.selectMultipleWithArchival gw.evm l.now endpoints numEndpoints
      requiresArchival draws).1 with
  | error err => simp [hselect, Except.mapError] at h
  | ok picked => simpa [hselect, Except.mapError] using h

theorem setupLookup_endpoints {available : List EndpointAddr}
    (h : setup.available = .ok available) :
    (gw.setupLookup setup).endpoints = avoidBroken gw.evm.net gw.circuitBreaker available :=
  endpoints_eq (by rw [setupLookup, h]; rfl)

theorem contexts_spec (gw : BatchGateway) (requiresArchival : Bool) (setup : Setup) :
    gw.contexts requiresArchival setup = [] ∨
      ∃ available selected, setup.available = .ok available ∧
        gw.select setup.toLookup requiresArchival setup.selectDraws
          (avoidBroken gw.evm.net gw.circuitBreaker available) gw.maxParallelEndpoints =
            .ok selected ∧
        gw.contexts requiresArchival setup =
          (selected.foldl (buildContext (gw.requestAnswers requiresArchival setup)) ([], [])).1.map
            (fun ctx => (ctx.1, some (ctx.2.elim (gw.setupLookup setup) setup.fresh))) := by
  cases hcontexts : buildProtocolContexts gw.evm.net gw.circuitBreaker gw.maxParallelEndpoints
      (gw.requestAnswers requiresArchival setup) with
  | error => exact .inl (by rw [contexts, hcontexts]; rfl)
  | ok =>
    obtain ⟨available, selected, havailable, hselected, rfl⟩ :=
      buildProtocolContexts_eq_ok hcontexts
    exact .inr ⟨available, selected, havailable, hselected, by rw [contexts, hcontexts]; rfl⟩

theorem routed_contexts (h : ArchivalSetup gw setup) : Routed gw.evm (gw.contexts false setup) := by
  rcases contexts_spec gw false setup with hnil | ⟨available, selected, havailable, hselected, heq⟩
  · simp [hnil, Routed]
  intro relay hrelay
  rw [heq] at hrelay
  obtain ⟨⟨addr, replaces⟩, hctx, rfl⟩ := mem_map.mp hrelay
  obtain ⟨hbuilt, hstands⟩ := stands_foldl selected (fun _ hep => hep) _ (by simp) _ hctx
  have hpool : ∀ ep ∈ selected, ep ∈ (gw.setupLookup setup).pool gw.evm false := by
    rw [pool, setupLookup_endpoints havailable]
    exact (select_eq_ok hselected).1
  refine ⟨_, rfl, admits_iff.mpr ?_⟩
  cases replaces with
  | none => exact h.selected addr (hpool addr hstands) hbuilt
  | some replaced =>
    obtain ⟨hreplaced, hunavailable, hother, fresh, hfresh, hmem⟩ := hstands
    refine h.replaced replaced (hpool replaced hreplaced) hunavailable addr ?_ hother hbuilt
    rwa [endpoints_eq hfresh]

theorem length_contexts :
    (gw.contexts requiresArchival setup).length ≤ max 1 gw.maxParallelEndpoints := by
  rcases contexts_spec gw requiresArchival setup with hnil | ⟨_, selected, -, hselected, heq⟩
  · simp [hnil]
  · rw [heq, length_map]
    refine (length_foldl_buildContext selected ([], [])).trans ?_
    simpa using (select_eq_ok hselected).2

end BatchGateway

def RouteEvent.asSingleEvent (gw : BatchGateway) (requiresArchival : Bool) :
    RouteEvent SingleEvent → Option SingleEvent :=
  choose gw requiresArchival .attempt .race fun
    | .attempt _ | .race (.delayElapsed _ _) => true
    | _ => false

theorem asSingleEvent_ranked {gw : BatchGateway} {event : RouteEvent SingleEvent}
    {singleEvent : SingleEvent} (hattempt : ∀ a, event ≠ .attempt a)
    (h : event.asSingleEvent gw requiresArchival = some singleEvent) :
    (∀ answers, singleEvent ≠ .attempt answers) ∧ Single.Ranked singleEvent := by
  cases event with
  | attempt a => exact absurd rfl (hattempt a)
  | hedgeDelay ranking draws =>
    cases h
    exact ⟨by simp, picks_rank ranking draws⟩
  | other event =>
    obtain ⟨hplain, heq⟩ := ite_none_left_eq_some.mp h
    cases heq
    cases singleEvent with
    | attempt => exact absurd rfl hplain
    | race event =>
      cases event with
      | delayElapsed => exact absurd rfl hplain
      | _ => exact ⟨by simp, trivial⟩
    | _ => exact ⟨by simp, trivial⟩

structure SingleRoute where
  single : Single
  origin : Option Lookup
  hedge : Option Lookup
  sent : RelayLog

namespace SingleRoute

section Step

variable (gw : BatchGateway) (cfg : SingleConfig) (requiresArchival : Bool)

def start (ctx : EndpointAddr × Option Lookup) : SingleRoute :=
  ⟨Single.start cfg ctx.1, ctx.2, none, []⟩

def lookupFor (s : SingleRoute) : RouteEvent SingleEvent → Option Lookup
  | .attempt a => if s.single.attempt = 1 then s.origin else some a.toLookup
  | _ => s.hedge

def hedgeAfter (s : SingleRoute) (single : Single) : RouteEvent SingleEvent → Option Lookup
  | .attempt a => if single.phase = .racing then some a.toLookup else s.hedge
  | _ => s.hedge

def note (s : SingleRoute) (single : Single) (event : RouteEvent SingleEvent) : SingleRoute :=
  ⟨single, s.origin, s.hedgeAfter single event,
    s.sent ++ newRelays s.single.starts single.starts (s.lookupFor event)⟩

def step (s : SingleRoute) (event : RouteEvent SingleEvent) : Option SingleRoute := do
  let singleEvent ← event.asSingleEvent gw requiresArchival
  let single ← s.single.step cfg singleEvent
  return s.note single event

end Step

variable {gw : BatchGateway} {cfg : SingleConfig} {s s' : SingleRoute}
  {event : RouteEvent SingleEvent}

theorem step_eq_some : s.step gw cfg requiresArchival event = some s' ↔
    ∃ singleEvent, event.asSingleEvent gw requiresArchival = some singleEvent ∧
    ∃ single, s.single.step cfg singleEvent = some single ∧ s.note single event = s' := by
  simp only [step, bind, bind_eq_some_iff, pure, some.injEq]

/-- The endpoints that a race or a retry can choose, without the archival check, are those that
the check would have left. -/
def Archival (gw : BatchGateway) (cfg : SingleConfig) (s : SingleRoute) :
    RouteEvent SingleEvent → Prop
  | .attempt a => s.single.clientErr = none →
    if s.single.attempt = 1 then
      cfg.hedging = true → ∀ addr ∈ a.pool gw.evm false, addr ∈ a.pool gw.evm true
    else
      ∀ addr ∈ filterEndpoints cfg.net (a.pool gw.evm false)
        (s.single.current :: s.single.triedEndpoints)
        (markDomainTried cfg.net s.single.triedDomains s.single.current),
        addr ∈ a.pool gw.evm true
  | _ => True

structure OnCourse (gw : BatchGateway) (s : SingleRoute) : Prop where
  routed : Routed gw.evm s.sent
  begun : 1 ≤ s.single.attempt
  first : s.single.attempt = 1 → Target gw.evm s.origin s.single.target
  offered : ∀ r, s.single.racer = some r → ∀ ep ∈ r.availableEndpoints, Target gw.evm s.hedge ep

theorem routed_note {single : Single} (h : Routed gw.evm s.sent)
    (hstarts : single.starts = s.single.starts ∨ ∃ start, single.starts =
      s.single.starts ++ [start] ∧ Target gw.evm (s.lookupFor event) start.endpointAddr) :
    Routed gw.evm (s.note single event).sent := by
  rw [note]
  rcases hstarts with hsame | ⟨start, hstart, htarget⟩
  · rwa [hsame, newRelays_self, append_nil]
  · rw [hstart]
    exact h.append fun _ hmem => mem_singleton.mp hmem ▸ htarget

theorem OnCourse.attempt {a : Attempt} {single : Single} (h : OnCourse gw s)
    (harchival : Archival gw cfg s (.attempt a))
    (hbegins : Single.Begins cfg s.single (gw.answers false a) single) :
    OnCourse gw (s.note single (.attempt a)) := by
  have hfirst (hone : s.single.attempt = 1) :
      Target gw.evm (s.lookupFor (.attempt a)) s.single.target := by
    rw [lookupFor, if_pos hone]
    exact h.first hone
  cases hbegins with
  | clientGone | exhaust => exact ⟨routed_note h.routed (.inl rfl), h.begun, h.first, h.offered⟩
  | relay hclient hone =>
    exact ⟨routed_note h.routed (.inr ⟨_, rfl, hfirst hone⟩), h.begun, h.first, h.offered⟩
  | race hclient hone hhedging havailable =>
    refine ⟨routed_note h.routed (.inr ⟨_, rfl, hfirst hone⟩), h.begun, h.first, ?_⟩
    rintro r ⟨⟩ ep hep
    have harchival := harchival hclient
    rw [if_pos hone] at harchival
    refine ⟨_, rfl, admits_iff.mpr (harchival hhedging ep ?_)⟩
    exact (mem_validated havailable).mp hep
  | @retry available filtered new hclient hretry havailable hfiltered hne hnew =>
    have harchival := harchival hclient
    rw [if_neg hretry] at harchival
    refine ⟨routed_note h.routed (.inr ⟨_, rfl, ?_⟩), h.begun, fun hone => absurd hone hretry,
      h.offered⟩
    have hmem : new ∈ filtered := hnew ▸ picks_rank _ _ filtered hne
    rw [lookupFor, if_neg hretry]
    refine ⟨_, rfl, admits_iff.mpr (harchival _ ?_)⟩
    rw [← hfiltered, mem_filterEndpoints] at hmem
    exact mem_filterEndpoints.mpr ⟨(mem_validated havailable).mp hmem.1, hmem.2⟩

theorem OnCourse.between {single : Single} (h : OnCourse gw s) (hnot : ∀ a, event ≠ .attempt a)
    (hstarts : single.starts = s.single.starts ∨ ∃ start, single.starts = s.single.starts ++
    [start] ∧ ∃ r, s.single.racer = some r ∧ start.endpointAddr ∈ r.availableEndpoints)
    (hattempt : s.single.attempt ≤ single.attempt) (htarget : single.target = s.single.target)
    (hracer : ∀ r', single.racer = some r' → ∃ r, s.single.racer = some r ∧
    r'.availableEndpoints = r.availableEndpoints) : OnCourse gw (s.note single event) := by
  have hlookup : s.lookupFor event = s.hedge ∧ s.hedgeAfter single event = s.hedge := by
    cases event with
    | attempt a => exact absurd rfl (hnot a)
    | _ => exact ⟨rfl, rfl⟩
  refine ⟨routed_note h.routed (hstarts.imp id ?_), h.begun.trans hattempt, fun hone => ?_, ?_⟩
  · rintro ⟨start, hstart, r, hr, hmem⟩
    rw [hlookup.1]
    exact ⟨start, hstart, h.offered r hr _ hmem⟩
  · have hbegun := h.begun
    change single.attempt = 1 at hone
    change Target gw.evm s.origin single.target
    rw [htarget]
    exact h.first (by omega)
  · intro r' hr' ep hep
    obtain ⟨r, hr, hsame⟩ := hracer r' hr'
    change Target gw.evm (s.hedgeAfter single event) ep
    rw [hlookup.2]
    exact h.offered r hr ep (hsame ▸ hep)

theorem OnCourse.step (h : OnCourse gw s) (harchival : Archival gw cfg s event)
    (hstep : s.step gw cfg false event = some s') : OnCourse gw s' := by
  obtain ⟨singleEvent, hevent, single, hsingle, rfl⟩ := step_eq_some.mp hstep
  by_cases hattempt : ∃ a, event = .attempt a
  · obtain ⟨a, rfl⟩ := hattempt
    cases hevent
    cases Single.moves_of_step hsingle with
    | attempt hp hbegins => exact h.attempt harchival hbegins
  · have hnot : ∀ a, event ≠ .attempt a := fun a heq => hattempt ⟨a, heq⟩
    obtain ⟨hother, hranked⟩ := asSingleEvent_ranked hnot hevent
    obtain ⟨hlater, htarget, -, hsent⟩ := Single.step_frame hother hsingle
    rcases hsent with ⟨hracer, hnone⟩ | ⟨raceEvent, r, r', rfl, hr, hmove, hr', hadds⟩
    · exact h.between hnot (.inl hnone) hlater htarget fun r' hr' => ⟨r', hracer ▸ hr', rfl⟩
    · refine h.between hnot ?_ hlater htarget fun q hq => ⟨r, hr, ?_⟩
      · refine (Racer.adds_of_step hmove hranked.delay hadds).imp_right ?_
        rintro ⟨-, -, -, hmem, hstarts⟩
        exact ⟨_, hstarts, r, hr, (mem_hedgeCandidates.mp hmem).1⟩
      · cases hr'.symm.trans hq
        exact Racer.step_availableEndpoints hmove

theorem onCourse_start {ctx : EndpointAddr × Option Lookup} (h : Target gw.evm ctx.2 ctx.1) :
    OnCourse gw (start cfg ctx) := by
  simp only [start, Single.start]
  split
  · exact ⟨by simp [Routed], le_rfl, fun _ => h, by simp⟩
  · exact ⟨by simp [Routed], le_rfl, fun _ => h, by simp [Single.exhaust]⟩

end SingleRoute

structure BranchData where
  brokenDomains : List String
  relay : ℕ → RelayAnswer
  rotation : ℕ → Attempt

namespace BatchGateway

variable (gw : BatchGateway) (requiresArchival : Bool)

def rotationAnswers (a : Attempt) : RotationAnswers where
  available := a.available
  requiresArchival := requiresArchival
  selectMultipleWithArchival endpoints :=
    gw.select a.toLookup true a.selectDraws endpoints endpoints.length
  rank := gw.rank a.ranking a.rankDraws
  buildErr := a.buildErr

def branchAnswers (b : BranchData) : BranchAnswers where
  brokenDomains := b.brokenDomains
  relay := b.relay
  rotation attempt := gw.rotationAnswers requiresArchival (b.rotation attempt)

def parallelConfig (payload : Payload) (branches : List BranchData) : ParallelConfig :=
  gw.relaySettings.parallelConfig gw.circuitBreaker.isSome payload
    (branches.map (gw.branchAnswers requiresArchival))

end BatchGateway

structure ParallelRoute where
  payload : Payload
  branches : List BranchData
  contexts : RelayLog
  parallel : Parallel
  sent : RelayLog

namespace ParallelRoute

section Step

variable (gw : BatchGateway) (requiresArchival : Bool)

def config (s : ParallelRoute) : ParallelConfig :=
  gw.parallelConfig requiresArchival s.payload s.branches

def start (payload : Payload) (branch : ℕ → BranchData) (contexts : RelayLog) : ParallelRoute :=
  let branches := (range contexts.length).map branch
  ⟨payload, branches, contexts,
    Parallel.start (gw.parallelConfig requiresArchival payload branches), []⟩

def workerRelay (s : ParallelRoute) (index : ℕ) (w : Worker) : RelayLog :=
  if w.attempt = 1 then s.contexts[index]?.toList
  else [(w.rotation.current, s.branches[index]?.map (fun b => (b.rotation w.attempt).toLookup))]

def relays (s : ParallelRoute) (parallel : Parallel) (event : ParallelEvent) : RelayLog :=
  (s.parallel.sender parallel event).elim [] (fun p => s.workerRelay p.1 p.2)

def step (s : ParallelRoute) (event : ParallelEvent) : Option ParallelRoute :=
  (s.parallel.step (s.config gw requiresArchival) event).map (fun parallel =>
    { s with parallel := parallel, sent := s.sent ++ s.relays parallel event })

end Step

variable {gw : BatchGateway} {s s' : ParallelRoute} {event : ParallelEvent}

/-- The endpoints that a retry can choose are those that the archival check would have left. -/
def Archival (gw : BatchGateway) (s : ParallelRoute) : ParallelEvent → Prop
  | .work index => ∀ w b, s.parallel.workers[index]? = some w → s.branches[index]? = some b →
    s.parallel.ctxErr = none → w.phase = .looping → w.attempt ≠ 1 →
    ∀ addr ∈ filterEndpoints gw.evm.net (b.rotation w.attempt).endpoints
      (w.rotation.current :: w.rotation.triedEndpoints)
      (markDomainTried gw.evm.net w.rotation.triedDomains w.rotation.current),
      addr ∈ (b.rotation w.attempt).pool gw.evm true
  | _ => True

structure OnCourse (gw : BatchGateway) (s : ParallelRoute) : Prop where
  routed : Routed gw.evm s.sent
  contexts : Routed gw.evm s.contexts

theorem OnCourse.worker {index : ℕ} {parallel : Parallel} {v : Worker} (h : OnCourse gw s)
    (harchival : Archival gw s event)
    (hstep : s.parallel.step (s.config gw false) event = some parallel)
    (hsender : s.parallel.sender parallel event = some (index, v)) :
    Routed gw.evm (s.workerRelay index v) := by
  obtain ⟨rfl, w, b, hw, hb, hlive, hlooping, rfl, hphase⟩ := Parallel.sender_eq_some hstep hsender
  obtain ⟨bd, hbd, rfl⟩ : ∃ bd, s.branches[index]? = some bd ∧ gw.branchAnswers false bd = b := by
    rwa [config, parallelConfig, RelaySettings.parallelConfig, getElem?_map, map_eq_some_iff] at hb
  rw [workerRelay, Worker.attempt_beginAttempt]
  split_ifs with hretry
  · intro relay hrelay
    exact h.contexts relay (mem_of_getElem? (mem_toList.mp hrelay))
  · intro relay hrelay
    rw [mem_singleton.mp hrelay, hbd]
    refine ⟨_, rfl, admits_iff.mpr (harchival w bd hw hbd hlive hlooping hretry _ ?_)⟩
    obtain ⟨-, available, havailable, hmem⟩ :=
      Rotation.spec_next (picks_rank _ _) (Worker.next_of_relaying hretry hphase)
    rwa [endpoints_eq (l := (bd.rotation w.attempt).toLookup) havailable]

theorem OnCourse.step (h : OnCourse gw s) (harchival : Archival gw s event)
    (hstep : s.step gw false event = some s') : OnCourse gw s' := by
  obtain ⟨parallel, hparallel, rfl⟩ := map_eq_some_iff.mp hstep
  refine ⟨fun relay hrelay => ?_, h.contexts⟩
  rcases mem_append.mp hrelay with hold | hnew
  · exact h.routed relay hold
  · rw [relays] at hnew
    cases hsender : s.parallel.sender parallel event with
    | none => simp [hsender] at hnew
    | some => exact h.worker harchival hparallel hsender relay (by simpa [hsender] using hnew)

theorem onCourse_start {payload : Payload} {branch : ℕ → BranchData} {contexts : RelayLog}
    (h : Routed gw.evm contexts) : OnCourse gw (start gw false payload branch contexts) :=
  ⟨by simp [Routed, start], h⟩

end ParallelRoute

end PathGateway.Evm
