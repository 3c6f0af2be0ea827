import PathGateway.ContextSetup
import PathGateway.RelayHandling
import PathGateway.RetryRotation

/-! The relays of a whole request beside the domains that are broken when it is set up. The
selection of the first endpoints leaves these domains out, and so do the retries; the replacement
of an endpoint that became unavailable and the hedge of a single request do not. -/

namespace PathGateway

open List ContextSetup Option Machine

section Domains

variable {net : NetLib} {broken domains : List String} {ep : EndpointAddr}

def OfBroken (net : NetLib) (broken : List String) (ep : EndpointAddr) : Prop :=
  extractDomainFromEndpoint net ep ≠ "" ∧ extractDomainFromEndpoint net ep ∈ broken

instance (net : NetLib) (broken : List String) : DecidablePred (OfBroken net broken) :=
  fun _ => inferInstanceAs (Decidable (_ ∧ _))

theorem mem_filterEndpointsByBrokenDomains {endpoints : List EndpointAddr} :
    ep ∈ filterEndpointsByBrokenDomains net endpoints broken ↔ ep ∈ endpoints ∧
    ¬OfBroken net broken ep := by
  simp [filterEndpointsByBrokenDomains, OfBroken, imp_iff_not_or]

theorem not_ofBroken_of_mem_avoidBroken {endpoints : List EndpointAddr} {other : EndpointAddr}
    (hother : other ∈ endpoints) (houtside : ¬OfBroken net broken other)
    (h : ep ∈ avoidBroken net (some broken) endpoints) : ¬OfBroken net broken ep := by
  have hkept : other ∈ filterEndpointsByBrokenDomains net endpoints broken :=
    mem_filterEndpointsByBrokenDomains.mpr ⟨hother, houtside⟩
  unfold avoidBroken at h
  dsimp only at h
  split_ifs at h with hnil
  · simp [OfBroken, hnil]
  · split at h
    · rename_i hnil
      rw [hnil] at hkept
      cases hkept
    · rename_i first rest hfiltered
      rw [← hfiltered] at h
      exact (mem_filterEndpointsByBrokenDomains.mp h).2

theorem not_ofBroken_of_mem_filterEndpoints {available tried : List EndpointAddr}
    (hbroken : ∀ d ∈ broken, d ∈ domains) (h : ep ∈ filterEndpoints net available tried domains) :
    ¬OfBroken net broken ep := by
  rintro ⟨-, hmem⟩
  have htried := (mem_filterEndpoints.mp h).2.2
  rw [domainTried, Bool.or_eq_false_iff] at htried
  have hcontains := contains_iff_mem.mpr (hbroken _ hmem)
  rw [htried.1] at hcontains
  cases hcontains

end Domains

variable {answers : AttemptAnswers}

variable {ep : EndpointAddr} {result : RelayResult} {event : RaceEvent}

namespace Single

variable {cfg : SingleConfig} {s s' : Single} {broken : List String}

def Seeded (broken : List String) (s : Single) : Prop := ∀ d ∈ broken, d ∈ s.triedDomains

def HedgesOutside (net : NetLib) (broken : List String) (s : Single) : SingleEvent → Prop
  | .race (.delayElapsed _ none) => ∀ r ∈ s.racer,
    ∀ ep ∈ hedgeCandidates net r.availableEndpoints r.primaryEndpoint, ¬OfBroken net broken ep
  | _ => True

instance (net : NetLib) (broken : List String) (s : Single) :
    DecidablePred (s.HedgesOutside net broken)
  | .race (.delayElapsed _ none) => inferInstanceAs (Decidable (∀ r ∈ s.racer, _))
  | .race (.delayElapsed _ (some _)) | .race (.branchDone _ _) | .race (.branchCut _ _ _)
  | .race .receive | .race .loserTimeout | .race .secondTimeout | .race .callerDone
  | .race .cleanupReceive | .race .graceExpired | .clientDone _ | .attempt _ | .relayDone _
  | .delayOver | .delayCut => .isTrue trivial

structure Outside (cfg : SingleConfig) (broken : List String) (s : Single) : Prop where
  relays : ∀ start ∈ s.starts, ¬OfBroken cfg.net broken start.endpointAddr
  begun : 1 ≤ s.attempt
  first : s.attempt = 1 → ¬OfBroken cfg.net broken s.target
  seeded : s.Seeded broken

theorem outside_start {target : EndpointAddr} (htarget : ¬OfBroken cfg.net broken target)
    (hlater : ∀ d ∈ broken, d ∈ cfg.circuitBreaker.getD []) :
    Outside cfg broken (start cfg target) := by
  unfold start
  dsimp only
  split
  · exact ⟨by simp, le_rfl, fun _ => htarget, hlater⟩
  · exact ⟨by simp [exhaust], le_rfl, fun _ => htarget, hlater⟩

theorem Begins.outside (hbegins : Begins cfg s answers s') (h : Outside cfg broken s)
    (hrank : Picks answers.rank) : Outside cfg broken s' := by
  have hsent {ep} (hep : ¬OfBroken cfg.net broken ep) :
      ∀ start ∈ s.starts ++ [⟨ep, false⟩], ¬OfBroken cfg.net broken start.endpointAddr :=
    forall_mem_append.mpr ⟨h.relays, forall_mem_singleton.mpr hep⟩
  have hseeded : ∀ d ∈ broken, d ∈ markDomainTried cfg.net s.triedDomains s.current :=
    fun d hd => mem_markDomainTried (h.seeded d hd)
  cases hbegins with
  | clientGone => exact ⟨h.relays, h.begun, h.first, h.seeded⟩
  | relay hclient hfirst | race hclient hfirst =>
    exact ⟨hsent (h.first hfirst), h.begun, h.first, h.seeded⟩
  | exhaust => exact ⟨h.relays, h.begun, h.first, hseeded⟩
  | retry hclient hretry havailable hfiltered hne hnew =>
    refine ⟨hsent ?_, h.begun, fun hfirst => absurd hfirst hretry, hseeded⟩
    subst hfiltered hnew
    exact not_ofBroken_of_mem_filterEndpoints hseeded (hrank _ hne)

theorem Outside.step {event : SingleEvent} (h : Outside cfg broken s) (hrank : Ranked event)
    (hhedges : HedgesOutside cfg.net broken s event) (hstep : s.step cfg event = some s') :
    Outside cfg broken s' := by
  by_cases hattempt : ∃ answers, event = .attempt answers
  · obtain ⟨answers, rfl⟩ := hattempt
    cases moves_of_step hstep with
    | attempt hp hbegins => exact hbegins.outside h hrank
  · have hbegun := h.begun
    obtain ⟨hlater, htarget, hdomains, hsent⟩ :=
      step_frame (fun answers heq => hattempt ⟨answers, heq⟩) hstep
    refine ⟨?_, hbegun.trans hlater, fun hone => htarget ▸ h.first (by omega),
      fun d hd => hdomains d (h.seeded d hd)⟩
    rcases hsent with ⟨-, hnone⟩ | ⟨raceEvent, r, r', rfl, hracer, hmove, -, hadds⟩
    · exact hnone ▸ h.relays
    · rcases Racer.adds_of_step hmove hrank.delay hadds with
        hnone | ⟨-, ⟨rank, rfl⟩, -, hmem, hstarts⟩
      · exact hnone ▸ h.relays
      · rw [hstarts]
        exact forall_mem_append.mpr ⟨h.relays, forall_mem_singleton.mpr (hhedges r hracer _ hmem)⟩

end Single

namespace Item

variable {cfg : ItemConfig} {s s' : Item} {broken : List String}

def Seeded (broken : List String) (s : Item) : Prop := ∀ d ∈ broken, d ∈ s.triedDomains

theorem Seeded.step {event : ItemEvent} (h : Seeded broken s)
    (hstep : s.step cfg event = some s') : Seeded broken s' := by
  have hmark (ep : EndpointAddr) : ∀ d ∈ broken, d ∈ markDomainTried cfg.net s.triedDomains ep :=
    fun d hd => mem_markDomainTried (h d hd)
  cases moves_of_step hstep with
  | clientDone => exact h
  | attempt _ hbegins =>
    cases hbegins with
    | clientGone => exact h
    | unavailable hleaves | starved _ _ _ hleaves => cases hleaves <;> exact h
    | uses _ _ _ _ huses =>
      cases huses with
      | unbuilt hleaves => cases hleaves <;> exact hmark _
      | race | relay => exact hmark _
  | @race _ _ r' _ _ _ hraces =>
    cases hraces with
    | running => exact h
    | ended _ _ _ hends =>
      cases hends with
      | passed | unanswered => exact h
      | @failed _ _ _ _ domains _ _ _ htried hsame hleaves =>
        have hdomains : ∀ d ∈ broken, d ∈ domains := by
          by_cases hedge : r'.hedgeEndpoint = ""
          · obtain ⟨-, rfl⟩ := hsame hedge
            exact h
          · obtain ⟨-, rfl⟩ := htried hedge
            exact hmark _
        cases hleaves <;> exact hdomains
  | relayDone _ hends | relayCut _ _ hends =>
    cases hends with
    | passed => exact h
    | failed _ hleaves => cases hleaves <;> exact h

structure Outside (cfg : ItemConfig) (broken : List String) (s : Item) : Prop where
  relays : ∀ start ∈ s.starts, ¬OfBroken cfg.net broken start.endpointAddr
  aims : s.Aims (fun ep => ¬OfBroken cfg.net broken ep)
  seeded : s.Seeded broken

theorem outside_start (hlater : ∀ d ∈ broken, d ∈ cfg.brokenDomains) :
    Outside cfg broken (start cfg) := by
  obtain ⟨phase, heq, hphase⟩ := start_eq cfg
  rw [heq]
  refine ⟨by simp, RaceOver.aims (by simp [RaceOver]) ?_, hlater⟩
  rcases hphase with rfl | ⟨resp, rfl⟩ <;> simp

theorem Outside.step {event : ItemEvent} (h : Outside cfg broken s) (hrank : Ranked event)
    (hstep : s.step cfg event = some s') : Outside cfg broken s' := by
  have hsends : Sends (fun ep => ¬OfBroken cfg.net broken ep) s s' := by
    by_cases hattempt : ∃ answers, event = .attempt answers
    · obtain ⟨answers, rfl⟩ := hattempt
      cases moves_of_step hstep with
      | attempt hp hbegins =>
        refine hbegins.sends hrank (h.aims.raceOver (by simp [hp])) fun _ available _ ep hep => ?_
        exact not_ofBroken_of_mem_filterEndpoints h.seeded hep
    · refine h.aims.sends_step (fun answers heq => hattempt ⟨answers, heq⟩) ?_ hstep
      rintro rank buildErr rfl
      exact hrank
  obtain ⟨⟨new, hnew, houtside⟩, haims⟩ := hsends
  refine ⟨?_, haims, h.seeded.step hstep⟩
  rw [hnew]
  exact forall_mem_append.mpr ⟨h.relays, houtside⟩

end Item

section Workers

variable {cfg : ParallelConfig} {broken : List String}

def Worker.relayTarget (context : EndpointAddr) (w : Worker) : EndpointAddr :=
  if w.attempt = 1 then context else w.rotation.current

def Worker.Seeded (broken : List String) (w : Worker) : Prop :=
  ∀ d ∈ broken, d ∈ w.rotation.triedDomains

/-- Every rotation of the branch chooses among what it is given. -/
def BranchAnswers.Ranked (b : BranchAnswers) : Prop := ∀ attempt, Picks (b.rotation attempt).rank

theorem Worker.Seeded.beginAttempt {b : BranchAnswers} {w : Worker} (hrank : b.Ranked)
    (h : w.Seeded broken) : (w.beginAttempt cfg b).Seeded broken ∧
    (w.attempt ≠ 1 → (w.beginAttempt cfg b).phase = .relaying →
    ¬OfBroken cfg.net broken (w.beginAttempt cfg b).rotation.current) := by
  unfold Worker.beginAttempt
  split_ifs with hone
  · exact ⟨h, fun hretry => absurd hone hretry⟩
  · dsimp only
    split
    · exact ⟨h, by simp⟩
    · rename_i t hnext
      obtain ⟨hdomains, available, -, hmem⟩ := Rotation.spec_next (hrank w.attempt) hnext
      have hgrown : ∀ d ∈ broken, d ∈ markDomainTried cfg.net w.rotation.triedDomains
          w.rotation.current := fun d hd => mem_markDomainTried (h d hd)
      exact ⟨fun d hd => hdomains ▸ hgrown d hd,
        fun _ _ => not_ofBroken_of_mem_filterEndpoints hgrown hmem⟩

theorem Worker.Seeded.advance {b : BranchAnswers} {index : ℕ} {w : Worker} {move : WorkerMove}
    (hrank : b.Ranked) (h : w.Seeded broken) (hmove : w.advance cfg b index = some move) :
    move.worker.Seeded broken := by
  unfold Worker.advance at hmove
  split at hmove <;> cases hmove
  · exact (h.beginAttempt hrank).1
  · have hlearnt : ∀ d ∈ broken,
        d ∈ (w.rotation.learn w.attempt (b.relay w.attempt)).triedDomains := by
      rw [Rotation.learn]
      split <;> exact h
    unfold Worker.relayEnded
    dsimp only
    split
    · exact hlearnt
    · split <;> exact hlearnt
  · exact h
  · exact h
  · exact h

end Workers

/-- A request with the domains that are broken when it is set up. -/
structure GatewayRequest extends RelaySettings where
  payloads : List Payload
  broken : List String
  maxParallelEndpoints : ℕ
  maxBatchPayloads : ℕ

/-- How far the request is. Several contexts are relayed over in parallel, one worker for each. -/
inductive Handling where
  | waiting
  | settingUp (setup : ContextSetup)
  | rejected
  | single (cfg : SingleConfig) (s : Single)
  | batch (items : List (ItemConfig × Item))
  | parallel (cfg : ParallelConfig) (contexts : List EndpointAddr) (s : Parallel)
    (sent : List EndpointAddr)

inductive HandlingEvent where
  | lookup (available : Except GoError (List EndpointAddr))
    (select : List EndpointAddr → ℕ → Except GoError (List EndpointAddr))
  | takeUp (a : TakeUp)
  | handle (later : List (List String)) (branch : ℕ → BranchAnswers)
  | single (event : SingleEvent)
  | item (index : ℕ) (event : ItemEvent)
  | parallel (event : ParallelEvent)

def Handling.relays : Handling → List EndpointAddr
  | waiting | settingUp _ | rejected => []
  | single _ s => s.starts.map RelayStart.endpointAddr
  | batch items => items.flatMap (fun p => p.2.starts.map RelayStart.endpointAddr)
  | parallel _ _ _ sent => sent

def Handling.setup : Handling → Option ContextSetup
  | settingUp setup => some setup
  | _ => none

def Handling.retryLoop : Handling → Option Single
  | single _ s => some s
  | _ => none

namespace GatewayRequest

variable (req : GatewayRequest)

def lookUp (available : Except GoError (List EndpointAddr))
    (select : List EndpointAddr → ℕ → Except GoError (List EndpointAddr)) : Handling :=
  match available with
  | .error _ => .rejected
  | .ok endpoints =>
    match select (avoidBroken req.net (some req.broken) endpoints) req.maxParallelEndpoints with
    | .ok (ep :: eps) => .settingUp (.start (ep :: eps))
    | _ => .rejected

variable (later : List (List String)) (branch : ℕ → BranchAnswers)

def handle (contexts : List EndpointAddr) : Handling :=
  match req.payloads with
  | [] => .rejected
  | payload :: _ =>
    let singleCfg := req.singleConfig (some (later.getD 0 [])) payload
    let parallelCfg := req.parallelConfig true payload ((range contexts.length).map branch)
    handleRelayRequest req.payloads.length req.maxBatchPayloads .rejected
      (fun ctx => .single singleCfg (Single.start singleCfg ctx))
      (.batch (req.payloads.mapIdx (fun index payload =>
        let cfg := req.itemConfig (some (later.getD index [])) req.payloads.length index payload
        (cfg, Item.start cfg))))
      (fun contexts => .parallel parallelCfg contexts (Parallel.start parallelCfg) []) contexts

def workerRelay (contexts : List EndpointAddr) (s s' : Parallel) (event : ParallelEvent) :
    List EndpointAddr :=
  ((s.sender s' event).bind (fun p => contexts[p.1]?.map p.2.relayTarget)).toList

def step : Handling → HandlingEvent → Option Handling
  | .waiting, .lookup available select => some (req.lookUp available select)
  | .settingUp setup, .takeUp a => (setup.step a).map .settingUp
  | .settingUp setup, .handle later branch =>
    match setup.selected with
    | [] => some (req.handle later branch setup.endpoints)
    | _ => none
  | .single cfg s, .single event => (s.step cfg event).map (.single cfg)
  | .batch items, .item index event =>
    match items[index]? with
    | none => none
    | some (cfg, it) => (it.step cfg event).map (fun it' => .batch (items.set index (cfg, it')))
  | .parallel cfg contexts s sent, .parallel event =>
    (s.step cfg event).map (fun s' =>
      .parallel cfg contexts s' (sent ++ workerRelay contexts s s' event))
  | _, _ => none

/-- The selectors and rankings choose among what they are given, and the lookup has an endpoint
outside the broken domains. -/
def Faithful : HandlingEvent → Prop
  | .lookup available select =>
    (∀ endpoints n selected, select endpoints n = .ok selected → ∀ ep ∈ selected, ep ∈ endpoints) ∧
      ∀ endpoints, available = .ok endpoints → ∃ ep ∈ endpoints, ¬OfBroken req.net req.broken ep
  | .handle _ branch => ∀ index, (branch index).Ranked
  | .single event => Single.Ranked event
  | .item _ event => Item.Ranked event
  | _ => True

def ReplacesOutside (setup : ContextSetup) (a : TakeUp) : Prop :=
  ∀ ep ∈ setup.selected.head?, a.build ep = .unavailable →
    ∀ e ∈ a.fresh.toOption.getD [], e ∉ ep :: setup.attempted → a.build e = .built →
      ¬OfBroken req.net req.broken e

def ReadsOn (contexts : ℕ) : Prop :=
  (1 < contexts → ∀ index < contexts, ∀ d ∈ req.broken, d ∈ (branch index).brokenDomains) ∧
    (contexts ≤ 1 → ∀ index < req.payloads.length, ∀ d ∈ req.broken, d ∈ later.getD index [])

/-- The event takes up no endpoint of a broken domain and forgets none of these domains. -/
def Avoids (s : Handling) : HandlingEvent → Prop
  | .takeUp a => ∀ setup ∈ s.setup, req.ReplacesOutside setup a
  | .handle later branch => ∀ setup ∈ s.setup, req.ReadsOn later branch setup.endpoints.length
  | .single event => ∀ t ∈ s.retryLoop, t.HedgesOutside req.net req.broken event
  | .lookup _ _ | .item _ _ | .parallel _ => True

instance (setup : ContextSetup) (a : TakeUp) : Decidable (req.ReplacesOutside setup a) :=
  inferInstanceAs (Decidable (∀ ep ∈ setup.selected.head?, _ → ∀ e ∈ a.fresh.toOption.getD [], _))

instance (contexts : ℕ) : Decidable (req.ReadsOn later branch contexts) :=
  inferInstanceAs (Decidable (_ ∧ _))

instance (s : Handling) : DecidablePred (req.Avoids s)
  | .takeUp _ | .handle _ _ => inferInstanceAs (Decidable (∀ setup ∈ s.setup, _))
  | .single _ => inferInstanceAs (Decidable (∀ t ∈ s.retryLoop, _))
  | .lookup _ _ | .item _ _ | .parallel _ => .isTrue trivial

def Outside : Handling → Prop
  | .waiting | .rejected => True
  | .settingUp setup => (∀ ep ∈ setup.selected, ¬OfBroken req.net req.broken ep) ∧
    ∀ ep ∈ setup.endpoints, ¬OfBroken req.net req.broken ep
  | .single cfg s => cfg.net = req.net ∧ s.Outside cfg req.broken
  | .batch items => ∀ p ∈ items, p.1.net = req.net ∧ p.2.Outside p.1 req.broken
  | .parallel cfg contexts s sent => cfg.net = req.net ∧ (∀ b ∈ cfg.branches, b.Ranked) ∧
    (∀ ep ∈ contexts, ¬OfBroken req.net req.broken ep) ∧
    (∀ w ∈ s.workers, w.Seeded req.broken) ∧ ∀ ep ∈ sent, ¬OfBroken req.net req.broken ep

variable {req}

theorem Outside.relays {s : Handling} (h : req.Outside s) :
    ∀ ep ∈ s.relays, ¬OfBroken req.net req.broken ep := by
  cases s with
  | waiting | settingUp | rejected => simp [Handling.relays]
  | single =>
    intro ep hep
    obtain ⟨start, hstart, rfl⟩ := mem_map.mp hep
    exact h.1 ▸ h.2.relays start hstart
  | batch =>
    intro ep hep
    obtain ⟨p, hp, hep⟩ := mem_flatMap.mp hep
    obtain ⟨start, hstart, rfl⟩ := mem_map.mp hep
    exact (h p hp).1 ▸ (h p hp).2.relays start hstart
  | parallel => exact h.2.2.2.2

theorem outside_lookUp {available : Except GoError (List EndpointAddr)}
    {select : List EndpointAddr → ℕ → Except GoError (List EndpointAddr)}
    (h : req.Faithful (.lookup available select)) : req.Outside (req.lookUp available select) := by
  obtain ⟨hselect, hoffers⟩ := h
  unfold lookUp
  split
  · trivial
  · rename_i endpoints
    split
    · rename_i ep eps hselected
      obtain ⟨other, hother, houtside⟩ := hoffers endpoints rfl
      refine ⟨fun e he => ?_, by simp [ContextSetup.endpoints, ContextSetup.start]⟩
      exact not_ofBroken_of_mem_avoidBroken hother houtside (hselect _ _ _ hselected e he)
    · trivial

theorem Outside.takeUp {setup setup' : ContextSetup} {a : TakeUp}
    (h : req.Outside (.settingUp setup)) (hreplaces : req.ReplacesOutside setup a)
    (hstep : setup.step a = some setup') : req.Outside (.settingUp setup') := by
  obtain ⟨hselected, hendpoints⟩ := h
  have hrest {ep : EndpointAddr} {rest : List EndpointAddr} (heq : setup.selected = ep :: rest) :
      ¬OfBroken req.net req.broken ep ∧ ∀ e ∈ rest, ¬OfBroken req.net req.broken e := by
    rw [heq] at hselected
    exact forall_mem_cons.mp hselected
  cases moves_of_step hstep with
  | built heq =>
    refine ⟨(hrest heq).2, ?_⟩
    rw [endpoints, map_append]
    exact forall_mem_append.mpr ⟨hendpoints, forall_mem_singleton.mpr (hrest heq).1⟩
  | dropped heq => exact ⟨(hrest heq).2, hendpoints⟩
  | @replaced ep rest attempted fresh new heq hunavailable hfresh hmem hnew hbuild hgrows =>
    refine ⟨(hrest heq).2, ?_⟩
    rw [endpoints, map_append]
    refine forall_mem_append.mpr ⟨hendpoints, forall_mem_singleton.mpr ?_⟩
    exact hreplaces ep (by simp [heq]) hunavailable new (by rw [hfresh]; exact hmem) hnew hbuild

theorem outside_handle {later : List (List String)} {branch : ℕ → BranchAnswers}
    {contexts : List EndpointAddr} (hrank : ∀ index, (branch index).Ranked)
    (hreads : req.ReadsOn later branch contexts.length)
    (hcontexts : ∀ ep ∈ contexts, ¬OfBroken req.net req.broken ep) :
    req.Outside (req.handle later branch contexts) := by
  unfold handle
  split
  · trivial
  · rename_i payload rest hpayloads
    have hpos : 0 < req.payloads.length := by simp [hpayloads]
    refine handleRelayRequest_spec contexts trivial (fun ctx hctx _ => ?_) (fun hone _ => ?_)
      (fun hseveral => ?_)
    · subst hctx
      exact ⟨rfl, Single.outside_start (hcontexts ctx mem_cons_self) (hreads.2 le_rfl 0 hpos)⟩
    · intro p hp
      obtain ⟨index, hindex, rfl⟩ := mem_mapIdx.mp hp
      exact ⟨rfl, Item.outside_start (hreads.2 hone index hindex)⟩
    · have hbranch : ∀ b ∈ (range contexts.length).map branch,
          b.Ranked ∧ ∀ d ∈ req.broken, d ∈ b.brokenDomains := by
        intro b hb
        obtain ⟨index, hindex, rfl⟩ := mem_map.mp hb
        exact ⟨hrank index, hreads.1 hseveral index (mem_range.mp hindex)⟩
      refine ⟨rfl, fun b hb => (hbranch b hb).1, hcontexts, fun w hw => ?_, by simp⟩
      obtain ⟨b, hb, rfl⟩ := mem_map.mp hw
      exact (hbranch b hb).2

theorem Outside.parallel {cfg : ParallelConfig} {contexts sent : List EndpointAddr}
    {s s' : Parallel} {event : ParallelEvent} (h : req.Outside (.parallel cfg contexts s sent))
    (hstep : s.step cfg event = some s') :
    req.Outside (.parallel cfg contexts s' (sent ++ workerRelay contexts s s' event)) := by
  obtain ⟨hnet, hrank, hcontexts, hseeded, hsent⟩ := h
  refine ⟨hnet, hrank, hcontexts, ?_, forall_mem_append.mpr ⟨hsent, fun ep hep => ?_⟩⟩
  · cases Parallel.moves_of_step hstep with
    | work hw hb _ hmove =>
      intro v hv
      rcases mem_or_eq_of_mem_set hv with hold | rfl
      · exact hseeded v hold
      · exact Worker.Seeded.advance (hrank _ (mem_of_getElem? hb))
          (hseeded _ (mem_of_getElem? hw)) hmove
    | @cut _ w _ hw =>
      intro v hv
      rcases mem_or_eq_of_mem_set hv with hold | rfl
      · exact hseeded v hold
      · exact hseeded w (mem_of_getElem? hw)
    | contextDone | giveUp => exact hseeded
    | receive =>
      rw [Parallel.receiveResult]
      split <;> exact hseeded
  · obtain ⟨⟨index, v⟩, hsender, hctx⟩ := bind_eq_some_iff.mp (mem_toList.mp hep)
    obtain ⟨ctx, hget, rfl⟩ := map_eq_some_iff.mp hctx
    obtain ⟨-, w, b, hw, hb, -, -, rfl, hphase⟩ := Parallel.sender_eq_some hstep hsender
    have hseed : w.Seeded req.broken := hseeded w (mem_of_getElem? hw)
    have hbranch : b.Ranked := hrank b (mem_of_getElem? hb)
    rw [Worker.relayTarget, Worker.attempt_beginAttempt]
    split_ifs with hretry
    · exact hcontexts ctx (mem_of_getElem? hget)
    · exact hnet ▸ (hseed.beginAttempt hbranch).2 hretry hphase

theorem Outside.step {s s' : Handling} {event : HandlingEvent} (h : req.Outside s)
    (hfaithful : req.Faithful event) (havoids : req.Avoids s event)
    (hstep : req.step s event = some s') : req.Outside s' := by
  unfold GatewayRequest.step at hstep
  split at hstep
  · cases hstep
    exact outside_lookUp hfaithful
  · obtain ⟨setup', hsetup, rfl⟩ := map_eq_some_iff.mp hstep
    exact h.takeUp (havoids _ rfl) hsetup
  · split at hstep
    · cases hstep
      exact outside_handle hfaithful (havoids _ rfl) h.2
    · cases hstep
  · obtain ⟨t, ht, rfl⟩ := map_eq_some_iff.mp hstep
    exact ⟨h.1, h.2.step hfaithful (h.1 ▸ havoids _ rfl) ht⟩
  · split at hstep
    · cases hstep
    · rename_i cfg it hitem
      obtain ⟨it', hit, rfl⟩ := map_eq_some_iff.mp hstep
      intro p hp
      rcases mem_or_eq_of_mem_set hp with hold | rfl
      · exact h p hold
      · obtain ⟨hnet, houtside⟩ := h _ (mem_of_getElem? hitem)
        exact ⟨hnet, houtside.step hfaithful hit⟩
  · obtain ⟨t, ht, rfl⟩ := map_eq_some_iff.mp hstep
    exact h.parallel ht
  · cases hstep

/-- No relay goes to a broken domain in the runs in which the replacements and the hedges keep
away from them too, and the handlers still find them broken. -/
theorem not_ofBroken_of_avoids (req : GatewayRequest) (events : List HandlingEvent) (s : Handling)
    (hfaithful : ∀ event ∈ events, req.Faithful event)
    (havoids : Machine.Meets req.step req.Avoids .waiting events)
    (hrun : run req.step .waiting events = some s) :
    ∀ ep ∈ s.relays, ¬OfBroken req.net req.broken ep := by
  have hstep (s event s') (h : req.Outside s) (hC : req.Avoids s event ∧ req.Faithful event)
      (hstep : req.step s event = some s') : req.Outside s' := h.step hC.2 hC.1 hstep
  have hstart : req.Outside .waiting := trivial
  exact Outside.relays (invariant hstep hstart (havoids.and hfaithful) hrun)

section Sample

def oneBroken : GatewayRequest where
  net := NetLib.ascii
  heur := calmHeuristics
  retryConfig := (sampleRequest (some 100)).retryConfig
  payloads := [(sampleRequest none).payload]
  broken := ["a.example.com"]
  maxParallelEndpoints := 1
  maxBatchPayloads := 0
  scored _ := true

def noBranch : BranchAnswers :=
  ⟨[], fun _ => ⟨[], none, false, 0⟩, fun _ => ⟨.ok [], false, .ok, fun eps => eps.headD "", none⟩⟩

def setUpWith (available : Bool) : List HandlingEvent :=
  [.lookup (.ok [addrA, addrB])
      (fun endpoints n => .ok (endpoints.take n)),
    .takeUp ⟨fun ep => if ep = addrB ∧ available = false then .unavailable
      else .built, .ok [addrA]⟩,
    .handle [["a.example.com"]] (fun _ => noBranch)]

def hedgesAmong (endpoints : List EndpointAddr) : List HandlingEvent :=
  [.single (.attempt (offer endpoints)),
    .single (.race (.delayElapsed (fun eps => eps.headD "") none))]

theorem faithful_setUpWith (available : Bool) :
    ∀ event ∈ setUpWith available, oneBroken.Faithful event := by
  simp only [setUpWith, forall_mem_cons, Faithful]
  refine ⟨⟨?_, ?_⟩, trivial, fun _ _ => picks_headD, by simp⟩
  · rintro endpoints n selected heq ep hep
    cases heq
    exact mem_of_mem_take hep
  · rintro endpoints heq
    cases heq
    exact ⟨addrB, by simp, by decide +kernel⟩

theorem faithful_hedgesAmong (endpoints : List EndpointAddr) :
    ∀ event ∈ hedgesAmong endpoints, oneBroken.Faithful event := by
  simp only [hedgesAmong, forall_mem_cons, Faithful, Single.Ranked]
  exact ⟨picks_headD, picks_headD, by simp⟩

theorem third_operator_hedges : ∃ s,
    run oneBroken.step .waiting (setUpWith true ++
        hedgesAmong [addrB, addrC]) = some s ∧
      s.relays = [addrB, addrC] ∧
      ∀ ep ∈ s.relays, ¬OfBroken .ascii ["a.example.com"] ep := by
  refine ⟨_, eq_some_of_isSome (by decide +kernel), by decide +kernel,
    not_ofBroken_of_avoids oneBroken _ _ ?_ (by decide +kernel) (eq_some_of_isSome _)⟩
  exact forall_mem_append.mpr ⟨faithful_setUpWith true, faithful_hedgesAmong _⟩

theorem relayed_to_broken_domain : ∃ s t,
    run oneBroken.step .waiting
        (setUpWith false ++ [.single (.attempt (offer []))]) = some s ∧
      s.relays = [addrA] ∧
      run oneBroken.step .waiting (setUpWith true ++
        hedgesAmong [addrB, addrA]) = some t ∧
      t.relays = [addrB, addrA] ∧
      OfBroken oneBroken.net oneBroken.broken addrA ∧
      (∀ event ∈ setUpWith false ++ [.single (.attempt (offer []))], oneBroken.Faithful event) ∧
      ∀ event ∈ setUpWith true ++
        hedgesAmong [addrB, addrA],
          oneBroken.Faithful event := by
  refine ⟨_, _, eq_some_of_isSome (by decide +kernel), by decide +kernel,
    eq_some_of_isSome (by decide +kernel), by decide +kernel, by decide +kernel, ?_, ?_⟩
  · refine forall_mem_append.mpr ⟨faithful_setUpWith false, ?_⟩
    exact forall_mem_singleton.mpr picks_headD
  · exact forall_mem_append.mpr ⟨faithful_setUpWith true, faithful_hedgesAmong _⟩

end Sample

end GatewayRequest

end PathGateway
