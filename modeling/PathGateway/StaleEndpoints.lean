import PathGateway.CosmosQoS
import PathGateway.EvmQoS
import PathGateway.NoOpQoS
import PathGateway.SolanaQoS

/-! What the sweeps of the endpoint stores leave behind. An endpoint is shown by an event if it
appears in a session or if an observation of it is recorded. Only sessions mark an entry, and
syncs the ones that they create, so that an entry which observations have created and no session
has marked is never swept. -/

namespace PathGateway

open SeenView Option List Machine

namespace Evm

def view : SeenView Endpoint where
  lastSeen := Endpoint.lastSeen
  touch now ep := { ep with lastSeen := some now }
  lastSeen_touch _ _ := rfl

def Live (t : Time) (es : List Event) (a : EndpointAddr) : Prop :=
  SeenView.Live Event.now Event.shows defaultEndpointTTL t es a

def KeptUnseen (t : Time) (es : List Event) (endpoints : GoMap EndpointAddr Endpoint)
    (a : EndpointAddr) : Prop :=
  view.KeptUnseen Event.now Event.syncs defaultEndpointTTL t es endpoints a

theorem onlyMarks_step {cfg : QoSConfig} {s s' : EvmQoS} {e : Event} (h : s.step cfg e = some s') :
    view.OnlyMarks e.now (fun a => e.shows a ∨
      e.syncs a) s.service.endpoints s'.service.endpoints := by
  intro a lastSeen hseen
  obtain ⟨ep', hep', hlast⟩ := map_eq_some_iff.mp hseen
  change ep'.lastSeen = some lastSeen at hlast
  have hmove := EvmQoS.storeMove_of_step h a
  rw [seen]
  rw [hep'] at hmove
  generalize s.service.endpoints.lookup a = o at hmove
  -- a mark of an entry is the old one, or set by a session or a sync
  have hmark {mark : Option Time}
      (hmark : ep'.lastSeen = mark ∨ ep'.lastSeen = some e.now ∧ (e.shows a ∨ e.syncs a)) :
      mark = some lastSeen ∨ lastSeen = e.now ∧ (e.shows a ∨ e.syncs a) := by
    rw [hlast] at hmark
    exact hmark.imp Eq.symm fun hnow => ⟨some.inj hnow.1, hnow.2⟩
  cases hmove with
  | kept hkept =>
    cases hkept with
    | created _ hnew => exact (hmark hnew).imp_left fun hnone => by cases hnone
    | same _ hsame => exact (hmark hsame).imp_left (congrArg some)
  | checked data _ _ _ hsame =>
    rw [hlast] at hsame
    cases o with
    | none => cases hsame
    | some => exact .inl (congrArg some hsame.symm)

end Evm

namespace NoOp

def Action.shows (a : EndpointAddr) : Action → Prop
  | .updateFromExtractedData addr blockHeight => addr = a ∧ 0 < blockHeight
  | .filterValidEndpoints endpoints => a ∈ endpoints
  | _ => False

def Action.syncs (a : EndpointAddr) : Action → Prop
  | .syncEndpointBlocks heights => a ∈ heights.keys
  | _ => False

def Event.shows (e : Event) (a : EndpointAddr) : Prop := e.action.shows a

def Event.syncs (e : Event) (a : EndpointAddr) : Prop := e.action.syncs a

def Live (t : Time) (es : List Event) (a : EndpointAddr) : Prop :=
  SeenView.Live Event.now Event.shows defaultEndpointTTL t es a

def KeptUnseen (t : Time) (es : List Event) (endpoints : GoMap EndpointAddr EndpointState)
    (a : EndpointAddr) : Prop :=
  view.KeptUnseen Event.now Event.syncs defaultEndpointTTL t es endpoints a

theorem onlyMarks_step {cfg : SyncConfig} {s s' : NoOpQoS × ℕ} {e : Event}
    (h : NoOpQoS.step cfg s e = some s') :
    view.OnlyMarks e.now (fun a => e.shows a ∨ e.syncs a) s.1.endpoints s'.1.endpoints := by
  obtain ⟨now, action⟩ := e
  cases action with
  | updateFromExtractedData =>
    cases h
    rw [NoOpQoS.updateFromExtractedData]
    split
    · exact .refl _ now _ _
    · have hfresh : view.lastSeen {} = none := rfl
      exact .update hfresh rfl
  | filterValidEndpoints endpoints =>
    cases h
    rw [NoOpQoS.afterFilter]
    split
    · exact .refl _ now _ _
    · exact (onlyMarks_touchEndpoints endpoints).mono fun _ => .inl
  | setSyncAllowance =>
    cases h
    exact .refl _ now _ _
  | syncEndpointBlocks heights =>
    obtain ⟨-, heq⟩ := ite_none_right_eq_some.mp h
    cases heq
    exact (HeightView.onlyMarks_syncEndpointBlocksFromRedis heights).mono fun _ => .inr
  | sweepStaleEndpoints =>
    obtain ⟨-, heq⟩ := ite_none_right_eq_some.mp h
    cases heq
    exact onlyMarks_sweepStaleEndpoints _ defaultEndpointTTL
  | share =>
    obtain ⟨r, -, rfl⟩ := map_eq_some_iff.mp h
    exact .refl _ now _ _

end NoOp

namespace Cosmos

def Action.shows (a : EndpointAddr) : Action → Prop
  | .updateFromExtractedData addr data => addr = a ∧ data.block ≠ none
  | .updateEndpointsFromObservations observations =>
    ∃ obs, (a, obs) ∈ observations ∧ obs ≠ .unset
  | .filterValidEndpoints availableEndpoints => a ∈ availableEndpoints
  | _ => False

def Action.syncs (a : EndpointAddr) : Action → Prop
  | .syncEndpointBlocks heights => a ∈ heights.keys
  | _ => False

def Event.shows (e : Event) (a : EndpointAddr) : Prop := e.action.shows a

def Event.syncs (e : Event) (a : EndpointAddr) : Prop := e.action.syncs a

def Live (t : Time) (es : List Event) (a : EndpointAddr) : Prop :=
  SeenView.Live Event.now Event.shows defaultEndpointTTL t es a

def KeptUnseen (t : Time) (es : List Event) (endpoints : GoMap EndpointAddr Endpoint)
    (a : EndpointAddr) : Prop :=
  view.KeptUnseen Event.now Event.syncs defaultEndpointTTL t es endpoints a

theorem lastSeen_applyObservation {now : Time} {ep ep' : Endpoint} {obs : Observation}
    (h : ep.applyObservation now obs = some ep') : ep'.lastSeen = ep.lastSeen := by
  cases obs <;> cases h <;> rfl

theorem onlyMarks_step {cfg : Config} {q q' : CosmosQoS} {e : Event} (h : q.step cfg e = some q') :
    view.OnlyMarks e.now (fun a => e.shows a ∨ e.syncs a) q.endpoints q'.endpoints := by
  obtain ⟨now, action⟩ := e
  cases action with
  | updateFromExtractedData =>
    cases h
    rw [CosmosQoS.updateFromExtractedData]
    split
    · exact .refl _ now _ _
    · have hfresh : view.lastSeen {} = none := rfl
      exact .update hfresh rfl
  | updateEndpointsFromObservations observations =>
    cases h
    exact onlyMarks_observe rfl (fun _ _ _ h => lastSeen_applyObservation h) observations ∅
  | updateFromEndpoints =>
    obtain ⟨updated, -, h⟩ := bind_eq_some_iff.mp h
    obtain ⟨-, heq⟩ := ite_none_right_eq_some.mp h
    cases heq
    exact .refl _ now _ _
  | filterValidEndpoints availableEndpoints =>
    cases h
    exact (onlyMarks_touchEndpoints availableEndpoints).mono fun _ => .inl
  | syncEndpointBlocks heights =>
    obtain ⟨-, heq⟩ := ite_none_right_eq_some.mp h
    cases heq
    exact (HeightView.onlyMarks_syncEndpointBlocksFromRedis heights).mono fun _ => .inr
  | sweepStaleEndpoints =>
    obtain ⟨-, heq⟩ := ite_none_right_eq_some.mp h
    cases heq
    exact onlyMarks_sweepStaleEndpoints _ defaultEndpointTTL
  | share =>
    obtain ⟨r, -, rfl⟩ := map_eq_some_iff.mp h
    exact .refl _ now _ _
  | otherReplica =>
    cases h
    exact .refl _ now _ _

end Cosmos

namespace Solana

def Action.shows (a : EndpointAddr) : Action → Prop
  | .updateFromExtractedData addr data =>
    addr = a ∧ (data.block ≠ none ∨ data.syncCheckPerformed = true)
  | .updateEndpointsFromObservations observations =>
    ∃ obs, (a, obs) ∈ observations ∧ obs ≠ .unset
  | .filterValidEndpoints availableEndpoints => a ∈ availableEndpoints
  | _ => False

def Event.shows (e : Event) (a : EndpointAddr) : Prop := e.action.shows a

def Live (t : Time) (es : List Event) (a : EndpointAddr) : Prop :=
  SeenView.Live Event.now Event.shows defaultEndpointTTL t es a

theorem lastSeen_applyObservation {ep ep' : Endpoint} {obs : Observation}
    (h : ep.applyObservation obs = some ep') : ep'.lastSeen = ep.lastSeen := by
  cases obs with
  | unrecognizedResponse validationError =>
    cases validationError with
    | none =>
      cases h
      rfl
    | some =>
      rw [Endpoint.applyObservation] at h
      split at h <;> cases h <;> rfl
  | unset => cases h
  | _ =>
    cases h
    rfl

theorem lastSeen_updateFromExtractedData (ep : Endpoint) (data : ExtractedData) :
    (ep.updateFromExtractedData data).lastSeen = ep.lastSeen := by
  rw [Endpoint.updateFromExtractedData]
  cases data.block <;> cases data.syncCheckPerformed <;> rfl

theorem onlyMarks_syncEndpointBlocks {now : Time} {marked : EndpointAddr → Prop}
    (heights : GoMap EndpointAddr ℕ) (endpoints : GoMap EndpointAddr Endpoint) :
    view.OnlyMarks now marked endpoints (syncEndpointBlocksFromRedis heights endpoints) := by
  refine .foldl heights.entries _ fun entry _ endpoints => ?_
  rw [GoMap.modify]
  split
  · exact .refl _ now _ _
  · rename_i ep hep
    refine .insert (.inr (.inl ?_))
    rw [seen, hep, map_some]
    split <;> rfl

theorem onlyMarks_step {cfg : Config} {q q' : SolanaQoS} {e : Event} (h : q.step cfg e = some q') :
    view.OnlyMarks e.now e.shows q.endpoints q'.endpoints := by
  obtain ⟨now, action⟩ := e
  cases action with
  | updateFromExtractedData addr data =>
    cases h
    rw [SolanaQoS.updateFromExtractedData]
    split
    · exact .refl _ now _ _
    · exact .update rfl (lastSeen_updateFromExtractedData _ data)
  | updateFromEndpoints =>
    obtain ⟨-, -, -, rfl⟩ := SolanaQoS.updateFromEndpoints_eq_some h
    exact .refl _ now _ _
  | updateEndpointsFromObservations observations =>
    cases h
    exact onlyMarks_observe rfl (fun _ _ _ h => lastSeen_applyObservation h) observations ∅
  | filterValidEndpoints availableEndpoints =>
    cases h
    exact onlyMarks_touchEndpoints availableEndpoints
  | syncEndpointBlocks heights =>
    obtain ⟨-, heq⟩ := ite_none_right_eq_some.mp h
    cases heq
    exact onlyMarks_syncEndpointBlocks heights q.endpoints
  | sweepStaleEndpoints =>
    obtain ⟨-, heq⟩ := ite_none_right_eq_some.mp h
    cases heq
    exact onlyMarks_sweepStaleEndpoints _ defaultEndpointTTL
  | share =>
    obtain ⟨r, -, rfl⟩ := map_eq_some_iff.mp h
    exact .refl _ now _ _
  | otherReplica =>
    cases h
    exact .refl _ now _ _

end Solana

/-- After a sweep of any of the stores, every endpoint that it holds was shown within the TTL,
exactly if this is so for the ones that are kept though no session has marked them. The syncs of
a Solana store create no entry, so there these are the ones without a mark. -/
theorem live_after_sweep_iff (t : Time) :
    (∀ (cfg : Evm.QoSConfig) (stored : GoMap String ScoreRecord) (es : List Evm.Event)
      (s s' : Evm.EvmQoS),
      run (Evm.EvmQoS.step cfg) (.start stored) es = some s →
      s.step cfg ⟨t, .sweepStaleEndpoints⟩ = some s' →
      ((∀ a ∈ s'.service.endpoints, Evm.Live t es a) ↔
        ∀ a, Evm.KeptUnseen t es s.service.endpoints a → Evm.Live t es a)) ∧
    (∀ (cfg : Cosmos.Config) (redis : ℕ) (es : List Cosmos.Event) (q q' : Cosmos.CosmosQoS),
      run (Cosmos.CosmosQoS.step cfg) (.start redis) es = some q →
      q.step cfg ⟨t, .sweepStaleEndpoints⟩ = some q' →
      ((∀ a ∈ q'.endpoints, Cosmos.Live t es a) ↔
        ∀ a, Cosmos.KeptUnseen t es q.endpoints a → Cosmos.Live t es a)) ∧
    (∀ (cfg : Solana.Config) (redis : ℕ) (es : List Solana.Event) (q q' : Solana.SolanaQoS),
      run (Solana.SolanaQoS.step cfg) (.start redis) es = some q →
      q.step cfg ⟨t, .sweepStaleEndpoints⟩ = some q' →
      ((∀ a ∈ q'.endpoints, Solana.Live t es a) ↔
        ∀ a, Solana.view.seen q.endpoints a = some none → Solana.Live t es a)) ∧
    (∀ (cfg : SyncConfig) (redis : ℕ) (es : List NoOp.Event) (q q' : NoOp.NoOpQoS × ℕ),
      run (NoOp.NoOpQoS.step cfg) (.start, redis) es = some q →
      NoOp.NoOpQoS.step cfg q ⟨t, .sweepStaleEndpoints⟩ = some q' →
      ((∀ a ∈ q'.1.endpoints, NoOp.Live t es a) ↔
        ∀ a, NoOp.KeptUnseen t es q.1.endpoints a → NoOp.Live t es a)) := by
  refine ⟨fun cfg stored es s s' hrun hsweep => ?_, fun cfg redis es q q' hrun hsweep => ?_,
    fun cfg redis es q q' hrun hsweep => ?_, fun cfg redis es q q' hrun hsweep => ?_⟩
  · obtain ⟨-, -, u, hu, rfl⟩ := Evm.EvmQoS.step_eq_some hsweep
    cases hu
    exact live_of_sweep_iff (fun s => s.service.endpoints)
      (fun _ _ _ => Evm.onlyMarks_step) rfl hrun
  · obtain ⟨-, heq⟩ := ite_none_right_eq_some.mp hsweep
    cases heq
    exact live_of_sweep_iff (fun q => q.endpoints) (fun _ _ _ => Cosmos.onlyMarks_step) rfl hrun
  · obtain ⟨-, heq⟩ := ite_none_right_eq_some.mp hsweep
    cases heq
    have hstep (q : Solana.SolanaQoS) (e : Solana.Event) (q' : Solana.SolanaQoS)
        (h : q.step cfg e = some q') : Solana.view.OnlyMarks e.now (fun a => e.shows a ∨ False)
          q.endpoints q'.endpoints :=
      (Solana.onlyMarks_step h).mono fun _ => .inl
    refine (live_of_sweep_iff (fun q => q.endpoints) hstep rfl hrun).trans ?_
    simp [SeenView.KeptUnseen, Solana.Live]
  · obtain ⟨-, heq⟩ := ite_none_right_eq_some.mp hsweep
    cases heq
    exact live_of_sweep_iff (fun q => q.1.endpoints) (fun _ _ _ => NoOp.onlyMarks_step) rfl hrun

section Created

def Evm.created : List Evm.Event := [⟨1, .updateFromExtractedData "a" { blockHeight := 100 }⟩]

def Cosmos.created : List Cosmos.Event := [⟨1, .updateFromExtractedData "a" { blockHeight := 100 }⟩]

def Solana.created : List Solana.Event := [⟨1, .updateFromExtractedData "a" { blockHeight := 100 }⟩]

def NoOp.created : List NoOp.Event := [⟨1, .updateFromExtractedData "a" 100⟩]

def Evm.shared : Evm.QoSConfig := ⟨.plain, true, .plain, ScoreStore.sampleBackend⟩

def Cosmos.shared : Cosmos.Config := ⟨"", "", 5, [], .sharing⟩

def Solana.shared : Solana.Config := ⟨0, .sharing⟩

theorem SeenView.eq_of_seen_insert_empty {ε : Type} {view : SeenView ε} {addr a : EndpointAddr}
    {ep : ε} {mark : Option Time}
    (h : view.seen ((∅ : GoMap EndpointAddr ε).insert addr ep) a = some mark) : a = addr := by
  by_contra hne
  rw [seen_insert_of_ne hne] at h
  cases h

theorem SeenView.KeptUnseen.exists_mark {ε ι : Type} {view : SeenView ε} {time : ι → Time}
    {syncs : ι → EndpointAddr → Prop} {ttl : ℕ} {now : Time} {es : List ι}
    {endpoints : GoMap EndpointAddr ε} {a : EndpointAddr}
    (h : view.KeptUnseen time syncs ttl now es endpoints a) :
    ∃ mark, view.seen endpoints a = some mark := by
  rcases h with hseen | ⟨e, -, -, hseen, -⟩
  · exact ⟨none, hseen⟩
  · exact ⟨some (time e), hseen⟩

theorem live_after_sweep_created :
    (∃ s s', run (Evm.EvmQoS.step Evm.shared) (.start ∅) Evm.created = some s ∧
      s.step Evm.shared ⟨2, .sweepStaleEndpoints⟩ = some s' ∧
      ∀ a ∈ s'.service.endpoints, Evm.Live 2 Evm.created a) ∧
    (∃ q q', run (Cosmos.CosmosQoS.step Cosmos.shared) (.start 0) Cosmos.created = some q ∧
      q.step Cosmos.shared ⟨2, .sweepStaleEndpoints⟩ = some q' ∧
      ∀ a ∈ q'.endpoints, Cosmos.Live 2 Cosmos.created a) ∧
    (∃ q q', run (Solana.SolanaQoS.step Solana.shared) (.start 0) Solana.created = some q ∧
      q.step Solana.shared ⟨2, .sweepStaleEndpoints⟩ = some q' ∧
      ∀ a ∈ q'.endpoints, Solana.Live 2 Solana.created a) ∧
    (∃ q q', run (NoOp.NoOpQoS.step .sharing) (.start, 0) NoOp.created = some q ∧
      NoOp.NoOpQoS.step .sharing q ⟨2, .sweepStaleEndpoints⟩ = some q' ∧
      ∀ a ∈ q'.1.endpoints, NoOp.Live 2 NoOp.created a) := by
  refine ⟨⟨_, _, rfl, rfl, ?_⟩, ⟨_, _, rfl, rfl, ?_⟩, ⟨_, _, rfl, rfl, ?_⟩, ⟨_, _, rfl, rfl, ?_⟩⟩
  · refine ((live_after_sweep_iff 2).1 Evm.shared ∅ Evm.created _ _ rfl rfl).mpr fun a ha => ?_
    obtain ⟨mark, ha⟩ := SeenView.KeptUnseen.exists_mark ha
    cases eq_of_seen_insert_empty ha
    exact ⟨_, mem_cons_self, ⟨rfl, .inl (by decide)⟩, by decide⟩
  · refine ((live_after_sweep_iff 2).2.1 Cosmos.shared 0 Cosmos.created _ _ rfl rfl).mpr
      fun a ha => ?_
    obtain ⟨mark, ha⟩ := SeenView.KeptUnseen.exists_mark ha
    cases eq_of_seen_insert_empty ha
    exact ⟨_, mem_cons_self, ⟨rfl, by decide⟩, by decide⟩
  · refine ((live_after_sweep_iff 2).2.2.1 Solana.shared 0 Solana.created _ _ rfl rfl).mpr
      fun a ha => ?_
    cases eq_of_seen_insert_empty ha
    exact ⟨_, mem_cons_self, ⟨rfl, .inl (by decide)⟩, by decide⟩
  · refine ((live_after_sweep_iff 2).2.2.2 .sharing 0 NoOp.created _ _ rfl rfl).mpr
      fun a ha => ?_
    obtain ⟨mark, ha⟩ := SeenView.KeptUnseen.exists_mark ha
    cases eq_of_seen_insert_empty ha
    exact ⟨_, mem_cons_self, ⟨rfl, by decide⟩, by decide⟩

theorem sweep_keeps_unmarked :
    (∃ s s', run (Evm.EvmQoS.step Evm.shared) (.start ∅) Evm.created = some s ∧
      s.step Evm.shared ⟨Evm.defaultEndpointTTL + 2, .sweepStaleEndpoints⟩ = some s' ∧
      "a" ∈ s'.service.endpoints ∧
      ¬Evm.Live (Evm.defaultEndpointTTL + 2) Evm.created "a") ∧
    (∃ q q', run (Cosmos.CosmosQoS.step Cosmos.shared) (.start 0) Cosmos.created = some q ∧
      q.step Cosmos.shared ⟨Cosmos.defaultEndpointTTL + 2, .sweepStaleEndpoints⟩ = some q' ∧
      "a" ∈ q'.endpoints ∧
      ¬Cosmos.Live (Cosmos.defaultEndpointTTL + 2) Cosmos.created "a") ∧
    (∃ q q', run (Solana.SolanaQoS.step Solana.shared) (.start 0) Solana.created = some q ∧
      q.step Solana.shared ⟨Solana.defaultEndpointTTL + 2, .sweepStaleEndpoints⟩ = some q' ∧
      "a" ∈ q'.endpoints ∧
      ¬Solana.Live (Solana.defaultEndpointTTL + 2) Solana.created "a") ∧
    (∃ q q', run (NoOp.NoOpQoS.step .sharing) (.start, 0) NoOp.created = some q ∧
      NoOp.NoOpQoS.step .sharing q ⟨NoOp.defaultEndpointTTL + 2, .sweepStaleEndpoints⟩ =
        some q' ∧
      "a" ∈ q'.1.endpoints ∧
      ¬NoOp.Live (NoOp.defaultEndpointTTL + 2) NoOp.created "a") := by
  have hlate : ∀ {ι : Type} {time : ι → Time} {shows : ι → EndpointAddr → Prop} {ttl : ℕ} {e : ι},
      time e = 1 → ¬SeenView.Live time shows ttl (ttl + 2) [e] "a" := by
    rintro ι time shows ttl e he ⟨e', he', -, hle⟩
    rw [mem_singleton.mp he', he] at hle
    have hle : (ttl + 2 : ℕ) ≤ 1 + ttl := hle
    omega
  refine ⟨⟨_, _, rfl, rfl, ?_, hlate rfl⟩, ⟨_, _, rfl, rfl, ?_, hlate rfl⟩,
    ⟨_, _, rfl, rfl, ?_, hlate rfl⟩, ⟨_, _, rfl, rfl, ?_, hlate rfl⟩⟩
  all_goals decide +kernel

end Created

end PathGateway
