import PathGateway.ItemSoundness

/-! The protocol contexts of a request and its first relays, beside the first attempt of
a batch item: the two paths treat the circuit breaker's domains in different ways. -/

namespace PathGateway

open List

inductive BuildOutcome where
  | built
  | unavailable
  | failed (err : GoError)
  deriving DecidableEq, Repr

/-- What the environment answers while the contexts are built. -/
structure RequestAnswers where
  available : Except GoError (List EndpointAddr)
  select : List EndpointAddr → Nat → Except GoError (List EndpointAddr)
  build : EndpointAddr → BuildOutcome
  fresh : EndpointAddr → Except GoError (List EndpointAddr)

inductive ContextsError where
  | noAvailable (err : GoError)
  | noneSelected (available : Nat)
  | rejected
  deriving DecidableEq, Repr

def avoidBroken (net : NetLib) (circuitBreaker : Option (List String))
    (endpoints : List EndpointAddr) : List EndpointAddr :=
  match circuitBreaker with
  | none => endpoints
  | some brokenDomains =>
    if brokenDomains = [] then endpoints
    else
      match filterEndpointsByBrokenDomains net endpoints brokenDomains with
      | [] => endpoints
      | ep :: eps => ep :: eps

def findReplacement (answers : RequestAnswers) (attempted : List EndpointAddr) :
    List EndpointAddr → Option EndpointAddr × List EndpointAddr
  | [] => (none, attempted)
  | ep :: eps =>
    if ep ∈ attempted then findReplacement answers attempted eps
    else if answers.build ep = .built then (some ep, ep :: attempted)
    else findReplacement answers (ep :: attempted) eps

/-- A context is kept with the endpoint that it replaces. -/
def buildContext (answers : RequestAnswers)
    (st : List (EndpointAddr × Option EndpointAddr) × List EndpointAddr)
    (endpointAddr : EndpointAddr) :
    List (EndpointAddr × Option EndpointAddr) × List EndpointAddr :=
  let attempted := endpointAddr :: st.2
  match answers.build endpointAddr with
  | .built => (st.1 ++ [(endpointAddr, none)], attempted)
  | .failed _ => (st.1, attempted)
  | .unavailable =>
    match answers.fresh endpointAddr with
    | .error _ => (st.1, attempted)
    | .ok freshEndpoints =>
      let (replacement, attempted) := findReplacement answers attempted freshEndpoints
      (st.1 ++ replacement.toList.map (fun ep => (ep, some endpointAddr)), attempted)

variable (net : NetLib) (circuitBreaker : Option (List String)) (maxParallelEndpoints : Nat)
  (answers : RequestAnswers)

def buildProtocolContexts : Except ContextsError (List (EndpointAddr × Option EndpointAddr)) :=
  match answers.available with
  | .error err => .error (.noAvailable err)
  | .ok availableEndpoints =>
    let availableEndpoints := avoidBroken net circuitBreaker availableEndpoints
    match answers.select availableEndpoints maxParallelEndpoints with
    | .ok (ep :: eps) =>
      match (foldl (buildContext answers) ([], []) (ep :: eps)).1 with
      | [] => .error .rejected
      | ctx :: ctxs => .ok (ctx :: ctxs)
    | _ => .error (.noneSelected availableEndpoints.length)

/-- The relays of the first attempt, while the client is there: one for each context. -/
def firstRelays (maxAttempts : Int) : List EndpointAddr :=
  match buildProtocolContexts net circuitBreaker maxParallelEndpoints answers with
  | .error _ => []
  | .ok contexts => if 1 ≤ maxAttempts then contexts.map Prod.fst else []

def RequestAnswers.attempt (rank : List EndpointAddr → EndpointAddr) : AttemptAnswers :=
  ⟨answers.available, fun endpoints => answers.select endpoints endpoints.length, rank, none⟩

variable {net circuitBreaker maxParallelEndpoints answers}

theorem foldl_buildContext (hbuild : ∀ ep, answers.build ep = .built)
    (endpoints : List EndpointAddr)
    (st : List (EndpointAddr × Option EndpointAddr) × List EndpointAddr) :
    (endpoints.foldl (buildContext answers) st).1 =
      st.1 ++ endpoints.map (fun ep => (ep, none)) := by
  induction endpoints generalizing st with
  | nil => simp
  | cons ep eps ih => simp [ih, buildContext, hbuild]

theorem buildProtocolContexts_eq_ok {contexts : List (EndpointAddr × Option EndpointAddr)}
    (h : buildProtocolContexts net circuitBreaker maxParallelEndpoints answers = .ok contexts) :
    ∃ available selected, answers.available = .ok available ∧
      answers.select (avoidBroken net circuitBreaker available) maxParallelEndpoints =
        .ok selected ∧
      contexts = (selected.foldl (buildContext answers) ([], [])).1 := by
  unfold buildProtocolContexts at h
  split at h
  · cases h
  · rename_i available havailable
    dsimp only at h
    split at h
    · rename_i ep eps hselected
      refine ⟨available, ep :: eps, havailable, hselected, ?_⟩
      split at h
      · cases h
      · rename_i hbuilt
        cases h
        exact hbuilt.symm
    · cases h

variable {ep : EndpointAddr}

theorem mem_of_findReplacement {attempted fresh : List EndpointAddr}
    (h : (findReplacement answers attempted fresh).1 = some ep) :
    ep ∈ fresh ∧ ep ∉ attempted ∧ answers.build ep = .built := by
  induction fresh generalizing attempted with
  | nil => cases h
  | cons e es ih =>
    rw [findReplacement] at h
    split at h
    · obtain ⟨hmem, hrest⟩ := ih h
      exact ⟨mem_cons_of_mem _ hmem, hrest⟩
    · rename_i hnew
      split_ifs at h with hbuilt
      · cases h
        exact ⟨mem_cons_self, hnew, hbuilt⟩
      · obtain ⟨hmem, hother, hbuilt⟩ := ih h
        exact ⟨mem_cons_of_mem _ hmem, fun hep => hother (mem_cons_of_mem _ hep), hbuilt⟩

def Stands (answers : RequestAnswers) (selected : List EndpointAddr)
    (ctx : EndpointAddr × Option EndpointAddr) : Prop :=
  answers.build ctx.1 = .built ∧
    match ctx.2 with
    | none => ctx.1 ∈ selected
    | some replaced => replaced ∈ selected ∧ answers.build replaced = .unavailable ∧
      ctx.1 ≠ replaced ∧ ∃ fresh, answers.fresh replaced = .ok fresh ∧ ctx.1 ∈ fresh

theorem stands_foldl {selected : List EndpointAddr}
    (endpoints : List EndpointAddr) (hsub : ∀ ep ∈ endpoints, ep ∈ selected)
    (st : List (EndpointAddr × Option EndpointAddr) × List EndpointAddr)
    (hst : ∀ ctx ∈ st.1, Stands answers selected ctx) :
    ∀ ctx ∈ (endpoints.foldl (buildContext answers) st).1, Stands answers selected ctx := by
  induction endpoints generalizing st with
  | nil => exact hst
  | cons ep eps ih =>
    refine ih (fun e he => hsub e (mem_cons_of_mem _ he)) _ fun ctx hctx => ?_
    unfold buildContext at hctx
    dsimp only at hctx
    split at hctx
    · rename_i hbuilt
      rcases mem_append.mp hctx with hold | hnew
      · exact hst ctx hold
      · rw [mem_singleton.mp hnew]
        exact ⟨hbuilt, hsub ep mem_cons_self⟩
    · exact hst ctx hctx
    · rename_i hunavailable
      split at hctx
      · exact hst ctx hctx
      · rename_i fresh hfresh
        rcases mem_append.mp hctx with hold | hnew
        · exact hst ctx hold
        · obtain ⟨e, he, rfl⟩ := mem_map.mp hnew
          obtain ⟨hmem, hother, hbuilt⟩ := mem_of_findReplacement (Option.mem_toList.mp he)
          exact ⟨hbuilt, hsub ep mem_cons_self, hunavailable,
            fun heq => hother (heq ▸ mem_cons_self), fresh, hfresh, hmem⟩

theorem length_foldl_buildContext (endpoints : List EndpointAddr)
    (st : List (EndpointAddr × Option EndpointAddr) × List EndpointAddr) :
    (endpoints.foldl (buildContext answers) st).1.length ≤ st.1.length + endpoints.length := by
  induction endpoints generalizing st with
  | nil => exact le_rfl
  | cons ep eps ih =>
    have hstep : (buildContext answers st ep).1.length ≤ st.1.length + 1 := by
      unfold buildContext
      dsimp only
      split
      · simp
      · simp
      · split
        · simp
        · rename_i fresh _
          cases (findReplacement answers (ep :: st.2) fresh).1 <;> simp
    rw [foldl_cons, length_cons]
    exact (ih _).trans (by omega)

theorem firstRelays_ne_nil {available : List EndpointAddr} {maxAttempts : Int}
    (ha : answers.available = .ok available) (hbuild : ∀ ep, answers.build ep = .built) :
    firstRelays net circuitBreaker maxParallelEndpoints answers maxAttempts ≠ [] ↔
      1 ≤ maxAttempts ∧ ∃ ep eps, answers.select
      (avoidBroken net circuitBreaker available) maxParallelEndpoints = .ok (ep :: eps) := by
  unfold firstRelays buildProtocolContexts
  rw [ha]
  dsimp only
  cases hsel : answers.select (avoidBroken net circuitBreaker available) maxParallelEndpoints with
  | error err => simp
  | ok selected =>
    cases selected with
    | nil => simp
    | cons =>
      dsimp only
      rw [foldl_buildContext hbuild]
      simp

namespace Item

variable {cfg : ItemConfig} {s : Item}

variable {attempt : AttemptAnswers}

theorem starts_useEndpoint (hb : attempt.buildErr = none) (first : EndpointAddr)
    (filtered : List EndpointAddr) : (s.useEndpoint cfg attempt first filtered).starts ≠ [] := by
  unfold useEndpoint
  dsimp only
  generalize markTried cfg _ _ = t
  rw [hb]
  dsimp only
  split
  · simp [startRace]
  · simp [startRelay]

def Relays (cfg : ItemConfig) (attempt : AttemptAnswers) : Prop :=
  ∃ s, (start cfg).step cfg (.attempt attempt) = some s ∧ s.starts ≠ []

theorem starts_beginAttempt {eps : List EndpointAddr}
    (ha : attempt.available = .ok (ep :: eps)) (hb : attempt.buildErr = none)
    (hc : s.clientErr = none) (ht : s.triedEndpoints = []) (hstarts : s.starts = []) :
    (s.beginAttempt cfg attempt).starts ≠ [] ↔
      ∃ e ∈ attempt.validated (ep :: eps), domainTried cfg.net s.triedDomains e = false := by
  simp only [beginAttempt, hc, ha, ht]
  cases hf : filterEndpoints cfg.net (attempt.validated (ep :: eps)) [] s.triedDomains with
  | nil =>
    have hall := filterEndpoints_eq_nil.mp hf
    simpa [giveUp, hstarts] using hall
  | cons first rest =>
    refine iff_of_true (starts_useEndpoint hb first (first :: rest)) ?_
    have hmem : first ∈ filterEndpoints cfg.net (attempt.validated (ep :: eps)) []
        s.triedDomains := hf ▸ mem_cons_self
    rw [mem_filterEndpoints] at hmem
    exact ⟨first, hmem.1, hmem.2.2⟩

theorem relays_iff {eps : List EndpointAddr} (ha : attempt.available = .ok (ep :: eps))
    (hb : attempt.buildErr = none) : Relays cfg attempt ↔ 1 ≤ cfg.maxAttempts ∧
    ∃ e ∈ attempt.validated (ep :: eps), domainTried cfg.net cfg.brokenDomains e = false := by
  by_cases hmax : 1 ≤ cfg.maxAttempts
  · have hstep : (start cfg).step cfg (.attempt attempt) =
        some ((start cfg).beginAttempt cfg attempt) := by
      rw [start, if_pos hmax]
      rfl
    simp only [Relays, hstep, Option.some.injEq, exists_eq_left', hmax, true_and]
    rw [start, if_pos hmax]
    exact starts_beginAttempt ha hb rfl rfl rfl
  · simp [Relays, start, step, giveUp, hmax]

end Item

/-- The breaker leaves a request unserved on neither path exactly when an attempt is made,
the selector accepts what the breaker leaves on the single path, and some endpoint that
the selector accepts of the whole list has neither its host nor its registrable domain
broken. -/
theorem relaysOnBothPaths_iff (cfg : ItemConfig) {ep : EndpointAddr} {eps : List EndpointAddr}
    (ha : answers.available = .ok (ep :: eps)) (hbuild : ∀ e, answers.build e = .built)
    (rank : List EndpointAddr → EndpointAddr) :
    (firstRelays cfg.net cfg.circuitBreaker maxParallelEndpoints answers cfg.maxAttempts ≠ [] ∧
        Item.Relays cfg (answers.attempt rank)) ↔
      1 ≤ cfg.maxAttempts ∧
      (∃ e es, answers.select (avoidBroken cfg.net cfg.circuitBreaker (ep :: eps))
        maxParallelEndpoints = .ok (e :: es)) ∧
      ∃ e ∈ (answers.attempt rank).validated (ep :: eps),
        domainTried cfg.net cfg.brokenDomains e = false := by
  have hitem : Item.Relays cfg (answers.attempt rank) ↔ _ := Item.relays_iff ha rfl
  rw [firstRelays_ne_nil ha hbuild, hitem, ← and_and_left]

def openAnswers (endpoints : List EndpointAddr) : RequestAnswers :=
  ⟨.ok endpoints, fun eps _ => .ok eps, fun _ => .built, fun _ => .ok endpoints⟩

theorem unserved_on_batch_path :
    ¬∀ (cfg : ItemConfig) (answers : RequestAnswers) (maxParallelEndpoints : Nat)
      (rank : List EndpointAddr → EndpointAddr) (ep : EndpointAddr) (eps : List EndpointAddr),
      answers.available = .ok (ep :: eps) →
      (∀ l n, l ≠ [] → answers.select l n = .ok l) → (∀ e, answers.build e = .built) →
      1 ≤ cfg.maxAttempts →
      firstRelays cfg.net cfg.circuitBreaker maxParallelEndpoints answers cfg.maxAttempts ≠ [] ∧
        Item.Relays cfg (answers.attempt rank) := by
  intro h
  have hboth := h (sampleItem ["rm.example.com"] none)
    (openAnswers [rmAddr]) 1 (fun eps => eps.headD "")
    rmAddr [] rfl (fun _ _ _ => rfl) (fun _ => rfl) (by decide)
  obtain ⟨-, e, he, hfresh⟩ := (Item.relays_iff rfl rfl).mp hboth.2
  rw [mem_singleton.mp he] at hfresh
  revert hfresh
  decide

theorem relaysOnBothPaths_iff_unbroken :
    firstRelays NetLib.ascii (some []) 1 (openAnswers [rmAddr])
        (sampleItem [] none).maxAttempts ≠ [] ∧
      Item.Relays (sampleItem [] none)
        ((openAnswers [rmAddr]).attempt (fun eps => eps.headD "")) :=
  (relaysOnBothPaths_iff (sampleItem [] none) rfl (fun _ => rfl) _).mpr
    ⟨by decide, ⟨_, _, rfl⟩, _, mem_singleton_self _, by decide⟩

end PathGateway
