import PathGateway.SolanaQoS

/-! What one report does to the other endpoints of a Solana service. The epoch of a report is
taken over with its height, and only the height is checked: an endpoint that is one block ahead
can move the perceived epoch beyond what any other endpoint is allowed to trail. -/

namespace PathGateway.Solana.SolanaQoS

open List

variable {cfg : Config} {q q' : SolanaQoS} {now t : Time} {e : ℕ} {honest : List EndpointAddr}
  {m : EndpointAddr} {info : EpochInfo}

/-- The stored endpoint passes the basic checks, its epoch is `e`, and its height is within the
sync allowance of the perceived one. -/
def HonestAt (cfg : Config) (q : SolanaQoS) (t : Time) (e : ℕ) (addr : EndpointAddr) : Prop :=
  ∃ ep info, q.endpoints.lookup addr = some ep ∧ ep.validateBasic t = .ok info ∧
    info.epoch = e ∧ q.height.perceived ≤ info.blockHeight + cfg.getSyncAllowance

def Validates (cfg : Config) (q : SolanaQoS) (t : Time) (addr : EndpointAddr) : Prop :=
  ∃ ep, q.endpoints.lookup addr = some ep ∧ (validateEndpoint cfg q.perceived t ep).isOk = true

theorem passes_of_validates {addr : EndpointAddr} (h : q.Validates cfg t addr) :
    q.passes cfg t addr = true := by
  obtain ⟨ep, hep, hok⟩ := h
  rw [passes, hep]
  exact hok

def Adopts (q : SolanaQoS) (now : Time) (m : EndpointAddr) (info : EpochInfo) : Prop :=
  ((q.endpoints.lookup m).getD {}).unblemished now = true ∧ q.perceivedEpoch ≤ info.epoch ∧
    q.height.perceived < info.blockHeight

instance : Decidable (q.Adopts now m info) := inferInstanceAs (Decidable (_ ∧ _ ∧ _))

/-- A report that is taken over leaves the epoch check open to the honest epoch, and some honest
endpoint within the allowance of its height; without one, the perceived epoch already did. -/
def Tolerable (cfg : Config) (q : SolanaQoS) (now : Time) (e : ℕ) (honest : List EndpointAddr)
    (m : EndpointAddr) (info : EpochInfo) : Prop :=
  if q.Adopts now m info then
    EpochPasses e info.epoch ∧ ∃ addr ∈ honest, ∃ ep honestInfo,
      q.endpoints.lookup addr = some ep ∧ ep.epochInfo = some honestInfo ∧
        info.blockHeight ≤ honestInfo.blockHeight + cfg.getSyncAllowance
  else EpochPasses e q.perceivedEpoch

theorem adoptFrom_reporter (ep : Endpoint)
    (hjump : isPlausible info.blockHeight q.height.perceived = true) :
    adoptFrom now q.perceived { ep with epochInfo := some info } =
      if ep.unblemished now = true ∧ q.perceivedEpoch ≤ info.epoch ∧
    q.height.perceived < info.blockHeight then ⟨info.epoch, info.blockHeight⟩ else q.perceived := by
  have hbasic : Endpoint.validateBasic { ep with epochInfo := some info } now = .ok info ↔ _ :=
    Endpoint.validateBasic_eq_ok
  rw [adoptFrom]
  split
  · rename_i msg herror
    rw [if_neg]
    rintro ⟨hclean, -, hahead⟩
    rw [hbasic.mpr ⟨hclean, rfl, by omega⟩] at herror
    cases herror
  · rename_i info' hok
    obtain ⟨hclean, heq, hpos⟩ := Endpoint.validateBasic_eq_ok.mp hok
    cases heq
    have hclean : ep.unblemished now = true := hclean
    rw [perceived, hjump]
    simp only [hclean, true_and, Bool.true_eq_false, if_false]
    split
    · rw [if_neg fun h => absurd h.1 (by omega)]
    · split
      · rw [if_neg fun h => absurd h.2 (by omega)]
      · rw [if_pos ⟨by omega, by omega⟩]

theorem applyObservations_report (hjump : isPlausible info.blockHeight q.height.perceived = true)
    (hstep : q.applyObservations now [(m, .getEpochInfo info)] [m] = some q') :
    q'.endpoints =
        q.endpoints.insert m { ((q.endpoints.lookup m).getD {}) with epochInfo := some info } ∧
      q'.perceived =
        if q.Adopts now m info then ⟨info.epoch, info.blockHeight⟩ else q.perceived := by
  obtain ⟨hendpoints, hperceived⟩ := applyObservations_eq_some hstep
  refine ⟨hendpoints, hperceived.trans ?_⟩
  have hadopted : q.adopted now (q.observed [(m, .getEpochInfo info)]).2 [m] =
      adoptFrom now q.perceived
        { ((q.endpoints.lookup m).getD {}) with epochInfo := some info } := by
    have hlookup : (q.observed [(m, .getEpochInfo info)]).2.lookup m =
        some { ((q.endpoints.lookup m).getD {}) with epochInfo := some info } :=
      AList.lookup_insert _
    rw [adopted, filterMap_cons, hlookup]
    rfl
  exact hadopted.trans (adoptFrom_reporter _ hjump)

/-- One plausible report leaves some honest endpoint valid exactly if it is tolerable. -/
theorem some_honest_validates_iff (hne : honest ≠ [])
    (hhonest : ∀ addr ∈ honest, q.HonestAt cfg t e addr) (hm : m ∉ honest)
    (hjump : isPlausible info.blockHeight q.height.perceived = true)
    (hstep : q.applyObservations now [(m, .getEpochInfo info)] [m] = some q') :
    (∃ addr ∈ honest, q'.Validates cfg t addr) ↔ q.Tolerable cfg now e honest m info := by
  obtain ⟨hendpoints, hperceived⟩ := applyObservations_report hjump hstep
  have hkept : ∀ addr ∈ honest, q'.endpoints.lookup addr = q.endpoints.lookup addr := by
    intro addr haddr
    rw [hendpoints, AList.lookup_insert_ne]
    rintro rfl
    exact hm haddr
  -- an honest endpoint is valid if the new perceived epoch and height let it pass
  have hvalid : ∀ addr ∈ honest, q'.Validates cfg t addr ↔ EpochPasses e q'.perceived.epoch ∧
      ∃ ep info, q.endpoints.lookup addr = some ep ∧ ep.epochInfo = some info ∧
        q'.perceived.blockHeight ≤ info.blockHeight + cfg.getSyncAllowance := by
    intro addr haddr
    obtain ⟨ep, honestInfo, hep, hbasic, rfl, -⟩ := hhonest addr haddr
    have hinfo := (Endpoint.validateBasic_eq_ok.mp hbasic).2.1
    rw [Validates, hkept addr haddr]
    constructor
    · rintro ⟨ep', hep', hok⟩
      cases hep.symm.trans hep'
      obtain ⟨info', hbasic', hepoch, hheight⟩ := validateEndpoint_isOk.mp hok
      cases hbasic.symm.trans hbasic'
      exact ⟨hepoch, ep, honestInfo, hep, hinfo, hheight⟩
    · rintro ⟨hepoch, ep', info', hep', hinfo', hheight⟩
      cases hep.symm.trans hep'
      cases hinfo.symm.trans hinfo'
      exact ⟨ep, hep, validateEndpoint_isOk.mpr ⟨honestInfo, hbasic, hepoch, hheight⟩⟩
  rw [exists_congr fun addr => and_congr_right fun haddr => hvalid addr haddr]
  rw [hperceived, Tolerable]
  split
  · constructor
    · rintro ⟨addr, haddr, hepoch, hheight⟩
      exact ⟨hepoch, addr, haddr, hheight⟩
    · rintro ⟨hepoch, addr, haddr, hheight⟩
      exact ⟨addr, haddr, hepoch, hheight⟩
  · constructor
    · rintro ⟨addr, haddr, hepoch, -⟩
      exact hepoch
    · intro hepoch
      obtain ⟨addr, haddr⟩ := exists_mem_of_ne_nil honest hne
      obtain ⟨ep, honestInfo, hep, hbasic, -, hheight⟩ := hhonest addr haddr
      exact ⟨addr, haddr, hepoch, ep, honestInfo, hep, (Endpoint.validateBasic_eq_ok.mp hbasic).2.1,
        hheight⟩

def agreeing : SolanaQoS where
  endpoints := ((∅ : GoMap EndpointAddr Endpoint).insert
    "a" { epochInfo := some ⟨1000, 10⟩ }).insert "b" { epochInfo := some ⟨1000, 10⟩ }
  perceivedEpoch := 10
  height := { perceived := 1000 }
  redis := 0
  updated := []

theorem honestAt_agreeing : ∀ addr ∈ ["a", "b"], agreeing.HonestAt withDefaults 1 10 addr := by
  intro addr haddr
  rcases mem_cons.mp haddr with rfl | haddr
  · exact ⟨_, ⟨1000, 10⟩, rfl, rfl, rfl, by decide⟩
  · rw [mem_singleton] at haddr
    subst haddr
    exact ⟨_, ⟨1000, 10⟩, rfl, rfl, rfl, by decide⟩

theorem some_honest_validates_next :
    ∃ q', agreeing.applyObservations 1 [("m", .getEpochInfo ⟨1001, 11⟩)] ["m"] = some q' ∧
    ∃ addr ∈ ["a", "b"], q'.Validates withDefaults 1 addr := by
  have htolerable : agreeing.Tolerable withDefaults 1 10 ["a", "b"] "m" ⟨1001, 11⟩ := by
    rw [Tolerable, if_pos (by decide +kernel)]
    exact ⟨.inr (.inr (by decide)), "a", by decide, _, _, rfl, rfl, by decide⟩
  exact ⟨_, rfl, (some_honest_validates_iff (by decide) honestAt_agreeing (by decide) (by decide)
    rfl).mpr htolerable⟩

theorem epoch_poisons : (∀ addr ∈ ["a", "b"], agreeing.HonestAt withDefaults 1 10 addr) ∧
    isPlausible 1001 agreeing.height.perceived = true ∧
    ∃ q', agreeing.applyObservations 1 [("m", .getEpochInfo ⟨1001, 12⟩)] ["m"] = some q' ∧
      ∀ addr ∈ ["a", "b"], ¬q'.Validates withDefaults 1 addr := by
  refine ⟨honestAt_agreeing, by decide, _, rfl, fun addr haddr hvalid => ?_⟩
  have hpasses := passes_of_validates hvalid
  clear hvalid
  revert addr
  decide +kernel

end PathGateway.Solana.SolanaQoS
