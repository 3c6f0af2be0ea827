import PathGateway.Adoption
import PathGateway.CosmosQoS
import PathGateway.SolanaQoS

/-! The updates of the perceived height from the endpoints of a batch of observations. The endpoints
come in the order of a map, and each report is judged against the height that the reports before it
have left. -/

namespace PathGateway

open Adoption

theorem isPlausible_of_le {current h f : ℕ} (hlt : current < h) (hle : h ≤ f)
    (hf : isPlausible f current = true) : isPlausible h current = true := by
  rw [isPlausible_iff (hlt.trans_le hle)] at hf
  exact (isPlausible_iff hlt).mpr ⟨hle.trans hf.1, fun hpos => hle.trans (hf.2 hpos)⟩

namespace Cosmos

/-- What an endpoint reports to the update of the perceived height. -/
def Endpoint.reported (cfg : Config) (ep : Endpoint) : Option ℕ :=
  match isCometBFTStatusValid cfg ep.checkCometBFTStatus,
    ep.checkCometBFTStatus.getLatestBlockHeight with
  | .ok _, .ok blockNumber => some blockNumber
  | _, _ => none

def Raises (perceived blockNumber : ℕ) : Prop :=
  perceived < blockNumber ∧ isPlausible blockNumber perceived = true

instance : DecidableRel Raises := fun _ _ => inferInstanceAs (Decidable (_ ∧ _))

theorem raiseFrom_eq (cfg : Config) (perceived : ℕ) (ep : Endpoint) :
    raiseFrom cfg perceived ep = (ep.reported cfg).elim perceived (adopt Raises perceived) := by
  rw [raiseFrom, Endpoint.reported]
  cases isCometBFTStatusValid cfg ep.checkCometBFTStatus with
  | error => rfl
  | ok =>
    cases ep.checkCometBFTStatus.getLatestBlockHeight with
    | error => rfl
    | ok blockNumber =>
      cases hplausible : isPlausible blockNumber perceived <;> simp [adopt, Raises, hplausible]

end Cosmos

namespace Solana

def Endpoint.reported (now : Time) (ep : Endpoint) : Option Perceived :=
  (ep.validateBasic now).toOption.map fun info => ⟨info.epoch, info.blockHeight⟩

def Perceived.Raises (perceived report : Perceived) : Prop :=
  perceived.epoch ≤ report.epoch ∧ perceived.blockHeight < report.blockHeight ∧
    isPlausible report.blockHeight perceived.blockHeight = true

instance : DecidableRel Perceived.Raises := fun _ _ => inferInstanceAs (Decidable (_ ∧ _))

theorem adoptFrom_eq (now : Time) (perceived : Perceived) (ep : Endpoint) :
    adoptFrom now perceived ep =
      (ep.reported now).elim perceived (adopt Perceived.Raises perceived) := by
  rw [adoptFrom, Endpoint.reported]
  cases ep.validateBasic now with
  | error => rfl
  | ok info =>
    by_cases hepoch : info.epoch < perceived.epoch
    · have hnot : ¬perceived.epoch ≤ info.epoch := Nat.not_le.mpr hepoch
      simp [Except.toOption, adopt, Perceived.Raises, hepoch, hnot]
    · have hle : perceived.epoch ≤ info.epoch := Nat.not_lt.mp hepoch
      by_cases hheight : info.blockHeight ≤ perceived.blockHeight
      · simp [Except.toOption, adopt, Perceived.Raises, hepoch, hheight, Nat.not_lt.mpr hheight]
      · cases hplausible : isPlausible info.blockHeight perceived.blockHeight <;>
          simp [Except.toOption, adopt, Perceived.Raises, hepoch, hle, hheight, hplausible,
            Nat.not_le.mp hheight]

end Solana

/-- Neither service's perceived state depends on the order of the endpoints, exactly where the
reports settle. -/
theorem height_order_iff (cfg : Cosmos.Config) (now : Time) (perceived : ℕ)
    (updated : List Cosmos.Endpoint) (state : Solana.Perceived) (updated' : List Solana.Endpoint) :
    ((∀ order : List Cosmos.Endpoint, order.Perm updated →
        Cosmos.updateFromEndpoints cfg perceived order =
          Cosmos.updateFromEndpoints cfg perceived updated) ↔
      Settles Cosmos.Raises perceived (updated.filterMap (Cosmos.Endpoint.reported cfg))) ∧
    ((∀ order : List Solana.Endpoint, order.Perm updated' →
        order.foldl (Solana.adoptFrom now) state = updated'.foldl (Solana.adoptFrom now) state) ↔
      Settles Solana.Perceived.Raises state
        (updated'.filterMap (Solana.Endpoint.reported now))) := by
  have hcosmos : ∀ p r, Cosmos.Raises p r → id p < id r := fun _ _ h => h.1
  have hsolana : ∀ p r : Solana.Perceived, p.Raises r → p.blockHeight < r.blockHeight :=
    fun _ _ h => h.2.1
  constructor
  · refine foldl_perm_iff hcosmos _ (Cosmos.raiseFrom_eq cfg) ?_ updated
    rintro p g h f ⟨hpg, -⟩ ⟨hgh, -⟩ ⟨-, hf⟩ hle
    exact ⟨hpg.trans hgh, isPlausible_of_le (hpg.trans hgh) hle hf⟩
  · refine foldl_perm_iff hsolana _ (Solana.adoptFrom_eq now) ?_ updated'
    rintro p g h f ⟨hepoch, hpg, -⟩ ⟨hepoch', hgh, -⟩ ⟨-, -, hf⟩ hle
    exact ⟨hepoch.trans hepoch', hpg.trans hgh, isPlausible_of_le (hpg.trans hgh) hle hf⟩

def heightReport (blockHeight : ℕ) : Cosmos.Endpoint :=
  { checkCometBFTStatus := ⟨some "cosmoshub-4", some false, some blockHeight⟩ }

def epochReport (epoch blockHeight : ℕ) : Solana.Endpoint :=
  { epochInfo := some { epoch := epoch, blockHeight := blockHeight } }

/-- Two reports in either order: of two heights only the lower is plausible at first, and of two
epochs the later one has the lower height. -/
theorem order_decides_height :
    Cosmos.updateFromEndpoints ⟨"cosmoshub-4", "", 0, [], ⟨false, 0, 0⟩⟩ 100
        [heightReport 10000100, heightReport 15000100] = 15000100 ∧
      Cosmos.updateFromEndpoints ⟨"cosmoshub-4", "", 0, [], ⟨false, 0, 0⟩⟩ 100
        [heightReport 15000100, heightReport 10000100] = 10000100 ∧
      [epochReport 11 100, epochReport 10 200].foldl (Solana.adoptFrom 0) ⟨10, 50⟩ = ⟨11, 100⟩ ∧
      [epochReport 10 200, epochReport 11 100].foldl (Solana.adoptFrom 0) ⟨10, 50⟩ = ⟨10, 200⟩ := by
  decide +kernel

end PathGateway
