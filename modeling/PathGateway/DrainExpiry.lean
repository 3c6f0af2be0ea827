import Mathlib.Data.Nat.ModEq
import PathGateway.RedisStorage

/-! The time to live of the drains. It is set with `EXPIRE GT`, for which a hash without one, as
the first drain makes it, already lives longest. -/

namespace PathGateway

open Option ExpiringStore Nat Machine

structure DrainWrite where
  elapsed : ℕ
  key : DrainKey
  endsAt : Time

/-- The store, and the ends of the drains that were written. -/
structure DrainLog where
  store : ExpiringStore
  ends : List Time

namespace RedisStorage

variable (r : RedisStorage)

def write (s : DrainLog) (w : DrainWrite) : Option DrainLog :=
  (r.setDrain (s.store.wait w.elapsed) w.key w.endsAt).map (⟨·, w.endsAt :: s.ends⟩)

/-- Once a drain is written, the hash has an end, a margin after that of the drains. -/
def Outlives (s : DrainLog) : Prop :=
  s.ends ≠ [] → ∃ d, s.store.deadline r.drainsHashKey = some d ∧
    ∀ e ∈ s.ends, e + r.drainsHashTTLMargin ≤ d

/-- The hash is there and has an end, which is late enough or can be made so in whole seconds. -/
def Extends (s : DrainLog) (w : DrainWrite) : Prop :=
  ∃ d, (s.store.wait w.elapsed).deadline r.drainsHashKey = some d ∧
    (w.endsAt + r.drainsHashTTLMargin ≤ d ∨
      w.endsAt + r.drainsHashTTLMargin < s.store.now + w.elapsed + r.pl.second ∨
      (w.endsAt + r.drainsHashTTLMargin) % r.pl.second =
        (s.store.now + w.elapsed) % r.pl.second)

/-- Where the drain and its margin are not over, the hash lives on until then, if that is later. -/
def extended (now d endsAt : ℕ) : ℕ :=
  let ttl : ℤ := endsAt - now + r.drainsHashTTLMargin
  if 0 < ttl then max d (now + r.formatSec ttl.toNat) else d

variable {r}

variable {s : ExpiringStore} {key : String} {d : ℕ}

theorem lt_of_deadline (h : s.deadline key = some d) : s.now < d := by
  obtain ⟨item, hitem, hd⟩ := bind_eq_some_iff.mp h
  have hlive := live_of_get hitem
  simpa [StoreItem.live, hd] using hlive

theorem deadline_wait {elapsed : ℕ} (h : (s.wait elapsed).deadline key = some d) :
    s.deadline key = some d := by
  obtain ⟨item, hitem, hd⟩ := bind_eq_some_iff.mp h
  rw [get_wait] at hitem
  rw [deadline, (filter_eq_some_iff.mp hitem).1, bind_some, hd]

theorem le_extended (now d endsAt : ℕ) : d ≤ r.extended now d endsAt := by
  simp only [extended]
  split
  · exact le_max_left _ _
  · exact le_rfl

theorem covered_iff {now endsAt : ℕ} (hlive : now < d) :
    endsAt + r.drainsHashTTLMargin ≤ r.extended now d endsAt ↔
    endsAt + r.drainsHashTTLMargin ≤ d ∨ endsAt + r.drainsHashTTLMargin < now + r.pl.second ∨
    (endsAt + r.drainsHashTTLMargin) % r.pl.second = now % r.pl.second := by
  have hsecond := r.second_pos
  simp only [extended]
  split
  · rename_i hpos
    obtain ⟨ttl, httl⟩ : ∃ ttl, endsAt + r.drainsHashTTLMargin = now + ttl :=
      Nat.exists_eq_add_of_le (by omega)
    have htoNat : ((endsAt : ℤ) - now + r.drainsHashTTLMargin).toNat = ttl := by omega
    have hmod : (now + ttl) % r.pl.second = now % r.pl.second ↔ r.pl.second ∣ ttl := by
      rw [eq_comm, ← Nat.ModEq, modEq_iff_dvd' (le_add_right now ttl),
        Nat.add_sub_cancel_left]
    have hfloor := div_mul_le_self ttl r.pl.second
    rw [htoNat, httl, hmod, formatSec, le_max_iff, add_le_add_iff_left, add_lt_add_iff_left]
    by_cases hshort : ttl < r.pl.second
    · have hlow : 0 < ttl ∧ ttl < r.pl.second := ⟨by omega, hshort⟩
      simp only [hlow, and_self, if_true, one_mul, hshort.le, or_true, true_or]
    · -- what is left of a second is lost
      have hwhole : ttl ≤ ttl / r.pl.second * r.pl.second ↔ r.pl.second ∣ ttl := by
        exact ⟨fun h => ⟨_, (le_antisymm h hfloor).trans (mul_comm _ _)⟩,
          fun h => (Nat.div_mul_cancel h).ge⟩
      simp only [hshort, and_false, if_false, false_or, hwhole]
  · rename_i hover
    have hpast : endsAt + r.drainsHashTTLMargin ≤ d := by omega
    simp only [hpast, true_or]

theorem deadline_expireGT {ttl : ℕ} (h : s.deadline key = some d) :
    (s.expireGT key ttl).deadline key = some (max d (s.now + ttl)) := by
  obtain ⟨item, hitem, -⟩ := bind_eq_some_iff.mp h
  have hlive := lt_of_deadline h
  rw [expireGT, h]
  by_cases hlater : d < s.now + ttl
  · have hpos : 0 < ttl := by omega
    simp only [any_some, decide_eq_true hlater, if_true]
    rw [deadline, get_expire hitem hpos, max_eq_right hlater.le]
    rfl
  · simp only [any_some, decide_eq_false hlater, Bool.false_eq_true, if_false]
    rw [h, max_eq_left (Nat.le_of_not_lt hlater)]

theorem deadline_setDrain {t : ExpiringStore}
    {key : DrainKey} {endsAt : Time} (h : r.setDrain s key endsAt = some t) :
    t.deadline r.drainsHashKey = (s.deadline r.drainsHashKey).map (r.extended s.now · endsAt) := by
  simp only [setDrain, map_eq_some_iff] at h
  obtain ⟨u, hset, rfl⟩ := h
  simp only [ExpiringStore.hset, map_eq_some_iff] at hset
  obtain ⟨old, -, rfl⟩ := hset
  generalize StoreValue.hash _ = value
  have hput (item : StoreItem) (hlive : item.live s.now = true) :
      (s.put r.drainsHashKey item).deadline r.drainsHashKey = item.deadline := by
    rw [ExpiringStore.deadline, ExpiringStore.get_put hlive, bind_some]
  have hnew := hput ⟨value, s.deadline r.drainsHashKey⟩ ExpiringStore.live_deadline
  cases hd : s.deadline r.drainsHashKey with
  | none =>
    rw [hd] at hnew
    split
    · rw [ExpiringStore.expireGT, hnew]
      exact hnew
    · exact hnew
  | some =>
    rw [hd] at hnew
    simp only [map_some, extended]
    split
    · rw [deadline_expireGT hnew]
      rfl
    · exact hnew

theorem outlives_write_iff {s s' : DrainLog} {w : DrainWrite} (h : r.Outlives s)
    (hstep : r.write s w = some s') : r.Outlives s' ↔ r.Extends s w := by
  simp only [write, map_eq_some_iff] at hstep
  obtain ⟨t, hset, rfl⟩ := hstep
  have hdeadline := deadline_setDrain hset
  simp only [Outlives, Extends, ne_eq, List.cons_ne_nil, not_false_eq_true, forall_const,
    hdeadline, map_eq_some_iff, List.forall_mem_cons]
  constructor
  · rintro ⟨-, ⟨d, hd, rfl⟩, hnew, -⟩
    have hlive := lt_of_deadline hd
    exact ⟨d, hd, (covered_iff hlive).mp hnew⟩
  · rintro ⟨d, hd, hcovered⟩
    have hlive := lt_of_deadline hd
    refine ⟨_, ⟨d, hd, rfl⟩, (covered_iff hlive).mpr hcovered, fun e he => ?_⟩
    obtain ⟨d', hd', hends⟩ := h (List.ne_nil_of_mem he)
    cases (deadline_wait hd).symm.trans hd'
    exact (hends e he).trans (le_extended _ _ _)

/-- After every write the drains have an end that is late enough, exactly if each write finds them
with an end and can move it far enough. -/
theorem outlives_drains_iff (r : RedisStorage) (store : ExpiringStore) (writes : List DrainWrite)
    (t : DrainLog) (hrun : run r.write ⟨store, []⟩ writes = some t) :
    (∀ pre post u, writes = pre ++ post → run r.write ⟨store, []⟩ pre = some u →
        r.Outlives u) ↔
      Machine.Meets r.write r.Extends ⟨store, []⟩ writes :=
  always_iff_meets (fun _ _ _ => outlives_write_iff) (fun h => absurd rfl h) hrun

end RedisStorage

def hourLong : DrainWrite := ⟨0, ⟨"eth", "a.example.com", ""⟩, 3600⟩

theorem run_hourLong {store : ExpiringStore} {d : Option ℕ}
    (h : (plainRedis.write ⟨store, []⟩ hourLong).map
      (fun t => t.store.deadline plainRedis.drainsHashKey) = some d) :
    ∃ t, run plainRedis.write ⟨store, []⟩ [hourLong] = some t ∧
    t.ends = [3600] ∧ t.store.deadline plainRedis.drainsHashKey = d := by
  obtain ⟨t, hwrite, hd⟩ := map_eq_some_iff.mp h
  refine ⟨t, run_cons.mpr ⟨t, hwrite, rfl⟩, ?_, hd⟩
  obtain ⟨u, -, rfl⟩ := map_eq_some_iff.mp hwrite
  rfl

/-- The first drain ever written never gets an end. -/
theorem first_drain_without_expiry :
    ∃ t, run plainRedis.write ⟨⟨0, ∅⟩, []⟩ [hourLong] = some t ∧
      t.store.deadline plainRedis.drainsHashKey = none ∧ ¬plainRedis.Outlives t := by
  obtain ⟨t, hrun, hends, hd⟩ := @run_hourLong ⟨0, ∅⟩ none (by decide +kernel)
  refine ⟨t, hrun, hd, fun houtlives => ?_⟩
  obtain ⟨d, hd', -⟩ := houtlives (by rw [hends]; decide)
  rw [hd] at hd'
  cases hd'

def endingStore : ExpiringStore :=
  ⟨0, (∅ : GoMap String StoreItem).insert plainRedis.drainsHashKey
    ⟨.hash ((∅ : GoMap String String).insert "eth|b.example.com|" ""), some 1000⟩⟩

theorem later_drain_covered :
    ∃ t, run plainRedis.write ⟨endingStore, []⟩ [hourLong] = some t ∧
      t.store.deadline plainRedis.drainsHashKey = some 4200 ∧ plainRedis.Outlives t := by
  obtain ⟨t, hrun, -, hd⟩ := @run_hourLong endingStore (some 4200) (by decide +kernel)
  have hmeets : Machine.Meets plainRedis.write plainRedis.Extends ⟨endingStore, []⟩ [hourLong] :=
    ⟨⟨1000, by decide +kernel, .inr (.inr (by decide +kernel))⟩, fun _ _ => trivial⟩
  exact ⟨t, hrun, hd, (RedisStorage.outlives_drains_iff plainRedis endingStore [hourLong] t
    hrun).mpr hmeets [hourLong] [] t rfl hrun⟩

end PathGateway
