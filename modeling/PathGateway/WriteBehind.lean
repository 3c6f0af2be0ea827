import PathGateway.GoMap

/-! A write-behind pipeline. A write waits for its sender, lies in a bounded channel, is
coalesced with other writes under the name of its key, and reaches the store, which knows
keys by their names only, when the coalesced writes are flushed. The newest copy under a
name is the one the pipeline would leave in the store if it ran dry. -/

namespace WriteBehind

open Option List AList

variable {α κ ν : Type}

structure Pipeline (α κ ν : Type) where
  waiting : List (κ × ν)
  channel : List (κ × ν)
  pending : GoMap α (κ × ν)
  store : GoMap α ν

def lastOf [DecidableEq α] (name : κ → α) (a : α) : List (κ × ν) → Option ν
  | [] => none
  | w :: ws => (lastOf name a ws).or (if name w.1 = a then some w.2 else none)

def insertAll [DecidableEq α] (name : κ → α) (m : GoMap α ν) (ws : List (κ × ν)) : GoMap α ν :=
  ws.foldl (fun m w => m.insert (name w.1) w.2) m

def pairs (m : GoMap κ ν) : List (κ × ν) := m.entries.map (fun e => (e.1, e.2))

namespace Pipeline

variable (name : κ → α) (p : Pipeline α κ ν)

def write (k : κ) (v : ν) : Pipeline α κ ν :=
  { p with waiting := p.waiting ++ [(k, v)] }

/-- The sender at position `i` puts its write into the channel, or gives up when the channel
is full. -/
def send (capacity i : Nat) : Option (Pipeline α κ ν) :=
  match p.waiting[i]? with
  | none => none
  | some w =>
    if p.channel.length < capacity then
      some { p with waiting := p.waiting.eraseIdx i, channel := p.channel ++ [w] }
    else some { p with waiting := p.waiting.eraseIdx i }

def receive [DecidableEq α] : Option (Pipeline α κ ν) :=
  match p.channel with
  | [] => none
  | w :: rest => some { p with channel := rest, pending := p.pending.insert (name w.1) w }

def batch [DecidableEq κ] : GoMap κ ν :=
  insertAll id ∅ (p.pending.entries.map Sigma.snd)

/-- The store takes the coalesced writes, each one as the store keeps it. -/
def flush [DecidableEq α] [DecidableEq κ] (keep : ν → ν) : Pipeline α κ ν :=
  { p with pending := ∅, store := insertAll name p.store (pairs (p.batch.mapValues keep)) }

def expire [DecidableEq α] (a : α) : Pipeline α κ ν :=
  { p with store := p.store.erase a }

def newest [DecidableEq α] (a : α) : Option ν :=
  (lastOf name a p.waiting).or ((lastOf name a p.channel).or
    (((p.pending.lookup a).map Prod.snd).or (p.store.lookup a)))

def Named [DecidableEq α] : Prop := ∀ a w, p.pending.lookup a = some w → name w.1 = a

/-- No write under the name is on its way to the store. -/
structure Settled [DecidableEq α] (a : α) : Prop where
  waiting : ∀ w ∈ p.waiting, name w.1 ≠ a
  channel : ∀ w ∈ p.channel, name w.1 ≠ a
  pending : p.pending.lookup a = none

instance [DecidableEq α] (a : α) : Decidable (p.Settled name a) :=
  decidable_of_iff ((∀ w ∈ p.waiting, name w.1 ≠ a) ∧ (∀ w ∈ p.channel, name w.1 ≠ a) ∧
      (p.pending.lookup a).isNone)
    ⟨fun h => ⟨h.1, h.2.1, isNone_iff_eq_none.mp h.2.2⟩,
      fun h => ⟨h.waiting, h.channel, isNone_iff_eq_none.mpr h.pending⟩⟩

end Pipeline

section Last

variable [DecidableEq α] {name : κ → α} {a : α} {v : ν} {xs ys : List (κ × ν)}

@[simp] theorem lastOf_append :
    lastOf name a (xs ++ ys) = (lastOf name a ys).or (lastOf name a xs) := by
  induction xs with
  | nil => simp [lastOf]
  | cons x xs ih => rw [cons_append, lastOf, ih, Option.or_assoc, lastOf]

theorem lastOf_eq_none : lastOf name a xs = none ↔ ∀ w ∈ xs, name w.1 ≠ a := by
  induction xs with
  | nil => simp [lastOf]
  | cons x xs ih =>
    rw [lastOf, or_eq_none_iff, ih, forall_mem_cons, and_comm]
    simp

theorem exists_mem_of_lastOf (h : lastOf name a xs = some v) :
    ∃ w ∈ xs, name w.1 = a ∧ w.2 = v := by
  induction xs with
  | nil => cases h
  | cons x xs ih =>
    rw [lastOf, or_eq_some_iff] at h
    rcases h with h | ⟨-, h⟩
    · obtain ⟨w, hw, hv⟩ := ih h
      exact ⟨w, mem_cons_of_mem _ hw, hv⟩
    · obtain ⟨hx, hv⟩ := ite_none_right_eq_some.mp h
      exact ⟨x, mem_cons_self, hx, some.inj hv⟩

theorem lastOf_eq_some_iff (hunique : ∀ w ∈ xs, ∀ w' ∈ xs, name w.1 = name w'.1 → w = w') :
    lastOf name a xs = some v ↔ ∃ w ∈ xs, name w.1 = a ∧ w.2 = v := by
  refine ⟨exists_mem_of_lastOf, ?_⟩
  rintro ⟨w, hw, ha, rfl⟩
  cases hl : lastOf name a xs with
  | none => exact absurd ha (lastOf_eq_none.mp hl w hw)
  | some =>
    obtain ⟨w', hw', ha', rfl⟩ := exists_mem_of_lastOf hl
    rw [hunique w hw w' hw' (ha.trans ha'.symm)]

@[simp] theorem lookup_insertAll {m : GoMap α ν} :
    (insertAll name m xs).lookup a = (lastOf name a xs).or (m.lookup a) := by
  induction xs generalizing m with
  | nil => rfl
  | cons x xs ih =>
    rw [insertAll, foldl_cons]
    refine (ih (m := m.insert (name x.1) x.2)).trans ?_
    rw [lastOf, Option.or_assoc]
    by_cases hx : name x.1 = a
    · subst hx
      rw [lookup_insert, if_pos rfl, some_or]
    · rw [lookup_insert_ne (Ne.symm hx), if_neg hx, none_or]

end Last

theorem mem_pairs [DecidableEq κ] {m : GoMap κ ν} {w : κ × ν} :
    w ∈ pairs m ↔ m.lookup w.1 = some w.2 := by
  rw [pairs, List.mem_map, ← mem_def, mem_lookup_iff]
  constructor
  · rintro ⟨e, he, rfl⟩
    exact he
  · exact fun h => ⟨_, h, rfl⟩

theorem lastOf_pairs [DecidableEq κ] {m : GoMap κ ν} {k : κ} :
    lastOf id k (pairs m) = m.lookup k := by
  refine ext fun v => ?_
  rw [lastOf_eq_some_iff]
  · constructor
    · rintro ⟨w, hw, rfl, rfl⟩
      exact mem_pairs.mp hw
    · exact fun hl => ⟨(k, v), mem_pairs.mpr hl, rfl, rfl⟩
  · intro w hw w' hw' hk
    rw [mem_pairs] at hw hw'
    rw [show w.1 = w'.1 from hk, hw'] at hw
    exact Prod.ext hk (some.inj hw).symm

namespace Pipeline

variable [DecidableEq α] {name : κ → α} {p p' : Pipeline α κ ν} {a : α} {k : κ} {v : ν}

theorem newest_write :
    (p.write k v).newest name a = if name k = a then some v else p.newest name a := by
  by_cases hk : name k = a
  · simp [newest, write, lastOf, hk]
  · simp [newest, write, lastOf, hk]

theorem newest_of_settled (h : p.Settled name a) : p.newest name a = p.store.lookup a := by
  rw [newest, lastOf_eq_none.mpr h.waiting, lastOf_eq_none.mpr h.channel, h.pending]
  rfl

/-- Sending keeps the newest copies if there is room and no older write under the same name
is still waiting. -/
theorem newest_send {capacity i : Nat} (hroom : p.channel.length < capacity)
    (hfirst : ∀ w w', p.waiting[i]? = some w → w' ∈ p.waiting.take i → name w'.1 ≠ name w.1)
    (h : p.send capacity i = some p') : p'.newest name a = p.newest name a := by
  rw [send] at h
  split at h
  · cases h
  · rename_i w hw
    rw [if_pos hroom, some.injEq] at h
    subst h
    have hsplit : p.waiting = p.waiting.take i ++ w :: p.waiting.drop (i + 1) := by
      rw [← (List.getElem?_eq_some_iff.mp hw).2, List.getElem_cons_drop, List.take_append_drop]
    have hnone : name w.1 = a → lastOf name a (p.waiting.take i) = none := by
      rintro rfl
      exact lastOf_eq_none.mpr fun w' hw' => hfirst w w' hw hw'
    simp only [newest, eraseIdx_eq_take_drop_succ]
    conv_rhs => rw [hsplit]
    simp only [lastOf_append, lastOf, Option.or_assoc, Option.none_or]
    by_cases hk : name w.1 = a
    · simp [hk, hnone hk]
    · simp [hk]

theorem newest_receive (h : p.receive name = some p') : p'.newest name a = p.newest name a := by
  rw [receive] at h
  split at h
  · cases h
  · rename_i w rest hchan
    rw [Option.some.injEq] at h
    subst h
    simp only [newest, hchan, lastOf, Option.or_assoc]
    congr 2
    by_cases hk : name w.1 = a
    · subst hk
      simp
    · rw [if_neg hk, Option.none_or, lookup_insert_ne (Ne.symm hk)]

theorem newest_of_expire {a' : α} (h : (p.expire a').newest name a = some v) :
    p.newest name a = some v := by
  by_cases ha : a = a'
  · subst ha
    simp only [newest, expire, lookup_erase, or_none, or_eq_some_iff] at h
    simp only [newest, or_eq_some_iff]
    tauto
  · rwa [newest, expire, lookup_erase_ne ha] at h

theorem mem_pending_iff (hnamed : p.Named name) {w : κ × ν} :
    w ∈ p.pending.entries.map Sigma.snd ↔ p.pending.lookup (name w.1) = some w := by
  rw [List.mem_map]
  constructor
  · rintro ⟨⟨a, w⟩, he, rfl⟩
    have hl : p.pending.lookup a = some w := mem_lookup_iff.mpr he
    rwa [hnamed a w hl]
  · exact fun hl => ⟨⟨_, w⟩, mem_lookup_iff.mp hl, rfl⟩

section Flush

variable [DecidableEq κ]

theorem lookup_batch_eq_some (hnamed : p.Named name) :
    p.batch.lookup k = some v ↔ p.pending.lookup (name k) = some (k, v) := by
  have hunique : ∀ w ∈ p.pending.entries.map Sigma.snd, ∀ w' ∈ p.pending.entries.map Sigma.snd,
      id w.1 = id w'.1 → w = w' := by
    intro w hw w' hw' hk
    rw [mem_pending_iff hnamed] at hw hw'
    rw [show w.1 = w'.1 from hk, hw'] at hw
    exact (some.inj hw).symm
  rw [batch, lookup_insertAll, lookup_empty, or_none, lastOf_eq_some_iff hunique]
  constructor
  · rintro ⟨w, hw, rfl, rfl⟩
    exact (mem_pending_iff hnamed).mp hw
  · exact fun hl => ⟨(k, v), (mem_pending_iff hnamed).mpr hl, rfl, rfl⟩

variable {keep : ν → ν}

theorem lookup_store_flush (hnamed : p.Named name) :
    (p.flush name keep).store.lookup a =
      ((p.pending.lookup a).map (fun w => keep w.2)).or (p.store.lookup a) := by
  have hpair : ∀ w : κ × ν, w ∈ pairs (p.batch.mapValues keep) ↔
      ∃ v, p.pending.lookup (name w.1) = some (w.1, v) ∧ keep v = w.2 := by
    intro w
    simp only [mem_pairs, GoMap.lookup_mapValues, map_eq_some_iff,
      lookup_batch_eq_some hnamed]
  have hunique : ∀ w ∈ pairs (p.batch.mapValues keep), ∀ w' ∈ pairs (p.batch.mapValues keep),
      name w.1 = name w'.1 → w = w' := by
    intro w hw w' hw' hname
    obtain ⟨v, hl, hv⟩ := (hpair w).mp hw
    obtain ⟨v', hl', hv'⟩ := (hpair w').mp hw'
    rw [hname, hl', some.injEq, Prod.mk.injEq] at hl
    rw [hl.2, hv] at hv'
    exact Prod.ext hl.1.symm hv'
  rw [flush, lookup_insertAll]
  congr 1
  refine ext fun v' => ?_
  rw [lastOf_eq_some_iff hunique, map_eq_some_iff]
  constructor
  · rintro ⟨w, hw, rfl, rfl⟩
    obtain ⟨v, hl, hv⟩ := (hpair w).mp hw
    exact ⟨_, hl, hv⟩
  · rintro ⟨w, hl, rfl⟩
    obtain rfl := hnamed a w hl
    exact ⟨(w.1, keep w.2), (hpair _).mpr ⟨w.2, hl, rfl⟩, rfl, rfl⟩

/-- Flushing leaves the newest copies as the store keeps them, so any measure the store
respects stays the same. -/
theorem newest_flush {μ : Type}
    {measure : ν → μ} (hnamed : p.Named name) (hkeep : ∀ v, measure (keep v) = measure v) :
    ((p.flush name keep).newest name a).map measure = (p.newest name a).map measure := by
  rw [newest, lookup_store_flush hnamed, newest]
  simp only [flush, lookup_empty, map_none, none_or]
  cases lastOf name a p.waiting with
  | some => rfl
  | none =>
    cases lastOf name a p.channel with
    | some => rfl
    | none => cases p.pending.lookup a <;> simp [hkeep]

theorem Named.flush : (p.flush name keep).Named name := by
  intro a w h
  rw [Pipeline.flush, lookup_empty] at h
  cases h

end Flush

theorem Named.receive (hnamed : p.Named name) (h : p.receive name = some p') : p'.Named name := by
  rw [Pipeline.receive] at h
  split at h
  · cases h
  · rename_i w rest hchan
    rw [some.injEq] at h
    subst h
    intro a w' hl
    rcases GoMap.lookup_insert_eq_some.mp hl with ⟨rfl, rfl⟩ | ⟨-, hl⟩
    · rfl
    · exact hnamed a w' hl

theorem Named.send {capacity i : Nat} (hnamed : p.Named name) (h : p.send capacity i = some p') :
    p'.Named name := by
  rw [Pipeline.send] at h
  split at h
  · cases h
  · split_ifs at h
    · exact some.inj h ▸ hnamed
    · exact some.inj h ▸ hnamed

end Pipeline

end WriteBehind
