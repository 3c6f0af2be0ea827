import PathGateway.ScoreStore

/-! Admin drains on one replica and in the storage it shares with the others. A drain or a
release changes the memory of its replica first and the storage later; a refresh sets the
scores, reads the stored drains, and later puts them in the place of the local ones. -/

namespace PathGateway

open WriteBehind GoStrings List Option

structure DrainBackend (α : Type) where
  second : Nat
  field : DrainKey → α
  parseField : α → Option DrainKey
  keepEnd : Time → Time
  field_of_parse : ∀ {a key}, parseField a = some key → field key = a
  eq_of_parse_field : ∀ {key key'}, parseField (field key) = some key' → key' = key
  keepEnd_le : ∀ t, keepEnd t ≤ t
  lt_keepEnd : ∀ t, t < keepEnd t + second

def MemoryStorage.drains (second : Nat) (hpos : 0 < second) : DrainBackend DrainKey where
  second := second
  field := id
  parseField := some
  keepEnd := id
  field_of_parse h := (some.inj h).symm
  eq_of_parse_field h := (some.inj h).symm
  keepEnd_le _ := le_rfl
  lt_keepEnd _ := Nat.lt_add_of_pos_right hpos

namespace RedisStorage

def drainField (key : DrainKey) : String :=
  key.serviceID ++ "|" ++ key.domain ++ "|" ++ key.rpcType

def parseDrainField (field : String) : Option DrainKey :=
  match GoStrings.split '|' field with
  | [serviceID, domain, rpcType] =>
    if serviceID = "" || domain = "" then none else some ⟨serviceID, domain, rpcType⟩
  | _ => none

variable {field : String} {key : DrainKey}

theorem parseDrainField_eq_some (h : parseDrainField field = some key) :
    GoStrings.split '|' field = [key.serviceID, key.domain, key.rpcType] := by
  rw [parseDrainField] at h
  split at h
  · rename_i hsplit
    split_ifs at h
    cases h
    exact hsplit
  · cases h

theorem drainField_of_parse (h : parseDrainField field = some key) : drainField key = field := by
  have hjoin := intercalate_split '|' field
  rw [parseDrainField_eq_some h] at hjoin
  refine String.toList_inj.mp (Eq.trans ?_ hjoin)
  simp [drainField, intercalate, intersperse]

theorem eq_of_parse_drainField {key' : DrainKey}
    (h : parseDrainField (drainField key) = some key') : key' = key := by
  have hsplit := parseDrainField_eq_some h
  rw [drainField, show "|" = String.singleton '|' from rfl, split_append, split_append] at hsplit
  obtain ⟨a, as, ha⟩ := exists_cons_of_ne_nil (split_ne_nil '|' key.serviceID)
  obtain ⟨b, bs, hb⟩ := exists_cons_of_ne_nil (split_ne_nil '|' key.domain)
  obtain ⟨c, cs, hc⟩ := exists_cons_of_ne_nil (split_ne_nil '|' key.rpcType)
  have hlen := congrArg length hsplit
  simp only [ha, hb, hc, length_append, length_cons, length_nil] at hlen
  obtain rfl := length_eq_zero_iff.mp (show as.length = 0 by omega)
  obtain rfl := length_eq_zero_iff.mp (show bs.length = 0 by omega)
  obtain rfl := length_eq_zero_iff.mp (show cs.length = 0 by omega)
  rw [ha, hb, hc] at hsplit
  simp only [cons_append, nil_append, cons.injEq, and_true] at hsplit
  obtain ⟨h₁, h₂, h₃⟩ := hsplit
  have hserviceID := eq_of_split_eq_singleton ha
  have hdomain := eq_of_split_eq_singleton hb
  have hrpcType := eq_of_split_eq_singleton hc
  cases key
  cases key'
  simp_all

def drains (pl : Platform) (hpos : 0 < pl.second) : DrainBackend String where
  second := pl.second
  field := drainField
  parseField := parseDrainField
  keepEnd := unix pl
  field_of_parse := drainField_of_parse
  eq_of_parse_field := eq_of_parse_drainField
  keepEnd_le t := Nat.div_mul_le_self t pl.second
  lt_keepEnd _ := Nat.lt_div_mul_add hpos

end RedisStorage

structure DrainRequest where
  serviceID : ServiceID
  domain : String
  duration : Int
  rpcType : String
  dryRun : Bool

structure DrainConfig (α : Type) where
  cfg : ReputationConfig
  net : NetLib
  scores : Backend
  drains : DrainBackend α

namespace DrainRequest

variable (net : NetLib) (req : DrainRequest)

def key : DrainKey :=
  ⟨req.serviceID, net.toLower (GoStrings.trimSpace req.domain),
    net.toLower (GoStrings.trimSpace req.rpcType)⟩

def endsAt (called : Time) : Option Time :=
  if req.duration ≤ 0 then none else some (called + req.duration.toNat)

end DrainRequest

structure DrainChange where
  here : Bool
  key : DrainKey
  endsAt : Option Time
  deriving DecidableEq

inductive DrainPhase where
  | rest
  | due
  | listed (drains : GoMap DrainKey Time) (touched : List DrainKey)

def DrainPhase.touch (key : DrainKey) : DrainPhase → DrainPhase
  | .listed drains touched => .listed drains (key :: touched)
  | phase => phase

def DrainPhase.touched : DrainPhase → List DrainKey
  | .listed _ touched => touched
  | _ => []

def DrainPhase.onScore : ScoreEvent → DrainPhase → Option DrainPhase
  | .refreshList, .rest => some .rest
  | .refreshList, _ => none
  | .refreshSet, _ => some .due
  | _, phase => some phase

structure DrainSync (α : Type) where
  clock : Time
  scores : ScoreStore
  drainedDomains : GoMap DrainKey Time
  stored : GoMap α Time
  changes : List DrainChange
  phase : DrainPhase

inductive DrainEvent where
  | drainDomain (here : Bool) (req : DrainRequest) (called now : Time)
  | propagate (i : Nat)
  | score (e : ScoreEvent)
  | listDrains (now : Time)
  | setDrains

namespace DrainSync

/-- A replica that has just started, on a storage with any scores and drains. -/
def start {α : Type} (scores : GoMap String ScoreRecord) (drains : GoMap α Time) :
    DrainSync α :=
  ⟨0, .start scores, ∅, drains, [], .rest⟩

variable {α : Type} [DecidableEq α] (C : DrainConfig α) (s : DrainSync α)

def setDrain {κ : Type} [DecidableEq κ] (key : κ) (endsAt : Option Time) (m : GoMap κ Time) :
    GoMap κ Time :=
  endsAt.elim (m.erase key) (fun t => m.insert key t)

def effective (req : DrainRequest) : Bool :=
  C.cfg.enabled && !((req.key C.net).domain == "") && !req.dryRun

def drainDomain (here : Bool) (req : DrainRequest) (called now : Time) : Option (DrainSync α) :=
  if called ≤ now ∧ s.clock ≤ now then
    some (if effective C req then
      let key := req.key C.net
      let change := ⟨here, key, req.endsAt called⟩
      if here then
        { s with
          clock := now
          drainedDomains := setDrain key (req.endsAt called)
            (s.drainedDomains.retain (fun _ t => decide (now < t)))
          changes := s.changes ++ [change]
          phase := s.phase.touch key }
      else { s with clock := now, changes := s.changes ++ [change] }
    else { s with clock := now })
  else none

def propagate (i : Nat) : Option (DrainSync α) :=
  s.changes[i]?.map (fun c =>
    { s with
      stored := setDrain (C.drains.field c.key) (c.endsAt.map C.drains.keepEnd) s.stored
      changes := s.changes.eraseIdx i
      phase := if c.here then s.phase.touch c.key else s.phase })

def score (e : ScoreEvent) : Option (DrainSync α) :=
  (s.phase.onScore e).bind (fun phase =>
    (s.scores.step C.cfg C.scores e).map (fun scores =>
      { s with scores := scores, phase := phase }))

/-- What is in force at the time and can be read back. Listing removes the rest. -/
def live (now : Time) (stored : GoMap α Time) : GoMap α Time :=
  stored.retain (fun a t => decide (now < t) && (C.drains.parseField a).isSome)

def listing (now : Time) (stored : GoMap α Time) : GoMap DrainKey Time :=
  insertAll id ∅ ((pairs (live C now stored)).filterMap (fun w =>
    (C.drains.parseField w.1).map (·, w.2)))

def listDrains (now : Time) : Option (DrainSync α) :=
  match s.phase with
  | .due =>
    if s.clock ≤ now then
      some { s with
        clock := now
        stored := live C now s.stored
        phase := .listed (listing C now s.stored) [] }
    else none
  | _ => none

def setDrains : Option (DrainSync α) :=
  match s.phase with
  | .listed drains _ => some { s with drainedDomains := drains, phase := .rest }
  | _ => none

def step : DrainEvent → Option (DrainSync α)
  | .drainDomain here req called now => s.drainDomain C here req called now
  | .propagate i => s.propagate C i
  | .score e => s.score C e
  | .listDrains now => s.listDrains C now
  | .setDrains => s.setDrains

section Lookup

variable {C} {now t : Time} {stored : GoMap α Time} {key : DrainKey}

theorem lookup_live {a : α} : (live C now stored).lookup a = some t ↔ stored.lookup a = some t ∧
    now < t ∧ (C.drains.parseField a).isSome := by
  rw [live, GoMap.lookup_retain_eq_some, Bool.and_eq_true, decide_eq_true_iff]

theorem mem_listed {w : DrainKey × Time} :
    w ∈ (pairs (live C now stored)).filterMap (fun w => (C.drains.parseField w.1).map (·, w.2)) ↔
      C.drains.parseField (C.drains.field w.1) = some w.1 ∧
      stored.lookup (C.drains.field w.1) = some w.2 ∧ now < w.2 := by
  rw [mem_filterMap]
  constructor
  · rintro ⟨⟨a, t⟩, hmem, hparse⟩
    obtain ⟨key, hkey, rfl⟩ := map_eq_some_iff.mp hparse
    obtain ⟨hl, hlt, -⟩ := lookup_live.mp (mem_pairs.mp hmem)
    obtain rfl := C.drains.field_of_parse hkey
    exact ⟨hkey, hl, hlt⟩
  · rintro ⟨hkey, hl, hlt⟩
    refine ⟨(C.drains.field w.1, w.2), mem_pairs.mpr (lookup_live.mpr ⟨hl, hlt, ?_⟩), ?_⟩
    · rw [hkey]
      rfl
    · rw [hkey]
      rfl

theorem lookup_listing :
    (listing C now stored).lookup key = some t ↔
      C.drains.parseField (C.drains.field key) = some key ∧
      stored.lookup (C.drains.field key) = some t ∧ now < t := by
  rw [listing, lookup_insertAll, AList.lookup_empty, or_none, lastOf_eq_some_iff]
  · constructor
    · rintro ⟨w, hw, rfl, rfl⟩
      exact mem_listed.mp hw
    · exact fun h => ⟨(key, t), mem_listed.mpr h, rfl, rfl⟩
  · intro w hw w' hw' hk
    have hl := (mem_listed.mp hw).2.1
    rw [show w.1 = w'.1 from hk, (mem_listed.mp hw').2.1] at hl
    exact Prod.ext hk (some.inj hl).symm

theorem lookup_setDrain {κ : Type} [DecidableEq κ] {k k' : κ} {endsAt : Option Time}
    {m : GoMap κ Time} :
    (setDrain k endsAt m).lookup k' = if k' = k then endsAt else m.lookup k' := by
  by_cases hk : k' = k
  · subst hk
    cases endsAt <;> simp [setDrain]
  · cases endsAt <;> simp [setDrain, hk]

end Lookup

end DrainSync

end PathGateway
