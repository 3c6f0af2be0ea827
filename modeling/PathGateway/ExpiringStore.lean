import PathGateway.GoMap
import PathGateway.GoStrings

/-! A store in which a key holds a string or a hash of fields and may have a time to live. A key
whose time is up is as good as none. A command on a key that holds the other kind fails. -/

inductive StoreValue where
  | string (s : String)
  | hash (fields : GoMap String String)

structure StoreItem where
  value : StoreValue
  deadline : Option ℕ

def StoreItem.live (now : ℕ) (item : StoreItem) : Bool :=
  item.deadline.all (fun t => decide (now < t))

structure ExpiringStore where
  now : ℕ
  items : GoMap String StoreItem

namespace ExpiringStore

open AList

open StoreItem Option

variable (s : ExpiringStore) (key : String)

def get : Option StoreItem := (s.items.lookup key).filter (StoreItem.live s.now)

def put (item : StoreItem) : ExpiringStore := { s with items := s.items.insert key item }

def del : ExpiringStore := { s with items := s.items.erase key }

def wait (elapsed : ℕ) : ExpiringStore := { s with now := s.now + elapsed }

def getString : Option (Option String) :=
  match s.get key with
  | none => some none
  | some ⟨.string v, _⟩ => some (some v)
  | some ⟨.hash _, _⟩ => none

def setEx (v : String) (ttl : ℕ) : ExpiringStore := s.put key ⟨.string v, some (s.now + ttl)⟩

/-- A key that is not there reads as a hash without fields. -/
def hgetall : Option (GoMap String String) :=
  match s.get key with
  | none => some ∅
  | some ⟨.hash fields, _⟩ => some fields
  | some ⟨.string _, _⟩ => none

def deadline : Option ℕ := (s.get key).bind StoreItem.deadline

/-- The key keeps its time to live; a new one has none. -/
def hset (fields : GoMap String String) : Option ExpiringStore :=
  (s.hgetall key).map (fun old => s.put key ⟨.hash (GoMap.copyInto old fields), s.deadline key⟩)

/-- A hash goes with its last field. -/
def hdel (names : List String) : Option ExpiringStore :=
  (s.hgetall key).map (fun old =>
    let rest := GoMap.retain (fun field _ => !names.contains field) old
    if GoMap.isEmpty rest then s.del key else s.put key ⟨.hash rest, s.deadline key⟩)

def expire (ttl : ℕ) : ExpiringStore :=
  match s.get key with
  | none => s
  | some item =>
    if ttl = 0 then s.del key else s.put key { item with deadline := some (s.now + ttl) }

/-- With `GT` only a longer time to live is set, and a key that does not expire has the longest. -/
def expireGT (ttl : ℕ) : ExpiringStore :=
  if (s.deadline key).any (fun t => decide (t < s.now + ttl)) then s.expire key ttl else s

def scan (pre : String) : List String :=
  s.items.keys.filter (fun k => GoStrings.hasPrefix k pre && (s.get k).isSome)

variable {s key} {k : String} {item : StoreItem} {fields : GoMap String String} {ttl : ℕ}

theorem mem_scan {pre : String} :
    k ∈ s.scan pre ↔ GoStrings.hasPrefix k pre = true ∧ (s.get k).isSome = true := by
  rw [scan, List.mem_filter, Bool.and_eq_true, and_iff_right_iff_imp]
  rintro ⟨-, hlive⟩
  obtain ⟨item, hitem⟩ := isSome_iff_exists.mp hlive
  exact mem_keys.mp (lookup_isSome.mp
    (isSome_of_eq_some (filter_eq_some_iff.mp hitem).1))

theorem get_put (h : item.live s.now = true) : (s.put key item).get key = some item := by
  rw [get, put, lookup_insert, filter_some, if_pos h]

theorem get_put_ne (h : k ≠ key) : (s.put key item).get k = s.get k := by
  rw [get, get, put, lookup_insert_ne h]

theorem get_del : (s.del key).get key = none := by
  rw [get, del, lookup_erase, filter_none]

theorem get_del_ne (h : k ≠ key) : (s.del key).get k = s.get k := by
  rw [get, get, del, lookup_erase_ne h]

theorem live_of_get (h : s.get key = some item) : item.live s.now = true :=
  (filter_eq_some_iff.mp h).2

theorem live_earlier {now elapsed : ℕ} (h : item.live (now + elapsed) = true) :
    item.live now = true := by
  obtain ⟨value, deadline⟩ := item
  cases deadline with
  | none => rfl
  | some t =>
    have hlt : now + elapsed < t := by simpa [live] using h
    simp only [live, all_some, decide_eq_true_eq]
    omega

theorem get_wait (elapsed : ℕ) :
    (s.wait elapsed).get k = (s.get k).filter (StoreItem.live (s.now + elapsed)) := by
  rw [get, get, wait, filter_filter]
  refine congrArg (fun p => Option.filter p _) (funext fun item => ?_)
  cases hlive : item.live (s.now + elapsed) with
  | false => rw [Bool.and_false]
  | true => simp [live_earlier hlive]

theorem live_deadline {value : StoreValue} :
    StoreItem.live s.now ⟨value, s.deadline key⟩ = true := by
  rw [deadline]
  cases h : s.get key with
  | none => rfl
  | some item =>
    change item.live s.now = true
    exact live_of_get h

theorem get_hset {old : GoMap String String} (hold : s.hgetall key = some old) :
    ((s.hset key fields).getD s).get key =
    some ⟨.hash (GoMap.copyInto old fields), s.deadline key⟩ := by
  rw [hset, hold, map_some, getD_some, get_put live_deadline]

theorem get_expire (hitem : s.get key = some item) (hpos : 0 < ttl) :
    (s.expire key ttl).get key = some { item with deadline := some (s.now + ttl) } := by
  have hlive : live s.now { item with deadline := some (s.now + ttl) } = true := by
    simpa [live] using hpos
  rw [expire, hitem]
  simp only [Nat.pos_iff_ne_zero.mp hpos, if_false]
  exact get_put hlive

/-- Nothing is changed but what lies under the key. -/
def OnlyAt (key : String) (s t : ExpiringStore) : Prop :=
  t.now = s.now ∧ ∀ k, k ≠ key → t.get k = s.get k

namespace OnlyAt

variable {t u : ExpiringStore}

theorem refl : OnlyAt key s s := ⟨rfl, fun _ _ => rfl⟩

theorem trans (h : OnlyAt key s t) (h' : OnlyAt key t u) : OnlyAt key s u :=
  ⟨h'.1.trans h.1, fun k hk => (h'.2 k hk).trans (h.2 k hk)⟩

theorem put : OnlyAt key s (s.put key item) := ⟨rfl, fun _ hk => get_put_ne hk⟩

theorem del : OnlyAt key s (s.del key) := ⟨rfl, fun _ hk => get_del_ne hk⟩

theorem hset : OnlyAt key s ((s.hset key fields).getD s) := by
  rw [ExpiringStore.hset]
  cases s.hgetall key with
  | none => exact refl
  | some => exact put

theorem hdel (names : List String) : OnlyAt key s ((s.hdel key names).getD s) := by
  rw [ExpiringStore.hdel]
  cases s.hgetall key with
  | none => exact refl
  | some =>
    simp only [map_some, getD_some]
    split
    · exact del
    · exact put

theorem expire : OnlyAt key s (s.expire key ttl) := by
  rw [ExpiringStore.expire]
  split
  · exact refl
  · split
    · exact del
    · exact put

theorem expireGT : OnlyAt key s (s.expireGT key ttl) := by
  rw [ExpiringStore.expireGT]
  split
  · exact expire
  · exact refl

end OnlyAt

end ExpiringStore
