import PathGateway.MemoryListing
import PathGateway.RedisStorage

/-! What a refresh reads back from Redis. A key of another kind may read as the key of a score, but
what lies under the name of that key is a score of its own or nothing. -/

namespace PathGateway

open GoStrings ExpiringStore ScoreTable Option AList EndpointKey GoMap

/-- The service can be told from the address, and both are there. -/
def EndpointKey.Named (key : EndpointKey) : Prop :=
  key.serviceID ≠ "" ∧ ':' ∉ key.serviceID.toList ∧ key.endpointAddr ≠ ""

instance (key : EndpointKey) : Decidable key.Named := inferInstanceAs (Decidable (_ ∧ _))

/-- The inverse of `String()`; the storage on Redis has a parser of its own. -/
def parseEndpointKeyString (net : NetLib) (s : String) : Option EndpointKey :=
  (splitLast ':' s).bind (fun (rest, rpcType) =>
    (after ':' rest).bind (fun addr =>
      if before ':' rest = "" then none
      else if addr = "" then none
      else some ⟨before ':' rest, addr, .ofName (net.toUpper rpcType)⟩))

theorem parseEndpointKeyString_eq (net : NetLib) (s : String) :
    parseEndpointKeyString net s = RedisStorage.parseKey net s := by
  simp only [parseEndpointKeyString, RedisStorage.parseKey, Bool.or_eq_true, decide_eq_true_eq,
    ite_or]

/-- The score under the key, unless its time is up. -/
def ScoreTable.unexpired (t : ScoreTable EndpointKey) (key : EndpointKey) : Option ScoreEntry :=
  (t.scores.lookup key).filter (fun e => e.expiresAt.all (fun d => decide (t.clock < d)))

theorem ScoreTable.unexpired_set {t : ScoreTable EndpointKey}
    {ttl : ℕ} {key : EndpointKey} {score : ScoreRecord} :
    (t.set id ttl key score).unexpired key = some ⟨score, if 0 < ttl then some (t.clock + ttl)
      else none⟩ := by
  rw [unexpired]
  change Option.filter _ ((t.scores.insert key _).lookup key) = _
  rw [lookup_insert, filter_some, if_pos]
  split
  · simpa [set]
  · rfl

namespace RedisStorage

def Op.Named : Op → Prop
  | .set key _ | .delete key => key.Named
  | .setMultiple entries => ∀ e ∈ entries, e.1.Named
  | _ => True

variable (r : RedisStorage)

def expiry : ℕ := if 0 < r.ttl then r.formatSec r.ttl else 0

/-- The last scores by key; the operations on heights and drains do not touch them. -/
def expected (t : ScoreTable EndpointKey) : Op → ScoreTable EndpointKey
  | .wait elapsed => { t with clock := t.clock + elapsed }
  | .set key score => t.set id r.expiry key score
  | .setMultiple entries => entries.foldl (fun t e => t.set id r.expiry e.1 e.2) t
  | .delete key => { t with scores := t.scores.erase key }
  | _ => t

def item (e : ScoreEntry) : StoreItem := ⟨.hash (r.scoreFields e.score), e.expiresAt⟩

/-- Under the names of keys are the scores of these keys. -/
structure Mirrors (t : ScoreTable EndpointKey) (s : ExpiringStore) : Prop where
  clock : t.clock = s.now
  scores : ∀ key : EndpointKey, key.Named → s.get (r.buildKey key) = (t.unexpired key).map r.item
  lasting : r.ttl = 0 → ∀ key e, t.scores.lookup key = some e → e.expiresAt = none

variable {r} {t : ScoreTable EndpointKey} {s s' : ExpiringStore} {key : EndpointKey}

section Keys

theorem parseRedisKey_append (k : String) :
    r.parseRedisKey (r.keyPrefix ++ k) = parseKey r.net k := by
  have hne : k ≠ r.keyPrefix ++ k := by
    intro h
    have hlength := congrArg String.length h
    rw [String.length_append] at hlength
    exact r.keyPrefix_ne (String.length_eq_zero_iff.mp (by omega))
  rw [parseRedisKey, trimPrefix_append]
  exact if_neg hne

theorem parseKey_string {net : NetLib} (hupper : ∀ t : RPCType, net.toUpper t.label = t.name)
    (hkey : key.Named) : parseKey net key.string = some key := by
  obtain ⟨hservice, hcolon, haddr⟩ := hkey
  have htype : RPCType.ofName key.rpcType.name = key.rpcType := by cases key.rpcType <;> decide
  rw [parseKey, string_eq, splitLast_append (not_mem_label key.rpcType)]
  simp only [bind_some, after_append hcolon, before_append hcolon, hupper, htype]
  simp [hservice, haddr]

theorem parse_buildKey (hupper : ∀ t : RPCType, r.net.toUpper t.label = t.name)
    (hkey : key.Named) : r.parseRedisKey (r.buildKey key) = some key := by
  rw [buildKey, parseRedisKey_append]
  exact parseKey_string hupper hkey

/-- The key is read back from its own form and from the one under the prefix, and but for the prefix
the two parsers agree. -/
theorem endpointKey_roundTrip (r : RedisStorage)
    (hupper : ∀ t : RPCType, r.net.toUpper t.label = t.name) (key : EndpointKey)
    (hkey : key.Named) :
    parseEndpointKeyString r.net key.string = some key ∧
      r.parseRedisKey (r.buildKey key) = some key ∧
      ∀ k, r.parseRedisKey (r.keyPrefix ++ k) = parseEndpointKeyString r.net k :=
  ⟨(parseEndpointKeyString_eq _ _).trans (parseKey_string hupper hkey),
    parse_buildKey hupper hkey,
    fun k => (parseRedisKey_append k).trans (parseEndpointKeyString_eq _ k).symm⟩

variable {k : String} {serviceID : ServiceID}

theorem named_of_parse (h : r.parseRedisKey k = some key) : key.Named := by
  simp only [parseRedisKey, ite_none_left_eq_some, parseKey, bind_eq_some_iff,
    Bool.or_eq_true, decide_eq_true_eq, not_or] at h
  obtain ⟨-, ⟨rest, rpcType⟩, -, addr, -, ⟨hservice, haddr⟩, h⟩ := h
  cases h
  exact ⟨hservice, not_mem_before _ _, haddr⟩

theorem buildKey_ne (h : ∀ p ∈ GoStrings.splitLast ':' k, ∀ t : RPCType, t.label ≠ p.2) :
    r.buildKey key ≠ r.keyPrefix ++ k := by
  intro heq
  have hstring : key.string = k := by
    rw [← trimPrefix_append r.keyPrefix k, ← heq, buildKey, trimPrefix_append]
  refine h (key.serviceID ++ String.singleton ':' ++ key.endpointAddr, key.rpcType.label) ?_
    key.rpcType rfl
  rw [← hstring, string_eq]
  exact splitLast_append (not_mem_label key.rpcType)

theorem buildKey_ne_chainState {serviceID : String}
    (kind : String) (hcolon : ':' ∉ kind.toList) (hkind : ∀ t : RPCType, t.label ≠ kind) :
    r.buildKey key ≠
      r.keyPrefix ++ ("chain_state:" ++ serviceID ++ (String.singleton ':' ++ kind)) := by
  refine buildKey_ne fun p hp t => ?_
  rw [← String.append_assoc, splitLast_append hcolon] at hp
  cases hp
  exact hkind t

theorem buildKey_ne_perceived : r.buildKey key ≠ r.perceivedBlockKey serviceID :=
  buildKey_ne_chainState "perceived_block" (by decide) (fun t => by cases t <;> decide)

theorem buildKey_ne_endpointBlocks : r.buildKey key ≠ r.endpointBlocksKey serviceID :=
  buildKey_ne_chainState "endpoint_blocks" (by decide) (fun t => by cases t <;> decide)

theorem buildKey_ne_drains : r.buildKey key ≠ r.drainsHashKey := by
  have hnone : splitLast ':' "__drains__" = none := by decide
  exact buildKey_ne (by simp [hnone])

end Keys

section Scores

theorem parseScore_scoreFields (score : ScoreRecord) :
    r.parseScore (r.scoreFields score) = some (keep r.pl score) := by
  have hread (t : Time) :
      r.text.parseInt (r.unixText (some t)) = some ((t / r.pl.second : ℕ) : ℤ) :=
    r.text.parse_formatInt _
  have hunix (t : Option Time) : r.parseUnix (r.unixText t) = some (keepTime r.pl t) := by
    cases t with
    | none => simp [parseUnix, unixText, keepTime, r.text.parse_formatInt]
    | some t =>
      have hpos : (0 : ℤ) < ((t / r.pl.second : ℕ) : ℤ) ↔ 0 < t / r.pl.second * r.pl.second := by
        rw [Int.natCast_pos, Nat.mul_pos_iff_of_pos_right r.second_pos]
      simp only [parseUnix, hread, keepTime, map_some, Int.toNat_natCast, unix,
        filter_some, hpos, decide_eq_true_eq]
  have hcount (n : ℕ) : r.parseCount (r.text.formatInt n) = some n := by
    simp [parseCount, r.text.parse_formatInt]
  have harchival : ((if score.isArchival = true then "1" else "0") == "1" ||
      (if score.isArchival = true then "1" else "0") == "true") = score.isArchival := by
    cases score.isArchival <;> decide
  simp [parseScore, required, scoreFields, lookup, hread, hunix, hcount, harchival,
    r.text.parse_formatFloat, keep, unix, -Int.natCast_ediv]

end Scores

section Steps

theorem formatSec_pos (h : 0 < r.ttl) : 0 < r.formatSec r.ttl := by
  have hsecond := r.second_pos
  rw [formatSec]
  split_ifs with hlong
  · omega
  · exact Nat.mul_pos (Nat.div_pos (by omega) hsecond) hsecond

theorem onlyAt_set (r : RedisStorage) (s : ExpiringStore) (key : EndpointKey)
    (score : ScoreRecord) : ExpiringStore.OnlyAt (r.buildKey key) s (r.set s key score) := by
  simp only [set]
  split
  · exact .trans .hset .expire
  · exact .hset

theorem Mirrors.hgetall (h : r.Mirrors t s) (hkey : key.Named) :
    s.hgetall (r.buildKey key) =
      some ((t.unexpired key).elim ∅ (fun e => r.scoreFields e.score)) := by
  rw [ExpiringStore.hgetall, h.scores key hkey]
  cases t.unexpired key <;> rfl

theorem Mirrors.get_set (h : r.Mirrors t s) (hkey : key.Named) (score : ScoreRecord) :
    (r.set s key score).get (r.buildKey key) =
      some (r.item ⟨score, if 0 < r.expiry then some (s.now + r.expiry) else none⟩) := by
  have hget : ((s.hset (r.buildKey key) (r.scoreFields score)).getD s).get (r.buildKey key) =
      some (r.item ⟨score, s.deadline (r.buildKey key)⟩) := by
    -- all scores have the same fields
    rw [get_hset (h.hgetall hkey)]
    cases t.unexpired key <;> rfl
  rw [set, expiry]
  by_cases httl : 0 < r.ttl
  · simp only [if_pos httl, if_pos (formatSec_pos httl)]
    rw [get_expire hget (formatSec_pos httl), ExpiringStore.OnlyAt.hset.1]
    rfl
  · have hlasting : s.deadline (r.buildKey key) = none := by
      rw [deadline, h.scores key hkey]
      cases he : t.unexpired key with
      | none => rfl
      | some e => exact h.lasting (by omega) key e (filter_eq_some_iff.mp he).1
    simp only [if_neg httl, lt_irrefl, if_false]
    rw [hget, hlasting]

theorem Mirrors.onlyAt {k : String} (h : r.Mirrors t s) (honly : ExpiringStore.OnlyAt k s s')
    (hk : ∀ key, r.buildKey key ≠ k) : r.Mirrors t s' := by
  refine ⟨h.clock.trans honly.1.symm, fun key hkey => ?_, h.lasting⟩
  rw [honly.2 _ (hk key)]
  exact h.scores key hkey

theorem Mirrors.wait (h : r.Mirrors t s) (elapsed : ℕ) :
    r.Mirrors { t with clock := t.clock + elapsed } (s.wait elapsed) := by
  refine ⟨congrArg (· + elapsed) h.clock, fun key hkey => ?_, h.lasting⟩
  rw [get_wait, h.scores key hkey, ← h.clock, unexpired, unexpired]
  cases t.scores.lookup key with
  | none => rfl
  | some e =>
    change Option.filter _ (Option.map r.item (Option.filter (fun e => (r.item e).live _) _)) =
      Option.map r.item (Option.filter (fun e => (r.item e).live _) _)
    cases hlater : (r.item e).live (t.clock + elapsed) with
    | false => cases hnow : (r.item e).live t.clock <;> simp [filter_some, hlater, hnow]
    | true => simp [filter_some, hlater, live_earlier hlater]

variable (hupper : ∀ t : RPCType, r.net.toUpper t.label = t.name)

include hupper

theorem buildKey_inj {key' : EndpointKey} (hkey : key.Named) (hkey' : key'.Named)
    (h : r.buildKey key = r.buildKey key') : key = key' := by
  have hparse := parse_buildKey hupper hkey
  rw [h, parse_buildKey hupper hkey'] at hparse
  exact (some.inj hparse).symm

theorem Mirrors.set (h : r.Mirrors t s) (hkey : key.Named) (score : ScoreRecord) :
    r.Mirrors (t.set id r.expiry key score) (r.set s key score) := by
  have honly := r.onlyAt_set s key score
  have hlookup {key' : EndpointKey} (hne : key' ≠ key) :
      (t.set id r.expiry key score).scores.lookup key' = t.scores.lookup key' :=
    lookup_insert_ne hne
  refine ⟨h.clock.trans honly.1.symm, fun key' hkey' => ?_, fun httl key' e he => ?_⟩
  · by_cases heq : key' = key
    · rw [heq, unexpired_set, h.get_set hkey, h.clock]
      rfl
    · rw [honly.2 _ fun hbuild => heq (buildKey_inj hupper hkey' hkey hbuild),
        unexpired, hlookup heq]
      exact h.scores key' hkey'
  · by_cases heq : key' = key
    · change (t.scores.insert key _).lookup key' = some e at he
      rw [heq, lookup_insert] at he
      cases he
      simp [expiry, httl]
    · exact h.lasting httl key' e (hlookup heq ▸ he)

theorem Mirrors.delete (h : r.Mirrors t s) (hkey : key.Named) :
    r.Mirrors { t with scores := t.scores.erase key } (s.del (r.buildKey key)) := by
  refine ⟨h.clock, fun key' hkey' => ?_, fun httl key' e he => ?_⟩
  · rw [unexpired]
    by_cases heq : key' = key
    · rw [heq, lookup_erase, get_del]
      rfl
    · rw [lookup_erase_ne heq,
        get_del_ne fun hbuild => heq (buildKey_inj hupper hkey' hkey hbuild)]
      exact h.scores key' hkey'
  · exact h.lasting httl key' e (lookup_erase_eq_some.mp he).2

theorem Mirrors.step {op : Op} (h : r.Mirrors t s) (hop : op.Named) :
    r.Mirrors (r.expected t op) (r.step s op) := by
  cases op with
  | wait elapsed => exact h.wait elapsed
  | set key score => exact h.set hupper hop score
  | setMultiple entries =>
    change ∀ e ∈ entries, e.1.Named at hop
    change r.Mirrors (entries.foldl _ t) (entries.foldl _ s)
    induction entries generalizing t s with
    | nil => exact h
    | cons e entries ih =>
      obtain ⟨he, hentries⟩ := List.forall_mem_cons.mp hop
      exact ih (h.set hupper he e.2) hentries
  | delete => exact h.delete hupper hop
  | setPerceivedBlockNumber serviceID blockNumber =>
    have honly : ExpiringStore.OnlyAt (r.perceivedBlockKey serviceID) s
        (r.setPerceivedBlockNumber s serviceID blockNumber) := by
      simp only [setPerceivedBlockNumber]
      split
      · exact .refl
      · exact .put
      · split
        · split
          · exact .put
          · exact .refl
        · exact .refl
    exact h.onlyAt honly fun _ => buildKey_ne_perceived
  | deletePerceivedBlockNumber => exact h.onlyAt .del fun _ => buildKey_ne_perceived
  | setEndpointBlockHeight =>
    exact h.onlyAt .hset fun _ => buildKey_ne_endpointBlocks
  | removeEndpointBlockHeights serviceID addrs =>
    have honly : ExpiringStore.OnlyAt (r.endpointBlocksKey serviceID) s
        (r.removeEndpointBlockHeights s serviceID addrs) := by
      rw [removeEndpointBlockHeights]
      split
      · exact .refl
      · exact .hdel _
    exact h.onlyAt honly fun _ => buildKey_ne_endpointBlocks
  | setDrain =>
    refine h.onlyAt ?_ fun _ => buildKey_ne_drains
    rw [RedisStorage.step, setDrain, hset, map_map]
    cases s.hgetall r.drainsHashKey with
    | none => exact .refl
    | some =>
      simp only [map_some, getD_some, Function.comp_apply]
      split
      · exact .trans .put .expireGT
      · exact .put
  | deleteDrain => exact h.onlyAt (.hdel _) fun _ => buildKey_ne_drains
  | listDrains =>
    refine h.onlyAt ?_ fun _ => buildKey_ne_drains
    rw [RedisStorage.step, listDrains]
    split
    · exact .refl
    · dsimp only
      split
      · exact .refl
      · exact .hdel _

theorem Mirrors.run {ops : List Op} (h : r.Mirrors t s) (hops : ∀ op ∈ ops, op.Named) :
    r.Mirrors (ops.foldl r.expected t) (ops.foldl r.step s) := by
  induction ops generalizing t s with
  | nil => exact h
  | cons op ops ih =>
    obtain ⟨hop, hops⟩ := List.forall_mem_cons.mp hops
    exact ih (h.step hupper hop) hops

theorem Mirrors.refresh (h : r.Mirrors t s) {scanned : List String}
    (hscan : ∀ k, k ∈ scanned ↔
      GoStrings.hasPrefix k r.keyPrefix = true ∧ (s.get k).isSome = true) :
    ∃ scores, r.getMultiple s (r.list scanned) = some scores ∧ (∀ key : EndpointKey, key.Named →
      scores.lookup key = (t.unexpired key).map (fun e => keep r.pl e.score)) ∧
    ∀ key ∈ scores, key.Named := by
  have hnamed {key : EndpointKey} (hkey : key ∈ r.list scanned) : key.Named := by
    obtain ⟨k, -, hparse⟩ := List.mem_filterMap.mp hkey
    exact named_of_parse hparse
  refine ⟨_, if_neg ?_, fun key hkey => ?_, fun key hkey => ?_⟩
  · rw [List.any_eq_true]
    rintro ⟨key, hkey, hnone⟩
    rw [h.hgetall (hnamed hkey)] at hnone
    cases hnone
  · rw [lookup_build, h.hgetall hkey]
    cases hscore : t.unexpired key with
    | none => simp
    | some e =>
      have hlisted : key ∈ r.list scanned := by
        refine List.mem_filterMap.mpr ⟨r.buildKey key, (hscan _).mpr ?_, parse_buildKey hupper hkey⟩
        exact ⟨hasPrefix_append _ _, by simp [h.scores key hkey, hscore]⟩
      rw [if_pos hlisted]
      exact parseScore_scoreFields e.score
  · rw [← lookup_isSome, lookup_build] at hkey
    split at hkey
    · exact hnamed ‹_›
    · cases hkey

omit hupper in
theorem mirrors_start (hstart : ∀ k, GoStrings.hasPrefix k r.keyPrefix = true → s.get k = none) :
    r.Mirrors (.start s.now) s :=
  ⟨rfl, fun _ _ => hstart _ (hasPrefix_append _ _), fun _ _ _ he => by cases he⟩

/-- A refresh succeeds and reads, of every key with a score that is not expired, what Redis keeps of
the last one, and nothing else, whatever else lies under the prefix. -/
theorem refresh_reads_scores (s : ExpiringStore)
    (hstart : ∀ k, GoStrings.hasPrefix k r.keyPrefix = true → s.get k = none) (ops : List Op)
    (hops : ∀ op ∈ ops, op.Named) (scanned : List String)
    (hscan : ∀ k, k ∈ scanned ↔ GoStrings.hasPrefix k r.keyPrefix = true ∧
      ((ops.foldl r.step s).get k).isSome = true) :
    ∃ scores, r.getMultiple (ops.foldl r.step s) (r.list scanned) = some scores ∧
      (∀ key : EndpointKey, key.Named → scores.lookup key =
        ((ops.foldl r.expected (.start s.now)).unexpired key).map (fun e => keep r.pl e.score)) ∧
      ∀ key ∈ scores, key.Named :=
  ((mirrors_start hstart).run hupper hops).refresh hupper hscan

end Steps

end RedisStorage

section Sample

/-- A thousand ticks make a second. -/
def tickingRedis : RedisStorage := { plainRedis with pl := ⟨id, 1000⟩, second_pos := by decide }

def coolingScore : ScoreRecord := { ScoreRecord.fresh 80 0 with cooldownUntil := some 1500 }

def scoreAndHeight : List RedisStorage.Op :=
  [.set httpsKey coolingScore, .setPerceivedBlockNumber "eth" 100]

theorem upper_label (t : RPCType) : tickingRedis.net.toUpper t.label = t.name := by
  cases t <;> decide

theorem httpsKey_roundTrip :
    parseEndpointKeyString tickingRedis.net httpsKey.string = some httpsKey ∧
      tickingRedis.parseRedisKey (tickingRedis.buildKey httpsKey) = some httpsKey := by
  have h := tickingRedis.endpointKey_roundTrip upper_label httpsKey (by decide)
  exact ⟨h.1, h.2.1⟩

/-- Without the prefix removed, the key starts with the prefix. -/
theorem prefix_read_as_service : ∃ k key key',
    parseEndpointKeyString .ascii k = some key ∧ plainRedis.parseRedisKey k = some key' ∧
      key ≠ key' :=
  ⟨plainRedis.buildKey httpsKey, ⟨"path", "reputation:eth:pokt1a-https://a.example.com", .jsonRPC⟩,
    httpsKey, by decide, by decide, by decide⟩

theorem scoreAndHeight_named : ∀ op ∈ scoreAndHeight, op.Named := by
  simp only [scoreAndHeight, List.forall_mem_cons]
  exact ⟨show httpsKey.Named by decide, trivial, by simp⟩

/-- The height is no score. -/
theorem score_beside_height : ∃ scores,
    tickingRedis.getMultiple (scoreAndHeight.foldl tickingRedis.step ⟨0, ∅⟩) (tickingRedis.list
      ((scoreAndHeight.foldl tickingRedis.step ⟨0, ∅⟩).scan tickingRedis.keyPrefix)) =
        some scores ∧
    scores.lookup httpsKey = some (RedisStorage.keep tickingRedis.pl coolingScore) := by
  obtain ⟨scores, hget, hscores, -⟩ := RedisStorage.refresh_reads_scores upper_label ⟨0, ∅⟩
    (fun _ _ => rfl) scoreAndHeight scoreAndHeight_named _ fun _ => mem_scan
  exact ⟨scores, hget, hscores httpsKey (by decide)⟩

/-- A cooldown until the middle of a second is over at its start. -/
theorem refreshed_score_differs : ∃ scores,
    tickingRedis.getMultiple (scoreAndHeight.foldl tickingRedis.step ⟨0, ∅⟩) (tickingRedis.list
      ((scoreAndHeight.foldl tickingRedis.step ⟨0, ∅⟩).scan tickingRedis.keyPrefix)) =
        some scores ∧
    ∃ score, scores.lookup httpsKey = some score ∧ score.cooldownUntil = some 1000 ∧
      coolingScore.cooldownUntil = some 1500 := by
  have hstart := @RedisStorage.mirrors_start tickingRedis ⟨0, ∅⟩ fun _ _ => rfl
  obtain ⟨scores, hget, hscores, -⟩ := (hstart.run upper_label scoreAndHeight_named).refresh
    upper_label fun _ => mem_scan
  exact ⟨scores, hget, _, hscores httpsKey (by decide), by decide, rfl⟩

end Sample

end PathGateway
