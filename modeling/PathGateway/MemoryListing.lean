import PathGateway.ScoreStore

/-! What the in-memory storage lists. Scores lie under the strings of their keys, and a listing
reads the keys back from the strings: it cuts at the first two colons, though an address is a URL,
and looks the RPC type up as it stands, though the string has it in lower case. -/

namespace PathGateway

open GoStrings EndpointKey List AList Option GoMap

/-- `expiresAt` is none for a score that does not expire. -/
structure ScoreEntry where
  score : ScoreRecord
  expiresAt : Option Time

def ScoreEntry.isExpired (now : Time) (e : ScoreEntry) : Bool :=
  e.expiresAt.any (fun t => decide (t < now))

/-- `setMultiple` has the scores in the order in which the map is ranged over. -/
inductive MemoryOp where
  | set (key : EndpointKey) (score : ScoreRecord)
  | setMultiple (scores : List (EndpointKey × ScoreRecord))
  | delete (key : EndpointKey)
  | cleanup
  | wait (elapsed : ℕ)

/-- Scores under some name of their keys. -/
structure ScoreTable (κ : Type) where
  clock : Time
  scores : GoMap κ ScoreEntry

namespace ScoreTable

def start {κ : Type} (clock : Time) : ScoreTable κ := ⟨clock, ∅⟩

section Operations

variable {κ : Type} [DecidableEq κ] (name : EndpointKey → κ) (ttl : ℕ)

def set (t : ScoreTable κ) (key : EndpointKey) (score : ScoreRecord) : ScoreTable κ :=
  { t with
    scores := t.scores.insert (name key)
      ⟨score, if 0 < ttl then some (t.clock + ttl) else none⟩ }

def step (t : ScoreTable κ) : MemoryOp → ScoreTable κ
  | .set key score => t.set name ttl key score
  | .setMultiple scores => scores.foldl (fun t e => t.set name ttl e.1 e.2) t
  | .delete key => { t with scores := t.scores.erase (name key) }
  | .cleanup => { t with scores := t.scores.retain (fun _ e => !e.isExpired t.clock) }
  | .wait elapsed => { t with clock := t.clock + elapsed }

def after (clock : Time) (ops : List MemoryOp) : ScoreTable κ :=
  ops.foldl (step name ttl) (start clock)

def live (t : ScoreTable κ) (k : κ) : Option ScoreRecord :=
  ((t.scores.lookup k).filter (fun e => !e.isExpired t.clock)).map ScoreEntry.score

end Operations

end ScoreTable

namespace MemoryStorage

def list (t : ScoreTable String) (serviceID : String) : List EndpointKey :=
  t.scores.entries.filterMap (fun e =>
    if e.2.isExpired t.clock then none
    else if serviceID ≠ "" ∧ !GoStrings.hasPrefix e.1 (serviceID ++ ":") then none
    else parseKey e.1)

def getMultiple (t : ScoreTable String) (keys : List EndpointKey) :
    GoMap EndpointKey ScoreRecord :=
  build (fun key => t.live key.string) keys

end MemoryStorage

namespace EndpointKey

/-- The string of the key has a colon only between the parts, and the type is the one that an
unknown name stands for. -/
def Plain (key : EndpointKey) : Prop :=
  ':' ∉ key.serviceID.toList ∧ ':' ∉ key.endpointAddr.toList ∧ key.rpcType = .unknownRPC

instance (key : EndpointKey) : Decidable key.Plain := inferInstanceAs (Decidable (_ ∧ _))

theorem string_eq (key : EndpointKey) :
    key.string = key.serviceID ++
      String.singleton ':' ++ key.endpointAddr ++ String.singleton ':' ++ key.rpcType.label := rfl

theorem not_mem_label (t : RPCType) : ':' ∉ t.label.toList := by
  cases t <;> decide

theorem label_inj {t t' : RPCType} (h : t.label = t'.label) : t = t' := by
  cases t <;> cases t' <;> first | rfl | exact absurd h (by decide)

theorem split_string (key : EndpointKey) :
    GoStrings.split ':' key.string = GoStrings.split ':' key.serviceID ++
      GoStrings.split ':' key.endpointAddr ++ [key.rpcType.label] := by
  rw [string_eq, split_append, split_append, split_of_not_mem (not_mem_label key.rpcType)]

theorem eq_of_string_eq {key key' : EndpointKey} (hplain : key.Plain)
    (h : key'.string = key.string) : key' = key := by
  obtain ⟨hservice, haddr, -⟩ := hplain
  have hsplit := congrArg (split ':') h
  rw [split_string, split_string, split_of_not_mem hservice, split_of_not_mem haddr] at hsplit
  obtain ⟨a, as, ha⟩ := exists_cons_of_ne_nil (split_ne_nil ':' key'.serviceID)
  obtain ⟨b, bs, hb⟩ := exists_cons_of_ne_nil (split_ne_nil ':' key'.endpointAddr)
  have hlength := congrArg length hsplit
  simp only [ha, hb, length_append, length_cons, length_nil] at hlength
  obtain rfl := length_eq_zero_iff.mp (show as.length = 0 by omega)
  obtain rfl := length_eq_zero_iff.mp (show bs.length = 0 by omega)
  rw [ha, hb] at hsplit
  simp only [cons_append, nil_append, cons.injEq, and_true] at hsplit
  obtain ⟨hservice', haddr', hlabel⟩ := hsplit
  rw [← eq_of_split_eq_singleton ha] at hservice'
  rw [← eq_of_split_eq_singleton hb] at haddr'
  cases key
  cases key'
  cases hservice'
  cases haddr'
  cases label_inj hlabel
  rfl

end EndpointKey

namespace MemoryStorage

theorem parseKey_string {key : EndpointKey} (hplain : key.Plain) :
    parseKey key.string = some key := by
  obtain ⟨hservice, haddr, htype⟩ := hplain
  have hstring : key.string = key.serviceID ++ String.singleton ':' ++
      (key.endpointAddr ++ String.singleton ':' ++ key.rpcType.label) := by
    rw [string_eq]
    simp only [String.append_assoc]
  rw [parseKey, hstring, after_append hservice, before_append hservice,
    bind_some, after_append haddr, before_append haddr, map_some, htype]
  cases key
  cases htype
  rfl

theorem ofName_ne_label {s : String} (h : RPCType.ofName s ≠ .unknownRPC) :
    ':' ∉ s.toList ∧ ∀ t : RPCType, s ≠ t.label := by
  have hname : ∃ t : RPCType, t.name = s := by
    rw [RPCType.ofName] at h
    cases hfind : [RPCType.grpc, .websocket, .jsonRPC, .rest, .cometBFT].find?
        (fun t => t.name == s) with
    | none =>
      rw [hfind] at h
      exact absurd rfl h
    | some t => exact ⟨t, by simpa using find?_some hfind⟩
  obtain ⟨t, rfl⟩ := hname
  refine ⟨by cases t <;> decide, fun t' => ?_⟩
  cases t <;> cases t' <;> decide

theorem plain_of_parseKey {key key' : EndpointKey} (h : parseKey key'.string = some key) :
    key.Plain := by
  simp only [parseKey, bind_eq_some_iff, map_eq_some_iff] at h
  obtain ⟨rest, hrest, rpcType, htype, rfl⟩ := h
  refine ⟨not_mem_before ':' _, not_mem_before ':' _, ?_⟩
  by_contra hne
  obtain ⟨hcolon, hlabel⟩ := ofName_ne_label hne
  -- what stands after the second colon would be the last part of the string
  have hjoin : key'.string = before ':' key'.string ++ String.singleton ':' ++
      (before ':' rest ++ String.singleton ':' ++ rpcType) := by
    refine String.toList_inj.mp ?_
    rw [toList_append_sep, toList_append_sep, ← toList_eq_of_after htype]
    exact toList_eq_of_after hrest
  have hsplit := split_string key'
  rw [hjoin, split_append, split_append, split_of_not_mem hcolon, ← append_assoc] at hsplit
  exact hlabel _ (append_inj_right' hsplit rfl |> singleton_inj.mp)

end MemoryStorage

/-- The table under strings against the one under the keys themselves: each score is there under
the string of a key that has it, and under the strings of plain keys nothing is lost. -/
structure ScoreTable.Reflects (s : ScoreTable String) (a : ScoreTable EndpointKey) : Prop where
  clock : s.clock = a.clock
  origin : ∀ str e, s.scores.lookup str = some e →
    ∃ key : EndpointKey, key.string = str ∧ a.scores.lookup key = some e
  plain : ∀ key : EndpointKey, key.Plain → s.scores.lookup key.string = a.scores.lookup key

namespace ScoreTable.Reflects

variable {s : ScoreTable String} {a : ScoreTable EndpointKey} {ttl : ℕ} {key : EndpointKey}

theorem start (clock : Time) : ScoreTable.Reflects (.start clock) (.start clock) := by
  refine ⟨rfl, fun str e he => ?_, fun key _ => rfl⟩
  rw [ScoreTable.start, lookup_empty] at he
  cases he

theorem set (h : ScoreTable.Reflects s a) (score : ScoreRecord) :
    ScoreTable.Reflects (s.set EndpointKey.string ttl key score) (a.set id ttl key score) := by
  refine ⟨h.clock, fun str e he => ?_, fun key' hplain => ?_⟩
  · simp only [ScoreTable.set] at he ⊢
    rcases lookup_insert_eq_some.mp he with ⟨hstr, rfl⟩ | ⟨hstr, he⟩
    · exact ⟨key, hstr.symm, by rw [id, lookup_insert, ← h.clock]⟩
    · obtain ⟨key', rfl, hkey'⟩ := h.origin str e he
      have hne : key' ≠ key := fun heq => hstr (congrArg _ heq)
      exact ⟨key', rfl, by rw [id, lookup_insert_ne hne, hkey']⟩
  · simp only [ScoreTable.set, id]
    by_cases hkey : key' = key
    · rw [hkey, lookup_insert, lookup_insert, h.clock]
    · have hstr : key'.string ≠ key.string :=
        fun heq => hkey (eq_of_string_eq hplain heq.symm).symm
      rw [lookup_insert_ne hstr, lookup_insert_ne hkey, h.plain key' hplain]

theorem delete (h : ScoreTable.Reflects s a) :
    ScoreTable.Reflects { s with scores := s.scores.erase key.string }
      { a with scores := a.scores.erase key } := by
  refine ⟨h.clock, fun str e he => ?_, fun key' hplain => ?_⟩
  · obtain ⟨hstr, he⟩ := lookup_erase_eq_some.mp he
    obtain ⟨key', rfl, hkey'⟩ := h.origin str e he
    have hne : key' ≠ key := fun heq => hstr (congrArg _ heq)
    exact ⟨key', rfl, by rw [lookup_erase_ne hne, hkey']⟩
  · dsimp only
    by_cases hkey : key' = key
    · rw [hkey, lookup_erase, lookup_erase]
    · have hstr : key'.string ≠ key.string :=
        fun heq => hkey (eq_of_string_eq hplain heq.symm).symm
      rw [lookup_erase_ne hstr, lookup_erase_ne hkey, h.plain key' hplain]

theorem step (h : ScoreTable.Reflects s a) (op : MemoryOp) :
    ScoreTable.Reflects (s.step EndpointKey.string ttl op) (a.step id ttl op) := by
  cases op with
  | set key score => exact h.set score
  | setMultiple scores =>
    simp only [ScoreTable.step]
    induction scores generalizing s a with
    | nil => exact h
    | cons e scores ih => exact ih (h.set e.2)
  | delete => exact h.delete
  | cleanup =>
    refine ⟨h.clock, fun str e he => ?_, fun key hplain => ?_⟩
    · obtain ⟨hlookup, hlive⟩ := lookup_retain_eq_some.mp he
      obtain ⟨key, rfl, hkey⟩ := h.origin str e hlookup
      exact ⟨key, rfl, lookup_retain_eq_some.mpr ⟨hkey, h.clock ▸ hlive⟩⟩
    · simp only [ScoreTable.step, lookup_retain, h.plain key hplain, h.clock]
  | wait =>
    refine ⟨?_, h.origin, h.plain⟩
    simp only [ScoreTable.step, h.clock]

theorem after (clock : Time) (ops : List MemoryOp) :
    ScoreTable.Reflects (.after EndpointKey.string ttl clock ops) (.after id ttl clock ops) := by
  rw [ScoreTable.after, ScoreTable.after]
  have hfold : ∀ s a, ScoreTable.Reflects s a →
      ScoreTable.Reflects (ops.foldl (ScoreTable.step string ttl) s)
        (ops.foldl (ScoreTable.step id ttl) a) := by
    induction ops with
    | nil => exact fun _ _ h => h
    | cons op ops ih => exact fun s a h => ih _ _ (h.step op)
  exact hfold _ _ (.start clock)

end ScoreTable.Reflects

namespace MemoryStorage

/-- A listing has each key with a live score once, and reading it back gives those scores. The
second table has the scores under the keys themselves. -/
def ListsLive (s : ScoreTable String) (a : ScoreTable EndpointKey) : Prop :=
  (list s "").Nodup ∧ (∀ key, key ∈ list s "" ↔ (a.live key).isSome) ∧
    ∀ key, (getMultiple s (list s "")).lookup key = a.live key

section Listing

variable {s : ScoreTable String} {a : ScoreTable EndpointKey} {key : EndpointKey}

theorem listed_iff {e : Sigma (fun _ : String => ScoreEntry)} :
    (if e.2.isExpired s.clock then none else if ("" : String) ≠ "" ∧
    !GoStrings.hasPrefix e.1 ("" ++ ":") then none else parseKey e.1) = some key ↔
    e.2.isExpired s.clock = false ∧ parseKey e.1 = some key := by
  cases e.2.isExpired s.clock <;> simp

theorem mem_list : key ∈ list s "" ↔ ∃ str e, s.scores.lookup str = some e ∧
    e.isExpired s.clock = false ∧ parseKey str = some key := by
  rw [list, mem_filterMap]
  constructor
  · rintro ⟨⟨str, e⟩, hmem, hkey⟩
    exact ⟨str, e, mem_lookup_iff.mpr hmem, listed_iff.mp hkey⟩
  · rintro ⟨str, e, hlookup, hkey⟩
    exact ⟨⟨str, e⟩, mem_lookup_iff.mp hlookup, listed_iff.mpr hkey⟩

theorem live_isSome {κ : Type} [DecidableEq κ] {t : ScoreTable κ} {k : κ} :
    (t.live k).isSome ↔ ∃ e, t.scores.lookup k = some e ∧ e.isExpired t.clock = false := by
  rw [ScoreTable.live, isSome_map]
  simp only [isSome_iff_exists, filter_eq_some_iff, Bool.not_eq_true']

theorem live_string (h : s.Reflects a) (hplain : key.Plain) : s.live key.string = a.live key := by
  rw [ScoreTable.live, ScoreTable.live, h.plain key hplain, h.clock]

theorem plain_of_mem_list (h : s.Reflects a) (hmem : key ∈ list s "") : key.Plain := by
  obtain ⟨str, e, hlookup, -, hparse⟩ := mem_list.mp hmem
  obtain ⟨key', rfl, -⟩ := h.origin str e hlookup
  exact plain_of_parseKey hparse

variable (h : s.Reflects a) (hplain : ∀ key, (a.live key).isSome → key.Plain)

include h hplain

theorem string_of_listed {str : String} {e : ScoreEntry} (hlookup : s.scores.lookup str = some e)
    (hlive : e.isExpired s.clock = false) (hparse : parseKey str = some key) :
    str = key.string ∧ (a.live key).isSome := by
  obtain ⟨key', rfl, hkey'⟩ := h.origin str e hlookup
  have hsome : (a.live key').isSome := live_isSome.mpr ⟨e, hkey', h.clock ▸ hlive⟩
  rw [parseKey_string (hplain key' hsome), some.injEq] at hparse
  rw [← hparse]
  exact ⟨rfl, hsome⟩

theorem mem_list_iff : key ∈ list s "" ↔ (a.live key).isSome := by
  constructor
  · intro hmem
    obtain ⟨str, e, hlookup, hlive, hparse⟩ := mem_list.mp hmem
    exact (string_of_listed h hplain hlookup hlive hparse).2
  · intro hsome
    obtain ⟨e, hlookup, hlive⟩ := live_isSome.mp hsome
    rw [← h.plain key (hplain key hsome)] at hlookup
    exact mem_list.mpr ⟨key.string, e, hlookup, h.clock ▸ hlive, parseKey_string (hplain key hsome)⟩

theorem nodup_list : (list s "").Nodup := by
  have hkeys : s.scores.entries.Pairwise (fun e e' => e.1 ≠ e'.1) :=
    pairwise_map.mp s.scores.nodupKeys
  rw [list, Nodup, pairwise_filterMap]
  refine hkeys.imp_of_mem fun {e e'} hmem hmem' hne key hkey key' hkey' heq => hne ?_
  obtain ⟨hlive, hparse⟩ := listed_iff.mp hkey
  obtain ⟨hlive', hparse'⟩ := listed_iff.mp hkey'
  have hstr := (string_of_listed h hplain (mem_lookup_iff.mpr hmem) hlive hparse).1
  have hstr' := (string_of_listed h hplain (mem_lookup_iff.mpr hmem') hlive' hparse').1
  rw [hstr, hstr', heq]

theorem lookup_getMultiple_list : (getMultiple s (list s "")).lookup key = a.live key := by
  rw [getMultiple, lookup_build]
  by_cases hsome : (a.live key).isSome
  · rw [if_pos ((mem_list_iff h hplain).mpr hsome), live_string h (hplain key hsome)]
  · rw [if_neg (mt (mem_list_iff h hplain).mp hsome), not_isSome_iff_eq_none.mp hsome]

end Listing

/-- Scores are lost from the listing as soon as a live key has an RPC type or an address with a
colon, such as a URL. -/
theorem listsLive_iff (ttl : ℕ) (clock : Time) (ops : List MemoryOp) :
    ListsLive (.after EndpointKey.string ttl clock ops) (.after id ttl clock ops) ↔
      ∀ key, ((ScoreTable.after id ttl clock ops).live key).isSome → key.Plain := by
  have h : ScoreTable.Reflects (.after string ttl clock ops)
      (.after id ttl clock ops) := .after clock ops
  constructor
  · rintro ⟨-, hmem, -⟩ key hsome
    exact plain_of_mem_list h ((hmem key).mpr hsome)
  · intro hplain
    exact ⟨nodup_list h hplain, fun key => mem_list_iff h hplain,
      fun key => lookup_getMultiple_list h hplain⟩

end MemoryStorage

def httpsKey : EndpointKey := ⟨"eth", addrA, .jsonRPC⟩

/-- The one score that was set is listed under a key that nothing is stored under. -/
theorem stored_score_not_listed :
    let s := ScoreTable.after string 0 0 [.set httpsKey (.fresh 80 0)]
    let a := ScoreTable.after id 0 0 [.set httpsKey (.fresh 80 0)]
    a.live httpsKey = some (.fresh 80 0) ∧
      MemoryStorage.list s "" = [⟨"eth", "pokt1a-https", .unknownRPC⟩] ∧
      (MemoryStorage.getMultiple s (MemoryStorage.list s "")).isEmpty ∧
      ¬ MemoryStorage.ListsLive s a := by
  intro s a
  have hlive : a.live httpsKey = some (.fresh 80 0) := by decide +kernel
  have hlist : MemoryStorage.list s "" = [⟨"eth", "pokt1a-https", .unknownRPC⟩] := by
    decide +kernel
  refine ⟨hlive, hlist, by decide +kernel, ?_⟩
  rintro ⟨-, hmem, -⟩
  have hlisted := (hmem httpsKey).mpr (by rw [hlive]; rfl)
  rw [hlist] at hlisted
  exact absurd hlisted (by decide)

end PathGateway
