import PathGateway.EndpointFilters

/-! The operator's domain blocklist: how the configured entries are compiled into a map,
and which URLs the map blocks. -/

namespace PathGateway

open Except Option

/-- One configured ban; no RPC types means all of them. -/
structure BlockedDomainConfig where
  domain : String
  rpcTypes : List String
  deriving DecidableEq, Repr

inductive BlocklistError where
  | emptyDomain
  | unknownRPCType (domain rpcType : String)
  deriving DecidableEq, Repr

def parseRPCType (net : NetLib) (configStr : String) : Option RPCType :=
  if configStr = "" then none
  else
    let t := RPCType.ofName (net.toUpper configStr)
    if t = .unknownRPC then none else some t

namespace BlockedDomainConfig

variable (net : NetLib)

def name (e : BlockedDomainConfig) : String :=
  net.toLower (GoStrings.trimSpace e.domain)

def parseTypes (domain : String) : List String → Except BlocklistError (List RPCType)
  | [] => .ok []
  | s :: ss =>
    match parseRPCType net (GoStrings.trimSpace s) with
    | none => .error (.unknownRPCType domain (GoStrings.trimSpace s))
    | some t => (parseTypes domain ss).map (t :: ·)

def Bans (e : BlockedDomainConfig) (t : RPCType) : Prop :=
  e.rpcTypes = [] ∨ ∃ s ∈ e.rpcTypes, parseRPCType net (GoStrings.trimSpace s) = some t

variable {net} {domain : String} {ss : List String} {ts : List RPCType} {t : RPCType}

theorem mem_parseTypes (h : parseTypes net domain ss = .ok ts) :
    t ∈ ts ↔ ∃ s ∈ ss, parseRPCType net (GoStrings.trimSpace s) = some t := by
  induction ss generalizing ts with
  | nil =>
    obtain rfl := ok.inj h
    simp
  | cons s ss ih =>
    rw [parseTypes] at h
    split at h
    · cases h
    · rename_i t' hs
      cases hrest : parseTypes net domain ss with
      | error =>
        rw [hrest] at h
        cases h
      | ok =>
        rw [hrest] at h
        obtain rfl := ok.inj h
        simp [ih hrest, hs, eq_comm]

end BlockedDomainConfig

namespace DomainBlocklist

open BlockedDomainConfig

variable (net : NetLib)

def addEntry (blocked : GoMap String (Option (List RPCType))) (e : BlockedDomainConfig) :
    Except BlocklistError (GoMap String (Option (List RPCType))) :=
  let domain := e.name net
  if domain = "" then .error .emptyDomain
  else if e.rpcTypes = [] then .ok (blocked.insert domain none)
  else
    match blocked.lookup domain with
    | some none => .ok blocked
    | existing =>
      (parseTypes net domain e.rpcTypes).map (fun types =>
        blocked.insert domain (some ((existing.bind id).getD [] ++ types)))

def addEntries (blocked : GoMap String (Option (List RPCType))) :
    List BlockedDomainConfig → Except BlocklistError (GoMap String (Option (List RPCType)))
  | [] => .ok blocked
  | e :: es =>
    match addEntry net blocked e with
    | .error err => .error err
    | .ok blocked => addEntries blocked es

variable (entries : List BlockedDomainConfig) (name : String)

/-- An empty list needs no matcher; an empty domain or an unknown RPC type refuses to boot. -/
def newDomainBlocklist : Except BlocklistError (Option DomainBlocklist) :=
  if entries = [] then .ok none
  else (addEntries net ∅ entries).map (fun blocked => some ⟨blocked⟩)

def Listed : Prop := ∃ e ∈ entries, e.name net = name

def Banned (t : RPCType) : Prop := ∃ e ∈ entries, e.name net = name ∧ e.Bans net t

def BansUnder (blocked : GoMap String (Option (List RPCType))) (name : String) (t : RPCType) :
    Prop :=
  ∃ types, blocked.lookup name = some types ∧ ∀ ts, types = some ts → t ∈ ts

structure Compiles (entries : List BlockedDomainConfig)
    (blocked : GoMap String (Option (List RPCType))) : Prop where
  listed : ∀ name, (blocked.lookup name).isSome ↔ Listed net entries name
  named : ¬Listed net entries ""
  banned : ∀ name t, BansUnder blocked name t ↔ Banned net entries name t

variable {net} {entries : List BlockedDomainConfig} {e : BlockedDomainConfig} {name : String}
  {t : RPCType} {blocked blocked' : GoMap String (Option (List RPCType))}

theorem listed_append :
    Listed net (entries ++ [e]) name ↔ Listed net entries name ∨ e.name net = name := by
  simp [Listed, or_and_right, exists_or]

theorem banned_append : Banned net (entries ++ [e]) name t ↔
    Banned net entries name t ∨ e.name net = name ∧ e.Bans net t := by
  simp [Banned, or_and_right, exists_or]

theorem Banned.listed (h : Banned net entries name t) : Listed net entries name := by
  obtain ⟨e, he, hn, -⟩ := h
  exact ⟨e, he, hn⟩

variable {types : Option (List RPCType)}

theorem bansUnder_insert_ne {d : String} (h : name ≠ d) :
    BansUnder (blocked.insert d types) name t ↔ BansUnder blocked name t := by
  simp only [BansUnder, AList.lookup_insert_ne h]

theorem bansUnder_insert :
    BansUnder (blocked.insert name types) name t ↔ ∀ ts, types = some ts → t ∈ ts := by
  simp [BansUnder]

theorem Compiles.empty : Compiles net [] ∅ where
  listed name := by simp [Listed]
  named := by simp [Listed]
  banned name t := by simp [BansUnder, Banned]

theorem Compiles.insert (hc : Compiles net entries blocked) (hne : e.name net ≠ "")
    (htypes : ∀ t, (∀ ts, types = some ts → t ∈ ts) ↔ BansUnder blocked (e.name net) t ∨
    e.Bans net t) : Compiles net (entries ++ [e]) (blocked.insert (e.name net) types) where
  listed name := by
    rw [listed_append]
    by_cases hn : name = e.name net
    · subst hn
      simp
    · rw [AList.lookup_insert_ne hn, hc.listed, or_iff_left (Ne.symm hn)]
  named := by
    rw [listed_append]
    exact not_or.mpr ⟨hc.named, hne⟩
  banned name t := by
    rw [banned_append]
    by_cases hn : name = e.name net
    · subst hn
      rw [bansUnder_insert, htypes, hc.banned]
      simp
    · rw [bansUnder_insert_ne hn, hc.banned, or_iff_left fun h => hn h.1.symm]

theorem Compiles.absorb (hc : Compiles net entries blocked)
    (hall : blocked.lookup (e.name net) = some none) : Compiles net (entries ++ [e]) blocked where
  listed name := by
    rw [listed_append, ← hc.listed, or_iff_left_of_imp]
    rintro rfl
    simp [hall]
  named := by
    rw [listed_append]
    rintro (h | h)
    · exact hc.named h
    · rw [h] at hall
      exact hc.named ((hc.listed "").mp (by simp [hall]))
  banned name t := by
    rw [banned_append, ← hc.banned, or_iff_left_of_imp]
    rintro ⟨rfl, -⟩
    exact ⟨none, hall, nofun⟩

theorem mem_narrow_iff (h : blocked.lookup name ≠ some none) :
    t ∈ ((blocked.lookup name).bind id).getD [] ↔ BansUnder blocked name t := by
  rw [BansUnder]
  cases hl : blocked.lookup name with
  | none => simp
  | some types =>
    cases types with
    | none => exact absurd hl h
    | some => simp

theorem Compiles.addEntry (hc : Compiles net entries blocked)
    (h : addEntry net blocked e = .ok blocked') : Compiles net (entries ++ [e]) blocked' := by
  simp only [DomainBlocklist.addEntry] at h
  split_ifs at h with hne hall
  · obtain rfl := ok.inj h
    exact hc.insert hne fun t => by simp [Bans, hall]
  · split at h
    · rename_i habs
      obtain rfl := ok.inj h
      exact hc.absorb habs
    · rename_i existing hex
      cases hp : parseTypes net (e.name net) e.rpcTypes with
      | error =>
        rw [hp] at h
        cases h
      | ok =>
        rw [hp] at h
        obtain rfl := ok.inj h
        refine hc.insert hne fun t => ?_
        simp only [some.injEq, forall_eq', List.mem_append, mem_parseTypes hp, Bans, hall,
          false_or]
        exact or_congr_left (mem_narrow_iff hex)

theorem Compiles.addEntries {es : List BlockedDomainConfig} (hc : Compiles net entries blocked)
    (h : addEntries net blocked es = .ok blocked') : Compiles net (entries ++ es) blocked' := by
  induction es generalizing entries blocked with
  | nil =>
    obtain rfl := ok.inj h
    simpa using hc
  | cons e es ih =>
    rw [DomainBlocklist.addEntries] at h
    split at h
    · cases h
    · rename_i he
      simpa using ih (hc.addEntry he) h

variable {b : Option DomainBlocklist}

theorem compiles_newDomainBlocklist (h : newDomainBlocklist net entries = .ok b) :
    Compiles net entries (b.elim ∅ DomainBlocklist.blocked) := by
  rw [newDomainBlocklist] at h
  split_ifs at h with hnil
  · obtain rfl := ok.inj h
    exact hnil ▸ .empty
  · cases ha : addEntries net ∅ entries with
    | error =>
      rw [ha] at h
      cases h
    | ok =>
      rw [ha] at h
      obtain rfl := ok.inj h
      exact Compiles.empty.addEntries ha

variable (net)

def urlHostname (url : String) : String :=
  if url = "" then "" else (net.hostname url).elim "" net.toLower

def registrableDomain (url : String) : Option String :=
  (extractDomainOrHost net url).map net.toLower

variable {net}

theorem registrableDomain_empty : registrableDomain net "" = none := by
  simp [registrableDomain, extractDomainOrHost]

variable {url : String}

theorem computeMatchKey_eq (hc : Compiles net entries blocked) (hurl : url ≠ "") :
    computeMatchKey ⟨blocked⟩ net url =
      if (blocked.lookup (urlHostname net url)).isSome then urlHostname net url
      else ((registrableDomain net url).filter (fun d => (blocked.lookup d).isSome)).getD "" := by
  have hhost : (net.hostname url).elim "" net.toLower = urlHostname net url := by
    simp [urlHostname, hurl]
  have hempty : (blocked.lookup "").isSome = false := by
    simpa using mt (hc.listed "").mp hc.named
  rw [computeMatchKey, hhost]
  by_cases hl : (blocked.lookup (urlHostname net url)).isSome
  · have hne : urlHostname net url ≠ "" := by
      intro h
      rw [h, hempty] at hl
      cases hl
    simp [hl, hne]
  · simp only [hl, Bool.false_eq_true, and_false, if_false, registrableDomain]
    cases extractDomainOrHost net url with
    | none => rfl
    | some d =>
      by_cases hd : (blocked.lookup (net.toLower d)).isSome <;> simp [Option.filter, hd]

theorem BansUnder.isSome (h : BansUnder blocked name t) : (blocked.lookup name).isSome := by
  obtain ⟨types, hl, -⟩ := h
  simp [hl]

theorem isBlocked_of_key {b : DomainBlocklist}
    (hurl : url ≠ "") (hkey : b.computeMatchKey net url = name)
    (hne : name ≠ "") (hl : (b.blocked.lookup name).isSome) :
    isBlocked (some b) net url t = true ↔ BansUnder b.blocked name t := by
  subst hkey
  obtain ⟨types, htypes⟩ := isSome_iff_exists.mp hl
  simp only [isBlocked, hurl, hne, if_false, BansUnder, htypes]
  cases types <;> simp

theorem isBlocked_of_no_key {b : DomainBlocklist}
    (hkey : b.computeMatchKey net url = "") : isBlocked (some b) net url t = false := by
  simp [isBlocked, hkey]

theorem isBlocked_eq_true (h : newDomainBlocklist net entries = .ok b) :
    isBlocked b net url t = true ↔
      Banned net entries (urlHostname net url) t ∨ ¬Listed net entries (urlHostname net url) ∧
      ∃ d, registrableDomain net url = some d ∧ Banned net entries d t := by
  have hc := compiles_newDomainBlocklist h
  cases b with
  | none =>
    simp only [elim_none] at hc
    simp [isBlocked, ← hc.banned, BansUnder]
  | some b =>
    simp only [elim_some] at hc
    by_cases hurl : url = ""
    · subst hurl
      simp only [isBlocked, if_true, registrableDomain_empty, urlHostname]
      simpa using fun hb : Banned net entries "" t => hc.named hb.listed
    · have hempty : (b.blocked.lookup "").isSome = false := by
        simpa using mt (hc.listed "").mp hc.named
      have hne : ∀ name, (b.blocked.lookup name).isSome → name ≠ "" := by
        rintro name hl rfl
        rw [hempty] at hl
        cases hl
      have hkey := computeMatchKey_eq hc hurl
      simp only [← hc.listed, ← hc.banned]
      by_cases hl : (b.blocked.lookup (urlHostname net url)).isSome
      · rw [if_pos hl] at hkey
        rw [isBlocked_of_key hurl hkey (hne _ hl) hl]
        simp [hl]
      · have hhost : ¬BansUnder b.blocked (urlHostname net url) t := fun hb => hl hb.isSome
        rw [if_neg hl] at hkey
        rw [or_iff_right hhost]
        cases hreg : registrableDomain net url with
        | none =>
          rw [hreg] at hkey
          simp [isBlocked_of_no_key hkey]
        | some d =>
          rw [hreg, filter_some] at hkey
          by_cases hd : (b.blocked.lookup d).isSome
          · rw [if_pos hd, getD_some] at hkey
            rw [isBlocked_of_key hurl hkey (hne _ hd) hd]
            simp [hl]
          · have hbans : ¬BansUnder b.blocked d t := fun hb => hd hb.isSome
            rw [if_neg hd, getD_none] at hkey
            simp [isBlocked_of_no_key hkey, hbans]

variable (net)

/-- What the list asks for: some entry named after the host or the registrable domain of
the URL bans the type. -/
def UnionBans (entries : List BlockedDomainConfig) (url : String) (t : RPCType) : Prop :=
  ∃ e ∈ entries, (e.name net = urlHostname net url ∨
    registrableDomain net url = some (e.name net)) ∧ e.Bans net t

/-- A host name with an entry of its own is banned for the type there, unless its
registrable domain is not banned for the type either. -/
def Unshadowed (entries : List BlockedDomainConfig) (url : String) (t : RPCType) : Prop :=
  Listed net entries (urlHostname net url) → Banned net entries (urlHostname net url) t ∨
    ∀ d, registrableDomain net url = some d → ¬Banned net entries d t

variable {net}

theorem unionBans_iff :
    UnionBans net entries url t ↔ Banned net entries (urlHostname net url) t ∨
      ∃ d, registrableDomain net url = some d ∧ Banned net entries d t := by
  constructor
  · rintro ⟨e, he, hhost | hreg, hbans⟩
    · exact .inl ⟨e, he, hhost, hbans⟩
    · exact .inr ⟨_, hreg, e, he, rfl, hbans⟩
  · rintro (⟨e, he, hhost, hbans⟩ | ⟨_, hreg, e, he, rfl, hbans⟩)
    · exact ⟨e, he, .inl hhost, hbans⟩
    · exact ⟨e, he, .inr hreg, hbans⟩

theorem UnionBans.mono {entries' : List BlockedDomainConfig} (h : UnionBans net entries url t)
    (hsub : entries ⊆ entries') : UnionBans net entries' url t := by
  obtain ⟨e, he, hname, hbans⟩ := h
  exact ⟨e, hsub he, hname, hbans⟩

theorem unionBans_of_isBlocked (h : newDomainBlocklist net entries = .ok b)
    (hb : isBlocked b net url t = true) : UnionBans net entries url t :=
  unionBans_iff.mpr (((isBlocked_eq_true h).mp hb).imp_right And.right)

theorem isBlocked_of_unionBans (h : newDomainBlocklist net entries = .ok b)
    (hu : UnionBans net entries url t) :
    isBlocked b net url t = true ↔ Unshadowed net entries url t := by
  rw [isBlocked_eq_true h]
  rcases unionBans_iff.mp hu with hhost | ⟨d, hreg, hd⟩
  · exact iff_of_true (.inl hhost) fun _ => .inl hhost
  · constructor
    · rintro (hhost | ⟨hfree, -⟩) hl
      · exact .inl hhost
      · exact absurd hl hfree
    · intro hun
      by_cases hl : Listed net entries (urlHostname net url)
      · exact .inl ((hun hl).resolve_right fun hnone => hnone d hreg hd)
      · exact .inr ⟨hl, d, hreg, hd⟩

/-- The blocklist is the union of its entries exactly where no narrower entry of the host
stands before a ban of its domain. Further entries keep a ban exactly there, and the order
of the entries never matters. -/
theorem isBlocked_iff_unionBans_iff {b : Option DomainBlocklist}
    (h : newDomainBlocklist net entries = .ok b) (url : String) (t : RPCType) :
    ((isBlocked b net url t = true ↔ UnionBans net entries url t) ↔
      Unshadowed net entries url t) ∧
    (∀ entries' b', newDomainBlocklist net entries' = .ok b' → entries ⊆ entries' →
      isBlocked b net url t = true →
        (isBlocked b' net url t = true ↔ Unshadowed net entries' url t)) ∧
    (∀ entries' b', newDomainBlocklist net entries' = .ok b' →
      (∀ e, e ∈ entries' ↔ e ∈ entries) →
        isBlocked b' net url t = isBlocked b net url t) := by
  refine ⟨⟨fun hiff => ?_, fun hun => ⟨unionBans_of_isBlocked h, fun hu => ?_⟩⟩, ?_, ?_⟩
  · by_cases hu : UnionBans net entries url t
    · exact (isBlocked_of_unionBans h hu).mp (hiff.mpr hu)
    · exact fun _ => .inr fun d hreg hd => hu (unionBans_iff.mpr (.inr ⟨d, hreg, hd⟩))
  · exact (isBlocked_of_unionBans h hu).mpr hun
  · intro entries' b' h' hsub hb
    exact isBlocked_of_unionBans h' ((unionBans_of_isBlocked h hb).mono hsub)
  · intro entries' b' h' hmem
    rw [Bool.eq_iff_iff, isBlocked_eq_true h, isBlocked_eq_true h']
    simp only [Listed, Banned, hmem]

def shadowedEntries : List BlockedDomainConfig :=
  [⟨"example.com", []⟩, ⟨"a.example.com", ["websocket"]⟩]

theorem exists_of_isOk {ε α : Type} {x : Except ε α} (h : x.isOk = true) : ∃ a, x = .ok a := by
  cases x with
  | error => cases h
  | ok a => exact ⟨a, rfl⟩

theorem narrower_host_entry_unblocks :
    ¬∀ (net : NetLib) (entries : List BlockedDomainConfig) (b : Option DomainBlocklist),
      newDomainBlocklist net entries = .ok b → ∀ (url : String) (t : RPCType),
        isBlocked b net url t = true ↔ UnionBans net entries url t := by
  intro h
  obtain ⟨b, hb⟩ : ∃ b, newDomainBlocklist NetLib.ascii shadowedEntries = .ok b :=
    exists_of_isOk (by decide +kernel)
  have hopen : (newDomainBlocklist NetLib.ascii shadowedEntries).toOption.map
      (fun b => isBlocked b NetLib.ascii "https://a.example.com" .jsonRPC) = some false := by
    decide +kernel
  rw [hb] at hopen
  have hblocked := (h _ _ b hb "https://a.example.com" .jsonRPC).mpr
    ⟨⟨"example.com", []⟩, by simp [shadowedEntries], .inr (by decide +kernel), .inl rfl⟩
  exact Bool.false_ne_true ((some.inj hopen).symm.trans hblocked)

theorem isBlocked_iff_unionBans_iff_single :
    ∃ b, newDomainBlocklist NetLib.ascii [⟨"example.com", []⟩] = .ok b ∧
      (isBlocked b NetLib.ascii "https://a.example.com" .jsonRPC = true ↔
        UnionBans NetLib.ascii [⟨"example.com", []⟩] "https://a.example.com" .jsonRPC) := by
  obtain ⟨b, hb⟩ : ∃ b, newDomainBlocklist NetLib.ascii [⟨"example.com", []⟩] = .ok b :=
    exists_of_isOk (by decide +kernel)
  refine ⟨b, hb, (isBlocked_iff_unionBans_iff hb "https://a.example.com" .jsonRPC).1.mpr ?_⟩
  rintro ⟨e, he, hname⟩
  obtain rfl := List.mem_singleton.mp he
  exact absurd hname (by decide +kernel)

end DomainBlocklist

end PathGateway
