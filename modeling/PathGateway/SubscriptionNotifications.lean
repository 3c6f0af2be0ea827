import PathGateway.SubscriptionBridge
import Mathlib.Data.List.Sort

/-! Notifications, as the endpoint sends them and as the registry rewrites them. A frame is
decoded into a map and written again, so that its fields change their order and lose their white
space, while the parameters get another id. -/

namespace GoMap

theorem lookup_foldl {κ ν : Type*} [DecidableEq κ] {fields : List (κ × ν)} {k : κ} :
    (fields.foldl (fun m field => m.insert field.1 field.2) (∅ : GoMap κ ν)).lookup k =
      (fields.filter (fun field => field.1 = k)).getLast?.map (·.2) := by
  induction fields using List.reverseRecOn with
  | nil => simp
  | append_singleton fields field ih =>
    rw [List.foldl_append, List.filter_append]
    by_cases hk : field.1 = k
    · subst hk
      simp
    · simp [hk, AList.lookup_insert_ne (Ne.symm hk), ih]

end GoMap

namespace PathGateway

open Option List GoMap AList

namespace RawJSON

variable {β : Type} {json : RawJSON β} {name s : String} {fields : List (String × β)} {b : β}
  {m : GoMap String β}

def HasField (name : String) (b : β) (fields : List (String × β)) : Prop :=
  fields.filter (isName name) = [(name, b)]

theorem HasField.mem (h : HasField name b fields) : (name, b) ∈ fields := by
  have hmem : (name, b) ∈ fields.filter (isName name) := h ▸ mem_singleton_self _
  exact (mem_filter.mp hmem).1

theorem HasField.isName_self (h : HasField name b fields) (b' : β) :
    isName name (name, b') = true := by
  have hmem : (name, b) ∈ fields.filter (isName name) := h ▸ mem_singleton_self _
  exact (mem_filter.mp hmem).2

theorem HasField.eq_of_mem (h : HasField name b fields) {field : String × β}
    (hmem : field ∈ fields) (hname : isName name field = true) : field = (name, b) := by
  have hfilter : field ∈ fields.filter (isName name) := mem_filter.mpr ⟨hmem, hname⟩
  rw [h] at hfilter
  exact mem_singleton.mp hfilter

theorem HasField.rawField_eq (h : HasField name b fields) : rawField name fields = some b := by
  rw [rawField, h]
  rfl

theorem HasField.stringField_eq (h : HasField name b fields)
    (hvalue : json.value b = some (.string s)) : json.stringField name fields = some s := by
  rw [stringField, h]
  simp [hvalue]

theorem hasField_of_unique (hnodup : fields.Nodup)
    (hmem : (name, b) ∈ fields) (hname : isName name (name, b) = true)
    (hunique : ∀ field ∈ fields, isName name field = true → field = (name, b)) :
    HasField name b fields := by
  refine perm_singleton.mp ?_
  refine (perm_ext_iff_of_nodup (hnodup.filter _) (nodup_singleton _)).mpr ?_
  intro field
  rw [mem_filter, mem_singleton]
  constructor
  · rintro ⟨hfield, hisName⟩
    exact hunique field hfield hisName
  · rintro rfl
    exact ⟨hmem, hname⟩

theorem HasField.compact (h : HasField name b fields) (json : RawJSON β) :
    HasField name (json.compact b) (fields.map (fun field => (field.1, json.compact field.2))) := by
  have hnames : (isName name ∘ fun field : String × β => (field.1, json.compact field.2)) =
      isName name := rfl
  rw [HasField, List.filter_map, hnames, h]
  rfl

section Maps

def mapFields (m : GoMap String β) : List (String × β) :=
  (m.entries.insertionSort (fun e e' => e.1 ≤ e'.1)).map (fun e => (e.1, e.2))

theorem mem_mapFields {k : String} : (k, b) ∈ mapFields m ↔ m.lookup k = some b := by
  rw [mapFields, List.mem_map, ← mem_def, mem_lookup_iff]
  constructor
  · rintro ⟨e, he, heq⟩
    cases heq
    exact (mem_insertionSort _).mp he
  · intro he
    exact ⟨⟨k, b⟩, (mem_insertionSort _).mpr he, rfl⟩

theorem nodup_mapFields : (mapFields m).Nodup := by
  have hnames : (mapFields m).map Prod.fst =
      (m.entries.insertionSort (fun e e' => e.1 ≤ e'.1)).map Sigma.fst := by
    rw [mapFields, List.map_map]
    rfl
  have hperm := (perm_insertionSort (fun e e' : (_ : String) × β => e.1 ≤ e'.1) m.entries)
  refine List.Nodup.of_map Prod.fst ?_
  rw [hnames]
  exact (hperm.map Sigma.fst).nodup_iff.mpr m.nodupKeys

theorem value_marshalMap (hvalid : ∀ k b, m.lookup k = some b → (json.value b).isSome = true) :
    json.value (json.marshalMap m) =
      some (.object ((mapFields m).map (fun field => (field.1, json.compact field.2)))) :=
  json.value_marshalObject (mapFields m) fun field hfield =>
    hvalid field.1 field.2 (mem_mapFields.mp hfield)

theorem decodeMap_eq {frame : β} (h : json.value frame = some (.object fields)) :
    ∃ m, json.decodeMap frame = some m ∧ (∀ k b, m.lookup k = some b → (k, b) ∈ fields) ∧
    ∀ field ∈ fields, field.1 ∈ m := by
  refine ⟨fields.foldl (fun m field => m.insert field.1 field.2) ∅, by rw [decodeMap, h],
    fun k b hk => ?_, fun field hfield => lookup_isSome.mp ?_⟩
  · rw [lookup_foldl] at hk
    obtain ⟨field, hlast, rfl⟩ := map_eq_some_iff.mp hk
    obtain ⟨hmem, hname⟩ := mem_filter.mp (mem_of_getLast? hlast)
    exact of_decide_eq_true hname ▸ hmem
  · simpa [lookup_foldl] using ⟨field.2, hfield⟩

theorem decodeMap_marshalMap (hvalid : ∀ k b, m.lookup k = some b → (json.value b).isSome = true) :
    ∃ m', json.decodeMap (json.marshalMap m) = some m' ∧
    ∀ k, m'.lookup k = (m.lookup k).map json.compact := by
  obtain ⟨m', hdecode, hsub, hmem⟩ := decodeMap_eq (value_marshalMap hvalid)
  refine ⟨m', hdecode, fun k => ?_⟩
  cases hk' : m'.lookup k with
  | some b =>
    obtain ⟨⟨k', b'⟩, hfield, heq⟩ := mem_map.mp (hsub k b hk')
    cases heq
    rw [mem_mapFields.mp hfield, map_some]
  | none =>
    refine (map_eq_none_iff.mpr (eq_none_iff_forall_ne_some.mpr fun b hk => ?_)).symm
    exact lookup_eq_none.mp hk'
      (hmem (k, json.compact b) (mem_map.mpr ⟨(k, b), mem_mapFields.mpr hk, rfl⟩))

theorem HasField.lookup_eq (h : HasField name b fields)
    (hsub : ∀ k b, m.lookup k = some b → (k, b) ∈ fields) (hmem : ∀ field ∈ fields, field.1 ∈ m) :
    m.lookup name = some b := by
  obtain ⟨b', hlookup⟩ := isSome_iff_exists.mp (lookup_isSome.mpr (hmem _ h.mem))
  cases h.eq_of_mem (hsub name b' hlookup) (h.isName_self b')
  exact hlookup

theorem hasField_mapFields (hlookup : m.lookup name = some b) (hname : isName name (name, b) = true)
    (hspelled : ∀ k b, m.lookup k = some b → isName name (k, b) = true → k = name) :
    HasField name b (mapFields m) := by
  refine hasField_of_unique nodup_mapFields (mem_mapFields.mpr hlookup) hname ?_
  rintro ⟨k, b'⟩ hfield hisName
  have hk := mem_mapFields.mp hfield
  cases hspelled k b' hk hisName
  cases hlookup.symm.trans hk
  rfl

end Maps

end RawJSON

namespace Websockets

open RawJSON

variable {β : Type} {json : RawJSON β} {frame : β} {x c : String}

def IsNotification (json : RawJSON β) (frame : β) (x : String) : Prop :=
  ∃ fields method params members subscription,
    json.value frame = some (.object fields) ∧
    HasField "method" method fields ∧ json.value method = some (.string methodNotification) ∧
    HasField "params" params fields ∧ json.value params = some (.object members) ∧
    HasField "subscription" subscription members ∧ json.value subscription = some (.string x)

def notificationID (json : RawJSON β) (frame : β) : Option String :=
  (decodeResponse json frame).bind (fun resp =>
    (decodeNotificationParams json resp.params).map (fun params => params.subscription))

variable {params subscription : β} {members : List (String × β)} {m : GoMap String β}

theorem decodeNotificationParams_of_hasField (hvalue : json.value params = some (.object members))
    (hfield : HasField "subscription" subscription members)
    (hid : json.value subscription = some (.string x)) :
    decodeNotificationParams json (some params) = some ⟨x, rawField "result" members⟩ := by
  rw [decodeNotificationParams, bind_some, hvalue]
  simp only [hfield.stringField_eq hid, map_some]

theorem IsNotification.decode (h : IsNotification json frame x) :
    isBatchOrEmpty json frame = false ∧ ∃ resp params, decodeResponse json frame = some resp ∧
    resp.method = methodNotification ∧ decodeNotificationParams json resp.params = some params ∧
    params.subscription = x := by
  obtain ⟨fields, method, params, members, subscription, hframe, hmethod, hmethodValue, hparams,
    hparamsValue, hsubscription, hid⟩ := h
  refine ⟨by rw [isBatchOrEmpty, json.text_object frame fields hframe]; rfl, ?_⟩
  refine ⟨⟨rawField "id" fields, rawField "result" fields, methodNotification,
    rawField "params" fields⟩, ⟨x, rawField "result" members⟩, ?_, rfl, ?_, rfl⟩
  · rw [decodeResponse, hframe]
    simp only [hmethod.stringField_eq hmethodValue, map_some]
  · rw [hparams.rawField_eq]
    exact decodeNotificationParams_of_hasField hparamsValue hsubscription hid

theorem IsNotification.notificationID_eq (h : IsNotification json frame x) :
    notificationID json frame = some x := by
  obtain ⟨-, resp, params, hresp, -, hparams, rfl⟩ := h.decode
  rw [notificationID, hresp, bind_some, hparams, map_some]

def paramsFields (json : RawJSON β) (c : String) (result : Option β) : List (String × β) :=
  ("subscription", json.marshalString c) :: (result.map (fun result => ("result", result))).toList

theorem value_marshalNotificationParams {result : Option β}
    (hresult : ∀ b, result = some b → (json.value b).isSome = true) :
    json.value (marshalNotificationParams json ⟨c, result⟩) = some (.object
      ((paramsFields json c result).map (fun field => (field.1, json.compact field.2)))) := by
  refine json.value_marshalObject _ fun field hfield => ?_
  rcases mem_cons.mp hfield with rfl | hfield
  · rw [json.value_marshalString]
    rfl
  · obtain ⟨b, hb, rfl⟩ := map_eq_some_iff.mp (mem_toList.mp hfield)
    exact hresult b hb

theorem hasField_paramsFields (json : RawJSON β) (c : String) (result : Option β) :
    HasField "subscription" (json.marshalString c) (paramsFields json c result) := by
  cases result with
  | none | some => simp [HasField, paramsFields, isName, Json.isField, Json.fold]

theorem isSome_rawField (name : String) (hvalue : json.value params = some (.object members)) :
    ∀ b, rawField name members = some b → (json.value b).isSome = true := by
  intro b hb
  obtain ⟨field, hlast, rfl⟩ := map_eq_some_iff.mp hb
  have hfield := (mem_filter.mp (mem_of_getLast? hlast)).1
  exact json.value_field params members hvalue field hfield

theorem rewrite_eq (hdecode : json.decodeMap frame = some m)
    (hlookup : m.lookup "params" = some params)
    (hvalue : json.value params = some (.object members))
    (hsubscription : HasField "subscription" subscription members)
    (hid : json.value subscription = some (.string x)) (c : String) :
    rewriteNotificationSubscription json frame c = some (json.marshalMap
      (m.insert "params" (marshalNotificationParams json ⟨c, rawField "result" members⟩))) := by
  have hparams := decodeNotificationParams_of_hasField hvalue hsubscription hid
  rw [rewriteNotificationSubscription, hdecode]
  simp only [bind_eq_bind, bind_some, hlookup, hparams]

theorem valid_insert {fields : List (String × β)}
    {new : β} (hframe : json.value frame = some (.object fields))
    (hfields : ∀ k b, m.lookup k = some b → (k, b) ∈ fields)
    (hnew : (json.value new).isSome = true) :
    ∀ k b, (m.insert "params" new).lookup k = some b → (json.value b).isSome = true := by
  intro k b hk
  rcases lookup_insert_eq_some.mp hk with ⟨-, rfl⟩ | ⟨-, hk⟩
  · exact hnew
  · exact json.value_field frame fields hframe (k, b) (hfields k b hk)

theorem IsNotification.rewrite (h : IsNotification json frame x) (c : String) :
    ∃ out, rewriteNotificationSubscription json frame c = some out ∧ IsNotification json out c := by
  obtain ⟨fields, method, params, members, subscription, hframe, hmethod, hmethodValue, hparams,
    hparamsValue, hsubscription, hid⟩ := h
  obtain ⟨m, hdecode, hfields, hnames⟩ := decodeMap_eq hframe
  have hlookup := hparams.lookup_eq hfields hnames
  have hnewValue := value_marshalNotificationParams (c := c)
    (isSome_rawField "result" hparamsValue)
  refine ⟨_, rewrite_eq hdecode hlookup hparamsValue hsubscription hid c, ?_⟩
  generalize marshalNotificationParams json ⟨c, rawField "result" members⟩ = new at hnewValue ⊢
  -- every entry but the parameters is a field of the frame
  have hentry : ∀ k b, (m.insert "params" new).lookup k = some b →
      k = "params" ∧ b = new ∨ k ≠ "params" ∧ (k, b) ∈ fields := by
    intro k b hk
    exact (lookup_insert_eq_some.mp hk).imp (.imp_right Eq.symm) (.imp_right (hfields k b))
  have hvalid := valid_insert hframe hfields (isSome_of_eq_some hnewValue)
  have hmethodOut : HasField "method" method (mapFields (m.insert "params" new)) := by
    refine hasField_mapFields ?_ (hmethod.isName_self method) fun k b hk hname => ?_
    · rw [lookup_insert_ne (by decide)]
      exact hmethod.lookup_eq hfields hnames
    · rcases hentry k b hk with ⟨rfl, -⟩ | ⟨-, hfield⟩
      · have hother : isName "method" ("params", b) = false := by
          simp [isName, Json.isField, Json.fold]
        rw [hother] at hname
        cases hname
      · cases hmethod.eq_of_mem hfield hname
        rfl
  have hparamsOut : HasField "params" new (mapFields (m.insert "params" new)) := by
    refine hasField_mapFields (lookup_insert m) (hparams.isName_self new)
      fun k b hk hname => ?_
    rcases hentry k b hk with ⟨rfl, -⟩ | ⟨-, hfield⟩
    · rfl
    · cases hparams.eq_of_mem hfield hname
      rfl
  refine ⟨_, _, _, _, _, value_marshalMap hvalid, hmethodOut.compact json, ?_,
    hparamsOut.compact json, ?_,
    ((hasField_paramsFields json c (rawField "result" members)).compact json).compact json, ?_⟩
  · rw [json.value_compact, hmethodValue]
    rfl
  · rw [json.value_compact, hnewValue]
    rfl
  · rw [json.value_compact, json.value_compact, json.value_marshalString]
    rfl

theorem isNotification_sample (x : String) : IsNotification .tree (sampleNotification x) x := by
  refine ⟨_, .string methodNotification, .object [("subscription", .string x)], _, .string x,
    rfl, ?_, rfl, ?_, rfl, ?_, rfl⟩
  · simp [HasField, isName, Json.isField, Json.fold]
  · simp [HasField, isName, Json.isField, Json.fold]
  · simp [HasField, isName, Json.isField, Json.fold]

namespace SubscriptionRegistry

variable {r : SubscriptionRegistry β} {p : ℕ} {sub : Subscription β}

theorem translate_of_notification (h : IsNotification json frame x) :
    ∃ resp params, decodeNotificationParams json resp = some params ∧ params.subscription = x ∧
    r.translateEndpointMessage json frame = (r.translateNotification json frame resp, r) := by
  obtain ⟨hsingle, resp, params, hresp, hmethod, hparams, hid⟩ := h.decode
  refine ⟨resp.params, params, hparams, hid, ?_⟩
  rw [translateEndpointMessage, if_neg (Bool.eq_false_iff.mp hsingle), hresp]
  simp only [if_pos hmethod]

theorem translate_of_find (h : IsNotification json frame x) (hx : x ≠ "")
    (hfind : r.find r.byCurrentSubID x = some (p, sub)) (hclient : sub.clientSubID ≠ "") :
    (r.translateEndpointMessage json frame).1 = (if sub.clientSubID = x then frame
      else (rewriteNotificationSubscription json frame sub.clientSubID).getD frame, true) := by
  obtain ⟨rawParams, params, hparams, rfl, heq⟩ := translate_of_notification (r := r) h
  rw [heq, translateNotification, hparams]
  dsimp only
  rw [if_neg hx, hfind]
  dsimp only
  split_ifs <;> tauto

theorem notification_of_find (h : IsNotification json frame x) (hx : x ≠ "")
    (hfind : r.find r.byCurrentSubID x = some (p, sub)) (hclient : sub.clientSubID ≠ "") :
    ∃ out, (r.translateEndpointMessage json frame).1 = (out, true) ∧
    IsNotification json out sub.clientSubID := by
  refine ⟨_, translate_of_find h hx hfind hclient, ?_⟩
  split_ifs with hsame
  · exact hsame ▸ h
  · obtain ⟨out, hout, hnotification⟩ := h.rewrite sub.clientSubID
    rwa [hout, getD_some]

section Minimal

/-- The same value, written without white space once or more often. -/
inductive SameValue (json : RawJSON β) (b : β) : β → Prop
  | refl : SameValue json b b
  | compact {b' : β} (h : SameValue json b b') : SameValue json b (json.compact b')

def paramsMap (json : RawJSON β) (frame : β) : Option (GoMap String β) :=
  ((json.decodeMap frame).bind (fun m => m.lookup "params")).bind json.decodeMap

/-- The second frame has the same value as the first, but for the id of the subscription. -/
def Rewritten (json : RawJSON β) (frame out : β) (id : String) : Prop :=
  (∃ m m', json.decodeMap frame = some m ∧ json.decodeMap out = some m' ∧
    ∀ k ≠ "params", Option.Rel (SameValue json) (m.lookup k) (m'.lookup k)) ∧
  ∃ q q', paramsMap json frame = some q ∧ paramsMap json out = some q' ∧
    (∀ k ≠ "subscription", Option.Rel (SameValue json) (q.lookup k) (q'.lookup k)) ∧
    ∃ s, q'.lookup "subscription" = some s ∧ json.value s = some (.string id)

theorem rel_compact (b : Option β) : Option.Rel (SameValue json) b (b.map json.compact) := by
  cases b with
  | none => exact .none
  | some => exact .some (.compact .refl)

theorem decodeMap_newParams {result : Option β}
    (hresult : ∀ b, result = some b → (json.value b).isSome = true) : ∃ q,
    json.decodeMap (json.compact (marshalNotificationParams json ⟨c, result⟩)) = some q ∧
      q.lookup "subscription" = some (json.compact (json.compact (json.marshalString c))) ∧
      q.lookup "result" = (result.map json.compact).map json.compact ∧
      ∀ k, k ≠ "subscription" → k ≠ "result" → q.lookup k = none := by
  rw [decodeMap, json.value_compact, value_marshalNotificationParams hresult]
  refine ⟨_, rfl, ?_, ?_, fun k hk hk' => ?_⟩
  all_goals
    rw [lookup_foldl]
    cases result <;> simp [paramsFields, Ne.symm, *]

theorem lookup_result_of_plain {params : β} {members : List (String × β)} {q : GoMap String β}
    (hvalue : json.value params = some (.object members)) (hq : json.decodeMap params = some q)
    (hplain : ∀ k ∈ q, k = "subscription" ∨ k = "result") :
    q.lookup "result" = rawField "result" members := by
  obtain ⟨_, hq', -, hmem⟩ := decodeMap_eq hvalue
  cases hq'.symm.trans hq
  rw [decodeMap, hvalue] at hq
  cases hq
  rw [lookup_foldl, rawField]
  congr 2
  refine filter_congr fun field hfield => ?_
  have hname := hplain _ (hmem field hfield)
  obtain ⟨name, b⟩ := field
  rcases hname with rfl | rfl <;> simp [isName, Json.isField, Json.fold]

/-- A notification keeps its value up to the id exactly if its parameters are the subscription and
the result alone. -/
theorem rewritten_iff (json : RawJSON β) (r : SubscriptionRegistry β) (frame : β) (x : String)
    (p : ℕ) (sub : Subscription β) (h : IsNotification json frame x) (hx : x ≠ "")
    (hfind : r.find r.byCurrentSubID x = some (p, sub)) (hclient : sub.clientSubID ≠ "")
    (hother : sub.clientSubID ≠ x) :
    Rewritten json frame (r.translateEndpointMessage json frame).1.1 sub.clientSubID ↔
      ∀ q, paramsMap json frame = some q → ∀ k ∈ q, k = "subscription" ∨ k = "result" := by
  obtain ⟨fields, method, params, members, subscription, hframe, -, -, hparams, hvalue,
    hsubscription, hid⟩ := id h
  obtain ⟨m, hdecode, hfields, hnames⟩ := decodeMap_eq hframe
  have hlookup := hparams.lookup_eq hfields hnames
  have hresult := isSome_rawField "result" hvalue
  have hnew := value_marshalNotificationParams (c := sub.clientSubID) hresult
  obtain ⟨q', hq', hsub', hresult', hnone'⟩ := decodeMap_newParams (c := sub.clientSubID) hresult
  obtain ⟨q, hqparams, -⟩ := decodeMap_eq hvalue
  have hq : paramsMap json frame = some q := by
    rw [paramsMap, hdecode, bind_some, hlookup, bind_some, hqparams]
  rw [translate_of_find h hx hfind hclient, if_neg hother,
    rewrite_eq hdecode hlookup hvalue hsubscription hid, getD_some]
  generalize marshalNotificationParams json ⟨sub.clientSubID, rawField "result" members⟩ = new
    at hnew hq' ⊢
  obtain ⟨m', hdecode', hlookup'⟩ := decodeMap_marshalMap (valid_insert hframe hfields
    (isSome_of_eq_some hnew))
  have hparams' : paramsMap json (json.marshalMap (m.insert "params" new)) = some q' := by
    rw [paramsMap, hdecode', bind_some, hlookup', lookup_insert, map_some,
      bind_some, hq']
  constructor
  · rintro ⟨-, _, _, hq₁, hq₂, hrel, -⟩ _ hq₃ k hk
    cases hq₃.symm.trans hq₁
    cases hq₂.symm.trans hparams'
    by_contra hk'
    obtain ⟨hs, hr⟩ := not_or.mp hk'
    obtain ⟨b, hb⟩ := isSome_iff_exists.mp (lookup_isSome.mpr hk)
    have hrel := hrel k hs
    rw [hb, hnone' k hs hr] at hrel
    cases hrel
  · intro hplain
    have hplain := hplain _ hq
    refine ⟨⟨m, m', hdecode, hdecode', fun k hk => ?_⟩, q, q', hq, hparams', fun k hk => ?_, _,
      hsub', ?_⟩
    · rw [hlookup', lookup_insert_ne hk]
      exact rel_compact _
    · by_cases hr : k = "result"
      · subst hr
        rw [hresult', lookup_result_of_plain hvalue hqparams hplain]
        cases rawField "result" members with
        | none => exact .none
        | some => exact .some (.compact (.compact .refl))
      · rw [hnone' k hk hr, lookup_eq_none.mpr fun hmem => (hplain k hmem).elim hk hr]
        exact .none
    · rw [json.value_compact, json.value_compact, json.value_marshalString]
      rfl

/-- The client holds the id of the first connection, and the endpoint gives another one now. -/
def replayedRegistry : SubscriptionRegistry RawTree :=
  ⟨[⟨"1", .null, "0xa", "0xb"⟩], ∅, ∅, (∅ : GoMap String ℕ).insert "0xb" 0, [0]⟩

theorem sample_rewritten : Rewritten .tree (sampleNotification "0xb")
    (replayedRegistry.translateEndpointMessage .tree (sampleNotification "0xb")).1.1 "0xa" := by
  refine (rewritten_iff .tree replayedRegistry _ "0xb" 0 ⟨"1", .null, "0xa", "0xb"⟩
    (isNotification_sample "0xb") (by decide) rfl (by decide) (by decide)).mpr fun q hq k hk => ?_
  cases hq
  exact .inl (mem_singleton.mp hk)

def removedNotification : RawTree :=
  .object [("method", .string methodNotification),
    ("params", .object [("subscription", .string "0xb"), ("removed", .atom "true")])]

/-- A third parameter is lost. -/
theorem third_parameter_lost :
    (replayedRegistry.translateEndpointMessage .tree removedNotification).1.1 =
      sampleNotification "0xa" ∧
    ¬Rewritten .tree removedNotification (sampleNotification "0xa") "0xa" := by
  refine ⟨rfl, fun ⟨_, q, q', hq, hq', hsame, _⟩ => ?_⟩
  cases hq
  cases hq'
  have hremoved := hsame "removed" (by decide)
  cases hremoved

end Minimal

end SubscriptionRegistry

end Websockets

end PathGateway
