import PathGateway.RawJson

/-! The registry of the subscriptions on one websocket bridge. It remembers each `eth_subscribe`
frame for a replay onto a new endpoint connection. The first id of a subscription is kept for the
client, while the endpoint's ids change with the connection, so that notifications and
unsubscribes are rewritten between the two. -/

namespace PathGateway.Websockets

open List Option GoMap

structure Subscription (β : Type) where
  reqID : String
  subscribeFrame : β
  clientSubID : String := ""
  currentSubID : String := ""
  deriving DecidableEq

/-- Subscriptions are shared between the indexes, which hold their positions in `subs`. Nothing
is ever removed there; `order` has the tracked ones. -/
structure SubscriptionRegistry (β : Type) where
  subs : List (Subscription β)
  byReqID : GoMap String ℕ
  byClientSubID : GoMap String ℕ
  byCurrentSubID : GoMap String ℕ
  order : List ℕ

def newSubscriptionRegistry {β : Type} : SubscriptionRegistry β := ⟨[], ∅, ∅, ∅, []⟩

structure WsRPCRequest (β : Type) where
  id : Option β := none
  method : String := ""
  params : Option β := none

structure WsRPCResponse (β : Type) where
  id : Option β := none
  result : Option β := none
  method : String := ""
  params : Option β := none

structure SubscriptionNotificationParams (β : Type) where
  subscription : String := ""
  result : Option β := none

def methodSubscribe : String := "eth_subscribe"

def methodUnsubscribe : String := "eth_unsubscribe"

def methodNotification : String := "eth_subscription"

variable {β : Type} (json : RawJSON β)

section Frames

open RawJSON

variable (frame : β) (raw : Option β)

def isBatchOrEmpty : Bool :=
  match (json.text frame).toList.head? with
  | none => true
  | some c => c = '['

def decodeRequest : Option (WsRPCRequest β) :=
  match json.value frame with
  | some .null => some {}
  | some (.object fields) =>
    (json.stringField "method" fields).map (fun method =>
      ⟨rawField "id" fields, method, rawField "params" fields⟩)
  | _ => none

def decodeResponse : Option (WsRPCResponse β) :=
  match json.value frame with
  | some .null => some {}
  | some (.object fields) =>
    (json.stringField "method" fields).map (fun method =>
      ⟨rawField "id" fields, rawField "result" fields, method, rawField "params" fields⟩)
  | _ => none

def decodeNotificationParams : Option (SubscriptionNotificationParams β) :=
  raw.bind (fun b =>
    match json.value b with
    | some .null => some {}
    | some (.object fields) =>
      (json.stringField "subscription" fields).map (fun subscription =>
        ⟨subscription, rawField "result" fields⟩)
    | _ => none)

def rawKey : String := raw.elim "" (fun b => if json.text b = "null" then "" else json.text b)

def firstStringParam : Option String :=
  match json.decodeArray raw with
  | some (b :: _) => json.rawString (some b)
  | _ => none

def rewriteUnsubscribeParam (newID : String) : Option β := do
  let m ← json.decodeMap frame
  match json.decodeArray (m.lookup "params") with
  | some (_ :: rest) =>
    some (json.marshalMap (m.insert "params"
      (json.marshalArray (json.marshalString newID :: rest))))
  | _ => none

def marshalNotificationParams (params : SubscriptionNotificationParams β) : β :=
  json.marshalObject (("subscription", json.marshalString params.subscription) ::
    (params.result.map (fun result => ("result", result))).toList)

def rewriteNotificationSubscription (clientSubID : String) : Option β := do
  let m ← json.decodeMap frame
  let params ← decodeNotificationParams json (m.lookup "params")
  some (json.marshalMap (m.insert "params"
    (marshalNotificationParams json { params with subscription := clientSubID })))

end Frames

def readRequest (frame : β) : Option (WsRPCRequest β) :=
  if isBatchOrEmpty json frame then none else decodeRequest json frame

def readResponse (frame : β) : Option (String × Option β) :=
  if isBatchOrEmpty json frame then none
  else (decodeResponse json frame).bind (fun resp =>
    if resp.method = methodNotification ∨ rawKey json resp.id = "" then none
    else some (rawKey json resp.id, resp.result))

namespace SubscriptionRegistry

variable (r : SubscriptionRegistry β)

variable (frame : β) (p : ℕ) (sub : Subscription β)

def removeLocked : SubscriptionRegistry β :=
  { r with
    byReqID := r.byReqID.erase sub.reqID
    byClientSubID :=
      if sub.clientSubID = "" then r.byClientSubID else r.byClientSubID.erase sub.clientSubID
    byCurrentSubID :=
      if sub.currentSubID = "" then r.byCurrentSubID else r.byCurrentSubID.erase sub.currentSubID
    order := r.order.erase p }

def find (index : GoMap String ℕ) (key : String) : Option (ℕ × Subscription β) :=
  (index.lookup key).bind (fun p => (r.subs[p]?).map (p, ·))

def target : Option (ℕ × Subscription β × Option β) :=
  (readResponse json frame).bind (fun resp =>
    (r.find r.byReqID resp.1).map (fun e => (e.1, e.2, resp.2)))

def clear (reqID : String) : SubscriptionRegistry β :=
  (r.find r.byReqID reqID).elim r (fun e => r.removeLocked e.1 e.2)

def subscribe (reqID : String) (frame : β) : SubscriptionRegistry β :=
  let cleared := r.clear reqID
  { cleared with
    subs := cleared.subs ++ [{ reqID := reqID, subscribeFrame := frame }]
    byReqID := cleared.byReqID.insert reqID cleared.subs.length
    order := cleared.order ++ [cleared.subs.length] }

def trackClientMessage : β × SubscriptionRegistry β :=
  if isBatchOrEmpty json frame then (frame, r)
  else
    match decodeRequest json frame with
    | none => (frame, r)
    | some req =>
      if req.method = methodSubscribe then
        let reqID := rawKey json req.id
        if reqID = "" then (frame, r) else (frame, r.subscribe reqID frame)
      else if req.method = methodUnsubscribe then
        match firstStringParam json req.params with
        | none => (frame, r)
        | some clientSubID =>
          match r.find r.byClientSubID clientSubID with
          | none => (frame, r)
          | some (p, sub) =>
            let rewritten :=
              if sub.currentSubID ≠ "" ∧ sub.currentSubID ≠ clientSubID then
                (rewriteUnsubscribeParam json frame sub.currentSubID).getD frame
              else frame
            (rewritten, r.removeLocked p sub)
      else (frame, r)

def translateNotification (rawParams : Option β) : β × Bool :=
  match decodeNotificationParams json rawParams with
  | none => (frame, true)
  | some params =>
    if params.subscription = "" then (frame, true)
    else
      match r.find r.byCurrentSubID params.subscription with
      | none => (frame, true)
      | some (_, sub) =>
        if sub.clientSubID = "" ∨ sub.clientSubID = params.subscription then (frame, true)
        else ((rewriteNotificationSubscription json frame sub.clientSubID).getD frame, true)

def freeze (subID : String) : SubscriptionRegistry β :=
  { r with
    subs := r.subs.set p { sub with clientSubID := subID, currentSubID := subID }
    byClientSubID := r.byClientSubID.insert subID p
    byCurrentSubID := r.byCurrentSubID.insert subID p }

/-- A later response is that to a replay: the endpoint has a new id. -/
def rebind (subID : String) : SubscriptionRegistry β :=
  let cleared :=
    if sub.currentSubID = "" then r.byCurrentSubID else r.byCurrentSubID.erase sub.currentSubID
  { r with
    subs := r.subs.set p { sub with currentSubID := subID }
    byCurrentSubID := cleared.insert subID p }

def translateResponse (result : Option β) : (β × Bool) × SubscriptionRegistry β :=
  match json.rawString result with
  | none => ((frame, true), r.removeLocked p sub)
  | some subID =>
    if sub.clientSubID = "" then ((frame, true), r.freeze p sub subID)
    else ((frame, false), r.rebind p sub subID)

def translateEndpointMessage : (β × Bool) × SubscriptionRegistry β :=
  if isBatchOrEmpty json frame then ((frame, true), r)
  else
    match decodeResponse json frame with
    | none => ((frame, true), r)
    | some resp =>
      if resp.method = methodNotification then (r.translateNotification json frame resp.params, r)
      else
        let reqID := rawKey json resp.id
        if reqID = "" then ((frame, true), r)
        else
          match r.find r.byReqID reqID with
          | none => ((frame, true), r)
          | some (p, sub) => r.translateResponse json frame p sub resp.result

def established : List (ℕ × Subscription β) :=
  r.order.filterMap (fun p =>
    (r.subs[p]?).bind (fun sub => if sub.clientSubID = "" then none else some (p, sub)))

def activeSubscribeFrames : List β :=
  r.established.map (fun e => e.2.subscribeFrame)

/-- The tracked subscriptions with their request ids and their two ids. -/
def tracked : List (ℕ × String × String × String) :=
  r.order.filterMap (fun p =>
    (r.subs[p]?).map (fun sub => (p, sub.reqID, sub.clientSubID, sub.currentSubID)))

def Tracks : Prop := p ∈ r.order ∧ r.subs[p]? = some sub

structure Indexed : Prop where
  order_nodup : r.order.Nodup
  order_lt : ∀ p ∈ r.order, p < r.subs.length
  byReqID : ∀ k p, r.byReqID.lookup k = some p → ∃ sub, r.Tracks p sub ∧ sub.reqID = k
  byClientSubID : ∀ c p, c ≠ "" → r.byClientSubID.lookup c = some p →
    ∃ sub, r.Tracks p sub ∧ sub.clientSubID = c
  pending : ∀ (p : ℕ) (sub : Subscription β), r.subs[p]? = some sub →
    sub.clientSubID = "" → sub.currentSubID = ""

variable {r} {p q : ℕ} {sub sub' : Subscription β} {key id reqID : String} {frame : β}

theorem Tracks.unique (h : r.Tracks p sub) (h' : r.Tracks p sub') : sub = sub' :=
  some.inj (h.2.symm.trans h'.2)

theorem find_eq_some {index : GoMap String ℕ} : r.find index key = some (p, sub) ↔
    index.lookup key = some p ∧ r.subs[p]? = some sub := by
  rw [find, bind_eq_some_iff]
  constructor
  · rintro ⟨p', hp', hsub⟩
    obtain ⟨sub', hsub', heq⟩ := map_eq_some_iff.mp hsub
    cases heq
    exact ⟨hp', hsub'⟩
  · rintro ⟨hp, hsub⟩
    exact ⟨p, hp, map_eq_some_iff.mpr ⟨sub, hsub, rfl⟩⟩

theorem Indexed.tracks_of_find (h : r.Indexed) (hfind : r.find r.byReqID key = some (p, sub)) :
    r.Tracks p sub ∧ sub.reqID = key := by
  obtain ⟨hp, hsub⟩ := find_eq_some.mp hfind
  obtain ⟨sub', htracks, hkey⟩ := h.byReqID key p hp
  cases hsub.symm.trans htracks.2
  exact ⟨htracks, hkey⟩

theorem mem_established : (p, sub) ∈ r.established ↔ r.Tracks p sub ∧ sub.clientSubID ≠ "" := by
  rw [established, mem_filterMap]
  constructor
  · rintro ⟨q, hq, hsome⟩
    obtain ⟨sub', hsub', hsome⟩ := bind_eq_some_iff.mp hsome
    obtain ⟨hne, heq⟩ := ite_none_left_eq_some.mp hsome
    cases heq
    exact ⟨⟨hq, hsub'⟩, hne⟩
  · rintro ⟨⟨hq, hsub⟩, hne⟩
    refine ⟨p, hq, bind_eq_some_iff.mpr ⟨sub, hsub, ?_⟩⟩
    exact ite_none_left_eq_some.mpr ⟨hne, rfl⟩

theorem mem_tracked_of_tracks (h : r.Tracks p sub) :
    (p, sub.reqID, sub.clientSubID, sub.currentSubID) ∈ r.tracked :=
  mem_filterMap.mpr ⟨p, h.1, map_eq_some_iff.mpr ⟨sub, h.2, rfl⟩⟩

theorem tracks_of_mem_tracked {a c x : String} (h : (p, a, c, x) ∈ r.tracked) :
    ∃ sub, r.Tracks p sub ∧ sub.clientSubID = c := by
  obtain ⟨p', hp', hsub⟩ := mem_filterMap.mp h
  obtain ⟨sub, hsubs, heq⟩ := map_eq_some_iff.mp hsub
  cases heq
  exact ⟨sub, ⟨hp', hsubs⟩, rfl⟩

section Removal

theorem tracks_removeLocked (hnodup : r.order.Nodup) :
    (r.removeLocked p sub).Tracks q sub' ↔ q ≠ p ∧ r.Tracks q sub' := by
  rw [Tracks, removeLocked, hnodup.mem_erase_iff, and_assoc]
  rfl

theorem lookup_eraseIf {index : GoMap String ℕ} {k k' : String} :
    (if k = "" then index else index.erase k).lookup k' = some p ↔
      index.lookup k' = some p ∧ (k ≠ "" → k' ≠ k) := by
  split_ifs with hk
  · simp [hk]
  · simp [lookup_erase_eq_some, hk, and_comm]

theorem indexed_removeLocked (h : r.Indexed) (hsub : r.subs[p]? = some sub) :
    (r.removeLocked p sub).Indexed := by
  refine ⟨h.order_nodup.erase p, fun q hq => h.order_lt q (mem_of_mem_erase hq), ?_, ?_,
    h.pending⟩
  · intro k q hlookup
    obtain ⟨hne, hlookup⟩ := lookup_erase_eq_some.mp hlookup
    obtain ⟨sub', htracks, hkey⟩ := h.byReqID k q hlookup
    refine ⟨sub', (tracks_removeLocked h.order_nodup).mpr ⟨?_, htracks⟩, hkey⟩
    rintro rfl
    cases hsub.symm.trans htracks.2
    exact hne hkey.symm
  · intro c q hc hlookup
    obtain ⟨hlookup, hne⟩ := lookup_eraseIf.mp hlookup
    obtain ⟨sub', htracks, hclient⟩ := h.byClientSubID c q hc hlookup
    refine ⟨sub', (tracks_removeLocked h.order_nodup).mpr ⟨?_, htracks⟩, hclient⟩
    rintro rfl
    cases hsub.symm.trans htracks.2
    rw [hclient] at hne
    exact hne hc rfl

end Removal

section Subscribing

theorem subs_clear (r : SubscriptionRegistry β) (reqID : String) :
    (r.clear reqID).subs = r.subs := by
  rw [clear]
  cases r.find r.byReqID reqID <;> rfl

theorem indexed_clear (h : r.Indexed) (reqID : String) : (r.clear reqID).Indexed := by
  rw [clear]
  cases hfind : r.find r.byReqID reqID with
  | none => exact h
  | some => exact indexed_removeLocked h (find_eq_some.mp hfind).2

theorem lookup_append_new {subs : List (Subscription β)} {new : Subscription β}
    (h : (subs ++ [new])[p]? = some sub) :
    p < subs.length ∧ subs[p]? = some sub ∨ p = subs.length ∧ sub = new := by
  by_cases hp : p < subs.length
  · rw [getElem?_append_left hp] at h
    exact .inl ⟨hp, h⟩
  · rw [getElem?_append_right (Nat.not_lt.mp hp), getElem?_singleton] at h
    split at h
    · rename_i hzero
      exact .inr ⟨by omega, (some.inj h).symm⟩
    · cases h

theorem tracks_subscribe (h : r.Indexed) :
    (r.subscribe reqID frame).Tracks q sub' ↔ (r.clear reqID).Tracks q sub' ∨
      q = r.subs.length ∧ sub' = { reqID := reqID, subscribeFrame := frame } :=
    by
  have hclear := indexed_clear h reqID
  rw [← subs_clear r reqID]
  change q ∈ (r.clear reqID).order ++ [(r.clear reqID).subs.length] ∧
    ((r.clear reqID).subs ++ [_])[q]? = some sub' ↔ _
  rw [mem_append, mem_singleton]
  constructor
  · rintro ⟨hq | hq, hsub⟩
    · rw [getElem?_append_left (hclear.order_lt q hq)] at hsub
      exact .inl ⟨hq, hsub⟩
    · rw [hq, getElem?_concat_length] at hsub
      exact .inr ⟨hq, (some.inj hsub).symm⟩
  · rintro (⟨hq, hsub⟩ | ⟨hq, rfl⟩)
    · exact ⟨.inl hq, by rw [getElem?_append_left (hclear.order_lt q hq), hsub]⟩
    · exact ⟨.inr hq, by rw [hq, getElem?_concat_length]⟩

theorem indexed_subscribe (h : r.Indexed) : (r.subscribe reqID frame).Indexed := by
  have hclear := indexed_clear h reqID
  have hnew : (r.clear reqID).subs.length ∉ (r.clear reqID).order := fun hmem =>
    absurd (hclear.order_lt _ hmem) (lt_irrefl _)
  refine ⟨?_, ?_, ?_, ?_, ?_⟩
  · exact nodup_append.mpr ⟨hclear.order_nodup, nodup_singleton _, fun a ha b hb => by
      rintro rfl
      exact hnew (mem_singleton.mp hb ▸ ha)⟩
  · intro p hp
    change p < ((r.clear reqID).subs ++ [_]).length
    rw [length_append, length_singleton]
    rcases mem_append.mp hp with hp | hp
    · exact Nat.lt_succ_of_lt (hclear.order_lt p hp)
    · rw [mem_singleton.mp hp]
      exact Nat.lt_succ_self _
  · intro k p hlookup
    rcases lookup_insert_eq_some.mp hlookup with ⟨hk, hlookup⟩ | ⟨-, hlookup⟩
    · rw [subs_clear] at hlookup
      exact ⟨_, (tracks_subscribe h).mpr (.inr ⟨hlookup.symm, rfl⟩), hk.symm⟩
    · obtain ⟨sub, htracks, hkey⟩ := hclear.byReqID k p hlookup
      exact ⟨sub, (tracks_subscribe h).mpr (.inl htracks), hkey⟩
  · intro c p hc hlookup
    obtain ⟨sub, htracks, hclient⟩ := hclear.byClientSubID c p hc hlookup
    exact ⟨sub, (tracks_subscribe h).mpr (.inl htracks), hclient⟩
  · intro p sub hsub hpending
    rcases lookup_append_new hsub with ⟨-, hold⟩ | ⟨-, rfl⟩
    · exact hclear.pending p sub hold hpending
    · rfl

end Subscribing

section Responses

variable {r' : SubscriptionRegistry β} {new : Subscription β}

theorem lookup_set (hp : r.subs[p]? = some sub) (hq : (r.subs.set p new)[q]? = some sub') :
    q = p ∧ sub' = new ∨ q ≠ p ∧ r.subs[q]? = some sub' := by
  by_cases hqp : q = p
  · subst hqp
    obtain ⟨hlt, -⟩ := List.getElem?_eq_some_iff.mp hp
    rw [getElem?_set_self hlt] at hq
    exact .inl ⟨rfl, (some.inj hq).symm⟩
  · rw [getElem?_set_ne (Ne.symm hqp)] at hq
    exact .inr ⟨hqp, hq⟩

theorem lookup_set_self (hp : r.subs[p]? = some sub) : (r.subs.set p new)[p]? = some new := by
  obtain ⟨hlt, -⟩ := List.getElem?_eq_some_iff.mp hp
  exact getElem?_set_self hlt

/-- The subscription at `p` is replaced by one with the same request id. -/
structure Replaces (r : SubscriptionRegistry β) (p : ℕ) (sub new : Subscription β)
    (r' : SubscriptionRegistry β) : Prop where
  tracked : r.Tracks p sub
  reqID : new.reqID = sub.reqID
  subs : r'.subs = r.subs.set p new
  order : r'.order = r.order
  byReqID : r'.byReqID = r.byReqID
  byCurrentSubID : r'.byCurrentSubID = AList.insert new.currentSubID p
    (if sub.currentSubID = "" then r.byCurrentSubID else r.byCurrentSubID.erase sub.currentSubID)

theorem replaces_freeze (h : r.Indexed)
    (htracks : r.Tracks p sub) (hfirst : sub.clientSubID = "") (id : String) :
    r.Replaces p sub { sub with clientSubID := id, currentSubID := id } (r.freeze p sub id) := by
  refine ⟨htracks, rfl, rfl, rfl, rfl, ?_⟩
  rw [if_pos (h.pending p sub htracks.2 hfirst)]
  rfl

theorem replaces_rebind (htracks : r.Tracks p sub) (id : String) :
    r.Replaces p sub { sub with currentSubID := id } (r.rebind p sub id) :=
  ⟨htracks, rfl, rfl, rfl, rfl, rfl⟩

theorem Replaces.tracks (h : r.Replaces p sub new r') :
    r'.Tracks q sub' ↔ q = p ∧ sub' = new ∨ q ≠ p ∧ r.Tracks q sub' := by
  rw [Tracks, Tracks, h.subs, h.order]
  constructor
  · rintro ⟨hq, hlookup⟩
    exact (lookup_set h.tracked.2 hlookup).imp_right fun hold => ⟨hold.1, hq, hold.2⟩
  · rintro (⟨rfl, rfl⟩ | ⟨hqp, hq, hold⟩)
    · exact ⟨h.tracked.1, lookup_set_self h.tracked.2⟩
    · exact ⟨hq, (getElem?_set_ne (Ne.symm hqp)).trans hold⟩

theorem Replaces.tracks_new (h : r.Replaces p sub new r') : r'.Tracks p new :=
  h.tracks.mpr (.inl ⟨rfl, rfl⟩)

theorem Indexed.replaces (h : r.Indexed) (hset : r.Replaces p sub new r')
    (hpending : new.clientSubID = "" → new.currentSubID = "")
    (hclient : ∀ c q, c ≠ "" → r'.byClientSubID.lookup c = some q → q = p ∧ new.clientSubID = c ∨
      q ≠ p ∧ r.byClientSubID.lookup c = some q) : r'.Indexed := by
  refine ⟨hset.order ▸ h.order_nodup, ?_, ?_, ?_, ?_⟩
  · intro q hq
    rw [hset.subs, length_set]
    exact h.order_lt q (hset.order ▸ hq)
  · intro k q hlookup
    obtain ⟨sub', hq, hkey⟩ := h.byReqID k q (hset.byReqID ▸ hlookup)
    by_cases hqp : q = p
    · subst hqp
      cases hq.unique hset.tracked
      exact ⟨new, hset.tracks_new, hset.reqID.trans hkey⟩
    · exact ⟨sub', hset.tracks.mpr (.inr ⟨hqp, hq⟩), hkey⟩
  · intro c q hc hlookup
    rcases hclient c q hc hlookup with ⟨rfl, hnew⟩ | ⟨hqp, hold⟩
    · exact ⟨new, hset.tracks_new, hnew⟩
    · obtain ⟨sub', hq, hsub'⟩ := h.byClientSubID c q hc hold
      exact ⟨sub', hset.tracks.mpr (.inr ⟨hqp, hq⟩), hsub'⟩
  · intro q sub' hq
    rw [hset.subs] at hq
    rcases lookup_set hset.tracked.2 hq with ⟨-, rfl⟩ | ⟨-, hold⟩
    · exact hpending
    · exact h.pending q sub' hold

theorem indexed_freeze (h : r.Indexed) (htracks : r.Tracks p sub) (hfirst : sub.clientSubID = "")
    (id : String) : (r.freeze p sub id).Indexed := by
  refine h.replaces (replaces_freeze h htracks hfirst id) (fun h => h) fun c q hc hlookup => ?_
  rcases lookup_insert_eq_some.mp hlookup with ⟨hcid, hpq⟩ | ⟨-, hold⟩
  · exact .inl ⟨hpq.symm, hcid.symm⟩
  · refine .inr ⟨?_, hold⟩
    rintro rfl
    obtain ⟨sub', hq, hclient⟩ := h.byClientSubID c q hc hold
    cases hq.unique htracks
    exact hc (hclient.symm.trans hfirst)

theorem indexed_rebind (h : r.Indexed) (htracks : r.Tracks p sub) (hlater : sub.clientSubID ≠ "")
    (id : String) : (r.rebind p sub id).Indexed := by
  refine h.replaces (replaces_rebind htracks id) (fun h => absurd h hlater) fun c q hc hlookup => ?_
  by_cases hqp : q = p
  · obtain ⟨sub', hq, hclient⟩ := h.byClientSubID c q hc hlookup
    subst hqp
    cases hq.unique htracks
    exact .inl ⟨rfl, hclient⟩
  · exact .inr ⟨hqp, hlookup⟩

end Responses

section Messages

variable {json}

theorem indexed_new : Indexed (newSubscriptionRegistry : SubscriptionRegistry β) := by
  refine ⟨nodup_nil, fun p hp => absurd hp not_mem_nil, fun k p hp => ?_,
    fun c p hc hp => ?_, fun p sub hp => ?_⟩
  · cases hp
  · cases hp
  · cases hp

theorem trackClientMessage_eq : (r.trackClientMessage json frame).2 =
    match readRequest json frame with
    | none => r
    | some req =>
      if req.method = methodSubscribe then
        if rawKey json req.id = "" then r else r.subscribe (rawKey json req.id) frame
      else if req.method = methodUnsubscribe then
        ((firstStringParam json req.params).bind (r.find r.byClientSubID)).elim r
          (fun e => r.removeLocked e.1 e.2)
      else r := by
  rw [trackClientMessage, readRequest]
  split
  · rfl
  · cases decodeRequest json frame with
    | none => rfl
    | some req =>
      dsimp only
      split
      · split <;> rfl
      · split
        · cases firstStringParam json req.params with
          | none => rfl
          | some c =>
            dsimp only [bind_some]
            cases r.find r.byClientSubID c <;> rfl
        · rfl

theorem trackClientMessage_cases (json : RawJSON β) (r : SubscriptionRegistry β) (frame : β) :
    (r.trackClientMessage json frame).2 = r ∨
    (∃ reqID, (r.trackClientMessage json frame).2 = r.subscribe reqID frame) ∨ ∃ p sub,
    r.subs[p]? = some sub ∧ (r.trackClientMessage json frame).2 = r.removeLocked p sub := by
  rw [trackClientMessage_eq]
  cases readRequest json frame with
  | none => exact .inl rfl
  | some req =>
    dsimp only
    split
    · split
      · exact .inl rfl
      · exact .inr (.inl ⟨_, rfl⟩)
    · split
      · cases hfind : (firstStringParam json req.params).bind (r.find r.byClientSubID) with
        | none => exact .inl rfl
        | some e =>
          obtain ⟨c, -, hc⟩ := bind_eq_some_iff.mp hfind
          exact .inr (.inr ⟨e.1, e.2, (find_eq_some.mp hc).2, rfl⟩)
      · exact .inl rfl

variable {result : Option β}

theorem find_of_target (h : r.target json frame = some (p, sub, result)) :
    ∃ key, readResponse json frame = some (key, result) ∧ r.find r.byReqID key = some (p, sub) := by
  obtain ⟨resp, hread, h⟩ := bind_eq_some_iff.mp h
  obtain ⟨e, hfind, heq⟩ := map_eq_some_iff.mp h
  cases heq
  exact ⟨resp.1, hread, hfind⟩

theorem Indexed.tracks_of_target (h : r.Indexed)
    (htarget : r.target json frame = some (p, sub, result)) : r.Tracks p sub := by
  obtain ⟨key, -, hfind⟩ := find_of_target htarget
  exact (h.tracks_of_find hfind).1

theorem readResponse_eq_some :
    readResponse json frame = some (key, result) ↔ isBatchOrEmpty json frame = false ∧
      ∃ resp, decodeResponse json frame = some resp ∧ resp.method ≠ methodNotification ∧
      rawKey json resp.id = key ∧ key ≠ "" ∧ resp.result = result := by
  rw [readResponse, ite_none_left_eq_some, Bool.not_eq_true, bind_eq_some_iff]
  refine and_congr_right fun _ => exists_congr fun resp => and_congr_right fun _ => ?_
  rw [ite_none_left_eq_some, not_or, some.injEq, Prod.mk.injEq]
  constructor
  · rintro ⟨⟨hmethod, hkey⟩, rfl, rfl⟩
    exact ⟨hmethod, rfl, hkey, rfl⟩
  · rintro ⟨hmethod, rfl, hkey, rfl⟩
    exact ⟨⟨hmethod, hkey⟩, rfl, rfl⟩

theorem translate_of_target (h : r.target json frame = some (p, sub, result)) :
    r.translateEndpointMessage json frame = r.translateResponse json frame p sub result := by
  obtain ⟨key, hread, hfind⟩ := find_of_target h
  obtain ⟨hsingle, resp, hresp, hmethod, rfl, hkey, rfl⟩ := readResponse_eq_some.mp hread
  rw [translateEndpointMessage, if_neg (Bool.eq_false_iff.mp hsingle), hresp]
  simp only [if_neg hmethod, if_neg hkey, hfind]

theorem translate_of_no_target (h : r.target json frame = none) :
    r.translateEndpointMessage json frame = ((frame, true), r) ∨ ∃ rawParams,
    r.translateEndpointMessage json frame = (r.translateNotification json frame rawParams, r) := by
  rw [translateEndpointMessage]
  split_ifs with hsingle
  · exact .inl rfl
  · cases hresp : decodeResponse json frame with
    | none => exact .inl rfl
    | some resp =>
      dsimp only
      split
      · exact .inr ⟨resp.params, rfl⟩
      · rename_i hmethod
        split_ifs with hkey
        · exact .inl rfl
        · have hread : readResponse json frame = some (rawKey json resp.id, resp.result) :=
            readResponse_eq_some.mpr
              ⟨Bool.eq_false_iff.mpr hsingle, resp, hresp, hmethod, rfl, hkey, rfl⟩
          rw [target, hread, bind_some, map_eq_none_iff] at h
          rw [h]
          exact .inl rfl

theorem registry_of_no_target (h : r.target json frame = none) :
    (r.translateEndpointMessage json frame).2 = r := by
  rcases translate_of_no_target h with heq | ⟨rawParams, heq⟩
  · rw [heq]
  · rw [heq]

theorem indexed_trackClientMessage (h : r.Indexed) (json : RawJSON β) (frame : β) :
    (r.trackClientMessage json frame).2.Indexed := by
  rcases trackClientMessage_cases json r frame with heq | ⟨reqID, heq⟩ | ⟨p, sub, hsub, heq⟩
  · rw [heq]
    exact h
  · rw [heq]
    exact indexed_subscribe h
  · rw [heq]
    exact indexed_removeLocked h hsub

theorem indexed_translateResponse (h : r.Indexed) (htracks : r.Tracks p sub)
    (result : Option β) : (r.translateResponse json frame p sub result).2.Indexed := by
  rw [translateResponse]
  split
  · exact indexed_removeLocked h htracks.2
  · split
    · rename_i hfirst
      exact indexed_freeze h htracks hfirst _
    · rename_i hlater
      exact indexed_rebind h htracks hlater _

theorem indexed_translateEndpointMessage (h : r.Indexed) (json : RawJSON β) (frame : β) :
    (r.translateEndpointMessage json frame).2.Indexed := by
  cases htarget : r.target json frame with
  | none =>
    rw [registry_of_no_target htarget]
    exact h
  | some e =>
    rw [translate_of_target htarget]
    exact indexed_translateResponse h (h.tracks_of_target htarget) e.2.2

end Messages

end SubscriptionRegistry

end PathGateway.Websockets
