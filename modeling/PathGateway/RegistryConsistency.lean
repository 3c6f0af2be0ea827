import PathGateway.SubscriptionBridge

/-! The indexes of the subscription registry against the list of what it tracks. An index by ids
may lose entries, as two subscriptions can get one id, but it never points to a subscription that
is gone or that has another id. -/

namespace PathGateway

open Option List Machine AList

variable {β : Type}

def RawValue.Allowed : RawValue β → Prop
  | .null => False
  | .string s => s ≠ ""
  | .array _ | .object _ | .other => True

instance : DecidablePred (RawValue.Allowed (β := β))
  | .null => .isFalse id
  | .string s => inferInstanceAs (Decidable (s ≠ ""))
  | .array _ | .object _ | .other => .isTrue trivial

namespace Websockets

/-- A frame from either side of the bridge. -/
inductive RegistryMessage (β : Type) where
  | client (frame : β)
  | endpoint (frame : β)

variable {json : RawJSON β}

def ResultAllowed (json : RawJSON β) (result : Option β) : Prop :=
  ∀ v ∈ result.bind json.value, v.Allowed

instance (json : RawJSON β) : DecidablePred (ResultAllowed json) :=
  fun result => inferInstanceAs (Decidable (∀ v ∈ result.bind json.value, v.Allowed))

theorem ResultAllowed.rawString_ne {result : Option β} {id : String}
    (h : ResultAllowed json result) (hid : json.rawString result = some id) : id ≠ "" := by
  obtain ⟨b, rfl, hread⟩ := bind_eq_some_iff.mp hid
  split at hread
  · rename_i s hvalue
    cases hread
    exact h (.string id) hvalue
  · rename_i hvalue
    exact (h .null hvalue).elim
  · cases hread

namespace SubscriptionRegistry

variable {r r' : SubscriptionRegistry β} {p q : ℕ} {sub sub' : Subscription β} {frame : β}
  {id reqID : String}

def step (json : RawJSON β) (r : SubscriptionRegistry β) :
    RegistryMessage β → Option (SubscriptionRegistry β)
  | .client frame => some (r.trackClientMessage json frame).2
  | .endpoint frame => some (r.translateEndpointMessage json frame).2

/-- The result that answers a tracked subscribe is allowed. -/
def Answers (json : RawJSON β) (r : SubscriptionRegistry β) : RegistryMessage β → Prop
  | .client _ => True
  | .endpoint frame => ∀ p sub result, r.target json frame = some (p, sub, result) →
      ResultAllowed json result

instance (json : RawJSON β) (r : SubscriptionRegistry β) (e : RegistryMessage β) :
    Decidable (r.Answers json e) :=
  match e with
  | .client _ => .isTrue trivial
  | .endpoint frame => decidable_of_iff
      (∀ e ∈ r.target json frame, ResultAllowed json e.2.2)
      ⟨fun h p sub result => h (p, sub, result), fun h e => h e.1 e.2.1 e.2.2⟩

/-- The indexes agree with the list. A position in `subs` is the number of subscriptions that were
created before, so that the creation order is that of the positions. -/
structure Consistent (r : SubscriptionRegistry β) : Prop where
  order_nodup : r.order.Nodup
  member : ∀ p ∈ r.order, ∃ sub, r.Tracks p sub
  byReqID : ∀ k p, r.byReqID.lookup k = some p ↔ ∃ sub, r.Tracks p sub ∧ sub.reqID = k
  byClientSubID : ∀ x p, r.byClientSubID.lookup x = some p →
    ∃ sub, r.Tracks p sub ∧ sub.clientSubID = x
  byCurrentSubID : ∀ x p, r.byCurrentSubID.lookup x = some p →
    ∃ sub, r.Tracks p sub ∧ sub.currentSubID = x
  activeSubscribeFrames : ∃ members : List (ℕ × Subscription β),
    (members.map Prod.fst).Pairwise (· < ·) ∧
    (∀ p sub, (p, sub) ∈ members ↔ r.Tracks p sub ∧ sub.clientSubID ≠ "") ∧
    r.activeSubscribeFrames = members.map (fun e => e.2.subscribeFrame)

def Filed (r : SubscriptionRegistry β) : Prop :=
  ∀ p sub, r.Tracks p sub → r.byReqID.lookup sub.reqID = some p

/-- An entry of the index by the endpoint's ids is that of a subscription with this id. -/
def Currents (r : SubscriptionRegistry β) : Prop :=
  ∀ x p, r.byCurrentSubID.lookup x = some p →
    x ≠ "" ∧ ∃ sub, r.Tracks p sub ∧ sub.currentSubID = x

structure Listed (r : SubscriptionRegistry β) : Prop where
  indexed : r.Indexed
  filed : r.Filed
  sorted : r.order.Pairwise (· < ·)
  noEmptyID : r.byClientSubID.lookup "" = none
  currents : r.Currents

theorem Filed.eq_of_reqID (h : r.Filed) (hp : r.Tracks p sub) (hq : r.Tracks q sub')
    (heq : sub.reqID = sub'.reqID) : p = q := by
  have hlookup := h p sub hp
  rw [heq, h q sub' hq] at hlookup
  exact (some.inj hlookup).symm

theorem Filed.find_eq (h : r.Filed) (htracks : r.Tracks p sub) :
    r.find r.byReqID sub.reqID = some (p, sub) :=
  find_eq_some.mpr ⟨h p sub htracks, htracks.2⟩

theorem sorted_established (hsorted : r.order.Pairwise (· < ·)) :
    (r.established.map Prod.fst).Pairwise (· < ·) := by
  rw [pairwise_map]
  refine List.Pairwise.filterMap _ (fun p q hpq e he e' he' => ?_) hsorted
  obtain ⟨sub, -, hsome⟩ := bind_eq_some_iff.mp he
  obtain ⟨-, heq⟩ := ite_none_left_eq_some.mp hsome
  obtain ⟨sub', -, hsome'⟩ := bind_eq_some_iff.mp he'
  obtain ⟨-, heq'⟩ := ite_none_left_eq_some.mp hsome'
  rw [← some.inj heq, ← some.inj heq']
  exact hpq

theorem Listed.consistent (h : r.Listed) : r.Consistent := by
  refine ⟨h.indexed.order_nodup, fun p hp => ?_, fun k p => ⟨h.indexed.byReqID k p, ?_⟩, ?_,
    fun x p hx => (h.currents x p hx).2, ?_⟩
  · have hlt := h.indexed.order_lt p hp
    exact ⟨_, hp, getElem?_eq_getElem hlt⟩
  · rintro ⟨sub, htracks, rfl⟩
    exact h.filed p sub htracks
  · intro x p hx
    refine h.indexed.byClientSubID x p ?_ hx
    rintro rfl
    rw [h.noEmptyID] at hx
    cases hx
  · exact ⟨r.established, sorted_established h.sorted, fun _ _ => mem_established, rfl⟩

section Removal

theorem filed_removeLocked (hnodup : r.order.Nodup) (h : r.Filed) (htracks : r.Tracks p sub) :
    (r.removeLocked p sub).Filed := by
  intro q sub' hq
  obtain ⟨hqp, hq⟩ := (tracks_removeLocked hnodup).mp hq
  have hne : sub'.reqID ≠ sub.reqID := fun heq => hqp (h.eq_of_reqID hq htracks heq)
  exact (lookup_erase_ne hne).trans (h q sub' hq)

theorem noEmptyID_removeLocked (h : r.byClientSubID.lookup "" = none) (p : ℕ)
    (sub : Subscription β) : (r.removeLocked p sub).byClientSubID.lookup "" = none := by
  change (if _ then _ else _ : GoMap String ℕ).lookup "" = none
  split_ifs with hne
  · exact h
  · rw [lookup_erase_ne (Ne.symm hne)]
    exact h

theorem Currents.removeLocked (hnodup : r.order.Nodup) (h : r.Currents)
    (hsub : r.subs[p]? = some sub) : (r.removeLocked p sub).Currents := by
  intro x q hlookup
  obtain ⟨hlookup, hne⟩ := lookup_eraseIf.mp hlookup
  obtain ⟨hx, sub', hq, hcurrent⟩ := h x q hlookup
  refine ⟨hx, sub', (tracks_removeLocked hnodup).mpr ⟨?_, hq⟩, hcurrent⟩
  rintro rfl
  cases hsub.symm.trans hq.2
  exact hne (hcurrent ▸ hx) hcurrent.symm

theorem listed_removeLocked (h : r.Listed) (htracks : r.Tracks p sub) :
    (r.removeLocked p sub).Listed :=
  ⟨indexed_removeLocked h.indexed htracks.2,
    filed_removeLocked h.indexed.order_nodup h.filed htracks,
    h.sorted.sublist erase_sublist, noEmptyID_removeLocked h.noEmptyID p sub,
    h.currents.removeLocked h.indexed.order_nodup htracks.2⟩

theorem Listed.of_clear (h : r.Listed) (reqID : String) : (r.clear reqID).Listed := by
  rw [clear]
  cases hfind : r.find r.byReqID reqID with
  | none => exact h
  | some => exact listed_removeLocked h (h.indexed.tracks_of_find hfind).1

theorem Filed.tracks_clear (h : r.Filed) (hindexed : r.Indexed) (reqID : String) :
    (r.clear reqID).Tracks q sub' ↔ r.Tracks q sub' ∧ sub'.reqID ≠ reqID := by
  rw [clear]
  cases hfind : r.find r.byReqID reqID with
  | none =>
    refine ⟨fun hq => ⟨hq, ?_⟩, fun hq => hq.1⟩
    rintro rfl
    rw [h.find_eq hq] at hfind
    cases hfind
  | some =>
    obtain ⟨htracks, rfl⟩ := hindexed.tracks_of_find hfind
    refine (tracks_removeLocked hindexed.order_nodup).trans ⟨?_, ?_⟩
    · rintro ⟨hqp, hq⟩
      exact ⟨hq, fun heq => hqp (h.eq_of_reqID hq htracks heq)⟩
    · rintro ⟨hq, hne⟩
      refine ⟨?_, hq⟩
      rintro rfl
      cases hq.unique htracks
      exact hne rfl

end Removal

section Subscribing

theorem filed_subscribe (hindexed : r.Indexed) (h : r.Filed) (hclear : (r.clear reqID).Filed)
    (frame : β) : (r.subscribe reqID frame).Filed := by
  intro q sub' hq
  change ((r.clear reqID).byReqID.insert reqID (r.clear reqID).subs.length).lookup _ = _
  rcases (tracks_subscribe hindexed).mp hq with hq | ⟨rfl, rfl⟩
  · rw [lookup_insert_ne ((h.tracks_clear hindexed reqID).mp hq).2]
    exact hclear q sub' hq
  · rw [lookup_insert, subs_clear]

theorem listed_subscribe (h : r.Listed) (reqID : String) (frame : β) :
    (r.subscribe reqID frame).Listed := by
  have hclear := h.of_clear reqID
  refine ⟨indexed_subscribe h.indexed, filed_subscribe h.indexed h.filed hclear.filed frame, ?_,
    hclear.noEmptyID, fun x q hlookup => ?_⟩
  · refine pairwise_append.mpr ⟨hclear.sorted, pairwise_singleton _ _, ?_⟩
    intro p hp q hq
    rw [mem_singleton.mp hq]
    exact hclear.indexed.order_lt p hp
  · obtain ⟨hx, sub', hq, hcurrent⟩ := hclear.currents x q hlookup
    exact ⟨hx, sub', (tracks_subscribe h.indexed).mpr (.inl hq), hcurrent⟩

end Subscribing

section Responses

variable {new : Subscription β}

theorem Filed.replaces (h : r.Filed) (hset : r.Replaces p sub new r') : r'.Filed := by
  intro q sub' hq
  rw [hset.byReqID]
  rcases hset.tracks.mp hq with ⟨rfl, rfl⟩ | ⟨-, hq⟩
  · exact hset.reqID ▸ h q sub hset.tracked
  · exact h q sub' hq

theorem Currents.replaces (h : r.Currents) (hset : r.Replaces p sub new r')
    (hid : new.currentSubID ≠ "") : r'.Currents := by
  intro x q hlookup
  rw [hset.byCurrentSubID] at hlookup
  rcases GoMap.lookup_insert_eq_some.mp hlookup with ⟨rfl, rfl⟩ | ⟨-, hlookup⟩
  · exact ⟨hid, new, hset.tracks_new, rfl⟩
  · obtain ⟨hlookup, hold⟩ := lookup_eraseIf.mp hlookup
    obtain ⟨hne, sub', hq, hcurrent⟩ := h x q hlookup
    refine ⟨hne, sub', hset.tracks.mpr (.inr ⟨?_, hq⟩), hcurrent⟩
    rintro rfl
    cases hq.unique hset.tracked
    exact hold (hcurrent ▸ hne) hcurrent.symm

theorem Listed.replaces (h : r.Listed) (hset : r.Replaces p sub new r') (hindexed : r'.Indexed)
    (hempty : r'.byClientSubID.lookup "" = none) (hid : new.currentSubID ≠ "") : r'.Listed :=
  ⟨hindexed, h.filed.replaces hset, hset.order ▸ h.sorted, hempty, h.currents.replaces hset hid⟩

theorem listed_freeze (h : r.Listed) (htracks : r.Tracks p sub) (hfirst : sub.clientSubID = "")
    (hid : id ≠ "") : (r.freeze p sub id).Listed :=
  h.replaces (replaces_freeze h.indexed htracks hfirst id)
    (indexed_freeze h.indexed htracks hfirst id)
    ((lookup_insert_ne (Ne.symm hid)).trans h.noEmptyID) hid

theorem listed_rebind (h : r.Listed) (htracks : r.Tracks p sub) (hlater : sub.clientSubID ≠ "")
    (hid : id ≠ "") : (r.rebind p sub id).Listed :=
  h.replaces (replaces_rebind htracks id) (indexed_rebind h.indexed htracks hlater id)
    h.noEmptyID hid

end Responses

theorem listed_new : Listed (newSubscriptionRegistry : SubscriptionRegistry β) := by
  refine ⟨indexed_new, fun p sub hp => absurd hp.1 not_mem_nil, .nil, rfl, fun x p hx => ?_⟩
  cases hx

theorem listed_trackClientMessage (h : r.Listed) (json : RawJSON β) (frame : β) :
    (r.trackClientMessage json frame).2.Listed := by
  rw [trackClientMessage_eq]
  cases readRequest json frame with
  | none => exact h
  | some req =>
    dsimp only
    split
    · split
      · exact h
      · exact listed_subscribe h _ frame
    · split
      · cases hfind : (firstStringParam json req.params).bind (r.find r.byClientSubID) with
        | none => exact h
        | some e =>
          -- The entry under the client's id is that of a tracked subscription.
          obtain ⟨c, -, hc⟩ := bind_eq_some_iff.mp hfind
          obtain ⟨hlookup, hsub⟩ := find_eq_some.mp hc
          obtain ⟨sub, htracks, -⟩ := h.consistent.byClientSubID c e.1 hlookup
          exact listed_removeLocked h ⟨htracks.1, hsub⟩
      · exact h

theorem listed_translateEndpointMessage (h : r.Listed) (frame : β)
    (hanswers : r.Answers json (.endpoint frame)) :
    (r.translateEndpointMessage json frame).2.Listed := by
  cases htarget : r.target json frame with
  | none =>
    rw [registry_of_no_target htarget]
    exact h
  | some e =>
    have htracks := h.indexed.tracks_of_target htarget
    have hallowed : ResultAllowed json e.2.2 := hanswers e.1 e.2.1 e.2.2 htarget
    rw [translate_of_target htarget, translateResponse]
    cases hid : json.rawString e.2.2 with
    | none => exact listed_removeLocked h htracks
    | some id =>
      have hne := hallowed.rawString_ne hid
      dsimp only
      split
      · rename_i hfirst
        exact listed_freeze h htracks hfirst hne
      · rename_i hlater
        exact listed_rebind h htracks hlater hne

theorem listed_step {e : RegistryMessage β} (h : r.Listed) (hanswers : r.Answers json e)
    (hstep : r.step json e = some r') : r'.Listed := by
  cases e with
  | client frame =>
    cases hstep
    exact listed_trackClientMessage h json frame
  | endpoint frame =>
    cases hstep
    exact listed_translateEndpointMessage h frame hanswers

/-- The indexes agree with the list after any messages whose results are allowed. -/
theorem registry_consistent (json : RawJSON β) (es : List (RegistryMessage β))
    (r : SubscriptionRegistry β)
    (hanswers : Machine.Meets (step json) (Answers json) newSubscriptionRegistry es)
    (hrun : run (step json) newSubscriptionRegistry es = some r) : r.Consistent :=
  (invariant (I := Listed) (fun _ _ _ h hans hstep => listed_step h hans hstep)
    listed_new hanswers hrun).consistent

/-- A replay is answered with the id of another subscription, and a subscribe then takes the
place of the one that was replayed. The other one is left without an entry for its id. -/
def collidingReplay : List (RegistryMessage RawTree) :=
  [.client (sampleRequest methodSubscribe "1" []), .endpoint (sampleResponse "1" "0xa"),
    .client (sampleRequest methodSubscribe "2" []), .endpoint (sampleResponse "2" "0xb"),
    .endpoint (sampleResponse "1" "0xb"), .client (sampleRequest methodSubscribe "1" [])]

theorem colliding_replay_consistent : ∃ r : SubscriptionRegistry RawTree,
    run (step RawJSON.tree) newSubscriptionRegistry collidingReplay = some r ∧
    r.order = [1, 2] ∧ r.byCurrentSubID.lookup "0xb" = none ∧ r.Consistent := by
  refine exists_of_any (fun r => r.order = [1, 2] ∧
    r.byCurrentSubID.lookup "0xb" = none) (by decide +kernel) fun r hr h => ?_
  exact ⟨h.1, h.2, registry_consistent RawJSON.tree _ r (by decide +kernel) hr⟩

end SubscriptionRegistry

end Websockets

end PathGateway
