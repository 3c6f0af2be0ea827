import PathGateway.SubscriptionBridge

/-! When the registry is not noticed. Responses are matched to subscriptions by request id for as
long as the subscription is tracked, while the client may use the id again: the response to the
later request is then taken for that to a replay. -/

namespace PathGateway.Websockets

open Option List Machine

namespace SubscriptionRegistry

variable {β : Type} {json : RawJSON β} {r : SubscriptionRegistry β} {p : ℕ} {sub : Subscription β}
  {frame : β} {key id : String} {result : Option β}

def Direct (r : SubscriptionRegistry β) : Prop :=
  ∀ x p, r.byCurrentSubID.lookup x = some p →
    ∃ sub, r.subs[p]? = some sub ∧ (x ≠ "" → sub.clientSubID = x)

theorem tracked_removeLocked_ne (hindexed : r.Indexed) (h : r.Tracks p sub) :
    (r.removeLocked p sub).tracked ≠ r.tracked := by
  intro heq
  have hmem := mem_tracked_of_tracks h
  rw [← heq] at hmem
  obtain ⟨sub', hp, -⟩ := tracks_of_mem_tracked hmem
  exact ((tracks_removeLocked hindexed.order_nodup).mp hp).1 rfl

theorem tracked_freeze_eq_iff (hindexed : r.Indexed) (h : r.Tracks p sub)
    (hfirst : sub.clientSubID = "") : (r.freeze p sub id).tracked = r.tracked ↔ id = "" := by
  constructor
  · intro heq
    have hmem := mem_tracked_of_tracks (replaces_freeze hindexed h hfirst id).tracks_new
    rw [heq] at hmem
    obtain ⟨sub', hp, hid⟩ := tracks_of_mem_tracked hmem
    cases hp.unique h
    exact hid.symm.trans hfirst
  · rintro rfl
    have hcurrent := hindexed.pending p sub h.2 hfirst
    refine filterMap_congr fun q _ => ?_
    by_cases hqp : q = p
    · subst hqp
      have hset : (r.freeze q sub "").subs[q]? =
          some { sub with clientSubID := "", currentSubID := "" } := lookup_set_self h.2
      rw [hset, h.2, map_some, map_some, hfirst, hcurrent]
    · have hset : (r.freeze p sub "").subs[q]? = r.subs[q]? := getElem?_set_ne (Ne.symm hqp)
      rw [hset]

theorem direct_removeLocked (h : r.Direct) : (r.removeLocked p sub).Direct :=
  fun x q hq => h x q (lookup_eraseIf.mp hq).1

theorem direct_subscribe (h : r.Direct) (reqID : String) : (r.subscribe reqID frame).Direct := by
  intro x q hq
  have hold : r.byCurrentSubID.lookup x = some q := by
    change (r.clear reqID).byCurrentSubID.lookup x = some q at hq
    rw [clear] at hq
    cases hfind : r.find r.byReqID reqID with
    | none => rwa [hfind] at hq
    | some =>
      rw [hfind] at hq
      exact (lookup_eraseIf.mp hq).1
  obtain ⟨sub, hsub, hclient⟩ := h x q hold
  obtain ⟨hlt, -⟩ := List.getElem?_eq_some_iff.mp hsub
  refine ⟨sub, ?_, hclient⟩
  change ((r.clear reqID).subs ++ [_])[q]? = some sub
  rw [subs_clear, getElem?_append_left hlt, hsub]

theorem direct_trackClientMessage (h : r.Direct) : (r.trackClientMessage json frame).2.Direct := by
  rcases trackClientMessage_cases json r frame with heq | ⟨reqID, heq⟩ | ⟨p, sub, -, heq⟩
  · rw [heq]
    exact h
  · rw [heq]
    exact direct_subscribe h reqID
  · rw [heq]
    exact direct_removeLocked h

theorem direct_freeze (h : r.Direct) (hsub : r.subs[p]? = some sub) (hfirst : sub.clientSubID = "")
    (id : String) : (r.freeze p sub id).Direct := by
  intro x q hq
  rcases GoMap.lookup_insert_eq_some.mp hq with ⟨hx, rfl⟩ | ⟨-, hq⟩
  · exact ⟨_, lookup_set_self hsub, fun _ => hx.symm⟩
  · obtain ⟨sub', hsub', hclient⟩ := h x q hq
    by_cases hqp : q = p
    · subst hqp
      cases hsub.symm.trans hsub'
      refine ⟨_, lookup_set_self hsub, fun hne => ?_⟩
      exact absurd ((hclient hne).symm.trans hfirst) hne
    · exact ⟨sub', (getElem?_set_ne (Ne.symm hqp)).trans hsub', hclient⟩

theorem Direct.translateNotification_eq (h : r.Direct) (frame : β) (rawParams : Option β) :
    r.translateNotification json frame rawParams = (frame, true) := by
  rw [translateNotification]
  cases decodeNotificationParams json rawParams with
  | none => rfl
  | some params =>
    dsimp only
    split_ifs with hne
    · rfl
    · cases hfind : r.find r.byCurrentSubID params.subscription with
      | none => rfl
      | some =>
        obtain ⟨hlookup, hsub⟩ := find_eq_some.mp hfind
        obtain ⟨sub, hsub', hclient⟩ := h _ _ hlookup
        cases hsub.symm.trans hsub'
        exact if_pos (.inr (hclient hne))

theorem Direct.translate_eq (h : r.Direct) (htarget : r.target json frame = none) :
    r.translateEndpointMessage json frame = ((frame, true), r) := by
  rcases translate_of_no_target htarget with heq | ⟨rawParams, heq⟩
  · exact heq
  · rw [heq, h.translateNotification_eq]

end SubscriptionRegistry

namespace Bridge

open SubscriptionRegistry

variable {β : Type} {json : RawJSON β} {s s' : Bridge β} {e : BridgeEvent β} {frame : β}
  {answers : Option ℕ}

def AnswersOther (s : Bridge β) (answers : Option ℕ) : Prop :=
  ∃ i req, answers = some i ∧ s.outstanding[i]? = some req ∧ req.subscription = none

/-- A frame of the endpoint is forwarded as it is, and the answer to a request other than a
subscribe leaves the tracked subscriptions and their ids alone. -/
def Transparent (json : RawJSON β) (s : Bridge β) : BridgeEvent β → Prop
  | .endpoint answers frame => (s.translate json frame).1 = (frame, true) ∧
      (s.AnswersOther answers → (s.translate json frame).2.tracked = s.registry.tracked)
  | _ => True

/-- No string is the response under the request id of a subscription that the client holds, and
no answer to another request has the id of a tracked one, unless it reads as the empty string
before the subscription has an id. -/
def ForeignIDs (json : RawJSON β) (s : Bridge β) : BridgeEvent β → Prop
  | .endpoint answers frame => ∀ p sub result,
      s.registry.target json frame = some (p, sub, result) →
      (sub.clientSubID ≠ "" → json.rawString result = none) ∧
      (s.AnswersOther answers → sub.clientSubID = "" ∧ json.rawString result = some "")
  | _ => True

theorem transparent_endpoint_iff (hindexed : s.registry.Indexed) (hdirect : s.registry.Direct) :
    s.Transparent json (.endpoint answers frame) ↔ s.ForeignIDs json (.endpoint answers frame) := by
  rw [Transparent, translate, ForeignIDs]
  cases htarget : s.registry.target json frame with
  | none =>
    rw [hdirect.translate_eq htarget]
    refine iff_of_true ⟨rfl, fun _ => rfl⟩ fun p sub result h => ?_
    cases h
  | some e =>
    obtain ⟨p, sub, result⟩ := e
    have htracks := hindexed.tracks_of_target htarget
    have hcond : (∀ p' sub' result', some (p, sub, result) = some (p', sub', result') →
        (sub'.clientSubID ≠ "" → json.rawString result' = none) ∧
        (s.AnswersOther answers → sub'.clientSubID = "" ∧ json.rawString result' = some "")) ↔
        (sub.clientSubID ≠ "" → json.rawString result = none) ∧
        (s.AnswersOther answers → sub.clientSubID = "" ∧ json.rawString result = some "") := by
      constructor
      · exact fun h => h p sub result rfl
      · rintro h p' sub' result' heq
        cases heq
        exact h
    rw [hcond, translate_of_target htarget, translateResponse]
    cases hresult : json.rawString result with
    | none =>
      have hdropped := tracked_removeLocked_ne hindexed htracks
      simp [hdropped]
    | some id =>
      by_cases hfirst : sub.clientSubID = ""
      · have hfrozen : (s.registry.freeze p sub id).tracked = s.registry.tracked ↔ id = "" :=
          tracked_freeze_eq_iff hindexed htracks hfirst
        simp [hfirst, hfrozen]
      · simp [hfirst]

theorem direct_step (hindexed : s.registry.Indexed) (hdirect : s.registry.Direct)
    (hforeign : s.ForeignIDs json e) (hstep : s.step json e = some s') : s'.registry.Direct := by
  cases e with
  | client =>
    cases hstep
    exact direct_trackClientMessage hdirect
  | endpoint answers frame =>
    rw [registry_endpoint hstep, translate]
    cases htarget : s.registry.target json frame with
    | none =>
      rw [registry_of_no_target htarget]
      exact hdirect
    | some e =>
      obtain ⟨p, sub, result⟩ := e
      have htracks := hindexed.tracks_of_target htarget
      rw [translate_of_target htarget, translateResponse]
      cases hresult : json.rawString result with
      | none => exact direct_removeLocked hdirect
      | some id =>
        dsimp only
        split
        · rename_i hfirst
          exact direct_freeze hdirect htracks.2 hfirst id
        · rename_i hlater
          have hnone := (hforeign p sub result htarget).1 hlater
          rw [hresult] at hnone
          cases hnone
  | rebind =>
    cases hstep
    exact hdirect

theorem transparent_iff_foreignIDs (hindexed : s.registry.Indexed) (hdirect : s.registry.Direct) :
    s.Transparent json e ↔ s.ForeignIDs json e := by
  cases e with
  | endpoint => exact transparent_endpoint_iff hindexed hdirect
  | client | rebind => exact Iff.rfl

/-- A run is transparent exactly if no response comes under the request id of a subscription that
it is not meant for. -/
theorem run_transparent_iff (json : RawJSON β) (es : List (BridgeEvent β)) :
    Machine.Meets (step json) (Transparent json) start es ↔
      Machine.Meets (step json) (ForeignIDs json) start es := by
  have hstart : (start : Bridge β).registry.Indexed ∧ (start : Bridge β).registry.Direct :=
    ⟨indexed_new, fun x p hp => by cases hp⟩
  constructor
  · refine meets_of_invariant
      (I := fun s : Bridge β => s.registry.Indexed ∧ s.registry.Direct)
      (fun s e hs => (transparent_iff_foreignIDs hs.1 hs.2).mp)
      (fun s e s' hs he hstep => ?_) hstart
    have hforeign := (transparent_iff_foreignIDs hs.1 hs.2).mp he
    exact ⟨indexed_step hs.1 hstep, direct_step hs.1 hs.2 hforeign hstep⟩
  · refine meets_of_invariant
      (I := fun s : Bridge β => s.registry.Indexed ∧ s.registry.Direct)
      (fun s e hs => (transparent_iff_foreignIDs hs.1 hs.2).mpr)
      (fun s e s' hs he hstep => ?_) hstart
    exact ⟨indexed_step hs.1 hstep, direct_step hs.1 hs.2 he hstep⟩

theorem chain_id_swallowed : ∃ u t : Bridge RawTree,
    run (step .tree) start (subscribed "1" "0x1" ++
      [.client (sampleRequest "eth_chainId" "1" [])]) = some u ∧
    u.step .tree (.endpoint (some 0) (sampleResponse "1" "0x89")) = some t ∧
    (u.translate .tree (sampleResponse "1" "0x89")).1.2 = false ∧
    u.registry.tracked = [(0, "1", "0x1", "0x1")] ∧
    t.registry.tracked = [(0, "1", "0x1", "0x89")] ∧
    ¬u.Transparent .tree (.endpoint (some 0) (sampleResponse "1" "0x89")) := by
  refine ⟨_, _, eq_some_of_isSome (by decide +kernel),
    eq_some_of_isSome (by decide +kernel), by decide +kernel, by decide +kernel,
    by decide +kernel, fun h => ?_⟩
  exact absurd (congrArg Prod.snd h.1) (by decide +kernel)

end Bridge

end PathGateway.Websockets
