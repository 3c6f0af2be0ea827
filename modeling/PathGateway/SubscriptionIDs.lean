import PathGateway.SubscriptionBridge

/-! Whether the ids that the client holds tell its subscriptions apart. They are kept from old
connections, while a new one hands out ids of its own: the id of a new subscription may be one
that the client holds already. -/

namespace PathGateway.Websockets

open Machine

namespace SubscriptionRegistry

variable {β : Type} {json : RawJSON β} {r r' : SubscriptionRegistry β} {p : ℕ}
  {sub : Subscription β} {frame : β}

/-- No two tracked subscriptions have the same id for the client. -/
def Distinct (r : SubscriptionRegistry β) : Prop :=
  ∀ p q sub sub', r.Tracks p sub → r.Tracks q sub' → sub.clientSubID ≠ "" →
    sub.clientSubID = sub'.clientSubID → p = q

/-- The subscription that an unsubscribe finds is the only tracked one with the id. -/
def UnsubscribesOne (r : SubscriptionRegistry β) : Prop :=
  ∀ c p, c ≠ "" → r.byClientSubID.lookup c = some p →
    ∀ q sub, r.Tracks q sub → sub.clientSubID = c → q = p

def FirstIDFree (json : RawJSON β) (r : SubscriptionRegistry β) (frame : β) : Prop :=
  ∀ p sub result id, r.target json frame = some (p, sub, result) → sub.clientSubID = "" →
    json.rawString result = some id → id ≠ "" →
    ∀ q sub', r.Tracks q sub' → sub'.clientSubID ≠ id

theorem Indexed.unsubscribesOne (h : r.Indexed) (hdistinct : r.Distinct) : r.UnsubscribesOne := by
  intro c p hc hlookup q sub hq hsub
  obtain ⟨sub', hp, hsub'⟩ := h.byClientSubID c p hc hlookup
  exact hdistinct q p sub sub' hq hp (hsub ▸ hc) (hsub.trans hsub'.symm)

theorem Distinct.of_tracks (h : r.Distinct)
    (htracks : ∀ q sub, r'.Tracks q sub → sub.clientSubID ≠ "" → r.Tracks q sub) : r'.Distinct := by
  intro p q sub sub' hp hq hne heq
  exact h p q sub sub' (htracks p sub hp hne) (htracks q sub' hq (heq ▸ hne)) hne heq

theorem distinct_removeLocked (hindexed : r.Indexed) (h : r.Distinct) :
    (r.removeLocked p sub).Distinct :=
  h.of_tracks fun _ _ hq _ => ((tracks_removeLocked hindexed.order_nodup).mp hq).2

theorem distinct_subscribe (hindexed : r.Indexed) (h : r.Distinct) (reqID : String) :
    (r.subscribe reqID frame).Distinct := by
  refine h.of_tracks fun q sub hq hne => ?_
  rcases (tracks_subscribe hindexed).mp hq with hq | ⟨-, rfl⟩
  · rw [clear] at hq
    cases hfind : r.find r.byReqID reqID with
    | none => rwa [hfind] at hq
    | some =>
      rw [hfind] at hq
      exact ((tracks_removeLocked hindexed.order_nodup).mp hq).2
  · exact absurd rfl hne

theorem distinct_trackClientMessage (hindexed : r.Indexed) (h : r.Distinct) :
    (r.trackClientMessage json frame).2.Distinct := by
  rcases trackClientMessage_cases json r frame with heq | ⟨reqID, heq⟩ | ⟨p, sub, -, heq⟩
  · rw [heq]
    exact h
  · rw [heq]
    exact distinct_subscribe hindexed h reqID
  · rw [heq]
    exact distinct_removeLocked hindexed h

theorem distinct_rebind (h : r.Distinct) (htracks : r.Tracks p sub) (id : String) :
    (r.rebind p sub id).Distinct := by
  have hold : ∀ {q sub'}, (r.rebind p sub id).Tracks q sub' →
      ∃ sub'', r.Tracks q sub'' ∧ sub''.clientSubID = sub'.clientSubID := by
    intro q sub' hq
    rcases (replaces_rebind htracks id).tracks.mp hq with ⟨rfl, rfl⟩ | ⟨-, hq⟩
    · exact ⟨sub, htracks, rfl⟩
    · exact ⟨sub', hq, rfl⟩
  intro a b suba subb ha hb hne heq
  obtain ⟨suba', ha', hsuba⟩ := hold ha
  obtain ⟨subb', hb', hsubb⟩ := hold hb
  exact h a b suba' subb' ha' hb' (hsuba ▸ hne) (hsuba.trans (heq.trans hsubb.symm))

theorem distinct_freeze_iff (hindexed : r.Indexed) (h : r.Distinct) (htracks : r.Tracks p sub)
    (hfirst : sub.clientSubID = "") (id : String) : (r.freeze p sub id).Distinct ↔
    (id ≠ "" → ∀ q sub', r.Tracks q sub' → sub'.clientSubID ≠ id) := by
  have hset := replaces_freeze hindexed htracks hfirst id
  constructor
  · intro hdistinct hid q sub' hq hsub'
    have hqp : q ≠ p := by
      rintro rfl
      cases hq.unique htracks
      exact hid (hsub'.symm.trans hfirst)
    exact hqp (hdistinct p q _ sub' hset.tracks_new (hset.tracks.mpr (.inr ⟨hqp, hq⟩)) hid
      hsub'.symm).symm
  · intro hfree a b suba subb ha hb hne heq
    rcases hset.tracks.mp ha with ⟨rfl, rfl⟩ | ⟨hap, ha⟩
    · rcases hset.tracks.mp hb with ⟨rfl, -⟩ | ⟨-, hb⟩
      · rfl
      · exact absurd heq.symm (hfree hne b subb hb)
    · rcases hset.tracks.mp hb with ⟨-, rfl⟩ | ⟨-, hb⟩
      · have hid : suba.clientSubID = id := heq
        exact absurd hid (hfree (hid ▸ hne) a suba ha)
      · exact h a b suba subb ha hb hne heq

theorem distinct_translate_iff (hindexed : r.Indexed) (h : r.Distinct) :
    (r.translateEndpointMessage json frame).2.Distinct ↔ r.FirstIDFree json frame := by
  cases htarget : r.target json frame with
  | none =>
    rw [registry_of_no_target htarget]
    refine iff_of_true h fun p sub result id hp => ?_
    rw [htarget] at hp
    cases hp
  | some e =>
    obtain ⟨p, sub, result⟩ := e
    have htracks := hindexed.tracks_of_target htarget
    -- the condition is about the subscription that the response goes to
    have hfree : r.FirstIDFree json frame ↔ ∀ id, sub.clientSubID = "" →
        json.rawString result = some id → id ≠ "" →
        ∀ q sub', r.Tracks q sub' → sub'.clientSubID ≠ id := by
      constructor
      · exact fun hfree id => hfree p sub result id htarget
      · intro hfree p' sub' result' id htarget'
        cases htarget.symm.trans htarget'
        exact hfree id
    rw [hfree, translate_of_target htarget, translateResponse]
    cases hresult : json.rawString result with
    | none =>
      refine iff_of_true (distinct_removeLocked hindexed h) fun id _ hid => ?_
      cases hid
    | some id =>
      dsimp only
      split
      · rename_i hfirst
        rw [distinct_freeze_iff hindexed h htracks hfirst]
        constructor
        · rintro hfree id' - hid' hne
          cases hid'
          exact hfree hne
        · exact fun hfree => hfree id hfirst rfl
      · rename_i hlater
        exact iff_of_true (distinct_rebind h htracks id) fun _ hfirst => absurd hfirst hlater

theorem not_distinct_of_tracked {q : ℕ} {a a' c x x' : String} (hp : (p, a, c, x) ∈ r.tracked)
    (hq : (q, a', c, x') ∈ r.tracked) (hne : p ≠ q) (hc : c ≠ "") : ¬r.Distinct := by
  obtain ⟨sub, hp, hsub⟩ := tracks_of_mem_tracked hp
  obtain ⟨sub', hq, hsub'⟩ := tracks_of_mem_tracked hq
  exact fun h => hne (h p q sub sub' hp hq (hsub ▸ hc) (hsub.trans hsub'.symm))

end SubscriptionRegistry

namespace Bridge

open SubscriptionRegistry

variable {β : Type} {json : RawJSON β}

/-- Among the frames of the endpoint, no first response has an id that the client holds for
another subscription. -/
def FirstIDsFree (json : RawJSON β) (s : Bridge β) : BridgeEvent β → Prop
  | .endpoint _ frame => s.registry.FirstIDFree json frame
  | _ => True

theorem distinct_step_iff {s s' : Bridge β} {e : BridgeEvent β} (hindexed : s.registry.Indexed)
    (h : s.registry.Distinct) (hstep : s.step json e = some s') :
    s'.registry.Distinct ↔ s.FirstIDsFree json e := by
  cases e with
  | client =>
    cases hstep
    exact iff_of_true (distinct_trackClientMessage hindexed h) trivial
  | endpoint =>
    rw [registry_endpoint hstep]
    exact distinct_translate_iff hindexed h
  | rebind =>
    cases hstep
    exact iff_of_true h trivial

/-- In every state of a run the ids that the client holds are distinct, and an unsubscribe
concerns one subscription, exactly if no first response brings an id that is held already. -/
theorem ids_distinct_iff {es : List (BridgeEvent β)} {t : Bridge β}
    (hrun : run (step json) start es = some t) :
    (∀ pre post u, es = pre ++ post → run (step json) start pre = some u →
      u.registry.Distinct ∧ u.registry.UnsubscribesOne) ↔
    Machine.Meets (step json) (FirstIDsFree json) start es := by
  have hstep : ∀ (s : Bridge β) e s', s.registry.Indexed ∧ s.registry.Distinct →
      s.step json e = some s' →
      (s'.registry.Indexed ∧ s'.registry.Distinct ↔ s.FirstIDsFree json e) := by
    rintro s e s' ⟨hindexed, hdistinct⟩ hs'
    rw [← distinct_step_iff hindexed hdistinct hs', and_iff_right (indexed_step hindexed hs')]
  have hstart : (start : Bridge β).registry.Indexed ∧ (start : Bridge β).registry.Distinct :=
    ⟨indexed_new, fun p q sub sub' hp => absurd hp.1 List.not_mem_nil⟩
  have halways := always_iff_meets hstep hstart hrun
  rw [← halways]
  constructor
  · intro h pre post u heq hpre
    have hindexed := invariant_of_step (I := fun u : Bridge β => u.registry.Indexed)
      (fun _ _ _ => indexed_step) hstart.1 hpre
    exact ⟨hindexed, (h pre post u heq hpre).1⟩
  · intro h pre post u heq hpre
    obtain ⟨hindexed, hdistinct⟩ := h pre post u heq hpre
    exact ⟨hdistinct, hindexed.unsubscribesOne hdistinct⟩

theorem firstIDFree_of_pending {r : SubscriptionRegistry β}
    (h : ∀ sub ∈ r.subs, sub.clientSubID = "") (frame : β) : r.FirstIDFree json frame := by
  intro p sub result id _ _ _ hne q sub' hq heq
  exact hne (heq.symm.trans (h sub' (List.mem_of_getElem? hq.2)))

theorem ids_distinct_first : ∃ t : Bridge RawTree,
    run (step .tree) start (subscribed "1" "0x1") = some t ∧
    ∀ pre post u, subscribed "1" "0x1" = pre ++ post →
      run (step .tree) start pre = some u →
      u.registry.Distinct ∧ u.registry.UnsubscribesOne := by
  refine exists_of_any (fun _ => True) (by decide +kernel) fun t hrun _ => ?_
  refine (ids_distinct_iff hrun).mpr ⟨trivial, fun s hs => ⟨firstIDFree_of_pending ?_ _,
    fun _ _ => trivial⟩⟩
  cases hs
  decide +kernel

theorem new_id_held_already : ∃ t : Bridge RawTree,
    run (step .tree) start (subscribed "1" "0x1" ++
      [.rebind, .endpoint (some 0) (sampleResponse "1" "0x2")] ++ subscribed "2" "0x1") = some t ∧
    ¬t.registry.Distinct := by
  refine exists_of_any (fun t => t.registry.tracked =
    [(0, "1", "0x1", "0x2"), (1, "2", "0x1", "0x1")]) (by decide +kernel) fun t hrun htracked => ?_
  have hfirst : (0, "1", "0x1", "0x2") ∈ t.registry.tracked := by
    rw [htracked]
    decide
  have hsecond : (1, "2", "0x1", "0x1") ∈ t.registry.tracked := by
    rw [htracked]
    decide
  exact not_distinct_of_tracked hfirst hsecond (by decide) (by decide)

end Bridge

end PathGateway.Websockets
