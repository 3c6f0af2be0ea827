import PathGateway.RegistryConsistency
import PathGateway.SubscriptionNotifications

/-! Whether a notification reaches the client under the id that the client holds. The index by
the endpoint's ids has entries of the old connection while the replays are answered one by one:
an id of the new connection may be one that another subscription still has from the old. -/

namespace PathGateway.Websockets

open GoMap List Machine AList

namespace SubscriptionRegistry

variable {β : Type} {json : RawJSON β} {r r' : SubscriptionRegistry β} {p q : ℕ}
  {sub sub' new : Subscription β} {frame : β} {k : String} {result : Option β}

/-- The index by the endpoint's ids has every subscription that has one. -/
def Exact (r : SubscriptionRegistry β) : Prop :=
  ∀ p sub, r.Tracks p sub → sub.currentSubID ≠ "" →
    r.byCurrentSubID.lookup sub.currentSubID = some p

theorem Exact.eq_of_currentSubID (h : r.Exact) (hp : r.Tracks p sub) (hq : r.Tracks q sub')
    (hne : sub.currentSubID ≠ "") (heq : sub.currentSubID = sub'.currentSubID) : p = q := by
  have hlookup := h p sub hp hne
  rw [heq, h q sub' hq (heq ▸ hne)] at hlookup
  exact (Option.some.inj hlookup).symm

theorem exact_removeLocked (hindexed : r.Indexed) (h : r.Exact) (htracks : r.Tracks p sub) :
    (r.removeLocked p sub).Exact := by
  intro q sub' hq hne
  obtain ⟨hqp, hq⟩ := (tracks_removeLocked hindexed.order_nodup).mp hq
  exact lookup_eraseIf.mpr ⟨h q sub' hq hne,
    fun _ heq => hqp (h.eq_of_currentSubID hq htracks hne heq)⟩

theorem exact_clear (hindexed : r.Indexed) (h : r.Exact) (reqID : String) :
    (r.clear reqID).Exact := by
  rw [clear]
  cases hfind : r.find r.byReqID reqID with
  | none => exact h
  | some => exact exact_removeLocked hindexed h (hindexed.tracks_of_find hfind).1

theorem exact_subscribe (hindexed : r.Indexed) (h : r.Exact) (reqID : String) (frame : β) :
    (r.subscribe reqID frame).Exact := by
  intro q sub' hq hne
  rcases (tracks_subscribe hindexed).mp hq with hq | ⟨-, rfl⟩
  · exact exact_clear hindexed h reqID q sub' hq hne
  · exact absurd rfl hne

theorem Exact.replaces (h : r.Exact) (hset : r.Replaces p sub new r')
    (hfree : ∀ q sub', r.Tracks q sub' → q ≠ p → sub'.currentSubID ≠ new.currentSubID) :
    r'.Exact := by
  intro q sub' hq hne
  rw [hset.byCurrentSubID]
  rcases hset.tracks.mp hq with ⟨rfl, rfl⟩ | ⟨hqp, hq⟩
  · rw [lookup_insert]
  · rw [lookup_insert_ne (hfree q sub' hq hqp)]
    exact lookup_eraseIf.mpr ⟨h q sub' hq hne,
      fun _ heq => hqp (h.eq_of_currentSubID hq hset.tracked hne heq)⟩

theorem Filed.target_eq (h : r.Filed) (htracks : r.Tracks p sub)
    (hread : readResponse json frame = some (sub.reqID, result)) :
    r.target json frame = some (p, sub, result) := by
  rw [target, hread, Option.bind_some, h.find_eq htracks]
  rfl

theorem Indexed.target_eq_none (h : r.Indexed)
    (hread : readResponse json frame = some (k, result))
    (hfree : ∀ q sub, r.Tracks q sub → sub.reqID ≠ k) : r.target json frame = none := by
  refine Option.eq_none_iff_forall_ne_some.mpr fun e he => ?_
  obtain ⟨key, hkey, hfind⟩ := find_of_target he
  rw [hread, Option.some.injEq, Prod.mk.injEq] at hkey
  obtain ⟨htracks, heq⟩ := h.tracks_of_find hfind
  exact hfree _ _ htracks (heq.trans hkey.1.symm)

end SubscriptionRegistry

namespace Bridge

open SubscriptionRegistry

variable {β : Type} {json : RawJSON β} {s s' : Bridge β} {e : BridgeEvent β} {frame : β}
  {o : Outstanding} {rest : List Outstanding} {held : GoMap ℕ Held} {i p : ℕ}
  {sub : Subscription β} {result : Option β} {c k : String}

/-- Every notification of the current connection for a subscription of the client reaches the
client under the id that the client was given first. -/
def Demultiplexes (json : RawJSON β) (s : Bridge β) : Prop :=
  ∀ p c x frame, s.held.lookup p = some ⟨c, some x⟩ → IsNotification json frame x →
    ∃ out, (s.translate json frame).1 = (out, true) ∧ IsNotification json out c

/-- The client uses a request id again only if nothing is to be answered under it and no
subscription is tracked under it, where a subscribe may replace one that never got an id. A
response under the request id of a tracked subscription answers a request, and an id that it
brings is no other tracked subscription's current one. -/
def Clean (json : RawJSON β) (s : Bridge β) : BridgeEvent β → Prop
  | .client frame => ∀ req, readRequest json frame = some req → rawKey json req.id ≠ "" →
      rawKey json req.id ∉ s.outstanding.map Outstanding.key ∧
      ∀ p sub, s.registry.Tracks p sub → sub.reqID = rawKey json req.id →
        req.method = methodSubscribe ∧ sub.clientSubID = ""
  | .endpoint answers frame => ∀ p sub result,
      s.registry.target json frame = some (p, sub, result) → answers ≠ none ∧
      ∀ id, json.rawString result = some id → id ≠ "" ∧
        ∀ q sub', s.registry.Tracks q sub' → q ≠ p → sub'.currentSubID ≠ id
  | .rebind => True

instance (r : SubscriptionRegistry β) (P : ℕ → Subscription β → Prop)
    [∀ p sub, Decidable (P p sub)] : Decidable (∀ p sub, r.Tracks p sub → P p sub) :=
  decidable_of_iff (∀ p ∈ r.order, ∀ sub ∈ r.subs[p]?, P p sub)
    ⟨fun h p sub htracks => h p htracks.1 sub htracks.2, fun h p hp sub hsub => h p sub ⟨hp, hsub⟩⟩

instance (json : RawJSON β) (s : Bridge β) (e : BridgeEvent β) : Decidable (s.Clean json e) :=
  match e with
  | .client frame => decidable_of_iff
      (∀ req ∈ readRequest json frame, rawKey json req.id ≠ "" →
        rawKey json req.id ∉ s.outstanding.map Outstanding.key ∧
        ∀ p sub, s.registry.Tracks p sub → sub.reqID = rawKey json req.id →
          req.method = methodSubscribe ∧ sub.clientSubID = "") Iff.rfl
  | .endpoint answers frame => decidable_of_iff
      (∀ e ∈ s.registry.target json frame, answers ≠ none ∧
        ∀ id ∈ json.rawString e.2.2, id ≠ "" ∧
          ∀ q sub', s.registry.Tracks q sub' → q ≠ e.1 → sub'.currentSubID ≠ id)
      ⟨fun h p sub result => h (p, sub, result), fun h e => h e.1 e.2.1 e.2.2⟩
  | .rebind => .isTrue trivial

def Asked (s : Bridge β) (o : Outstanding) : Prop :=
  match o.subscription, o.replay with
  | none, _ => ∀ q sub, s.registry.Tracks q sub → sub.reqID ≠ o.key
  | some p, false => ∃ sub, s.registry.Tracks p sub ∧ sub.reqID = o.key ∧ sub.clientSubID = ""
  | some p, true => p < s.registry.subs.length ∧
      (∀ q sub, s.registry.Tracks q sub → (q = p ↔ sub.reqID = o.key)) ∧
      ∀ h, s.held.lookup p = some h → h.current = none ∧ ∃ sub, s.registry.Tracks p sub

structure Sound (s : Bridge β) : Prop where
  listed : s.registry.Listed
  exact : s.registry.Exact
  held_lt : ∀ p h, s.held.lookup p = some h → p < s.registry.subs.length
  held_first : ∀ p h, s.held.lookup p = some h →
    h.first ≠ "" ∧ ∀ sub, s.registry.Tracks p sub → sub.clientSubID = h.first
  held_current : ∀ p h x, s.held.lookup p = some h → h.current = some x →
    ∃ sub, s.registry.Tracks p sub ∧ sub.currentSubID = x ∧ x ≠ ""
  keys_nodup : (s.outstanding.map Outstanding.key).Nodup
  asked : ∀ o ∈ s.outstanding, s.Asked o

theorem Sound.demultiplexes (h : s.Sound) (json : RawJSON β) : s.Demultiplexes json := by
  intro p c x frame hheld hnotification
  obtain ⟨sub, htracks, hcurrent, hx⟩ := h.held_current p _ x hheld rfl
  obtain ⟨hc, hfirst⟩ := h.held_first p _ hheld
  subst hcurrent
  have hfind : s.registry.find s.registry.byCurrentSubID sub.currentSubID = some (p, sub) :=
    find_eq_some.mpr ⟨h.exact p sub htracks hx, htracks.2⟩
  have hclient : sub.clientSubID = c := hfirst sub htracks
  obtain ⟨out, hout, hnotified⟩ :=
    notification_of_find hnotification hx hfind (hclient ▸ hc)
  exact ⟨out, hout, hclient ▸ hnotified⟩

section Steps

theorem Asked.of_untouched (h : s.Asked o)
    (hlength : s.registry.subs.length ≤ s'.registry.subs.length)
    (hold : ∀ q sub', s'.registry.Tracks q sub' → (∃ sub, s.registry.Tracks q sub ∧
      sub.reqID = sub'.reqID) ∨ q = s.registry.subs.length ∧ sub'.reqID ≠ o.key)
    (hkept : ∀ q sub, s.registry.Tracks q sub → sub.reqID = o.key →
      sub.clientSubID = "" ∨ (s'.held.lookup q).isSome = true → s'.registry.Tracks q sub)
    (hheld : ∀ q h, s'.held.lookup q = some h → (∀ sub, s.registry.Tracks q sub →
      sub.reqID = o.key) → s.held.lookup q = some h) : s'.Asked o := by
  obtain ⟨key, subscription, replay⟩ := o
  cases subscription with
  | none =>
    intro q sub' hq
    rcases hold q sub' hq with ⟨sub, hsub, heq⟩ | ⟨-, hne⟩
    · exact heq ▸ h q sub hsub
    · exact hne
  | some p =>
    cases replay with
    | false =>
      obtain ⟨sub, htracks, hkey, hfirst⟩ := h
      exact ⟨sub, hkept p sub htracks hkey (.inl hfirst), hkey, hfirst⟩
    | true =>
      obtain ⟨hlt, hunique, hlive⟩ := h
      refine ⟨lt_of_lt_of_le hlt hlength, fun q sub' hq => ?_, fun h hp => ?_⟩
      · rcases hold q sub' hq with ⟨sub, hsub, heq⟩ | ⟨rfl, hne⟩
        · exact heq ▸ hunique q sub hsub
        · exact iff_of_false hlt.ne' hne
      · have hkeys : ∀ sub, s.registry.Tracks p sub → sub.reqID = key :=
          fun sub hsub => (hunique p sub hsub).mp rfl
        obtain ⟨hnone, sub, hsub⟩ := hlive h (hheld p h hp hkeys)
        have hstill : (s'.held.lookup p).isSome = true := by
          rw [hp]
          rfl
        exact ⟨hnone, sub, hkept p sub hsub (hkeys sub hsub) (.inr hstill)⟩

theorem nodup_keys_append (hnodup : (rest.map Outstanding.key).Nodup)
    (hnew : o.key ∉ rest.map Outstanding.key) : ((rest ++ [o]).map Outstanding.key).Nodup := by
  rw [map_append, map_singleton]
  exact nodup_append.mpr ⟨hnodup, nodup_singleton _, fun a ha b hb heq =>
    hnew (mem_singleton.mp hb ▸ heq ▸ ha)⟩

theorem sound_ask (hs : s.Sound) (hnew : k ∉ s.outstanding.map Outstanding.key)
    (hfree : ∀ q sub, s.registry.Tracks q sub → sub.reqID ≠ k) :
    Sound { s with outstanding := s.outstanding ++ [⟨k, none, false⟩] } := by
  refine ⟨hs.listed, hs.exact, hs.held_lt, hs.held_first, hs.held_current,
    nodup_keys_append hs.keys_nodup hnew, fun o ho => ?_⟩
  rcases mem_append.mp ho with ho | ho
  · exact hs.asked o ho
  · cases mem_singleton.mp ho
    exact hfree

theorem sound_subscribe (hs : s.Sound) (frame : β) (hnew : k ∉ s.outstanding.map Outstanding.key)
    (hpending : ∀ q sub, s.registry.Tracks q sub → sub.reqID = k → sub.clientSubID = "") :
    Sound ⟨s.registry.subscribe k frame, s.outstanding ++ [⟨k, some s.registry.subs.length, false⟩],
    s.held⟩ := by
  have htracks : ∀ {q sub'}, (s.registry.subscribe k frame).Tracks q sub' ↔
      (s.registry.Tracks q sub' ∧ sub'.reqID ≠ k) ∨
        q = s.registry.subs.length ∧ sub' = { reqID := k, subscribeFrame := frame } := by
    intro q sub'
    rw [tracks_subscribe hs.listed.indexed, hs.listed.filed.tracks_clear hs.listed.indexed]
  have hlength : s.registry.subs.length ≤ (s.registry.subscribe k frame).subs.length := by
    change _ ≤ ((s.registry.clear k).subs ++ [_]).length
    rw [length_append, subs_clear]
    exact Nat.le_add_right _ _
  -- what the client holds has an id, so that it is not replaced
  have hlive : ∀ q h sub, s.held.lookup q = some h → s.registry.Tracks q sub →
      (s.registry.subscribe k frame).Tracks q sub := by
    intro q h sub hq hsub
    obtain ⟨hne, hfirst⟩ := hs.held_first q h hq
    refine htracks.mpr (.inl ⟨hsub, fun hk => ?_⟩)
    exact hne ((hfirst sub hsub).symm.trans (hpending q sub hsub hk))
  refine ⟨listed_subscribe hs.listed k frame, exact_subscribe hs.listed.indexed hs.exact k frame,
    fun q h hq => lt_of_lt_of_le (hs.held_lt q h hq) hlength, fun q h hq => ?_,
    fun q h x hq hx => ?_, nodup_keys_append hs.keys_nodup hnew, fun o ho => ?_⟩
  · obtain ⟨hne, hfirst⟩ := hs.held_first q h hq
    refine ⟨hne, fun sub hsub => ?_⟩
    rcases htracks.mp hsub with ⟨hsub, -⟩ | ⟨rfl, -⟩
    · exact hfirst sub hsub
    · exact absurd (hs.held_lt _ h hq) (lt_irrefl _)
  · obtain ⟨sub, hsub, hcurrent⟩ := hs.held_current q h x hq hx
    exact ⟨sub, hlive q h sub hq hsub, hcurrent⟩
  · rcases mem_append.mp ho with ho | ho
    · have hkey : o.key ≠ k := fun heq => hnew (heq ▸ mem_map_of_mem ho)
      refine (hs.asked o ho).of_untouched hlength (fun q sub' hq => ?_) (fun q sub hq heq _ => ?_)
        (fun q h hq _ => hq)
      · rcases htracks.mp hq with ⟨hold, -⟩ | ⟨hlast, rfl⟩
        · exact .inl ⟨sub', hold, rfl⟩
        · exact .inr ⟨hlast, hkey.symm⟩
      · exact htracks.mpr (.inl ⟨hq, fun hk => hkey (heq.symm.trans hk)⟩)
    · cases mem_singleton.mp ho
      exact ⟨_, htracks.mpr (.inr ⟨rfl, rfl⟩), rfl, rfl⟩

theorem sound_remove (hs : s.Sound)
    (htracks : s.registry.Tracks p sub) (hrest : rest.Sublist s.outstanding)
    (hother : ∀ o ∈ rest, o.key = sub.reqID → sub.clientSubID ≠ "" ∧ held.lookup p = none)
    (hheld : ∀ q h, held.lookup q = some h → s.held.lookup q = some h)
    (hgone : ∀ h, held.lookup p = some h → h.current = none) :
    Sound ⟨s.registry.removeLocked p sub, rest, held⟩ := by
  have hkept : ∀ {q sub'}, (s.registry.removeLocked p sub).Tracks q sub' ↔
      q ≠ p ∧ s.registry.Tracks q sub' := tracks_removeLocked hs.listed.indexed.order_nodup
  refine ⟨listed_removeLocked hs.listed htracks,
    exact_removeLocked hs.listed.indexed hs.exact htracks,
    fun q h hq => hs.held_lt q h (hheld q h hq), fun q h hq => ?_, fun q h x hq hx => ?_,
    hs.keys_nodup.sublist (hrest.map _), fun o ho => ?_⟩
  · obtain ⟨hne, hfirst⟩ := hs.held_first q h (hheld q h hq)
    exact ⟨hne, fun sub' hsub' => hfirst sub' (hkept.mp hsub').2⟩
  · obtain ⟨sub', hsub', hcurrent⟩ := hs.held_current q h x (hheld q h hq) hx
    refine ⟨sub', hkept.mpr ⟨?_, hsub'⟩, hcurrent⟩
    rintro rfl
    rw [hgone h hq] at hx
    cases hx
  · refine (hs.asked o (hrest.subset ho)).of_untouched le_rfl
      (fun q sub' hq => .inl ⟨sub', (hkept.mp hq).2, rfl⟩) (fun q sub' hq hkey hlive => ?_)
      (fun q h hq _ => hheld q h hq)
    refine hkept.mpr ⟨?_, hq⟩
    rintro rfl
    cases hq.unique htracks
    obtain ⟨hne, hnone⟩ := hother o ho hkey.symm
    rcases hlive with hfirst | hsome
    · exact hne hfirst
    · rw [hnone] at hsome
      cases hsome

theorem sound_unsubscribe (hs : s.Sound) (c : String) :
    Sound { s with
      registry := (s.registry.find s.registry.byClientSubID c).elim s.registry
        (fun e => s.registry.removeLocked e.1 e.2)
      held := retain (fun _ h => h.first ≠ c) s.held } := by
  have hheld : ∀ q h, (retain (fun _ h => decide (h.first ≠ c)) s.held).lookup q = some h →
      s.held.lookup q = some h := fun q h hq => (lookup_retain_eq_some.mp hq).1
  cases hfind : s.registry.find s.registry.byClientSubID c with
  | none =>
    refine ⟨hs.listed, hs.exact, fun q h hq => hs.held_lt q h (hheld q h hq),
      fun q h hq => hs.held_first q h (hheld q h hq),
      fun q h x hq => hs.held_current q h x (hheld q h hq), hs.keys_nodup, fun o ho => ?_⟩
    exact (hs.asked o ho).of_untouched le_rfl (fun q sub' hq => .inl ⟨sub', hq, rfl⟩)
      (fun q sub hq _ _ => hq) (fun q h hq _ => hheld q h hq)
  | some e =>
    obtain ⟨p, sub⟩ := e
    obtain ⟨hlookup, hsub⟩ := find_eq_some.mp hfind
    have hc : c ≠ "" := by
      rintro rfl
      rw [hs.listed.noEmptyID] at hlookup
      cases hlookup
    obtain ⟨sub', htracks, hclient⟩ := hs.listed.indexed.byClientSubID c p hc hlookup
    cases hsub.symm.trans htracks.2
    have hnone : (retain (fun _ h => decide (h.first ≠ c)) s.held).lookup p = none := by
      refine Option.eq_none_iff_forall_ne_some.mpr fun h hp => ?_
      obtain ⟨hp, hne⟩ := lookup_retain_eq_some.mp hp
      have hfirst := (hs.held_first p h hp).2 sub htracks
      exact of_decide_eq_true hne (hfirst.symm.trans hclient)
    refine sound_remove hs htracks (Sublist.refl _) (fun o _ _ => ⟨hclient ▸ hc, hnone⟩) hheld
      fun h hp => ?_
    rw [hnone] at hp
    cases hp

theorem sound_unsubscribe_params (hs : s.Sound) (params : Option β) :
    Sound { s with
      registry := ((firstStringParam json params).bind
        (s.registry.find s.registry.byClientSubID)).elim s.registry
          (fun e => s.registry.removeLocked e.1 e.2)
      held := (firstStringParam json params).elim s.held (fun id =>
        retain (fun _ h => h.first ≠ id) s.held) } := by
  cases firstStringParam json params with
  | none => exact hs
  | some c => exact sound_unsubscribe hs c

theorem sound_client (hs : s.Sound) (hclean : s.Clean json (.client frame))
    (hstep : s.step json (.client frame) = some s') : s'.Sound := by
  cases hstep
  rw [trackClientMessage_eq, send]
  cases hread : readRequest json frame with
  | none => exact hs
  | some req =>
    have hfree : req.method ≠ methodSubscribe → rawKey json req.id ≠ "" →
        ∀ q sub, s.registry.Tracks q sub → sub.reqID ≠ rawKey json req.id :=
      fun hmethod hkey q sub hq heq => hmethod ((hclean req hread hkey).2 q sub hq heq).1
    by_cases hsubscribe : req.method = methodSubscribe
    · have hother : req.method ≠ methodUnsubscribe := by
        rw [hsubscribe]
        decide
      simp only [if_pos hsubscribe, if_neg hother]
      by_cases hkey : rawKey json req.id = ""
      · simp only [if_pos hkey]
        exact hs
      · simp only [if_neg hkey]
        obtain ⟨hnew, hpending⟩ := hclean req hread hkey
        exact sound_subscribe hs frame hnew fun q sub hq heq => (hpending q sub hq heq).2
    · simp only [if_neg hsubscribe]
      have hasked : Sound { s with
          outstanding := if rawKey json req.id = "" then s.outstanding
            else s.outstanding ++ [⟨rawKey json req.id, none, false⟩] } := by
        split_ifs with hkey
        · exact hs
        · exact sound_ask hs (hclean req hread hkey).1 (hfree hsubscribe hkey)
      by_cases hunsubscribe : req.method = methodUnsubscribe
      · simp only [if_pos hunsubscribe]
        exact sound_unsubscribe_params hasked req.params
      · simp only [if_neg hunsubscribe]
        exact hasked

theorem sound_set {r : SubscriptionRegistry β} {new : Subscription β}
    (hs : s.Sound) (hset : s.registry.Replaces p sub new r) (hlisted : r.Listed)
    (hfree : ∀ q sub', s.registry.Tracks q sub' → q ≠ p → sub'.currentSubID ≠ new.currentSubID)
    (hrest : rest.Sublist s.outstanding) (hother : ∀ o ∈ rest, o.key ≠ sub.reqID)
    (hclient : new.clientSubID ≠ "") (hcurrent : new.currentSubID ≠ "")
    (hheld : ∀ q h, held.lookup q = some h → q = p ∧ h = ⟨new.clientSubID, some new.currentSubID⟩ ∨
      q ≠ p ∧ s.held.lookup q = some h) : Sound ⟨r, rest, held⟩ := by
  have hnew : r.Tracks p new := hset.tracks_new
  have hlength : r.subs.length = s.registry.subs.length := by
    rw [hset.subs, length_set]
  refine ⟨hlisted, hs.exact.replaces hset hfree, fun q h hq => ?_, fun q h hq => ?_,
    fun q h x hq hx => ?_,
    hs.keys_nodup.sublist (hrest.map _), fun o ho => ?_⟩
  · change q < r.subs.length
    rw [hlength]
    rcases hheld q h hq with ⟨rfl, -⟩ | ⟨-, hq⟩
    · exact hs.listed.indexed.order_lt q hset.tracked.1
    · exact hs.held_lt q h hq
  · rcases hheld q h hq with ⟨rfl, rfl⟩ | ⟨hqp, hq⟩
    · exact ⟨hclient, fun sub' hsub' => congrArg Subscription.clientSubID (hsub'.unique hnew)⟩
    · obtain ⟨hne, hfirst⟩ := hs.held_first q h hq
      refine ⟨hne, fun sub' hsub' => ?_⟩
      rcases hset.tracks.mp hsub' with ⟨heq, -⟩ | ⟨-, hsub'⟩
      · exact absurd heq hqp
      · exact hfirst sub' hsub'
  · rcases hheld q h hq with ⟨rfl, rfl⟩ | ⟨hqp, hq⟩
    · cases hx
      exact ⟨new, hnew, rfl, hcurrent⟩
    · obtain ⟨sub', hsub', hx⟩ := hs.held_current q h x hq hx
      exact ⟨sub', hset.tracks.mpr (.inr ⟨hqp, hsub'⟩), hx⟩
  · have hkey := hother o ho
    refine (hs.asked o (hrest.subset ho)).of_untouched hlength.ge (fun q sub' hq => .inl ?_)
      (fun q sub' hq heq _ => ?_) (fun q h hq hkeys => ?_)
    · rcases hset.tracks.mp hq with ⟨rfl, rfl⟩ | ⟨-, hq⟩
      · exact ⟨sub, hset.tracked, hset.reqID.symm⟩
      · exact ⟨sub', hq, rfl⟩
    · refine hset.tracks.mpr (.inr ⟨?_, hq⟩)
      rintro rfl
      cases hq.unique hset.tracked
      exact hkey heq.symm
    · rcases hheld q h hq with ⟨rfl, -⟩ | ⟨-, hq⟩
      · exact absurd (hkeys sub hset.tracked).symm hkey
      · exact hq

theorem key_ne_of_mem_eraseIdx {o' : Outstanding}
    (hnodup : (s.outstanding.map Outstanding.key).Nodup) (hi : s.outstanding[i]? = some o)
    (ho' : o' ∈ s.outstanding.eraseIdx i) : o'.key ≠ o.key := by
  obtain ⟨hlt, rfl⟩ := List.getElem?_eq_some_iff.mp hi
  have hperm := (getElem_cons_eraseIdx_perm hlt).map Outstanding.key
  have hnotMem := (nodup_cons.mp (hperm.nodup_iff.mpr hnodup)).1
  exact fun heq => hnotMem (heq ▸ mem_map_of_mem ho')

theorem sound_forget (hs : s.Sound) :
    Sound { s with outstanding := s.outstanding.eraseIdx i } := by
  have hsublist : (s.outstanding.eraseIdx i).Sublist s.outstanding := eraseIdx_sublist _ _
  exact ⟨hs.listed, hs.exact, hs.held_lt, hs.held_first, hs.held_current,
    hs.keys_nodup.sublist (hsublist.map _), fun o ho => hs.asked o (hsublist.subset ho)⟩

theorem answer_cases (h : s.answer json i frame = some s') :
    ∃ o result, s.outstanding[i]? = some o ∧ readResponse json frame = some (o.key, result) ∧
    ((∀ p id, o.subscription = some p → json.rawString result ≠ some id) ∧
      s' = ⟨(s.translate json frame).2, s.outstanding.eraseIdx i, s.held⟩ ∨ ∃ p id,
      o.subscription = some p ∧ json.rawString result = some id ∧ s' = ⟨(s.translate json frame).2,
      s.outstanding.eraseIdx i, (s.grant p o.replay (s.translate json frame).1.2 id).held⟩) := by
  obtain ⟨o, ho, h⟩ := Option.bind_eq_some_iff.mp h
  obtain ⟨⟨key, result⟩, hread, h⟩ := Option.bind_eq_some_iff.mp h
  obtain ⟨rfl, h⟩ := Option.ite_none_right_eq_some.mp h
  refine ⟨o, result, ho, hread, ?_⟩
  split at h
  · rename_i p id hp hid
    obtain ⟨-, h⟩ := Option.ite_none_right_eq_some.mp h
    cases h
    refine .inr ⟨p, id, hp, hid, ?_⟩
    simp only [grant]
    split
    · rfl
    · split <;> rfl
  · rename_i hnone
    cases h
    exact .inl ⟨fun p id hp hid => hnone p id hp hid, rfl⟩

theorem Sound.not_held (hs : s.Sound) (htracks : s.registry.Tracks p sub)
    (hfirst : sub.clientSubID = "") : s.held.lookup p = none := by
  refine Option.eq_none_iff_forall_ne_some.mpr fun h hp => ?_
  obtain ⟨hne, hclient⟩ := hs.held_first p h hp
  exact hne ((hclient sub htracks).symm.trans hfirst)

theorem sound_tracked {replay : Bool} (hs : s.Sound)
    (hclean : s.Clean json (.endpoint (some i) frame))
    (hi : s.outstanding[i]? = some ⟨sub.reqID, some p, replay⟩)
    (hread : readResponse json frame = some (sub.reqID, result)) (htracks : s.registry.Tracks p sub)
    (hfirst : replay = false → sub.clientSubID = "")
    (hgone : ∀ h, s.held.lookup p = some h → h.current = none)
    (hcases : json.rawString result = none ∧
        s' = ⟨(s.translate json frame).2, s.outstanding.eraseIdx i, s.held⟩ ∨
      ∃ id, json.rawString result = some id ∧
        s' = ⟨(s.translate json frame).2, s.outstanding.eraseIdx i,
          (s.grant p replay (s.translate json frame).1.2 id).held⟩) : s'.Sound := by
  have htarget := hs.listed.filed.target_eq htracks hread
  have hrest : (s.outstanding.eraseIdx i).Sublist s.outstanding := eraseIdx_sublist _ _
  have hother : ∀ o ∈ s.outstanding.eraseIdx i, o.key ≠ sub.reqID :=
    fun o ho => key_ne_of_mem_eraseIdx hs.keys_nodup hi ho
  rcases hcases with ⟨hrefused, rfl⟩ | ⟨id, hresult, rfl⟩
  · rw [translate, translate_of_target htarget, translateResponse, hrefused]
    exact sound_remove hs htracks hrest (fun o ho heq => absurd heq (hother o ho))
      (fun q h hq => hq) hgone
  · obtain ⟨hid, hfree⟩ := (hclean p sub result htarget).2 id hresult
    rw [translate, translate_of_target htarget, translateResponse, hresult]
    by_cases hpending : sub.clientSubID = ""
    · simp only [if_pos hpending]
      refine sound_set hs (replaces_freeze hs.listed.indexed htracks hpending id)
        (listed_freeze hs.listed htracks hpending hid) hfree hrest hother hid hid fun q h hq => ?_
      cases replay with
      | false => exact (lookup_insert_eq_some.mp hq).imp_left (.imp_right Eq.symm)
      | true =>
        -- a replay changes nothing as long as the client has not been given an id
        have hunheld := hs.not_held htracks hpending
        change (modify _ p s.held).lookup q = some h at hq
        rw [GoMap.modify, hunheld] at hq
        refine .inr ⟨?_, hq⟩
        rintro rfl
        cases hunheld.symm.trans hq
    · cases replay with
      | false => exact absurd (hfirst rfl) hpending
      | true =>
        simp only [if_neg hpending]
        refine sound_set hs (replaces_rebind htracks id)
          (listed_rebind hs.listed htracks hpending hid) hfree hrest hother hpending hid
          fun q h hq => ?_
        change (modify _ p s.held).lookup q = some h at hq
        rw [lookup_modify] at hq
        split_ifs at hq with hqp
        · subst hqp
          obtain ⟨old, hold, rfl⟩ := Option.map_eq_some_iff.mp hq
          refine .inl ⟨rfl, ?_⟩
          rw [(hs.held_first q old hold).2 sub htracks]
        · exact .inr ⟨hqp, hq⟩

theorem sound_answer (hs : s.Sound) (hclean : s.Clean json (.endpoint (some i) frame))
    (hstep : s.answer json i frame = some s') : s'.Sound := by
  obtain ⟨⟨k, subscription, replay⟩, result, hi, hread, hcases⟩ := answer_cases hstep
  have hasked := hs.asked _ (mem_of_getElem? hi)
  -- a response that no tracked subscription waits for
  have hforget (hfree : ∀ q sub, s.registry.Tracks q sub → sub.reqID ≠ k)
      (hheld : s'.held = s.held) : s'.Sound := by
    have htarget := hs.listed.indexed.target_eq_none hread hfree
    have heq : s' = { s with outstanding := s.outstanding.eraseIdx i } := by
      rcases hcases with ⟨-, rfl⟩ | ⟨_, _, -, -, rfl⟩
      · rw [translate, registry_of_no_target htarget]
      · change (s.grant _ _ _ _).held = s.held at hheld
        rw [hheld, translate, registry_of_no_target htarget]
    exact heq ▸ sound_forget hs
  cases subscription with
  | none =>
    refine hforget hasked ?_
    rcases hcases with ⟨-, rfl⟩ | ⟨p, id, hp, -⟩
    · rfl
    · cases hp
  | some p =>
    have hcases' : json.rawString result = none ∧
        s' = ⟨(s.translate json frame).2, s.outstanding.eraseIdx i, s.held⟩ ∨
      ∃ id, json.rawString result = some id ∧
        s' = ⟨(s.translate json frame).2, s.outstanding.eraseIdx i,
          (s.grant p replay (s.translate json frame).1.2 id).held⟩ := by
      rcases hcases with ⟨hresult, heq⟩ | ⟨p', id, hp', hid, heq⟩
      · exact .inl ⟨Option.eq_none_iff_forall_ne_some.mpr fun id => hresult p id rfl, heq⟩
      · cases hp'
        exact .inr ⟨id, hid, heq⟩
    cases replay with
    | false =>
      obtain ⟨sub, htracks, rfl, hfirst⟩ := hasked
      refine sound_tracked hs hclean hi hread htracks (fun _ => hfirst) (fun h hp => ?_) hcases'
      rw [hs.not_held htracks hfirst] at hp
      cases hp
    | true =>
      obtain ⟨-, hunique, hlive⟩ := hasked
      by_cases htracked : ∃ sub, s.registry.Tracks p sub
      · obtain ⟨sub, htracks⟩ := htracked
        obtain rfl : sub.reqID = k := (hunique p sub htracks).mp rfl
        exact sound_tracked hs hclean hi hread htracks nofun (fun h hp => (hlive h hp).1) hcases'
      · -- the client has unsubscribed since
        have hnone : s.held.lookup p = none :=
          Option.eq_none_iff_forall_ne_some.mpr fun h hp => htracked (hlive h hp).2
        refine hforget (fun q sub hq heq => htracked ⟨sub, (hunique q sub hq).mpr heq ▸ hq⟩) ?_
        rcases hcases' with ⟨-, rfl⟩ | ⟨id, -, rfl⟩
        · rfl
        · change modify _ p s.held = s.held
          rw [GoMap.modify, hnone]

theorem nodup_established {r : SubscriptionRegistry β} (h : r.Indexed) : r.established.Nodup := by
  refine h.order_nodup.filterMap fun q q' e he he' => ?_
  obtain ⟨sub, -, he⟩ := Option.bind_eq_some_iff.mp he
  obtain ⟨sub', -, he'⟩ := Option.bind_eq_some_iff.mp he'
  obtain ⟨-, heq⟩ := Option.ite_none_left_eq_some.mp he
  obtain ⟨-, heq'⟩ := Option.ite_none_left_eq_some.mp he'
  exact congrArg Prod.fst (Option.some.inj (heq.trans heq'.symm))

theorem sound_rebind (hs : s.Sound) : s.rebind.Sound := by
  have hheld : ∀ q h, s.rebind.held.lookup q = some h →
      ∃ h', s.held.lookup q = some h' ∧ h = { h' with current := none } := by
    intro q h hq
    obtain ⟨h', hq', heq⟩ := Option.map_eq_some_iff.mp (lookup_mapValues.symm.trans hq)
    exact ⟨h', hq', heq.symm⟩
  refine ⟨hs.listed, hs.exact, fun q h hq => ?_, fun q h hq => ?_, fun q h x hq hx => ?_, ?_,
    fun o ho => ?_⟩
  · obtain ⟨old, hold, -⟩ := hheld q h hq
    exact hs.held_lt q old hold
  · obtain ⟨old, hold, rfl⟩ := hheld q h hq
    exact hs.held_first q old hold
  · obtain ⟨old, -, rfl⟩ := hheld q h hq
    cases hx
  · change ((s.registry.established.map _).map Outstanding.key).Nodup
    rw [map_map]
    refine (nodup_established hs.listed.indexed).map_on fun a ha b hb heq => ?_
    obtain ⟨p, sub⟩ := a
    obtain ⟨q, sub'⟩ := b
    have hp := (mem_established.mp ha).1
    have hq := (mem_established.mp hb).1
    cases hs.listed.filed.eq_of_reqID hp hq heq
    cases hp.unique hq
    rfl
  · obtain ⟨⟨p, sub⟩, hp, rfl⟩ := mem_map.mp ho
    have htracks := (mem_established.mp hp).1
    refine ⟨hs.listed.indexed.order_lt p htracks.1, fun q sub' hq => ⟨?_, ?_⟩, fun h hq => ?_⟩
    · rintro rfl
      exact congrArg Subscription.reqID (hq.unique htracks)
    · exact fun heq => hs.listed.filed.eq_of_reqID hq htracks heq
    · obtain ⟨old, -, rfl⟩ := hheld p h hq
      exact ⟨rfl, sub, htracks⟩

theorem sound_step (hs : s.Sound) (hclean : s.Clean json e) (hstep : s.step json e = some s') :
    s'.Sound := by
  cases e with
  | client => exact sound_client hs hclean hstep
  | endpoint answers frame =>
    cases answers with
    | none =>
      have htarget : s.registry.target json frame = none :=
        Option.eq_none_iff_forall_ne_some.mpr fun e he => (hclean e.1 e.2.1 e.2.2 he).1 rfl
      cases hstep
      rw [translate, registry_of_no_target htarget]
      exact hs
    | some => exact sound_answer hs hclean hstep
  | rebind =>
    cases hstep
    exact sound_rebind hs

theorem sound_start : (start : Bridge β).Sound := by
  refine ⟨listed_new, fun p sub hp => absurd hp.1 not_mem_nil, fun p h hp => ?_, fun p h hp => ?_,
    fun p h x hp => ?_, nodup_nil, fun o ho => absurd ho not_mem_nil⟩
  · cases hp
  · cases hp
  · cases hp

end Steps

variable {es : List (BridgeEvent β)} {t : Bridge β}

/-- In every state that a clean run reaches, notifications carry the ids that the client holds. -/
theorem demultiplexes_of_clean (hrun : run (step json) start es = some t)
    (hclean : Machine.Meets (step json) (Clean json) start es) : t.Demultiplexes json := by
  have hsound : t.Sound :=
    invariant (fun _ _ _ hs hclean => sound_step hs hclean) sound_start hclean hrun
  exact hsound.demultiplexes json

theorem demultiplexes_after_rebind : ∃ t : Bridge RawTree,
    run (step .tree) start (subscribed "1" "0x1" ++
      [.rebind, .endpoint (some 0) (sampleResponse "1" "0x2")]) = some t ∧
    t.held.lookup 0 = some ⟨"0x1", some "0x2"⟩ ∧ t.Demultiplexes .tree := by
  refine exists_of_any (fun t => t.held.lookup 0 = some ⟨"0x1", some "0x2"⟩)
    (by decide +kernel) fun t hrun hheld => ?_
  exact ⟨hheld, demultiplexes_of_clean hrun (by decide +kernel)⟩

theorem rebind_swaps_ids : ∃ t : Bridge RawTree,
    run (step .tree) start (subscribed "1" "0x1" ++ subscribed "2" "0x2" ++
      [.rebind, .endpoint (some 0) (sampleResponse "1" "0x2"),
        .endpoint (some 0) (sampleResponse "2" "0x1")]) = some t ∧
    t.held.lookup 0 = some ⟨"0x1", some "0x2"⟩ ∧ t.held.lookup 1 = some ⟨"0x2", some "0x1"⟩ ∧
    ¬t.Demultiplexes .tree := by
  refine ⟨_, Option.eq_some_of_isSome (by decide +kernel), by decide +kernel, by decide +kernel,
    fun h => ?_⟩
  obtain ⟨out, hout, hnotification⟩ := h 0 "0x1" "0x2" _ (by decide +kernel)
    (isNotification_sample "0x2")
  obtain rfl := congrArg Prod.fst hout
  exact absurd hnotification.notificationID_eq (by decide +kernel)

/-- In every state that a clean run reaches, a rebind asks again, and once, for each subscription
that the client is served with. -/
theorem rebind_replays_held {p : ℕ} {c x : String} (hrun : run (step json) start es = some t)
    (hclean : Machine.Meets (step json) (Clean json) start es)
    (hheld : t.held.lookup p = some ⟨c, some x⟩) :
    t.rebind.outstanding.Nodup ∧ ∃! o, o ∈ t.rebind.outstanding ∧ o.subscription = some p := by
  have hs : t.Sound := invariant (fun _ _ _ => sound_step) sound_start hclean hrun
  obtain ⟨sub, hsub, -⟩ := hs.held_current p _ x hheld rfl
  obtain ⟨hc, hfirst⟩ := hs.held_first p _ hheld
  have hmem := mem_established.mpr ⟨hsub, hfirst sub hsub ▸ hc⟩
  refine ⟨(sound_rebind hs).keys_nodup.of_map _, _, ⟨mem_map_of_mem hmem, rfl⟩, ?_⟩
  rintro o ⟨ho, hp⟩
  obtain ⟨⟨q, sub'⟩, hq, rfl⟩ := mem_map.mp ho
  cases hp
  rw [(mem_established.mp hq).1.unique hsub]

theorem subscribed_replays : ∃ t : Bridge RawTree,
    run (step .tree) start (subscribed "1" "0x1") = some t ∧
    ∃! o, o ∈ t.rebind.outstanding ∧ o.subscription = some 0 := by
  refine exists_of_any (fun t => t.held.lookup 0 = some ⟨"0x1", some "0x1"⟩)
    (by decide +kernel) fun t hrun hheld => ?_
  exact (rebind_replays_held hrun (by decide +kernel) hheld).2

end Bridge

end PathGateway.Websockets
