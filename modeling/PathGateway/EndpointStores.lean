import PathGateway.EvmSelection

/-! What the endpoint stores of the services have in common: endpoints that appear in a session
are marked as seen, a sweep removes the ones seen too long ago, and the heights that other
replicas have written are copied in. A store is told by how it looks at its entries. -/

namespace PathGateway

open GoMap Option List Machine AList

structure SeenView (ε : Type) where
  lastSeen : ε → Option Time
  touch : Time → ε → ε
  lastSeen_touch : ∀ now ep, lastSeen (touch now ep) = some now

structure HeightView (ε : Type) extends SeenView ε where
  hasHeight : ε → Bool
  setHeight : ℕ → ε → ε
  create : Time → ℕ → ε
  lastSeen_setHeight : ∀ h ep, lastSeen (setHeight h ep) = lastSeen ep
  lastSeen_create : ∀ now h, lastSeen (create now h) = some now

variable {ε : Type}

def observe {ω : Type} (applyObservation : ε → ω → Option ε) (fresh : ε)
    (r : GoMap EndpointAddr ε × GoMap EndpointAddr ε) (observation : EndpointAddr × ω) :
    GoMap EndpointAddr ε × GoMap EndpointAddr ε :=
  match applyObservation ((r.1.lookup observation.1).getD fresh) observation.2 with
  | none => r
  | some ep => (r.1.insert observation.1 ep, r.2.insert observation.1 ep)

theorem lookup_observe {ω : Type} (applyObservation : ε → ω → Option ε) (fresh : ε)
    (endpoints : GoMap EndpointAddr ε) (observations : List (EndpointAddr × ω)) (a : EndpointAddr) :
    (observations.foldl (observe applyObservation fresh) (endpoints, ∅)).1.lookup a =
    ((observations.foldl (observe applyObservation fresh) (endpoints, ∅)).2.lookup a).or
    (endpoints.lookup a) := by
  have hfold : ∀ r : GoMap EndpointAddr ε × GoMap EndpointAddr ε,
      r.1.lookup a = (r.2.lookup a).or (endpoints.lookup a) →
      (observations.foldl (observe applyObservation fresh) r).1.lookup a =
        ((observations.foldl (observe applyObservation fresh) r).2.lookup a).or
          (endpoints.lookup a) := by
    induction observations with
    | nil => exact fun r h => h
    | cons o observations ih =>
      intro r h
      refine ih _ ?_
      rw [observe]
      split
      · exact h
      · rw [lookup_insert_eq, lookup_insert_eq]
        split
        · rw [some_or]
        · exact h
  exact hfold (endpoints, ∅) rfl

theorem lookup_observe_of_not_mem {ω : Type} {applyObservation : ε → ω → Option ε} {fresh : ε}
    {a : EndpointAddr} {observations : List (EndpointAddr × ω)} (ha : ∀ o ∈ observations, o.1 ≠ a)
    (r : GoMap EndpointAddr ε × GoMap EndpointAddr ε) :
    (observations.foldl (observe applyObservation fresh) r).1.lookup a = r.1.lookup a := by
  induction observations generalizing r with
  | nil => rfl
  | cons o observations ih =>
    obtain ⟨ho, hos⟩ := forall_mem_cons.mp ha
    rw [foldl_cons, ih hos, observe]
    split
    · rfl
    · exact lookup_insert_ne ho.symm

def AgreeAt (good : ε → Prop) (endpoints endpoints₀ : GoMap EndpointAddr ε) (a : EndpointAddr) :
    Prop :=
  endpoints.lookup a = endpoints₀.lookup a ∧ ∀ ep, endpoints.lookup a = some ep → good ep

namespace AgreeAt

variable {good : ε → Prop} {endpoints endpoints₀ : GoMap EndpointAddr ε} {a addr : EndpointAddr}
  {ep ep₀ : ε}

theorem self_false_iff : AgreeAt (fun _ => False) endpoints endpoints a ↔
    endpoints.lookup a = none :=
  ⟨fun h => eq_none_iff_forall_ne_some.mpr h.2,
    fun h => ⟨rfl, eq_none_iff_forall_ne_some.mp h⟩⟩

theorem insert_of_ne (h : AgreeAt good endpoints endpoints₀ a) (hne : a ≠ addr) :
    AgreeAt good (endpoints.insert addr ep) (endpoints₀.insert addr ep₀) a := by
  rw [AgreeAt, lookup_insert_ne hne, lookup_insert_ne hne]
  exact h

theorem insert_self (hep : good ep) :
    AgreeAt good (endpoints.insert a ep) (endpoints₀.insert a ep) a := by
  rw [AgreeAt, lookup_insert, lookup_insert]
  exact ⟨rfl, fun ep' h => some.inj h ▸ hep⟩

theorem foldl {α : Type} (as : List α) {f : GoMap EndpointAddr ε → α → GoMap EndpointAddr ε}
    (hf : ∀ x ∈ as, ∀ m m₀, AgreeAt good m m₀ a → AgreeAt good (f m x) (f m₀ x) a)
    (h : AgreeAt good endpoints endpoints₀ a) :
    AgreeAt good (as.foldl f endpoints) (as.foldl f endpoints₀) a := by
  induction as generalizing endpoints endpoints₀ with
  | nil => exact h
  | cons x xs ih =>
    obtain ⟨hx, hxs⟩ := forall_mem_cons.mp hf
    exact ih hxs (hx endpoints endpoints₀ h)

theorem modify (f : ε → ε) (hf : ∀ ep, good ep → good (f ep)) (addr : EndpointAddr)
    (h : AgreeAt good endpoints endpoints₀ a) :
    AgreeAt good (modify f addr endpoints) (modify f addr endpoints₀) a := by
  obtain ⟨heq, hgood⟩ := h
  rw [AgreeAt, lookup_modify, lookup_modify, heq]
  refine ⟨rfl, fun ep hep => ?_⟩
  split at hep
  · obtain ⟨ep', hep', rfl⟩ := map_eq_some_iff.mp hep
    exact hf ep' (hgood ep' (heq.trans hep'))
  · exact hgood ep (heq.trans hep)

theorem retain (p : EndpointAddr → ε → Bool) (h : AgreeAt good endpoints endpoints₀ a) :
    AgreeAt good (retain p endpoints) (retain p endpoints₀) a := by
  obtain ⟨heq, hgood⟩ := h
  rw [AgreeAt, lookup_retain, lookup_retain, heq]
  refine ⟨rfl, fun ep hep => ?_⟩
  rw [← heq] at hep
  exact hgood ep (filter_eq_some_iff.mp hep).1

end AgreeAt

namespace SeenView

variable (view : SeenView ε) (now : Time)

def touchEndpoints (addrs : List EndpointAddr) (endpoints : GoMap EndpointAddr ε) :
    GoMap EndpointAddr ε :=
  addrs.foldl (fun endpoints addr => modify (view.touch now) addr endpoints) endpoints

/-- An entry that was never marked stays. -/
def sweepStaleEndpoints (ttl : ℕ) (endpoints : GoMap EndpointAddr ε) : GoMap EndpointAddr ε :=
  retain (fun _ ep =>
    !(view.lastSeen ep).elim false (fun lastSeen => lastSeen + ttl < now)) endpoints

def seen (endpoints : GoMap EndpointAddr ε) (addr : EndpointAddr) : Option (Option Time) :=
  (endpoints.lookup addr).map view.lastSeen

variable {view now} {endpoints endpoints' : GoMap EndpointAddr ε} {addr a : EndpointAddr} {ep : ε}

theorem seen_insert_self : view.seen (endpoints.insert addr ep) addr = some (view.lastSeen ep) := by
  rw [seen, lookup_insert, map_some]

theorem seen_insert_of_ne (hne : a ≠ addr) :
    view.seen (endpoints.insert addr ep) a = view.seen endpoints a := by
  rw [seen, lookup_insert_ne hne, seen]

def OnlyMarks (view : SeenView ε) (now : Time) (marked : EndpointAddr → Prop)
    (endpoints endpoints' : GoMap EndpointAddr ε) : Prop :=
  ∀ a lastSeen, view.seen endpoints' a = some (some lastSeen) →
    view.seen endpoints a = some (some lastSeen) ∨ lastSeen = now ∧ marked a

variable {marked : EndpointAddr → Prop}

theorem OnlyMarks.refl (view : SeenView ε) (now : Time) (marked : EndpointAddr → Prop)
    (endpoints : GoMap EndpointAddr ε) : view.OnlyMarks now marked endpoints endpoints :=
  fun _ _ h => .inl h

theorem OnlyMarks.trans {endpoints'' : GoMap EndpointAddr ε}
    (h : view.OnlyMarks now marked endpoints endpoints')
    (h' : view.OnlyMarks now marked endpoints' endpoints'') :
    view.OnlyMarks now marked endpoints endpoints'' := by
  intro a lastSeen hseen
  rcases h' a lastSeen hseen with hold | hnew
  · exact h a lastSeen hold
  · exact .inr hnew

theorem OnlyMarks.mono {marked' : EndpointAddr → Prop} (hmarked : ∀ a, marked a → marked' a)
    (h : view.OnlyMarks now marked endpoints endpoints') :
    view.OnlyMarks now marked' endpoints endpoints' :=
  fun a lastSeen hseen => (h a lastSeen hseen).imp_right (And.imp_right (hmarked a))

theorem OnlyMarks.insert
    (hep : view.lastSeen ep = none ∨ (view.seen endpoints addr = some (view.lastSeen ep)) ∨
      (view.lastSeen ep = some now ∧ marked addr)) :
    view.OnlyMarks now marked endpoints (endpoints.insert addr ep) := by
  intro a lastSeen hseen
  by_cases ha : a = addr
  · subst ha
    rw [seen_insert_self, some.injEq] at hseen
    rcases hep with hnone | hsame | ⟨hnow, hmarked⟩
    · rw [hnone] at hseen
      cases hseen
    · exact .inl (hsame.trans (congrArg some hseen))
    · exact .inr ⟨(some.inj (hnow.symm.trans hseen)).symm, hmarked⟩
  · rw [seen_insert_of_ne ha] at hseen
    exact .inl hseen

theorem OnlyMarks.foldl {α : Type} (as : List α)
    (f : GoMap EndpointAddr ε → α → GoMap EndpointAddr ε)
    (hf : ∀ x ∈ as, ∀ endpoints, view.OnlyMarks now marked endpoints (f endpoints x)) :
    view.OnlyMarks now marked endpoints (as.foldl f endpoints) := by
  induction as generalizing endpoints with
  | nil => exact .refl view now marked endpoints
  | cons x xs ih =>
    obtain ⟨hx, hxs⟩ := forall_mem_cons.mp hf
    exact (hx endpoints).trans (ih hxs)

theorem agreeAt_touchEndpoints {good : ε → Prop} (hgood : ∀ ep, good ep → good (view.touch now ep))
    (addrs : List EndpointAddr) (h : AgreeAt good endpoints endpoints' a) :
    AgreeAt good
      (view.touchEndpoints now addrs endpoints) (view.touchEndpoints now addrs endpoints') a := by
  refine .foldl addrs (fun addr _ m m₀ hm => ?_) h
  exact hm.modify (view.touch now) hgood addr

theorem onlyMarks_touchEndpoints (addrs : List EndpointAddr) :
    view.OnlyMarks now (· ∈ addrs) endpoints (view.touchEndpoints now addrs endpoints) := by
  refine .foldl addrs _ fun addr haddr endpoints => ?_
  rw [GoMap.modify]
  split
  · exact .refl view now _ endpoints
  · exact .insert (.inr (.inr ⟨view.lastSeen_touch now _, haddr⟩))

theorem OnlyMarks.update {fresh : ε} (hfresh : view.lastSeen fresh = none)
    (hep : view.lastSeen ep = view.lastSeen ((endpoints.lookup addr).getD fresh)) :
    view.OnlyMarks now marked endpoints (endpoints.insert addr ep) := by
  refine .insert ?_
  rw [hep, seen]
  cases endpoints.lookup addr with
  | none => exact .inl hfresh
  | some => exact .inr (.inl rfl)

theorem onlyMarks_observe {ω : Type}
    {applyObservation : ε → ω → Option ε} {fresh : ε} (hfresh : view.lastSeen fresh = none)
    (happly : ∀ ep o ep', applyObservation ep o = some ep' → view.lastSeen ep' = view.lastSeen ep)
    (observations : List (EndpointAddr × ω)) (updated : GoMap EndpointAddr ε) :
    view.OnlyMarks now marked endpoints
      (observations.foldl (observe applyObservation fresh) (endpoints, updated)).1 := by
  induction observations generalizing endpoints updated with
  | nil => exact .refl view now marked endpoints
  | cons o observations ih =>
    rw [foldl_cons, observe]
    split
    · exact ih updated
    · rename_i ep hep
      exact (OnlyMarks.update hfresh (happly _ _ _ hep)).trans (ih _)

theorem seen_sweepStaleEndpoints (ttl : ℕ) (a : EndpointAddr) :
    view.seen (view.sweepStaleEndpoints now ttl endpoints) a = (view.seen endpoints a).filter
      (fun mark => !mark.elim false (fun lastSeen => lastSeen + ttl < now)) := by
  rw [seen, sweepStaleEndpoints, lookup_retain, seen]
  cases endpoints.lookup a with
  | none => rfl
  | some =>
    rw [filter_some, map_some, filter_some]
    split <;> rfl

theorem onlyMarks_sweepStaleEndpoints (marked : EndpointAddr → Prop) (ttl : ℕ) :
    view.OnlyMarks now marked endpoints (view.sweepStaleEndpoints now ttl endpoints) := by
  intro a lastSeen hseen
  rw [seen_sweepStaleEndpoints, filter_eq_some_iff] at hseen
  exact .inl hseen.1

section Runs

variable {σ ι : Type} {step : σ → ι → Option σ} {store : σ → GoMap EndpointAddr ε}
  {time : ι → Time} {shows syncs : ι → EndpointAddr → Prop} {s t : σ} {es : List ι}

def Live (time : ι → Time) (shows : ι → EndpointAddr → Prop) (ttl : ℕ) (now : Time) (es : List ι)
    (a : EndpointAddr) : Prop :=
  ∃ e ∈ es, shows e a ∧ now ≤ time e + ttl

/-- A sweep at `now` keeps the endpoint though no session has marked it: it has no mark, or the
one with which a sync has created it. -/
def KeptUnseen (view : SeenView ε) (time : ι → Time) (syncs : ι → EndpointAddr → Prop) (ttl : ℕ)
    (now : Time) (es : List ι) (endpoints : GoMap EndpointAddr ε) (a : EndpointAddr) : Prop :=
  view.seen endpoints a = some none ∨
    ∃ e ∈ es, syncs e a ∧ view.seen endpoints a = some (some (time e)) ∧ now ≤ time e + ttl

theorem exists_event_of_seen
    (hstep : ∀ s e s', step s e = some s' → view.OnlyMarks (time e) (shows e) (store s) (store s'))
    (hstart : store s = ∅) (hrun : run step s es = some t) {lastSeen : Time}
    (hseen : view.seen (store t) a = some (some lastSeen)) :
    ∃ e ∈ es, shows e a ∧ time e = lastSeen := by
  have hback : view.seen (store s) a = some (some lastSeen) ∨
      ∃ e ∈ es, shows e a ∧ time e = lastSeen := by
    clear hstart
    induction es generalizing s with
    | nil => exact .inl (some.inj hrun ▸ hseen)
    | cons e es ih =>
      obtain ⟨s', he, hrun⟩ := run_cons.mp hrun
      rcases ih hrun with hs' | ⟨e', he', hshows, htime⟩
      · rcases hstep s e s' he a lastSeen hs' with hs | ⟨htime, hshows⟩
        · exact .inl hs
        · exact .inr ⟨e, mem_cons_self, hshows, htime.symm⟩
      · exact .inr ⟨e', mem_cons_of_mem e he', hshows, htime⟩
  rcases hback with hs | he
  · rw [hstart] at hs
    cases hs
  · exact he

theorem mem_sweepStaleEndpoints {ttl : ℕ} :
    a ∈ view.sweepStaleEndpoints now ttl endpoints ↔
      view.seen endpoints a = some none ∨
        ∃ lastSeen, view.seen endpoints a = some (some lastSeen) ∧ now ≤ lastSeen + ttl := by
  have hstored : a ∈ view.sweepStaleEndpoints now ttl endpoints ↔
      (view.seen (view.sweepStaleEndpoints now ttl endpoints) a).isSome = true := by
    rw [← lookup_isSome, seen, isSome_map]
  rw [hstored, seen_sweepStaleEndpoints]
  rcases view.seen endpoints a with - | (- | lastSeen)
  · simp
  · simp
  · simp [filter_some]

theorem live_of_sweep_iff (store : σ → GoMap EndpointAddr ε) {ttl : ℕ}
    (hstep : ∀ s e s', step s e = some s' →
      view.OnlyMarks (time e) (fun a => shows e a ∨ syncs e a) (store s) (store s'))
    (hstart : store s = ∅) (hrun : run step s es = some t) :
    (∀ a ∈ view.sweepStaleEndpoints now ttl (store t), Live time shows ttl now es a) ↔
      ∀ a, KeptUnseen view time syncs ttl now es (store t) a → Live time shows ttl now es a := by
  constructor
  · rintro h a (hunmarked | ⟨e, he, -, hseen, hfresh⟩)
    · exact h a (mem_sweepStaleEndpoints.mpr (.inl hunmarked))
    · exact h a (mem_sweepStaleEndpoints.mpr (.inr ⟨time e, hseen, hfresh⟩))
  · intro h a ha
    rcases mem_sweepStaleEndpoints.mp ha with hunmarked | ⟨lastSeen, hseen, hfresh⟩
    · exact h a (.inl hunmarked)
    · obtain ⟨e, he, hmarks, rfl⟩ := exists_event_of_seen hstep hstart hrun hseen
      rcases hmarks with hshows | hsyncs
      · exact ⟨e, he, hshows, hfresh⟩
      · exact h a (.inr ⟨e, he, hsyncs, hseen, hfresh⟩)

end Runs

end SeenView

namespace HeightView

variable (view : HeightView ε) (now : Time)

def urlHeights (heights : GoMap EndpointAddr ℕ) : GoMap String ℕ :=
  heights.entries.foldl (fun urlHeights entry =>
    (Evm.getURL entry.1).elim urlHeights
      (fun url => Evm.ServiceState.keepLower urlHeights url entry.2)) ∅

variable (heights : GoMap EndpointAddr ℕ) (endpoints : GoMap EndpointAddr ε)

def storeHeights : GoMap EndpointAddr ε :=
  heights.entries.foldl (fun endpoints entry =>
    match endpoints.lookup entry.1 with
    | none => endpoints.insert entry.1 (view.create now entry.2)
    | some ep => endpoints.insert entry.1 (view.setHeight entry.2 ep)) endpoints

def fillHeights (urlHeights : GoMap String ℕ) (endpoints : GoMap EndpointAddr ε) :
    GoMap EndpointAddr ε :=
  endpoints.keys.foldl (fun endpoints addr =>
    match endpoints.lookup addr, (Evm.getURL addr).bind (fun url => urlHeights.lookup url) with
    | some ep, some h =>
      if view.hasHeight ep then endpoints else endpoints.insert addr (view.setHeight h ep)
    | _, _ => endpoints) endpoints

def syncEndpointBlocksFromRedis : GoMap EndpointAddr ε :=
  if isEmpty heights then endpoints
  else view.fillHeights (urlHeights heights) (view.storeHeights now heights endpoints)

variable {view now} {endpoints : GoMap EndpointAddr ε}

theorem seen_setHeight {addr : EndpointAddr}
    {ep : ε} {h : ℕ} (hep : endpoints.lookup addr = some ep) :
    view.seen endpoints addr = some (view.lastSeen (view.setHeight h ep)) := by
  rw [SeenView.seen, hep, map_some, view.lastSeen_setHeight]

theorem onlyMarks_storeHeights (heights : GoMap EndpointAddr ℕ) :
    view.OnlyMarks now (· ∈ heights.keys) endpoints (view.storeHeights now heights endpoints) := by
  refine .foldl heights.entries _ fun entry hentry endpoints => ?_
  have hkey : entry.1 ∈ heights.keys := mem_map_of_mem hentry
  split
  · exact .insert (.inr (.inr ⟨view.lastSeen_create now entry.2, hkey⟩))
  · exact .insert (.inr (.inl (seen_setHeight ‹_›)))

theorem onlyMarks_fillHeights (marked : EndpointAddr → Prop) (urlHeights : GoMap String ℕ) :
    view.OnlyMarks now marked endpoints (view.fillHeights urlHeights endpoints) := by
  refine .foldl endpoints.keys _ fun addr _ endpoints => ?_
  split
  · rename_i ep h hep hurl
    split
    · exact .refl _ now marked endpoints
    · exact .insert (.inr (.inl (seen_setHeight hep)))
  · exact .refl _ now marked endpoints

theorem onlyMarks_syncEndpointBlocksFromRedis (heights : GoMap EndpointAddr ℕ) :
    view.OnlyMarks now
      (· ∈ heights.keys) endpoints (view.syncEndpointBlocksFromRedis now heights endpoints) := by
  rw [syncEndpointBlocksFromRedis]
  split
  · exact .refl _ now _ endpoints
  · exact (onlyMarks_storeHeights heights).trans (onlyMarks_fillHeights _ _)

end HeightView

end PathGateway
