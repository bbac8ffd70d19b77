import AddonCatalog.Proofs.Service.Depth
import AddonCatalog.Proofs.Service.Cycle

/-!
# Requests answer with their event

An install or an uninstall never fails: whatever the handlers, the record store or the
remote source do, its outcome is emitted as an event and that event is the answer.

* `Announces w uid m`: run from `w`, `m` succeeds with an event naming `uid` that is the
  last event it emitted; with jobs deferred it emitted no other.
* `Quiet`: a step that always succeeds and only adds to the event log, and adds nothing
  to it when jobs are deferred. Resolving an addon and running a cycle quietly are such
  steps, by `events_prefix_*` at every depth and `keepsDeferred_*` with jobs deferred.
* `requests_announce`: both requests announce the normalized uid. The uid of the resolved
  addon is the one asked for (`getAddon_uid`), since normalizing a normalized uid changes
  nothing (`normalizeUid_normalized`).
-/

namespace AddonCatalog

open WorldM

namespace Event

@[simp] theorem uid_failed (uid message : String) : (failed uid message).uid = uid := rfl

@[simp] theorem uid_installed (uid : String) : (installed uid).uid = uid := rfl

@[simp] theorem uid_uninstalled (uid : String) : (uninstalled uid).uid = uid := rfl

end Event

namespace Service

/-! ### The uid of a request -/

/-- The number of colons of a text. -/
theorem normalizeUid_str (sid u : String) :
    normalizeUid sid (.str u) =
      .ok (if (u.toList.filter (· == ':')).length == 1 then sid ++ ":" ++ u else u) := rfl

/-- A normalized uid is its own normal form: prefixing a bare `type:id` adds a second
colon. -/
theorem normalizeUid_normalized {sid u v : String} (h : normalizeUid sid (.str u) = .ok v) :
    normalizeUid sid (.str v) = .ok v := by
  rw [normalizeUid_str, Except.ok.injEq] at h
  subst h
  by_cases hu : ((u.toList.filter (· == ':')).length == 1) = true
  · have hone : (u.toList.filter (· == ':')).length = 1 := by simpa using hu
    have hcolons : ¬(((sid ++ ":" ++ u).toList.filter (· == ':')).length == 1) = true := by
      simp only [String.toList_append, List.filter_append, List.length_append, hone, beq_iff_eq]
      simp
    simp only [normalizeUid_str, hu, if_true, hcolons, Bool.false_eq_true, if_false]
  · simp [normalizeUid_str, hu]

theorem uid_of_mem_find? {l : List Addon} {u : String} {a : Addon}
    (h : a ∈ l.find? (·.uid == u)) : a.uid = u := by
  simpa using List.find?_some h

theorem Returns.of_runOn {α : Type} {m : WorldM α} {R : α → Prop} {w w' : World} {a : α}
    (h : m.runOn w = (.ok a, w')) (hR : Returns m R) : R a :=
  hR w a (by rw [h])

theorem returns_true {α : Type} (m : WorldM α) : Returns m fun _ => True := fun _ _ _ => trivial

theorem Returns.attempt {α : Type} {m : WorldM α} {R : α → Prop} (h : Returns m R) :
    Returns (attempt m) fun r => ∀ a, r = .ok a → R a := by
  intro w r hr a ha
  rw [runOn_attempt] at hr
  cases hr
  exact h w a ha

/-- The remote source answers a lookup with an addon of the uid asked for, if any. -/
theorem returns_lookupRemote (uid : String) :
    Returns (lookupRemote uid) fun o => ∀ a ∈ o, a.uid = uid := by
  refine (returns_true _).bind fun s _ => ?_
  split
  · refine (returns_true _).bind fun _ _ => ?_
    split
    · exact returns_throw _
    · exact returns_pure fun _ => uid_of_mem_find?
  · exact (returns_true _).bind fun _ _ => returns_pure fun _ => uid_of_mem_find?
  · exact returns_pure (by simp)

/-- A found addon has the uid asked for, once that uid is normalized. -/
theorem getAddon_uid {fuel : ℕ} {w w' : World} {u v : String} {o : Option Addon}
    (hu : normalizeUid w.service.serviceId (.str u) = .ok v)
    (h : (getAddon fuel u).runOn w = (.ok o, w')) : ∀ a ∈ o, a.uid = v := by
  cases fuel with
  | zero =>
    simp only [getAddon, runOn_pure, Prod.mk.injEq, Except.ok.injEq] at h
    simp [← h.1]
  | succ n =>
    simp only [getAddon, runOn_bind, service_runOn, hu] at h
    refine Returns.of_runOn (R := fun o => ∀ a ∈ o, a.uid = v) h ?_
    refine returns_ite_then ?_
    refine (returns_true _).bind fun cur _ => ?_
    split
    · rename_i a ha
      exact returns_pure fun b hb => uid_of_mem_find? (ha ▸ hb)
    refine (returns_true _).bind fun _ _ => ?_
    split
    · exact returns_pure (by simp)
    refine (returns_true _).bind fun _ _ => ?_
    refine Returns.bind (Returns.attempt (R := fun o => ∀ a ∈ o, a.uid = v) ?_) fun found hfound => ?_
    · -- a remote lookup, by the source or through the cache
      split
      · exact returns_lookupRemote _
      · exact (returns_true _).bind fun _ _ => returns_pure fun _ => uid_of_mem_find?
    split
    · rename_i a
      exact (returns_true _).bind fun _ _ =>
        returns_pure fun b hb => by
          rw [Option.mem_some_iff] at hb
          rw [← hb]
          exact hfound (some a) rfl a rfl
    · exact returns_pure (by simp)

/-! ### Quiet steps -/

/-- The event log is a view that a cycle with jobs deferred leaves alone. -/
theorem offstage_events : Offstage (·.service.events) :=
  ⟨⟨fun _ _ => rfl, fun _ _ => rfl, fun _ _ => rfl, fun _ _ => rfl, fun _ _ => rfl,
    fun _ _ => rfl⟩, fun _ _ _ => rfl, fun _ _ => rfl⟩

/-- A step that always succeeds and only adds to the event log; with jobs deferred it adds
nothing and jobs stay deferred. -/
def Quiet {α : Type} (x : WorldM α) : Prop :=
  ∀ w, (∃ a, (x.runOn w).1 = .ok a) ∧ w.service.events <+: (x.runOn w).2.service.events ∧
    (w.Defers → (x.runOn w).2.service.events = w.service.events ∧ (x.runOn w).2.Defers)

section Quiet

variable {α β : Type} {x : WorldM α}

theorem quiet_pure (a : α) : Quiet (pure a : WorldM α) :=
  fun _ => ⟨⟨a, rfl⟩, List.prefix_refl _, fun hd => ⟨rfl, hd⟩⟩

theorem quiet_get : Quiet get := fun w => ⟨⟨w, rfl⟩, List.prefix_refl _, fun hd => ⟨rfl, hd⟩⟩

theorem quiet_service : Quiet service :=
  fun w => ⟨⟨w.service, rfl⟩, List.prefix_refl _, fun hd => ⟨rfl, hd⟩⟩

theorem quiet_modifyCache :
    Quiet (modifyService fun s => { s with cache := s.cache.invalidate }) :=
  fun _ => ⟨⟨(), rfl⟩, List.prefix_refl _, fun hd => ⟨rfl, hd⟩⟩

/-- An attempt always succeeds; it is quiet when the attempted step only adds to the log and
keeps it with jobs deferred. -/
theorem quiet_attempt (hg : ∀ w, w.service.events <+: (x.runOn w).2.service.events)
    (hd : KeepsDeferred (·.service.events) x) : Quiet (attempt x) := fun w => by
  simp only [runOn_attempt]
  exact ⟨⟨_, rfl⟩, hg w, hd w⟩

theorem quiet_attempt_of_keeps (h : ∀ {δ : Type} (v : World → δ), Untouched v → Keeps v x) :
    Quiet (attempt x) :=
  quiet_attempt (fun w => by
      have hkeep : (x.runOn w).2.service.events = w.service.events := h _ offstage_events.toUntouched w
      exact hkeep ▸ List.prefix_refl _)
    (keepsDeferred_of_untouched offstage_events.toUntouched h)

theorem quiet_refreshQuietly (fuel : ℕ) : Quiet (refreshQuietly fuel) := by
  refine fun w => ⟨?_, events_prefix_refreshQuietly fuel w,
    keepsDeferred_refreshQuietly offstage_events fuel w⟩
  cases fuel with
  | zero => exact ⟨(), rfl⟩
  | succ n => exact ⟨(), by simp only [refreshQuietly, runOn_bind, runOn_attempt]; rfl⟩

theorem quiet_attempt_getAddon (fuel : ℕ) (uid : String) : Quiet (attempt (getAddon fuel uid)) :=
  quiet_attempt (events_prefix_getAddon fuel uid) (keepsDeferred_getAddon offstage_events fuel uid)

end Quiet

/-! ### Announcing -/

/-- Run from `w`, the request `m` succeeds with an event naming `uid`, the last event it
emitted; with jobs deferred, the only one. -/
def Announces (w : World) (uid : String) (m : WorldM Event) : Prop :=
  ∃ e w', m.runOn w = (.ok e, w') ∧ e.uid = uid ∧
    (∃ L, w'.service.events = L ++ [e] ∧ w.service.events <+: L) ∧
    (w.Defers → w'.service.events = w.service.events ++ [e])

section Announces

variable {α : Type} {x : WorldM α} {k : α → WorldM Event} {w : World} {uid : String}

theorem announces_emit (w : World) {e : Event} (he : e.uid = uid) : Announces w uid (emit e) :=
  ⟨e, _, rfl, he, ⟨w.service.events, rfl, List.prefix_refl _⟩, fun _ => rfl⟩

/-- A quiet step before an announcing request keeps it announcing. -/
theorem Announces.quiet_bind (hx : Quiet x)
    (hk : ∀ a w₁, x.runOn w = (.ok a, w₁) → Announces w₁ uid (k a)) : Announces w uid (x >>= k) := by
  obtain ⟨⟨a, ha⟩, hgrow, hdef⟩ := hx w
  have hrun : x.runOn w = (.ok a, (x.runOn w).2) := Prod.ext ha rfl
  obtain ⟨e, w', hk', he, ⟨L, hL, hpre⟩, hdef'⟩ := hk a _ hrun
  refine ⟨e, w', by rw [runOn_bind, hrun]; exact hk', he, ⟨L, hL, hgrow.trans hpre⟩, fun hd => ?_⟩
  obtain ⟨hsame, hd'⟩ := hdef hd
  rw [hdef' hd', hsame]

end Announces

/-- Installing a resolved addon announces its uid, at every depth. -/
theorem installAddon_announces : ∀ (fuel : ℕ) (a : Addon) (w : World),
    Announces w a.uid (installAddon fuel a)
  | 0, a, w => announces_emit w rfl
  | n + 1, a, w => by
    simp only [installAddon]
    refine Announces.quiet_bind quiet_get fun v w₁ _ => ?_
    split
    · exact announces_emit w₁ rfl
    refine Announces.quiet_bind (quiet_attempt_of_keeps fun _ hv => ?_) fun outcome w₂ _ => ?_
    · refine (keeps_handlerReports _ _).bind fun _ => ?_
      split
      · exact keeps_pure _
      · exact (keeps_installWith hv _ _).bind fun _ => (keeps_onStore hv _).bind fun _ => keeps_pure _
    split
    · exact announces_emit w₂ rfl
    · exact announces_emit w₂ rfl
    · exact Announces.quiet_bind quiet_modifyCache fun _ w₃ _ =>
        Announces.quiet_bind (quiet_refreshQuietly n) fun _ w₄ _ => announces_emit w₄ rfl

/-- An install of a uid text announces the normalized uid. -/
theorem install_announces (fuel : ℕ) (w : World) {u v : String}
    (hv : normalizeUid w.service.serviceId (.str u) = .ok v) :
    Announces w v (install fuel (.str u)) := by
  simp only [install]
  refine Announces.quiet_bind quiet_service fun s w₁ hs => ?_
  rw [service_runOn, Prod.mk.injEq, Except.ok.injEq] at hs
  obtain ⟨rfl, rfl⟩ := hs
  rw [hv]
  refine Announces.quiet_bind (quiet_pure v) fun u' w₁ hu' => ?_
  rw [runOn_lift, Prod.mk.injEq, Except.ok.injEq] at hu'
  obtain ⟨rfl, rfl⟩ := hu'
  refine Announces.quiet_bind (quiet_attempt_getAddon fuel v) fun o w₂ ho => ?_
  split
  · -- the addon found has the uid asked for
    rename_i a
    rw [runOn_attempt, Prod.mk.injEq, Except.ok.injEq] at ho
    have hrun : (getAddon fuel v).runOn w = (.ok (some a), w₂) := Prod.ext ho.1 ho.2
    have ha := getAddon_uid (normalizeUid_normalized hv) hrun a rfl
    exact ha ▸ installAddon_announces fuel a w₂
  · exact announces_emit w₂ rfl

/-- An uninstall of a uid text announces the normalized uid. -/
theorem uninstall_announces (fuel : ℕ) (w : World) {u v : String}
    (hv : normalizeUid w.service.serviceId (.str u) = .ok v) :
    Announces w v (uninstall fuel (.str u)) := by
  simp only [uninstall]
  refine Announces.quiet_bind quiet_service fun s w₁ hs => ?_
  rw [service_runOn, Prod.mk.injEq, Except.ok.injEq] at hs
  obtain ⟨rfl, rfl⟩ := hs
  rw [hv]
  refine Announces.quiet_bind (quiet_pure v) fun u' w₁ hu' => ?_
  rw [runOn_lift, Prod.mk.injEq, Except.ok.injEq] at hu'
  obtain ⟨rfl, rfl⟩ := hu'
  refine Announces.quiet_bind (quiet_attempt_getAddon fuel v) fun o w₂ _ => ?_
  split
  · refine Announces.quiet_bind quiet_get fun _ w₃ _ => ?_
    split
    · exact announces_emit w₃ rfl
    refine Announces.quiet_bind (quiet_attempt_of_keeps fun _ hv => ?_) fun outcome w₄ _ => ?_
    · refine (keeps_handlerReports _ _).bind fun _ => ?_
      split
      · exact (keeps_onStore hv _).bind fun _ => keeps_pure _
      · exact (keeps_uninstallWith hv _ _).bind fun _ =>
          (keeps_onStore hv _).bind fun _ => keeps_pure _
    split
    · exact announces_emit w₄ rfl
    · exact announces_emit w₄ rfl
    · exact Announces.quiet_bind quiet_modifyCache fun _ w₅ _ =>
        Announces.quiet_bind (quiet_refreshQuietly fuel) fun _ w₆ _ => announces_emit w₆ rfl
  · exact announces_emit w₂ rfl

end Service

end AddonCatalog
