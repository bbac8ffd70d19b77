import AddonCatalog.Proofs.Service.Writes

/-!
# Installing an installed addon again

An install that went through leaves its handler reporting the addon installed (for a scripted
handler always; the archive handler when its files say so). A second install of the same uid
then asks the same handler, provided its lookup resolves an addon of the same type and content
type: the handler found for an addon depends on nothing else, and the install does not touch the
handlers' choice, only the chosen handler's state. That handler reports the addon installed, so
the second install is refused before any call to the handler, and writes nothing.

The lookup of the second install need not resolve the addon of the first: the cache, which the
first install invalidates, is fetched again, and the remote catalog may list the uid otherwise
than the value the first lookup read from the cache.

* `installAddon_through`: an install that goes through announces `installed` and leaves the
  handlers and the files as the handler's install left them;
* `installAddon_refused`: an install whose handler reports the addon installed only announces
  the refusal;
* `install_again_refused`: a second install, whose lookup resolves an addon of the same type and
  content type, is refused.
-/

namespace AddonCatalog

open WorldM

namespace Service

variable {w w₁ w₂ : World} {a : Addon} {h : Handler} {st : RecordStore}

/-- An install that goes through announces `installed`; afterwards the handlers and the files
are as the handler's install left them, the service's id is as it was, and jobs stay deferred. -/
theorem installAddon_through (n : Nat) (hd : w₁.Defers) (hp : InstallGoesThrough w₁ a h w₂ st) :
    ∃ w', (installAddon (n + 1) a).runOn w₁ = (.ok (Event.installed a.uid), w') ∧
      w'.registry = w₂.registry ∧ w'.host.files = w₂.host.files ∧
      w'.service.serviceId = w₁.service.serviceId ∧ w'.Defers := by
  obtain ⟨hs₂, -⟩ := installWith_frame hp.install
  simp only [installAddon, runOn_bind, runOn_get, hp.handler]
  simp only [runOn_attempt, runOn_bind, handlerReports_runOn (Registry.handler?_of_find? hp.handler),
    hp.absent, Bool.false_eq_true, if_false, hp.install, onStore, runOn_get, hp.put, runOn_set,
    runOn_pure]
  -- the record is written: what is left is the end of a request that went through
  have hd₃ : World.Defers { w₂ with service := { w₂.service with store := st } } :=
    World.defers_of_jobs (by rw [hs₂]) hd
  obtain ⟨w', hr, -, hreg, hfiles, hid, hd'⟩ := finish_runOn n (Event.installed a.uid) hd₃
  simp only [runOn_bind] at hr
  exact ⟨w', hr, hreg, hfiles, hid.trans (by rw [hs₂]), hd'⟩

/-- An install whose handler reports the addon installed only announces the refusal. -/
theorem installAddon_refused (n : Nat) {v : World} {k : Handler}
    (hf : v.registry.find? a.type a.contentType = some k)
    (hk : k.isInstalled v.host.files a.uid = .ok true) :
    (installAddon (n + 1) a).runOn v = (emit (Event.failed a.uid alreadyInstalled)).runOn v := by
  simp only [installAddon, runOn_bind, runOn_get, hf]
  simp only [runOn_attempt, runOn_bind, handlerReports_runOn (Registry.handler?_of_find? hf), hk,
    if_true, runOn_pure]

/-- **Installing an installed addon again is refused.** With jobs deferred, take an install of a
uid that went through, with a handler that, once its install returned, reports the addon
installed. It announces `installed`. A second install of the uid then resolves the addon again;
when its lookup resolves an addon of the same type and content type, the second install is that
lookup followed by the announcement of the refusal, `Add-on is already installed.`: it calls no
handler and writes no record. Its lookup only trims the world, and once a snapshot is
published it runs no cycle, so the store stays as the first install left it. -/
theorem install_again_refused (fuel : Nat) (uid : String) {u : String} {a₂ : Addon}
    {h₂ : Handler} {w₁' : World} (hd : w.Defers)
    (hu : normalizeUid w.service.serviceId (.str uid) = .ok u)
    (hg : (getAddon fuel u).runOn w = (.ok (some a), w₁)) (hp : InstallGoesThrough w₁ a h w₂ st)
    (hh₂ : w₂.registry.handler? h.name = some h₂)
    (hreports : h₂.isInstalled w₂.host.files a.uid = .ok true)
    (hg₂ : (getAddon fuel u).runOn ((install fuel (.str uid)).runOn w).2 = (.ok (some a₂), w₁'))
    (hkind : a₂.type = a.type ∧ a₂.contentType = a.contentType) :
    ((install fuel (.str uid)).runOn w).1 = .ok (Event.installed u) ∧
      (install fuel (.str uid)).runOn ((install fuel (.str uid)).runOn w).2 =
        (emit (Event.failed u alreadyInstalled)).runOn w₁' ∧
      ((install fuel (.str uid)).runOn w).2.Trims w₁' ∧
      (((install fuel (.str uid)).runOn w).2.service.snapshot.isSome →
        w₁'.service.store = ((install fuel (.str uid)).runOn w).2.service.store) := by
  cases fuel with
  | zero => simp [getAddon] at hg
  | succ n =>
  have hau : a.uid = u := getAddon_uid (normalizeUid_normalized hu) hg a rfl
  have ht := trimming_getAddon (n + 1) u w hd
  rw [hg] at ht
  -- the first install: the lookup, then the install that goes through
  obtain ⟨w', hr, hreg, hfiles, hid, hd'⟩ := installAddon_through n (ht.defers hd) hp
  have hfirst : (install (n + 1) (.str uid)).runOn w = (.ok (Event.installed u), w') := by
    simp only [install, runOn_bind, service_runOn, runOn_lift, hu, runOn_attempt, hg]
    rw [hr, hau]
  rw [hfirst] at hg₂ ⊢
  have ht₂ := trimming_getAddon (n + 1) u w' hd'
  rw [hg₂] at ht₂
  -- the second install: the uid normalizes as before, and the lookup resolves `a₂`
  have hu₂ : normalizeUid w'.service.serviceId (.str uid) = .ok u := by
    rw [hid, ht.serviceId, hu]
  have ha₂u : a₂.uid = u := getAddon_uid (normalizeUid_normalized hu₂) hg₂ a₂ rfl
  -- the handler found for `a₂` is the one the first install used, in its new state
  have hf₂ : w₁'.registry.find? a₂.type a₂.contentType = some h₂ := by
    rw [ht₂.registry, hreg, hkind.1, hkind.2, find?_of_installWith hp.handler hp.install, hh₂]
  have hk₂ : h₂.isInstalled w₁'.host.files a₂.uid = .ok true := by
    rw [ht₂.files, hfiles, ha₂u, ← hau, hreports]
  refine ⟨rfl, ?_, ht₂, fun hs => ?_⟩
  · simp only [install, runOn_bind, service_runOn, runOn_lift, hu₂, runOn_attempt, hg₂]
    rw [installAddon_refused n hf₂ hk₂, ha₂u]
  · have hkeep := getAddon_published (n + 1) u hd' hs
    rw [hg₂] at hkeep
    simp only [trimView, Prod.mk.injEq] at hkeep
    obtain ⟨-, -, -, -, -, -, hstore⟩ := hkeep
    exact hstore

/-- A binding of the fake content type. -/
def fakeBinding : Addon :=
  { uid := "hub:binding:a", type := .binding, id := "a", contentType := "application/x-fake",
    version := "1.0" }

/-- A service with one fake handler and its jobs queued, whose remote catalog lists
`fakeBinding`. -/
def fakeBindingWorld : World :=
  { registry := { pool := [.scripted { name := "h" }], order := ["h"] },
    service := { serviceId := "hub", store := .memory [],
                 remote := .scripted [fakeBinding] none false, cache := { ttl := .whole 900 },
                 executor := .queue } }

theorem install_again_refused_fake :
    ((install 1 (.str "binding:a")).runOn fakeBindingWorld).1 =
        .ok (Event.installed "hub:binding:a") ∧
      (install 1 (.str "binding:a")).runOn ((install 1 (.str "binding:a")).runOn fakeBindingWorld).2 =
        (emit (Event.failed "hub:binding:a" alreadyInstalled)).runOn
          ((getAddon 1 "hub:binding:a").runOn
            ((install 1 (.str "binding:a")).runOn fakeBindingWorld).2).2 ∧
      ((install 1 (.str "binding:a")).runOn fakeBindingWorld).2.Trims
        ((getAddon 1 "hub:binding:a").runOn
          ((install 1 (.str "binding:a")).runOn fakeBindingWorld).2).2 ∧
      (((install 1 (.str "binding:a")).runOn fakeBindingWorld).2.service.snapshot.isSome →
        ((getAddon 1 "hub:binding:a").runOn
          ((install 1 (.str "binding:a")).runOn fakeBindingWorld).2).2.service.store =
          ((install 1 (.str "binding:a")).runOn fakeBindingWorld).2.service.store) :=
  @install_again_refused fakeBindingWorld _ _ (fakeBinding.withInstalled false)
    (.scripted { name := "h" }) _ 1 "binding:a" "hub:binding:a" (fakeBinding.withInstalled true)
    (.scripted (({ name := "h" } : ScriptedHandler).install (fakeBinding.withInstalled false)).2) _
    (.inr (by intro h; cases h)) rfl rfl ⟨rfl, rfl, rfl, rfl⟩ rfl rfl rfl ⟨rfl, rfl⟩

end Service

end AddonCatalog
