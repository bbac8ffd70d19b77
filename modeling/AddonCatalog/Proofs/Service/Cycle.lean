import AddonCatalog.Proofs.Service.Logic
import AddonCatalog.Proofs.Addon.Merge
/-!
# What a published reconciliation read

A reconciliation cycle (`Service.refreshSource`) reads the handlers' answers, the policy,
the stored records and the remote catalog, and publishes a merge of them. This module
names what the cycle reads from the world it starts in (`World.answer`, `World.policy`,
`World.recordAddons`, `World.remoteAnswer`) and proves that a published result is the
deduplication of `World.survivors`, the merge input built from those reads alone
(`Service.refreshSource_published`).

Two facts carry the proof: asking the handlers changes nothing, so every answer of the
cycle is an answer of the starting world; and removing the records of missing addons
changes only the store, which the remote read neither reads nor writes
(`WorldM.StoreFrame`).
-/

namespace AddonCatalog

open WorldM List

/-! ### What a cycle reads -/

namespace World

/-- What the handlers answer when asked whether a uid is installed. -/
def answer (w : World) (u : String) : Except Failure Bool := w.registry.isInstalled w.host.files u

/-- Whether the handlers report a uid installed; a failed answer counts as not. -/
def reportsInstalled (w : World) (u : String) : Bool := (w.answer u).toOption.getD false

/-- The policy a reconciliation reads; a failure gives the defaults. -/
def policy (w : World) : Policy :=
  match Service.policyOf w.host.files w.service.policy with
  | .ok p => p
  | .error _ => {}

/-- The remote catalog as the cache gives it; a failure gives nothing. -/
def remoteAnswer (w : World) : List Addon :=
  match (Service.remoteValue.runOn w).1 with
  | .ok v => v
  | .error _ => []

/-- The remote entries a reconciliation merges. -/
def remoteEntries (w : World) : List Addon := if w.policy.remoteEnabled then w.remoteAnswer else []

/-- The addons of the stored records that read. -/
def recordAddons (w : World) : List Addon :=
  match w.service.store.getAll with
  | .ok records => (Service.readRecords records).1
  | .error _ => []

/-- The stored addons the handlers report installed, marked installed. -/
def installedEntries (w : World) : List Addon :=
  (w.recordAddons.filter fun a => w.reportsInstalled a.uid).map (·.withInstalled true)

/-- The entries a reconciliation deduplicates. -/
def survivors (w : World) : List Addon :=
  mergeInput w.installedEntries w.remoteEntries w.policy.includeIncompatible w.reportsInstalled

theorem reportsInstalled_of_answer {w : World} {u : String} {b : Bool} (h : w.answer u = .ok b) :
    w.reportsInstalled u = b := by
  simp [reportsInstalled, h, Except.toOption]

theorem reportsInstalled_eq {w w' : World} (h : w.answer = w'.answer) :
    w.reportsInstalled = w'.reportsInstalled := by
  funext u
  simp only [reportsInstalled, h]

end World

/-! ### Reading the records -/

namespace Service

/-- The addon a record holds, when it reads. -/
def recordAddon? (kv : Json × Json) : Option Addon :=
  match kv.2.str?.map Addon.ofRecord with
  | some (.ok a) => some a
  | _ => none

theorem readRecords_fst (records : List (Json × Json)) :
    (readRecords records).1 = records.filterMap recordAddon? := by
  induction records with
  | nil => rfl
  | cons kv rest ih =>
    obtain ⟨k, v⟩ := kv
    simp only [readRecords, List.filterMap_cons, recordAddon?]
    rcases v.str?.map Addon.ofRecord with _ | (_ | a) <;> simp [ih]

/-- The records' order decides only the order of the addons read from them. -/
theorem readRecords_perm {records records' : List (Json × Json)} (h : records ~ records') :
    (readRecords records).1 ~ (readRecords records').1 := by
  rw [readRecords_fst, readRecords_fst]
  exact h.filterMap _

/-! ### The remote read -/

theorem storeFrame_fetchRemote : StoreFrame fetchRemote := by
  refine storeFrame_service_bind (fun s => ?_) fun _ _ => rfl
  rcases s.remote with _ | ⟨addons, error, _⟩ | ⟨src, timeout⟩
  · exact storeFrame_pure _
  · refine StoreFrame.bind (storeFrame_modifyService fun _ _ => rfl) fun _ => ?_
    cases error
    · exact storeFrame_pure _
    · exact storeFrame_throw _
  · exact StoreFrame.bind (storeFrame_onHost _) fun _ => storeFrame_lift _

theorem storeFrame_remoteValue : StoreFrame remoteValue := by
  refine storeFrame_service_bind (fun s => StoreFrame.bind (storeFrame_lift _) fun r => ?_)
    fun _ _ => rfl
  rcases r with ⟨_ | t, c⟩
  · exact StoreFrame.bind (storeFrame_modifyService fun _ _ => rfl) fun _ => storeFrame_pure _
  · refine StoreFrame.bind (storeFrame_modifyService fun _ _ => rfl) fun _ =>
      StoreFrame.bind storeFrame_fetchRemote.attempt fun _ => ?_
    exact storeFrame_service_bind
      (fun _ => StoreFrame.bind (storeFrame_modifyService fun _ _ => rfl) fun _ => storeFrame_pure _)
      fun _ _ => rfl

section Answers

variable (A : String → Except Failure Bool)

theorem preserves_answer_service : Preserves (fun w => w.answer = A) service := fun _ h => h

theorem preserves_answer_modifyService (g : ServiceState → ServiceState) :
    Preserves (fun w => w.answer = A) (modifyService g) := preserves_modify fun _ h => h

theorem preserves_answer_send (r : Request) :
    Preserves (fun w => w.answer = A) (onHost (HostM.send r)) := fun _ h => h

theorem preserves_answer_fetchRemote : Preserves (fun w => w.answer = A) fetchRemote := by
  refine (preserves_answer_service A).bind fun s => ?_
  rcases s.remote with _ | ⟨addons, error, _⟩ | ⟨src, timeout⟩
  · exact preserves_pure _
  · refine (preserves_answer_modifyService A _).bind fun _ => ?_
    cases error
    · exact preserves_pure _
    · exact preserves_throw _
  · exact (preserves_answer_send A _).bind fun _ => preserves_lift _

theorem preserves_answer_remoteValue : Preserves (fun w => w.answer = A) remoteValue := by
  refine (preserves_answer_service A).bind fun s => (preserves_lift _).bind fun r => ?_
  rcases r with ⟨_ | t, c⟩
  · exact (preserves_answer_modifyService A _).bind fun _ => preserves_pure _
  · refine (preserves_answer_modifyService A _).bind fun _ =>
      (preserves_answer_fetchRemote A).attempt.bind fun _ =>
        (preserves_answer_service A).bind fun _ => ?_
    exact (preserves_answer_modifyService A _).bind fun _ => preserves_pure _

end Answers

/-! ### The steps of a cycle -/

theorem isInstalled_runOn (w : World) (u : String) : (isInstalled u).runOn w = (w.answer u, w) := by
  simp [isInstalled, runOn_bind, World.answer]

theorem loadPolicy_runOn (w : World) : loadPolicy.runOn w = (.ok w.policy, w) := by
  simp only [loadPolicy, runOn_bind, runOn_get, World.policy]
  rcases policyOf w.host.files w.service.policy with _ | p <;> rfl

theorem service_runOn (w : World) : service.runOn w = (.ok w.service, w) := rfl

/-- Asking whether an addon is installed succeeds with the handlers' answer and changes
nothing. -/
theorem isInstalled_ok {w w' : World} {u : String} {b : Bool}
    (h : (isInstalled u).runOn w = (.ok b, w')) : w' = w ∧ w.answer u = .ok b := by
  rw [isInstalled_runOn, Prod.mk.injEq] at h
  exact ⟨h.2.symm, h.1⟩

/-- Asking the handlers about each addon in turn changes nothing; a success means every
addon was answered, and the addons come out marked by the answers. -/
theorem splitInstalled_ok {w w' : World} {found : List Addon} {p : List Addon × List Addon}
    (h : (splitInstalled found).runOn w = (.ok p, w')) :
    w' = w ∧ (∀ a ∈ found, ∃ b, w.answer a.uid = .ok b) ∧
      p.1 = (found.filter fun a => w.reportsInstalled a.uid).map (·.withInstalled true) ∧
      p.2 = (found.filter fun a => !w.reportsInstalled a.uid).map (·.withInstalled false) := by
  induction found generalizing p w' with
  | nil =>
    simp only [splitInstalled, runOn_pure, Prod.mk.injEq, Except.ok.injEq] at h
    obtain ⟨rfl, rfl⟩ := h
    simp
  | cons a rest ih =>
    rw [splitInstalled] at h
    obtain ⟨b, w₁, hb, hrest⟩ := runOn_bind_ok h
    obtain ⟨hw₁, hab⟩ := isInstalled_ok hb
    subst w₁
    obtain ⟨⟨i, m⟩, w₂, hq, hout⟩ := runOn_bind_ok hrest
    obtain ⟨hw₂, hans, hi, hm⟩ := ih hq
    subst w₂
    simp only [runOn_pure, Prod.mk.injEq, Except.ok.injEq] at hout
    obtain ⟨rfl, rfl⟩ := hout
    have hrep := World.reportsInstalled_of_answer hab
    cases b <;> simp_all

/-- Operations on the record store leave the rest of the world as it was. -/
theorem preserves_onStore_withStore (w : World) (f : RecordStore → Except Failure RecordStore) :
    Preserves (fun w' => ∃ st, w' = w.withStore st) (onStore f) := by
  rintro _ ⟨st, rfl⟩
  simp only [onStore, runOn_bind, runOn_get]
  split
  · exact ⟨_, rfl⟩
  · exact ⟨st, rfl⟩

/-- Marking each remote entry by the handlers' answer changes nothing; a success means
every entry was answered, and each is marked by its answer. -/
theorem mapM_mark_ok {w w' : World} {l out : List Addon}
    (h : (l.mapM fun (a : Addon) => do let b ← isInstalled a.uid; pure (a.withInstalled b)).runOn
      w = (.ok out, w')) :
    w' = w ∧ (∀ a ∈ l, ∃ b, w.answer a.uid = .ok b) ∧
      out = l.map fun a => a.withInstalled (w.reportsInstalled a.uid) := by
  induction l generalizing out w' with
  | nil =>
    simp only [List.mapM_nil, runOn_pure, Prod.mk.injEq, Except.ok.injEq] at h
    obtain ⟨rfl, rfl⟩ := h
    simp
  | cons a rest ih =>
    rw [List.mapM_cons] at h
    obtain ⟨e, w₁, he, hrest⟩ := runOn_bind_ok h
    obtain ⟨b, w₀, hb, hmark⟩ := runOn_bind_ok he
    obtain ⟨hw₀, hab⟩ := isInstalled_ok hb
    subst w₀
    simp only [runOn_pure, Prod.mk.injEq, Except.ok.injEq] at hmark
    obtain ⟨rfl, hw₁⟩ := hmark
    subst w₁
    obtain ⟨out', w₂, hr, hcons⟩ := runOn_bind_ok hrest
    obtain ⟨hw₂, hans, rfl⟩ := ih hr
    subst w₂
    simp only [runOn_pure, Prod.mk.injEq, Except.ok.injEq] at hcons
    obtain ⟨rfl, rfl⟩ := hcons
    simp_all [World.reportsInstalled_of_answer hab]

/-- A merge that asks the handlers changes nothing; a success means every remote entry of
another uid was answered, and the result is the deduplication of the merge input marked by
the answers. -/
theorem mergeEntriesM_ok {w w' : World} {installed remote merged : List Addon} {inc : Bool}
    (h : (mergeEntriesM installed remote inc isInstalled).runOn w = (.ok merged, w')) :
    w' = w ∧ (∀ v ∈ remote, v.uid ∉ installed.map (·.uid) → ∃ b, w.answer v.uid = .ok b) ∧
      deduplicate (mergeInput installed remote inc w.reportsInstalled) = .ok merged := by
  rw [mergeEntriesM] at h
  obtain ⟨out, w₁, hm, hdedup⟩ := runOn_bind_ok h
  obtain ⟨hw₁, hans, rfl⟩ := mapM_mark_ok hm
  subst w₁
  -- the deduplicated list is the merge input, marked by the answers
  dsimp only at hdedup
  split at hdedup <;> rename_i hd
  · simp only [runOn_pure, Prod.mk.injEq, Except.ok.injEq] at hdedup
    obtain ⟨rfl, rfl⟩ := hdedup
    exact ⟨rfl, fun v hv hl => hans v (by simpa [hv] using hl), hd⟩
  · simp at hdedup

end Service

/-! ### A published cycle -/

/-- What a published reconciliation read from the world it started in: the handlers were
ready, every record read, the handlers answered for every stored addon and every remote
entry of another uid, and the published list is the deduplication of the survivors. -/
structure Published (w : World) (merged : List Addon) : Prop where
  ready : w.registry.allReady = true
  readable : ∃ records, w.service.store.getAll = .ok records ∧ (Service.readRecords records).2 = []
  recordsAnswered : ∀ a ∈ w.recordAddons, ∃ b, w.answer a.uid = .ok b
  remoteAnswered : ∀ v ∈ w.remoteEntries, v.uid ∉ w.installedEntries.map (·.uid) →
    ∃ b, w.answer v.uid = .ok b
  merged_eq : deduplicate w.survivors = .ok merged

namespace Service

/-- A published cycle: the cycle is read from the start world's answers, policy, records
and remote catalog, whatever the store became on the way. -/
theorem refreshSource_published {fuel : Nat} {w : World} {r : Reconciled}
    (hrun : ((refreshSource fuel).runOn w).1 = .ok r) (hpub : r.status = .published) :
    Published w r.addons := by
  obtain ⟨w', h⟩ : ∃ w', (refreshSource fuel).runOn w = (.ok r, w') := ⟨_, Prod.ext hrun rfl⟩
  cases fuel with
  | zero => simp [refreshSource] at h
  | succ n =>
    simp only [refreshSource, runOn_bind, runOn_get] at h
    split at h
    · -- the handlers are not ready
      simp only [runOn_pure, Prod.mk.injEq, Except.ok.injEq] at h
      simp [← h.1] at hpub
    rename_i hready
    simp only [runOn_bind, loadPolicy_runOn, service_runOn, runOn_lift] at h
    rcases hg : w.service.store.getAll with e | records
    · simp [hg] at h
    simp only [hg] at h
    split at h
    · -- a record did not read: the cycle purges
      obtain ⟨_, _, -, hpurged⟩ := runOn_bind_ok h
      simp only [runOn_pure, Prod.mk.injEq, Except.ok.injEq] at hpurged
      simp [← hpurged.1] at hpub
    rename_i hread
    obtain ⟨⟨i, m⟩, w₁, hs, h⟩ := runOn_bind_ok h
    obtain ⟨hw₁, hans, hi, -⟩ := splitInstalled_ok hs
    subst w₁
    -- removing the missing records changes only the store
    obtain ⟨_, w₂, hf, h⟩ := runOn_bind_ok h
    obtain ⟨st, hst⟩ : ∃ st, w₂ = w.withStore st := by
      have hframe := preserves_forM (l := m)
        (g := fun (a : Addon) => onStore fun x => RecordStore.remove (Json.str a.uid) x)
        (fun _ _ => preserves_onStore_withStore w _) w ⟨w.service.store, rfl⟩
      rwa [hf] at hframe
    subst hst
    -- the remote step answers the start world's remote entries and keeps the answers
    rw [runOn_ite_bind] at h
    obtain ⟨remote, w₃, hx, h⟩ := runOn_bind_ok h
    have hremote : remote = w.remoteEntries ∧ w₃.answer = w.answer := by
      have hkeep := preserves_answer_remoteValue w.answer w rfl
      unfold World.remoteEntries World.remoteAnswer
      split at hx <;> rename_i hc
      · rw [if_pos hc]
        obtain ⟨o, w₄, ho, hx⟩ := runOn_bind_ok hx
        rw [runOn_attempt, storeFrame_remoteValue, Prod.mk.injEq, Except.ok.injEq] at ho
        obtain ⟨rfl, rfl⟩ := ho
        rcases hv : remoteValue.runOn w with ⟨_ | v, w₅⟩ <;> rw [hv] at hx hkeep <;>
          simp only [runOn_pure, Prod.mk.injEq, Except.ok.injEq] at hx <;>
          obtain ⟨rfl, rfl⟩ := hx <;> exact ⟨rfl, hkeep⟩
      · simp only [runOn_pure, Prod.mk.injEq, Except.ok.injEq] at hx
        obtain ⟨rfl, rfl⟩ := hx
        exact ⟨(if_neg hc).symm, rfl⟩
    obtain ⟨rfl, hw₃⟩ := hremote
    obtain ⟨merged, w₄, hM, h⟩ := runOn_bind_ok h
    obtain ⟨-, hremoteAnswered, hdedup⟩ := mergeEntriesM_ok hM
    -- what follows the merge publishes the merged list and answers it
    have hr : r.addons = merged :=
      Returns.bind (fun _ _ _ => trivial)
        (fun _ _ => returns_ite_then
          (returns_pure (R := fun r : Reconciled => r.addons = merged) rfl))
        w₄ r (by rw [h])
    have hrecords : w.recordAddons = (readRecords records).1 := by simp [World.recordAddons, hg]
    have hinst : w.installedEntries = i := by
      rw [World.installedEntries, hrecords]
      exact hi.symm
    refine ⟨by simpa using hready, ⟨records, hg, by simpa using hread⟩, hrecords ▸ hans, ?_, ?_⟩
    · intro v hv hl
      rw [← hw₃]
      exact hremoteAnswered v hv (hinst ▸ hl)
    · rw [hr, World.survivors, hinst, World.reportsInstalled_eq hw₃.symm]
      exact hdedup

end Service

end AddonCatalog
