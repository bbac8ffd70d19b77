import AddonCatalog.Service.Actions

/-!
# Reasoning about computations on the world

A computation of `WorldM` runs on a world and ends with an outcome and a new world; the
world keeps what was changed before a failure. Two judgements describe such a
computation, each closed under the monad's operations so that a proof about a service
operation follows its code:

* `Preserves P m`: whatever the outcome, the world after `m` satisfies `P` when the world
  before did;
* `Returns m R`: every value `m` succeeds with satisfies `R`.

`KeepsSnapshot m` says that `m` leaves the published snapshot as it is; such a
computation preserves every property of the snapshot. `StoreFrame m` says that `m` neither
reads nor writes the record store: run on a world with another store, it answers the same
and leaves that store in place.
-/

namespace AddonCatalog.WorldM

variable {α β : Type}

/-! ### Running computations -/

theorem runOn_bind (x : WorldM α) (f : α → WorldM β) (w : World) :
    (x >>= f).runOn w = match x.runOn w with
      | (.ok a, w') => (f a).runOn w'
      | (.error e, w') => (.error e, w') := by
  simp only [runOn, ExceptT.run_bind]
  rcases h : (x.run).run w with ⟨_ | a, w'⟩ <;> simp [StateT.run_bind, h] <;> rfl

/-- A successful run of `x >>= f` is a successful run of `x` followed by one of `f`. -/
theorem runOn_bind_ok {x : WorldM α} {f : α → WorldM β} {w w' : World} {b : β}
    (h : (x >>= f).runOn w = (.ok b, w')) :
    ∃ a w₁, x.runOn w = (.ok a, w₁) ∧ (f a).runOn w₁ = (.ok b, w') := by
  rw [runOn_bind] at h
  rcases hx : x.runOn w with ⟨_ | a, w₁⟩ <;> rw [hx] at h
  · cases h
  · exact ⟨a, w₁, rfl, h⟩

@[simp] theorem runOn_pure (a : α) (w : World) : (pure a : WorldM α).runOn w = (.ok a, w) := rfl

@[simp] theorem runOn_get (w : World) : (get : WorldM World).runOn w = (.ok w, w) := rfl

@[simp] theorem runOn_set (w w' : World) : (set w' : WorldM PUnit).runOn w = (.ok ⟨⟩, w') := rfl

@[simp] theorem runOn_modify (f : World → World) (w : World) :
    (modify f : WorldM PUnit).runOn w = (.ok ⟨⟩, f w) := rfl

@[simp] theorem runOn_throw (e : Failure) (w : World) :
    (throw e : WorldM α).runOn w = (.error e, w) := rfl

@[simp] theorem runOn_lift (x : Except Failure α) (w : World) : (lift x).runOn w = (x, w) := by
  cases x <;> rfl

@[simp] theorem runOn_attempt (m : WorldM α) (w : World) :
    (attempt m).runOn w = (.ok (m.runOn w).1, (m.runOn w).2) := by
  simp only [attempt, runOn]
  rcases h : (m.run).run w with ⟨_ | a, w'⟩
  all_goals
    simp only [tryCatch, tryCatchThe, MonadExceptOf.tryCatch, ExceptT.tryCatch, ExceptT.mk, ExceptT.run,
      Functor.map, ExceptT.map, bind, StateT.bind, StateT.run, pure] at h ⊢
    simp only [h]
    rfl

/-- The do-notation gives a conditional whose branches share their continuation. -/
theorem runOn_ite_bind {c : Prop} [Decidable c] (x y : WorldM α) (f : α → WorldM β) (w : World) :
    (if c then x >>= f else y >>= f).runOn w = ((if c then x else y) >>= f).runOn w := by
  split <;> rfl

/-! ### Invariants and results -/

/-- A computation keeps `P`: whatever its outcome, the world after it satisfies `P` when
the world before it did. -/
def Preserves (P : World → Prop) (m : WorldM α) : Prop := ∀ w, P w → P (m.runOn w).2

/-- Every value a computation succeeds with satisfies `R`. -/
def Returns (m : WorldM α) (R : α → Prop) : Prop := ∀ w a, (m.runOn w).1 = .ok a → R a

section Preserves

variable {P : World → Prop} {m : WorldM α} {f : α → WorldM β}

theorem preserves_pure (a : α) : Preserves P (pure a) := fun _ h => h

theorem preserves_throw (e : Failure) : Preserves P (throw e : WorldM α) := fun _ h => h

theorem preserves_get : Preserves P get := fun _ h => h

theorem preserves_lift (x : Except Failure α) : Preserves P (lift x) := fun _ h => by simpa using h

theorem preserves_modify {g : World → World} (hg : ∀ w, P w → P (g w)) :
    Preserves P (modify g : WorldM PUnit) := fun w h => by simpa using hg w h

theorem Preserves.bind_of_returns {R : α → Prop} (hm : Preserves P m) (hr : Returns m R)
    (hf : ∀ a, R a → Preserves P (f a)) : Preserves P (m >>= f) := by
  intro w hw
  have hw' := hm w hw
  rw [runOn_bind]
  rcases h : m.runOn w with ⟨_ | a, w'⟩
  · simpa [h] using hw'
  · exact hf a (hr w a (by rw [h])) w' (by simpa [h] using hw')

theorem Preserves.bind (hm : Preserves P m) (hf : ∀ a, Preserves P (f a)) :
    Preserves P (m >>= f) :=
  hm.bind_of_returns (R := fun _ => True) (fun _ _ _ => trivial) fun a _ => hf a

theorem Preserves.attempt (hm : Preserves P m) : Preserves P (attempt m) :=
  fun w hw => by simpa using hm w hw

theorem Preserves.ite_then {c : Prop} [Decidable c] {x : WorldM PUnit} {y : WorldM α}
    (hx : Preserves P x) (hy : Preserves P y) : Preserves P (if c then x >>= fun _ => y else y) := by
  split
  · exact hx.bind fun _ => hy
  · exact hy

theorem Preserves.ite_bind {c : Prop} [Decidable c] {y : WorldM α} (hm : Preserves P m)
    (hy : Preserves P y) (hf : ∀ a, Preserves P (f a)) :
    Preserves P (if c then m >>= f else y >>= f) := by
  split
  · exact hm.bind hf
  · exact hy.bind hf

theorem preserves_forM {l : List β} {g : β → WorldM PUnit} (hg : ∀ b ∈ l, Preserves P (g b)) :
    Preserves P (l.forM g) := by
  induction l with
  | nil => exact preserves_pure _
  | cons b l ih =>
    show Preserves P (g b >>= fun _ => l.forM g)
    exact (hg b (by simp)).bind fun _ => ih fun c hc => hg c (by simp [hc])

theorem preserves_mapM {l : List β} {g : β → WorldM α} (hg : ∀ b ∈ l, Preserves P (g b)) :
    Preserves P (l.mapM g) := by
  induction l with
  | nil => exact preserves_pure _
  | cons b l ih =>
    rw [List.mapM_cons]
    exact (hg b (by simp)).bind fun _ =>
      (ih fun c hc => hg c (by simp [hc])).bind fun _ => preserves_pure _

end Preserves

section Returns

variable {m : WorldM α} {f : α → WorldM β} {Q : α → Prop} {R : β → Prop}

theorem returns_pure {a : β} (h : R a) : Returns (pure a) R := fun _ _ ha => by
  cases ha
  exact h

theorem returns_throw (e : Failure) : Returns (throw e : WorldM β) R := fun _ _ ha => by
  cases ha

theorem Returns.bind (hm : Returns m Q) (hf : ∀ a, Q a → Returns (f a) R) :
    Returns (m >>= f) R := by
  intro w b hb
  rw [runOn_bind] at hb
  rcases h : m.runOn w with ⟨_ | a, w'⟩
  · simp [h] at hb
  · rw [h] at hb
    exact hf a (hm w a (by rw [h])) w' b hb

theorem returns_ite_then {c : Prop} [Decidable c] {x : WorldM PUnit} {y : WorldM β}
    (hy : Returns y R) : Returns (if c then x >>= fun _ => y else y) R := by
  split
  · exact Returns.bind (Q := fun _ => True) (fun _ _ _ => trivial) fun _ _ => hy
  · exact hy

end Returns

/-! ### The published snapshot -/

/-- A computation leaves the published snapshot as it is. -/
def KeepsSnapshot (m : WorldM α) : Prop := ∀ s, Preserves (fun w => w.service.snapshot = s) m

section KeepsSnapshot

variable {m : WorldM α} {f : α → WorldM β}

theorem KeepsSnapshot.preserves (h : KeepsSnapshot m) (Q : Option Snapshot → Prop) :
    Preserves (fun w => Q w.service.snapshot) m := fun w hw => by
  show Q _
  rw [h _ w rfl]
  exact hw

theorem keepsSnapshot_of_runOn (h : ∀ w, (m.runOn w).2.service.snapshot = w.service.snapshot) :
    KeepsSnapshot m :=
  fun _ w hw => (h w).trans hw

theorem keepsSnapshot_pure (a : α) : KeepsSnapshot (pure a : WorldM α) := fun _ => preserves_pure a

theorem keepsSnapshot_throw (e : Failure) : KeepsSnapshot (throw e : WorldM α) :=
  fun _ => preserves_throw e

theorem keepsSnapshot_get : KeepsSnapshot get := fun _ => preserves_get

theorem keepsSnapshot_lift (x : Except Failure α) : KeepsSnapshot (lift x) := fun _ => preserves_lift x

theorem KeepsSnapshot.bind (hm : KeepsSnapshot m) (hf : ∀ a, KeepsSnapshot (f a)) :
    KeepsSnapshot (m >>= f) := fun s => (hm s).bind fun a => hf a s

theorem KeepsSnapshot.attempt (hm : KeepsSnapshot m) : KeepsSnapshot (attempt m) :=
  fun s => (hm s).attempt

theorem keepsSnapshot_forM {l : List β} {g : β → WorldM PUnit} (hg : ∀ b ∈ l, KeepsSnapshot (g b)) :
    KeepsSnapshot (l.forM g) := fun s => preserves_forM fun b hb => hg b hb s

theorem keepsSnapshot_mapM {l : List β} {g : β → WorldM α} (hg : ∀ b ∈ l, KeepsSnapshot (g b)) :
    KeepsSnapshot (l.mapM g) := fun s => preserves_mapM fun b hb => hg b hb s

theorem keepsSnapshot_modifyService {g : ServiceState → ServiceState}
    (hg : ∀ s, (g s).snapshot = s.snapshot) : KeepsSnapshot (modifyService g) :=
  fun _ => preserves_modify fun w hw => (hg w.service).trans hw

theorem keepsSnapshot_modifyRegistry (g : Registry → Registry) : KeepsSnapshot (modifyRegistry g) :=
  fun _ => preserves_modify fun _ hw => hw

end KeepsSnapshot

end AddonCatalog.WorldM

namespace AddonCatalog

/-- The world with another record store. -/
def World.withStore (w : World) (st : RecordStore) : World :=
  { w with service := { w.service with store := st } }

namespace WorldM

variable {α β : Type}

/-! ### The record store as a frame -/

/-- A computation that neither reads nor writes the record store. -/
def StoreFrame (m : WorldM α) : Prop :=
  ∀ w st, m.runOn (w.withStore st) = ((m.runOn w).1, (m.runOn w).2.withStore st)

section StoreFrame

variable {m : WorldM α} {f : α → WorldM β}

theorem storeFrame_pure (a : α) : StoreFrame (pure a : WorldM α) := fun _ _ => rfl

theorem storeFrame_throw (e : Failure) : StoreFrame (throw e : WorldM α) := fun _ _ => rfl

theorem storeFrame_lift (x : Except Failure α) : StoreFrame (lift x) := fun _ _ => by simp

theorem StoreFrame.bind (hm : StoreFrame m) (hf : ∀ a, StoreFrame (f a)) :
    StoreFrame (m >>= f) := by
  intro w st
  rw [runOn_bind, runOn_bind, hm w st]
  rcases m.runOn w with ⟨_ | a, w'⟩
  · rfl
  · exact hf a w' st

theorem StoreFrame.attempt (hm : StoreFrame m) : StoreFrame (attempt m) := fun w st => by
  simp [hm w st]

theorem storeFrame_modifyService {g : ServiceState → ServiceState}
    (hg : ∀ s st, g { s with store := st } = { g s with store := st }) :
    StoreFrame (modifyService g) :=
  fun w st => by
    simp only [modifyService, runOn_modify]
    rw [World.withStore, hg]
    rfl

theorem storeFrame_onHost (m : HostM α) : StoreFrame (onHost m) := fun w st => by
  simp only [onHost, runOn_bind, runOn_get]
  rw [show (w.withStore st).host = w.host from rfl]
  rcases StateT.run (ExceptT.run m) w.host with ⟨_ | a, h⟩ <;> rfl

/-- Reading the service state keeps the frame when what follows does not look at the
store it read. -/
theorem storeFrame_service_bind {f : ServiceState → WorldM β} (hf : ∀ s, StoreFrame (f s))
    (hs : ∀ s st, f { s with store := st } = f s) : StoreFrame (service >>= f) := by
  intro w st
  simp only [service, runOn_bind, runOn_get, runOn_pure]
  rw [show (w.withStore st).service = { w.service with store := st } from rfl, hs]
  exact hf _ w st

end StoreFrame

end WorldM

end AddonCatalog
