import AddonCatalog.Proofs.Archive.Download
import AddonCatalog.Proofs.Files.Footprint
/-!
# The footprint of a computation on a host

`HostM.Confined S base m` says that every run of `m` from a host with a plain volume keeps the
volume plain and changes it only at the paths where `S` holds, apart from directories made where
nothing stood on the way to `base` (`Volume.Confined`). The judgement is closed under the
monad's operations, so the footprint of a function follows its code: `Confined.bind`,
`Confined.catching`, and one lemma for each primitive (`confined_onFiles`,
`confined_onFilesKeeping`, `confined_modifyFiles`; the network and the reads of the volume change
nothing of it).

A download into `target` works in the directory of its target: it makes the directories on the
way there, writes the part file beside the target, moves it over the target and removes it, so
its footprint is the paths strictly below that directory (`Downloader.fetch_confined`), whatever
the url, the replies of the network and the volume, and whatever the target's last name.
-/

namespace AddonCatalog

namespace HostM

variable {α β : Type}

/-- A failure handler runs on the host the computation failed on. -/
theorem run_tryCatch_of (m : HostM α) (k : Failure → HostM α) (h : Host) :
    (tryCatch m k).run.run h = match m.run.run h with
      | (.ok a, h') => (.ok a, h')
      | (.error e, h') => (k e).run.run h' := by
  rcases hm : (m.run).run h with ⟨_ | a, h'⟩
  all_goals
    simp only [tryCatch, tryCatchThe, MonadExceptOf.tryCatch, ExceptT.tryCatch, ExceptT.mk,
      ExceptT.run, bind, StateT.bind, StateT.run, pure] at hm ⊢
    simp only [hm]
  -- a success passes through the handler
  rfl

/-- A computation that, run on a host with a plain volume, keeps it plain and changes it only
where `S` holds, apart from directories made where nothing stood on the way to `base`. -/
def Confined (S : List String → Prop) (base : List String) (m : HostM α) : Prop :=
  ∀ h, h.files.Plain → (m.run.run h).2.files.Plain ∧
    Volume.Confined S base h.files (m.run.run h).2.files

section Confined

open Volume

variable {S S' : List String → Prop} {base base' : List String} {m : HostM α}
  {f : α → HostM β}

theorem confined_pure (a : α) : Confined S base (pure a) := fun _ hv => ⟨hv, .refl⟩

theorem confined_throw (e : Failure) : Confined S base (throw e : HostM α) :=
  fun _ hv => ⟨hv, .refl⟩

/-- Nothing after a failure runs. -/
theorem confined_throw_bind (e : Failure) (f : α → HostM β) : Confined S base (throw e >>= f) :=
  fun _ hv => ⟨hv, .refl⟩

theorem confined_files : Confined S base files := fun _ hv => ⟨hv, .refl⟩

theorem confined_send (r : Request) : Confined S base (send r) := fun _ hv => ⟨hv, .refl⟩

theorem confined_closeResponse : Confined S base closeResponse := fun _ hv => ⟨hv, .refl⟩

theorem Confined.bind (hm : Confined S base m) (hf : ∀ a, Confined S base (f a)) :
    Confined S base (m >>= f) := by
  intro h hv
  have hrun := hm h hv
  rw [run_bind]
  rcases hr : m.run.run h with ⟨_ | a, h'⟩
  · rw [hr] at hrun
    exact hrun
  · rw [hr] at hrun
    obtain ⟨hv', hc⟩ := hrun
    obtain ⟨hv'', hc'⟩ := hf a h' hv'
    exact ⟨hv'', hc.trans hc'⟩

theorem Confined.catching {k : Failure → HostM α} (hm : Confined S base m)
    (hk : ∀ e, Confined S base (k e)) : Confined S base (tryCatch m k) := by
  intro h hv
  have hrun := hm h hv
  rw [run_tryCatch_of]
  rcases hr : m.run.run h with ⟨_ | a, h'⟩
  · rw [hr] at hrun
    obtain ⟨hv', hc⟩ := hrun
    obtain ⟨hv'', hc'⟩ := hk _ h' hv'
    exact ⟨hv'', hc.trans hc'⟩
  · rw [hr] at hrun
    exact hrun

/-- Catching the failure of a computation into a value keeps its footprint. -/
theorem Confined.catching_ok {k : Failure → HostM (Except Failure α)} (hm : Confined S base m)
    (hk : ∀ e, Confined S base (k e)) : Confined S base (tryCatch (Except.ok <$> m) k) := by
  intro h hv
  have hrun := hm h hv
  rw [run_tryCatch]
  rcases hr : m.run.run h with ⟨_ | a, h'⟩
  · rw [hr] at hrun
    obtain ⟨hv', hc⟩ := hrun
    obtain ⟨hv'', hc'⟩ := hk _ h' hv'
    exact ⟨hv'', hc.trans hc'⟩
  · rw [hr] at hrun
    exact hrun

theorem Confined.mono (hm : Confined S base m) (hS : ∀ q, S q → S' q)
    (hb : ∀ q, q <+: base → ¬ S' q → q <+: base') : Confined S' base' m := fun h hv =>
  ⟨(hm h hv).1, (hm h hv).2.mono hS hb⟩

theorem confined_onFiles {g : Volume → Except Failure Volume}
    (hg : ∀ v v', v.Plain → g v = .ok v' → v'.Plain ∧ Volume.Confined S base v v') :
    Confined S base (onFiles g) := by
  intro h hv
  rcases hgv : g h.files with e | v'
  · rw [run_onFiles_of_error hgv]
    exact ⟨hv, .refl⟩
  · rw [run_onFiles_of_ok hgv]
    exact hg _ _ hv hgv

theorem confined_onFilesKeeping {g : Volume → Volume × Option Failure}
    (hg : ∀ v, v.Plain → (g v).1.Plain ∧ Volume.Confined S base v (g v).1) :
    Confined S base (onFilesKeeping g) := by
  intro h hv
  have hgh := hg h.files hv
  rcases hgv : g h.files with ⟨v', _ | e⟩
  · rw [run_onFilesKeeping_of_none hgv]
    rw [hgv] at hgh
    exact hgh
  · rw [run_onFilesKeeping_of_some hgv]
    rw [hgv] at hgh
    exact hgh

theorem confined_modifyFiles {g : Volume → Volume}
    (hg : ∀ v, v.Plain → (g v).Plain ∧ Volume.Confined S base v (g v)) :
    Confined S base (modify fun h : Host => { h with files := g h.files } : HostM PUnit) :=
  fun h hv => hg h.files hv

/-- Writing a file strictly below the base stays within the footprint of that region. -/
theorem confined_writeFile {D p : List String} (hp : ∀ c ∈ p, Proper c) (hD : Below D p)
    (b : Blob) : Confined (Below D) D (onFiles (·.writeFile p b)) :=
  confined_onFiles fun _ _ hv h => by
    obtain ⟨rfl, hv', -⟩ := writeFile_eq_ok hv hp h
    exact ⟨hv', confined_setEntry hD.ne_nil hD _⟩

/-- Making the directories of a path on the way to the base, or below it, stays within its
footprint. -/
theorem confined_makeDirs {D p : List String} (hp : ∀ c ∈ p, Proper c)
    (hpD : p <+: D ∨ D <+: p) : Confined (Below D) D (onFilesKeeping (·.makeDirs p)) :=
  confined_onFilesKeeping fun _ hv => by
    have hm := makeDirs_madeAlong hv hp
    refine ⟨hm.plain, hm.confined.of_dirs fun q hq hnb => ?_⟩
    rcases hpD with hpD | hpD
    · exact hq.trans hpD
    · -- a prefix of a path below `D` is on the way to `D`, or below it
      rcases List.prefix_or_prefix_of_prefix hq hpD with h | h
      · exact h
      · by_cases hqD : q = D
        · subst hqD
          exact List.prefix_refl q
        · exact absurd ⟨h, hqD⟩ hnb

end Confined

end HostM

namespace Downloader

open Volume HostM

variable {d : Downloader} {url : String} {target : List String} {sha : Json}

/-- The names of the part file of a target whose directory has proper names. -/
theorem proper_partPath (hdir : ∀ c ∈ target.dropLast, Proper c) :
    ∀ c ∈ partPath target, Proper c := by
  intro c hc
  rcases List.mem_append.1 hc with hc | hc
  · exact hdir c hc
  · obtain ⟨h₁, h₂, h₃⟩ := partName_proper (target.getLast?.getD "")
    rw [List.mem_singleton.1 hc]
    exact ⟨h₁, h₂, h₃⟩

theorem below_partPath : Below target.dropLast (partPath target) :=
  below_append (by simp)

theorem below_of_ne_nil (ht : target ≠ []) : Below target.dropLast target := by
  have h : Below target.dropLast (target.dropLast ++ [target.getLast ht]) := below_append (by simp)
  rwa [List.dropLast_concat_getLast ht] at h

/-- Receiving a body writes only the part file. -/
theorem receive_confined {part : List String} {r : Response} {D : List String}
    (hp : ∀ c ∈ part, Proper c) (hD : Below D part) :
    Confined (Below D) D (d.receive url part r) := by
  unfold receive
  dsimp only
  split
  · exact confined_throw_bind _ _
  · split
    · refine (confined_pure _).bind fun declared => ?_
      split
      · exact confined_throw_bind _ _
      · refine (confined_writeFile hp hD _).bind fun _ => ?_
        split
        · exact confined_throw_bind _ _
        · exact (confined_writeFile hp hD _).bind fun _ => confined_pure _
    · exact confined_throw_bind _ _

/-- Streaming makes the directory of the part file and writes only the part file. -/
theorem stream_confined (hdir : ∀ c ∈ target.dropLast, Proper c) :
    Confined (Below target.dropLast) target.dropLast (d.stream url (partPath target)) := by
  unfold stream
  rw [partPath_dropLast]
  refine (confined_makeDirs hdir (.inl (List.prefix_refl _))).bind fun _ =>
    (confined_send _).bind fun reply => ?_
  cases reply with
  | fault f => exact confined_throw f
  | response r =>
    refine (Confined.catching_ok (receive_confined (proper_partPath hdir) below_partPath)
      fun _ => confined_pure _).bind fun outcome =>
        confined_closeResponse.bind fun _ => ?_
    cases outcome with
    | ok digest => exact confined_pure _
    | error e => exact confined_throw e

/-- Moving the part file over the target acts in the target's directory; a target ending in
`..` is refused. -/
theorem replace_confined (ht : target ≠ []) (hdir : ∀ c ∈ target.dropLast, Proper c)
    (hlast : target.getLast ht ≠ "" ∧ target.getLast ht ≠ ".") :
    Confined (Below target.dropLast) target.dropLast
      (onFiles (·.replace (partPath target) target)) := by
  refine confined_onFiles fun v v' hv h => ?_
  by_cases hdots : target.getLast ht = ".."
  · -- the move names `..`, which the system refuses
    have hends : endsInDots target = true := by
      simp [endsInDots, List.getLast?_eq_some_getLast ht, hdots]
    simp [replace, hends] at h
  have htp : ∀ c ∈ target, Proper c := by
    intro c hc
    rw [← List.dropLast_concat_getLast ht] at hc
    rcases List.mem_append.1 hc with hc | hc
    · exact hdir c hc
    · rw [List.mem_singleton.1 hc]
      exact ⟨hlast.1, hlast.2, hdots⟩
  obtain ⟨e, -, rfl, hv'⟩ := replace_eq_ok hv (proper_partPath hdir) htp
    (not_partPath_prefix_of_below ht (List.prefix_refl _)) h
  exact ⟨hv', (confined_dropTree partPath_ne_nil fun q hq => below_partPath.of_prefix hq).trans
    (confined_setEntry ht (below_of_ne_nil ht) e)⟩

/-- Delivering streams into the part file and moves it over the target. -/
theorem deliver_confined (ht : target ≠ []) (hdir : ∀ c ∈ target.dropLast, Proper c)
    (hlast : target.getLast ht ≠ "" ∧ target.getLast ht ≠ ".") :
    Confined (Below target.dropLast) target.dropLast (d.deliver url target sha) := by
  unfold deliver
  refine (stream_confined hdir).bind fun digest => ?_
  dsimp only
  split
  · exact (replace_confined ht hdir hlast).bind fun _ => confined_pure _
  · exact confined_throw_bind _ _

/-- Discarding the part file removes only what is at or below it. -/
theorem discard_confined (hdir : ∀ c ∈ target.dropLast, Proper c) :
    Confined (Below target.dropLast) target.dropLast (discard (partPath target)) := by
  intro h hv
  unfold discard
  rw [run_bind_of_ok (run_files h)]
  rcases hu : h.files.unlink (partPath target) with e | v'
  · exact ⟨hv, .refl⟩
  · obtain ⟨rfl, hv', hp0⟩ := unlink_eq_ok hv (proper_partPath hdir) hu
    exact ⟨hv', confined_dropTree hp0 fun q hq => below_partPath.of_prefix hq⟩

/-- **A download acts in the directory of its target.** Whatever the url, the network and the
volume, fetching into a target whose directory has proper names and whose last name is not
`""` or `.` keeps a plain volume plain and changes it only strictly below that directory, apart
from making the directories on the way to it. -/
theorem fetch_confined {u : Json} (ht : target ≠ []) (hdir : ∀ c ∈ target.dropLast, Proper c)
    (hlast : target.getLast ht ≠ "" ∧ target.getLast ht ≠ ".") :
    Confined (Below target.dropLast) target.dropLast (d.fetch u target sha) := by
  unfold fetch
  dsimp only
  split
  · refine (confined_pure _).bind fun parts => ?_
    split
    · refine (Confined.catching_ok (deliver_confined ht hdir hlast) fun _ => confined_pure _).bind
        fun outcome => (discard_confined hdir).bind fun _ => ?_
      cases outcome with
      | ok digest => exact confined_pure _
      | error e => exact confined_throw e
    · exact confined_throw_bind _ _
  · exact confined_throw_bind _ _

end Downloader

end AddonCatalog
