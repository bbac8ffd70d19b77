import AddonCatalog.Proofs.Files.Agree
import AddonCatalog.Proofs.Archive.Install
/-!
# A deploy reads only its directory

`HostM.Local R m` says that `m`, run from two plain hosts whose volumes agree on the region `R`,
ends with the same outcome on both and leaves volumes that agree on `R` again: nothing outside
`R` decides what `m` does inside it. The judgement is built up along the computation like the
footprint judgements (`Local.bind`, `Local.catching`, `local_files_bind`), from the agreement
of each operation on the volume (`Agree`).

Unpacking an archive reads and writes only on the way to its target and below it
(`unpackMembers_local`), and a deploy only on the way to its directory and below it
(`deploy_local`). The same structure gives that a deploy keeps the paths of a volume distinct
(`deploy_keepsKeyed`) and that a deploy that fails leaves the marker as it was
(`deploy_error_keeps_marker`).
-/

namespace AddonCatalog

namespace HostM

open Volume

variable {α β : Type} {R : List String → Prop} {m : HostM α} {f : α → HostM β}

/-- Run from two plain hosts whose volumes agree on `R`, `m` has the same outcome on both and
leaves volumes that agree on `R`. -/
def Local (R : List String → Prop) (m : HostM α) : Prop :=
  ∀ h h', h.files.Plain → h'.files.Plain → AgreeOn R h.files h'.files →
    (m.run.run h).1 = (m.run.run h').1 ∧ AgreeOn R (m.run.run h).2.files (m.run.run h').2.files

section Local

theorem local_pure (a : α) : Local R (pure a) := fun _ _ _ _ hA => ⟨rfl, hA⟩

theorem local_throw (e : Failure) : Local R (throw e : HostM α) := fun _ _ _ _ hA => ⟨rfl, hA⟩

theorem local_throw_bind (e : Failure) (f : α → HostM β) : Local R (throw e >>= f) :=
  fun _ _ _ _ hA => ⟨rfl, hA⟩

theorem local_orThrow (x : Except Failure α) : Local R (ArchiveHandler.orThrow x) := by
  cases x with
  | error e => exact local_throw e
  | ok a => exact local_pure a

theorem Local.bind (hm : Local R m) (hp : KeepsPlain m) (hf : ∀ a, Local R (f a)) :
    Local R (m >>= f) := by
  intro h h' hv hv' hA
  obtain ⟨ho, hA₁⟩ := hm h h' hv hv' hA
  have hv₁ := hp h hv
  have hv₁' := hp h' hv'
  rw [run_bind, run_bind]
  rcases hr : m.run.run h with ⟨_ | a, h₁⟩ <;> rcases hr' : m.run.run h' with ⟨_ | a', h₁'⟩
  all_goals
    rw [hr, hr'] at ho hA₁
    rw [hr] at hv₁
    rw [hr'] at hv₁'
    simp only [Except.error.injEq, Except.ok.injEq, reduceCtorEq] at ho
  · subst ho
    exact ⟨rfl, hA₁⟩
  · -- both runs go on with the same value from volumes that agree
    subst ho
    exact hf a h₁ h₁' hv₁ hv₁' hA₁

theorem Local.catching {k : Failure → HostM α} (hm : Local R m) (hp : KeepsPlain m)
    (hk : ∀ e, Local R (k e)) : Local R (tryCatch m k) := by
  intro h h' hv hv' hA
  obtain ⟨ho, hA₁⟩ := hm h h' hv hv' hA
  have hv₁ := hp h hv
  have hv₁' := hp h' hv'
  rw [run_tryCatch_of, run_tryCatch_of]
  rcases hr : m.run.run h with ⟨_ | a, h₁⟩ <;> rcases hr' : m.run.run h' with ⟨_ | a', h₁'⟩
  all_goals
    rw [hr, hr'] at ho hA₁
    rw [hr] at hv₁
    rw [hr'] at hv₁'
    simp only [Except.error.injEq, Except.ok.injEq, reduceCtorEq] at ho
  · subst ho
    exact hk _ h₁ h₁' hv₁ hv₁' hA₁
  · subst ho
    exact ⟨rfl, hA₁⟩

/-- A computation that reads the volume first is local when what it goes on with is the same
for volumes that agree, and local for each. -/
theorem local_files_bind {f : Volume → HostM β}
    (hf : ∀ v v', v.Plain → v'.Plain → AgreeOn R v v' → f v = f v')
    (hl : ∀ v, Local R (f v)) : Local R (files >>= f) := by
  intro h h' hv hv' hA
  rw [run_bind_of_ok (run_files h), run_bind_of_ok (run_files h'), hf _ _ hv hv' hA]
  exact hl _ h h' hv hv' hA

theorem local_onFiles {g : Volume → Except Failure Volume}
    (hg : ∀ v v', v.Plain → v'.Plain → AgreeOn R v v' → AgreeAfter R (g v) (g v')) :
    Local R (onFiles g) := by
  intro h h' hv hv' hA
  rcases (hg _ _ hv hv' hA).error_or_ok with ⟨e, he, he'⟩ | ⟨w, w', hw, hw', hagr⟩
  · rw [run_onFiles_of_error he, run_onFiles_of_error he']
    exact ⟨rfl, hA⟩
  · rw [run_onFiles_of_ok hw, run_onFiles_of_ok hw']
    exact ⟨rfl, hagr⟩

theorem local_onFilesKeeping {g : Volume → Volume × Option Failure}
    (hg : ∀ v v', v.Plain → v'.Plain → AgreeOn R v v' →
      (g v).2 = (g v').2 ∧ AgreeOn R (g v).1 (g v').1) :
    Local R (onFilesKeeping g) := by
  intro h h' hv hv' hA
  obtain ⟨hf, hagr⟩ := hg _ _ hv hv' hA
  rcases hgv : g h.files with ⟨w, _ | e⟩ <;> rcases hgv' : g h'.files with ⟨w', _ | e'⟩
  all_goals
    rw [hgv, hgv'] at hf hagr
    simp only [Option.some.injEq, reduceCtorEq] at hf
  · rw [run_onFilesKeeping_of_none hgv, run_onFilesKeeping_of_none hgv']
    exact ⟨rfl, hagr⟩
  · rw [run_onFilesKeeping_of_some hgv, run_onFilesKeeping_of_some hgv', hf]
    exact ⟨rfl, hagr⟩

end Local

/-! ### Operations on a path whose way lies in the region -/

section Ops

variable {p : List String}

theorem local_writeFile (hp : ∀ c ∈ p, Proper c) (hR : ∀ q, q <+: p → R q) (b : Blob) :
    Local R (onFiles (·.writeFile p b)) :=
  local_onFiles fun _ _ hv hv' hA => writeFile_congr hv hv' hp hR hA b

theorem local_makeDirs (hp : ∀ c ∈ p, Proper c) (hR : ∀ q, q <+: p → R q) :
    Local R (onFilesKeeping (·.makeDirs p)) :=
  local_onFilesKeeping fun _ _ hv hv' hA => makeDirs_congr hv hv' hp hR hA

theorem local_removeTree (hp : ∀ c ∈ p, Proper c) (hp0 : p ≠ []) (hR : ∀ q, q <+: p → R q) :
    Local R (onFiles (·.removeTree p)) :=
  local_onFiles fun _ _ hv hv' hA => removeTree_congr hv hv' hp hR hA hp0

theorem keepsPlain_writeFile (hp : ∀ c ∈ p, Proper c) (b : Blob) :
    KeepsPlain (onFiles (·.writeFile p b)) := by
  intro h hv
  rcases hw : h.files.writeFile p b with e | v'
  · rw [run_onFiles_of_error hw]
    exact hv
  · rw [run_onFiles_of_ok hw]
    exact (writeFile_eq_ok hv hp hw).2.1

theorem keepsPlain_makeDirs (hp : ∀ c ∈ p, Proper c) : KeepsPlain (onFilesKeeping (·.makeDirs p)) :=
  (confined_makeDirs (D := p) hp (.inl (List.prefix_refl p))).keepsPlain

end Ops

/-! ### Volumes with distinct paths -/

/-- A computation that keeps the paths of a volume distinct. -/
def KeepsKeyed (m : HostM α) : Prop := ∀ h, h.files.Keyed → (m.run.run h).2.files.Keyed

section KeepsKeyed

theorem keepsKeyed_pure (a : α) : KeepsKeyed (pure a) := fun _ hk => hk

theorem keepsKeyed_throw_bind (e : Failure) (f : α → HostM β) : KeepsKeyed (throw e >>= f) :=
  fun _ hk => hk

theorem keepsKeyed_files : KeepsKeyed files := fun _ hk => hk

theorem keepsKeyed_orThrow (x : Except Failure α) : KeepsKeyed (ArchiveHandler.orThrow x) := by
  cases x with
  | error e => exact fun _ hk => hk
  | ok a => exact fun _ hk => hk

theorem KeepsKeyed.bind (hm : KeepsKeyed m) (hf : ∀ a, KeepsKeyed (f a)) :
    KeepsKeyed (m >>= f) := by
  intro h hk
  have hk₁ := hm h hk
  rw [run_bind]
  rcases hr : m.run.run h with ⟨_ | a, h₁⟩
  all_goals rw [hr] at hk₁
  · exact hk₁
  · exact hf a h₁ hk₁

theorem KeepsKeyed.catching {k : Failure → HostM α} (hm : KeepsKeyed m)
    (hk : ∀ e, KeepsKeyed (k e)) : KeepsKeyed (tryCatch m k) := by
  intro h hkh
  have hk₁ := hm h hkh
  rw [run_tryCatch_of]
  rcases hr : m.run.run h with ⟨_ | a, h₁⟩
  all_goals rw [hr] at hk₁
  · exact hk _ h₁ hk₁
  · exact hk₁

theorem keepsKeyed_onFiles {g : Volume → Except Failure Volume}
    (hg : ∀ v v', v.Keyed → g v = .ok v' → v'.Keyed) : KeepsKeyed (onFiles g) := by
  intro h hk
  rcases hgv : g h.files with e | v'
  · rw [run_onFiles_of_error hgv]
    exact hk
  · rw [run_onFiles_of_ok hgv]
    exact hg _ _ hk hgv

theorem keepsKeyed_makeDirs (p : List String) : KeepsKeyed (onFilesKeeping (·.makeDirs p)) := by
  intro h hk
  rcases hgv : h.files.makeDirs p with ⟨v', _ | e⟩
  all_goals have hk' := hk.makeDirs p
  all_goals rw [hgv] at hk'
  · rw [run_onFilesKeeping_of_none hgv]
    exact hk'
  · rw [run_onFilesKeeping_of_some hgv]
    exact hk'

end KeepsKeyed

/-! ### What a failing run leaves at one path -/

/-- Every failing run of `m` from a plain volume leaves the entry at `q` as it was. -/
def KeepsOnError (q : List String) (m : HostM α) : Prop :=
  ∀ h e h', h.files.Plain → m.run.run h = (.error e, h') → h'.files.entryAt q = h.files.entryAt q

theorem keepsOnError_onFiles {q : List String} (g : Volume → Except Failure Volume) :
    KeepsOnError q (onFiles g) := by
  intro h e h' _ hrun
  rcases hgv : g h.files with e' | v'
  · rw [run_onFiles_of_error hgv] at hrun
    cases hrun
    rfl
  · rw [run_onFiles_of_ok hgv] at hrun
    cases hrun

/-- A first step confined away from `q` and then a step that keeps `q` when it fails. -/
theorem KeepsOnError.bind {q base : List String} {S : List String → Prop} (hm : Confined S base m)
    (hq : ¬ S q) (hb : ¬ q <+: base) (hf : ∀ a, KeepsOnError q (f a)) :
    KeepsOnError q (m >>= f) := by
  intro h e h' hv hrun
  obtain ⟨hv₁, hc⟩ := hm h hv
  have hkeep : (m.run.run h).2.files.entryAt q = h.files.entryAt q :=
    (hc q hq).resolve_right fun ⟨hqb, _⟩ => hb hqb
  rw [run_bind] at hrun
  rcases hr : m.run.run h with ⟨_ | a, h₁⟩
  all_goals rw [hr] at hrun hv₁ hkeep
  · cases hrun
    exact hkeep
  · exact (hf a h₁ e h' hv₁ hrun).trans hkeep

end HostM

namespace ArchiveHandler

open HostM Volume

variable {R : List String → Prop} {a : ByteArray} {entries : List Zip.Entry} {target : List String}

/-! ### Unpacking -/

/-- **Unpacking reads only its target's way.** Unpacking members into a target of proper names is
local to every region that holds the way to the target and everything below it. -/
theorem unpackMembers_local (ht : ∀ c ∈ target, Proper c) (hR : ∀ q, Along target q → R q)
    (names : List String) : Local R (unpackMembers a entries target names) := by
  induction names with
  | nil => exact local_pure ()
  | cons m rest ih =>
    rw [unpackMembers]
    split
    · exact local_throw_bind _ _
    · rename_i htrav
      have hpath : ∀ c ∈ target ++ partsOf m, Proper c := by
        intro c hc
        rcases List.mem_append.1 hc with hc | hc
        · exact ht c hc
        · exact proper_partsOf htrav c hc
      have hway : ∀ q, q <+: target ++ partsOf m → R q :=
        fun q hq => hR q (along_of_common_path (List.prefix_append _ _) hq)
      have hpar : ∀ c ∈ (target ++ partsOf m).dropLast, Proper c :=
        fun c hc => hpath c ((List.dropLast_prefix _).subset hc)
      have hparway : ∀ q, q <+: (target ++ partsOf m).dropLast → R q :=
        fun q hq => hway q (hq.trans (List.dropLast_prefix _))
      dsimp only
      split
      · exact local_throw_bind _ _
      · split
        · exact (local_makeDirs hpath hway).bind (keepsPlain_makeDirs hpath) fun _ => ih
        · refine (local_makeDirs hpar hparway).bind (keepsPlain_makeDirs hpar) fun _ => ?_
          split
          · refine (local_orThrow _).bind (keepsPlain_orThrow _) fun _ =>
              (local_writeFile hpath hway _).bind (keepsPlain_writeFile hpath _) fun _ => ?_
            split
            · exact local_throw_bind _ _
            · exact ih
          · exact local_throw_bind _ _

theorem extract_local (name : String) (ht : ∀ c ∈ target, Proper c)
    (hR : ∀ q, Along target q → R q) : Local R (extract name a target) := by
  have hbody := confined_makeDirs_bind (f := fun _ => orThrow (Zip.directory a) >>= fun entries =>
      unpackMembers a entries target (Zip.names entries)) ht fun _ =>
    (confined_orThrow _).within.bind fun _ => unpackMembers_within ht _
  refine Local.catching ?_ hbody.keepsPlain fun _ => local_throw _
  refine (local_makeDirs ht fun q hq => hR q (.inl hq)).bind (keepsPlain_makeDirs ht) fun _ => ?_
  exact (local_orThrow _).bind (keepsPlain_orThrow _) fun _ => unpackMembers_local ht hR _

theorem unpackMembers_keepsKeyed (names : List String) :
    KeepsKeyed (unpackMembers a entries target names) := by
  induction names with
  | nil => exact keepsKeyed_pure ()
  | cons m rest ih =>
    rw [unpackMembers]
    split
    · exact keepsKeyed_throw_bind _ _
    · dsimp only
      split
      · exact keepsKeyed_throw_bind _ _
      · split
        · exact (keepsKeyed_makeDirs _).bind fun _ => ih
        · refine (keepsKeyed_makeDirs _).bind fun _ => ?_
          split
          · refine (keepsKeyed_orThrow _).bind fun _ =>
              (keepsKeyed_onFiles fun _ _ hk hw => hk.writeFile hw).bind fun _ => ?_
            split
            · exact keepsKeyed_throw_bind _ _
            · exact ih
          · exact keepsKeyed_throw_bind _ _

theorem extract_keepsKeyed (name : String) : KeepsKeyed (extract name a target) :=
  KeepsKeyed.catching ((keepsKeyed_makeDirs _).bind fun _ =>
      (keepsKeyed_orThrow _).bind fun _ => unpackMembers_keepsKeyed _)
    fun _ _ hk => hk

/-! ### Deploying -/

section Deploy

variable {dir archive : List String}

theorem along_content {q : List String} (hq : q <+: dir ++ [contentDirName]) : Along dir q :=
  along_of_common_path (List.prefix_append _ _) hq

/-- **A deploy reads only its directory.** Deploying an archive of proper names into a directory
of proper names is local to every region that holds the way to the directory, everything below
it, and the way to the archive. -/
theorem deploy_local (hdir : ∀ c ∈ dir, Proper c) (harch : ∀ c ∈ archive, Proper c)
    (hR : ∀ q, Along dir q → R q) (hRa : ∀ q, q <+: archive → R q) :
    Local R (deploy dir archive) := by
  have hcontent := proper_append_name hdir proper_contentDirName
  have hcR : ∀ q, q <+: dir ++ [contentDirName] → R q := fun q hq => hR q (along_content hq)
  have hunpack : ∀ name bytes, Local R (extract name bytes (dir ++ [contentDirName])) :=
    fun name _ => extract_local name hcontent fun q hq => by
      rcases hq with hq | hq
      · exact hcR q hq
      · exact hR q (.inr ((List.prefix_append _ _).trans hq))
  have hmark := local_writeFile (R := R) (proper_append_name hdir ordinary_installedMarker.proper)
    (fun q hq => hR q (along_of_common_path (List.prefix_append _ _) hq))
    (Blob.ofText (archive.getLast?.getD ""))
  have hmarkp := keepsPlain_writeFile (proper_append_name hdir ordinary_installedMarker.proper)
    (Blob.ofText (archive.getLast?.getD ""))
  unfold deploy
  refine local_files_bind (fun v v' hv hv' hA => ?_) fun _ => ?_
  · -- the deploy reads the archive and whether `content/` is there, both in the region
    dsimp only
    rw [content?_congr hv hv' harch fun q hq => hA q (hRa q hq),
      pathExists_congr hv hv' hcontent fun q hq => hA q (hcR q hq)]
  · dsimp only
    refine (local_orThrow _).bind (keepsPlain_orThrow _) fun _ => ?_
    split
    · split
      · refine (local_removeTree hcontent (by simp) hcR).bind
          (keepsPlain_removeTree hcontent (by simp)) fun _ => ?_
        exact (hunpack _ _).bind (extract_confined _ hcontent).keepsPlain fun _ => hmark
      · exact (hunpack _ _).bind (extract_confined _ hcontent).keepsPlain fun _ => hmark
    · exact hmark

theorem deploy_keepsKeyed : KeepsKeyed (deploy dir archive) := by
  have hmark : KeepsKeyed
      (onFiles (·.writeFile (dir ++ [installedMarker]) (Blob.ofText (archive.getLast?.getD "")))) :=
    keepsKeyed_onFiles fun _ _ hk hw => hk.writeFile hw
  unfold deploy
  dsimp only
  refine keepsKeyed_files.bind fun _ => (keepsKeyed_orThrow _).bind fun _ => ?_
  split
  · split
    · exact (keepsKeyed_onFiles fun _ _ hk hr => hk.removeTree hr).bind fun _ =>
        extract_keepsKeyed _ |>.bind fun _ => hmark
    · exact (extract_keepsKeyed _).bind fun _ => hmark
  · exact hmark

/-- A deploy that fails leaves the marker as it was: before writing it, the deploy only works at
or below `content/`. -/
theorem deploy_error_keeps_marker (hdir : ∀ c ∈ dir, Proper c) :
    KeepsOnError (dir ++ [installedMarker]) (deploy dir archive) := by
  have hcontent := proper_append_name hdir proper_contentDirName
  -- the marker is neither at or below `content/` nor on the way to it
  have hne : installedMarker ≠ contentDirName := by decide
  have hnot : ¬ dir ++ [contentDirName] <+: dir ++ [installedMarker] := fun h =>
    hne (by simpa using (h.eq_of_length (by simp)).symm)
  have hnot' : ¬ dir ++ [installedMarker] <+: dir ++ [contentDirName] := fun h =>
    hne (by simpa using h.eq_of_length (by simp))
  have hunpack : ∀ name bytes, Confined (dir ++ [contentDirName] <+: ·) (dir ++ [contentDirName])
      (extract name bytes (dir ++ [contentDirName])) :=
    fun name _ => (extract_confined name hcontent).mono (fun _ hq => hq.1) fun _ hq _ => hq
  have hmark := keepsOnError_onFiles (q := dir ++ [installedMarker])
    (·.writeFile (dir ++ [installedMarker]) (Blob.ofText (archive.getLast?.getD "")))
  have hroot : ¬ dir ++ [installedMarker] <+: [] := by simp
  unfold deploy
  dsimp only
  refine KeepsOnError.bind (S := fun _ => False) confined_files id hroot fun _ => ?_
  refine KeepsOnError.bind (S := fun _ => False) (confined_orThrow _) id hroot fun _ => ?_
  split
  · split
    · refine KeepsOnError.bind (confined_removeTree hcontent (by simp) fun _ hq => hq) hnot hnot'
        fun _ => ?_
      exact KeepsOnError.bind (hunpack _ _) hnot hnot' fun _ => hmark
    · exact KeepsOnError.bind (hunpack _ _) hnot hnot' fun _ => hmark
  · exact hmark

end Deploy

end ArchiveHandler

end AddonCatalog
