import AddonCatalog.Archive.Handler
import AddonCatalog.Proofs.Archive.Footprint
/-!
# Unpacking an archive stays below its target

`ArchiveHandler.extract` makes its target directory, reads the archive's directory and unpacks
the members in order. Before it touches the volume for a member it refuses a name with a `..`
part and an absolute name. A name that passes both is a path of proper names at or below the
target, whatever its repeated or trailing slashes and `.` parts, so every directory it makes
and every file it writes lies below the target: a member named by the target itself (only
slashes and dots) would write over the target, which is a directory by then, and that fails.

`HostM.Within D m` is the footprint judgement for runs that start where `D` is a directory.
Unpacking the members is within the target (`unpackMembers_within`), and making the target
first turns that into the footprint of the whole (`extract_confined`).

The failures are a second judgement, `HostM.FailsWith P m`: every failure of every run satisfies
`P`. Unpacking fails with a refused name, a system error, or an error the zip reader raises on a
member (`unpackMembers_fails`). `extractFailure` turns system errors and broken archives into
handler errors; the reader's other errors (a compression method or a feature it does not
support, an encrypted member, data cut short or failing its check, a name that does not decode)
pass unchanged (`extract_writes_only_below_target`).
-/

namespace AddonCatalog

namespace Zip

/-- The failures the reader raises on a member of an archive: opening the member fails, or its
data breaks off. -/
def MemberFault (a : ByteArray) (entries : List Entry) (e : Failure) : Prop :=
  ∃ x ∈ entries, readMember a x = .error e ∨ ∃ d, readMember a x = .ok d ∧ d.failure = some e

/-- The failures the reader raises on an archive: reading its directory fails, or reading one of
the members it lists does. -/
def RaisesOn (a : ByteArray) (e : Failure) : Prop :=
  directory a = .error e ∨ ∃ entries, directory a = .ok entries ∧ MemberFault a entries e

theorem mem_of_entryOf {entries : List Entry} {m : String} {x : Entry}
    (h : entryOf? entries m = some x) : x ∈ entries :=
  (List.mem_filter.1 (List.mem_of_getLast? h)).1

/-- Every name of the directory finds an entry. -/
theorem entryOf_ne_none {entries : List Entry} {m : String} (h : m ∈ names entries) :
    entryOf? entries m ≠ none := by
  obtain ⟨x, hx, rfl⟩ := List.mem_map.1 h
  rw [entryOf?, Ne, List.getLast?_eq_none_iff]
  exact List.ne_nil_of_mem (List.mem_filter.2 ⟨hx, beq_self_eq_true _⟩)

end Zip

namespace Volume

/-- A change strictly below a directory leaves it a directory. -/
theorem Confined.entryAt_base {v v' : Volume} {D : List String} (hc : Confined (Below D) D v v')
    (hd : v.entryAt D = some .dir) : v'.entryAt D = some .dir := by
  rcases hc D fun hb => hb.2 rfl with h | ⟨-, -, h⟩
  · rw [h, hd]
  · exact h

end Volume

namespace HostM

variable {α β : Type} {D : List String} {m : HostM α} {f : α → HostM β}

open Volume

theorem confined_orThrow {S : List String → Prop} {base : List String} (x : Except Failure α) :
    Confined S base (ArchiveHandler.orThrow x) := by
  cases x with
  | error e => exact confined_throw e
  | ok a => exact confined_pure a

/-! ### Runs from a directory -/

/-- A computation that, run on a host with a plain volume where `D` is a directory, keeps it
plain and changes it only strictly below `D`. -/
def Within (D : List String) (m : HostM α) : Prop :=
  ∀ h, h.files.Plain → h.files.entryAt D = some .dir →
    (m.run.run h).2.files.Plain ∧ Volume.Confined (Below D) D h.files (m.run.run h).2.files

theorem Confined.within (hm : Confined (Below D) D m) : Within D m := fun h hv _ => hm h hv

theorem Within.bind (hm : Within D m) (hf : ∀ a, Within D (f a)) : Within D (m >>= f) := by
  intro h hv hd
  have hrun := hm h hv hd
  rw [run_bind]
  rcases hr : m.run.run h with ⟨_ | a, h'⟩
  · rw [hr] at hrun
    exact hrun
  · rw [hr] at hrun
    obtain ⟨hv', hc⟩ := hrun
    -- the directory is still there for the rest of the run
    obtain ⟨hv'', hc'⟩ := hf a h' hv' (hc.entryAt_base hd)
    exact ⟨hv'', hc.trans hc'⟩

/-- Writing a file at or below a directory changes only what is strictly below it: the directory
itself cannot be written over. -/
theorem within_writeFile {p : List String} (hp : ∀ c ∈ p, Proper c) (hD : D <+: p) (b : Blob) :
    Within D (onFiles (·.writeFile p b)) := by
  intro h hv hd
  rcases hw : h.files.writeFile p b with e | v'
  · rw [run_onFiles_of_error hw]
    exact ⟨hv, .refl⟩
  · rw [run_onFiles_of_ok hw]
    obtain ⟨rfl, hv', hnd⟩ := writeFile_eq_ok hv hp hw
    have hb : Below D p := ⟨hD, fun hpD => hnd (hpD ▸ hd)⟩
    exact ⟨hv', confined_setEntry hb.ne_nil hb _⟩

/-- Making a directory and then working from it changes only what is below it, apart from the
directories made on the way to it. -/
theorem confined_makeDirs_bind {f : PUnit → HostM β} (hD : ∀ c ∈ D, Proper c)
    (hf : ∀ a, Within D (f a)) : Confined (Below D) D (onFilesKeeping (·.makeDirs D) >>= f) := by
  intro h hv
  have hm := makeDirs_madeAlong hv hD
  have hc := hm.confined.of_dirs (S := Below D) fun _ hq _ => hq
  rcases hr : h.files.makeDirs D with ⟨v₁, _ | e⟩
  · rw [run_bind_of_ok (run_onFilesKeeping_of_none hr)]
    rw [hr] at hm hc
    obtain ⟨hv₂, hc₂⟩ := hf () { h with files := v₁ } hm.plain (hm.dir rfl)
    exact ⟨hv₂, hc.trans hc₂⟩
  · rw [run_bind_of_error (run_onFilesKeeping_of_some hr)]
    rw [hr] at hm hc
    exact ⟨hm.plain, hc⟩

/-! ### The failures of a computation -/

/-- Every failure of every run of `m` satisfies `P`. -/
def FailsWith (P : Failure → Prop) (m : HostM α) : Prop :=
  ∀ h e, (m.run.run h).1 = .error e → P e

variable {P Q : Failure → Prop}

theorem failsWith_pure (a : α) : FailsWith P (pure a) := by
  intro _ _ he
  cases he

theorem failsWith_throw {e : Failure} (he : P e) : FailsWith P (throw e : HostM α) := by
  intro _ _ he'
  cases he'
  exact he

theorem failsWith_throw_bind {e : Failure} (he : P e) (f : α → HostM β) :
    FailsWith P (throw e >>= f) := by
  intro _ _ he'
  cases he'
  exact he

theorem FailsWith.mono (hm : FailsWith P m) (hPQ : ∀ e, P e → Q e) : FailsWith Q m :=
  fun h e he => hPQ e (hm h e he)

theorem FailsWith.bind (hm : FailsWith P m) (hf : ∀ a, FailsWith P (f a)) :
    FailsWith P (m >>= f) := by
  intro h e he
  rcases hr : m.run.run h with ⟨_ | a, h'⟩
  · rw [run_bind_of_error hr] at he
    cases he
    exact hm h _ (by rw [hr])
  · rw [run_bind_of_ok hr] at he
    exact hf a h' e he

/-- The failure of a result, then the failures of what follows a value of it. -/
theorem failsWith_orThrow_bind {x : Except Failure α} (hx : ∀ e, x = .error e → P e)
    (hf : ∀ a, x = .ok a → FailsWith P (f a)) : FailsWith P (ArchiveHandler.orThrow x >>= f) := by
  cases x with
  | error e => exact failsWith_throw_bind (hx e rfl) f
  | ok a => exact hf a rfl

/-- A handler is given only failures of the computation it guards. -/
theorem FailsWith.catching {k : Failure → HostM α} (hm : FailsWith Q m)
    (hk : ∀ e, Q e → FailsWith P (k e)) : FailsWith P (tryCatch m k) := by
  intro h e he
  rw [run_tryCatch_of] at he
  rcases hr : m.run.run h with ⟨_ | a, h'⟩
  · rw [hr] at he
    exact hk _ (hm h _ (by rw [hr])) h' e he
  · rw [hr] at he
    cases he

theorem failsWith_onFiles {g : Volume → Except Failure Volume}
    (hg : ∀ v e, g v = .error e → P e) : FailsWith P (onFiles g) := by
  intro h e he
  rcases hgv : g h.files with e₁ | v
  · rw [run_onFiles_of_error hgv] at he
    cases he
    exact hg h.files e hgv
  · rw [run_onFiles_of_ok hgv] at he
    cases he

theorem failsWith_onFilesKeeping {g : Volume → Volume × Option Failure}
    (hg : ∀ v e, (g v).2 = some e → P e) : FailsWith P (onFilesKeeping g) := by
  intro h e he
  rcases hgv : g h.files with ⟨v, _ | e₁⟩
  · rw [run_onFilesKeeping_of_none hgv] at he
    cases he
  · rw [run_onFilesKeeping_of_some hgv] at he
    cases he
    exact hg h.files e (by rw [hgv])

end HostM

namespace ArchiveHandler

open HostM Volume

variable {a : ByteArray} {entries : List Zip.Entry} {target : List String}

/-- The parts of a member name that passes the `..` check are proper names. -/
theorem proper_partsOf {m : String} (h : ¬ (memberParts m).contains ".." = true) :
    ∀ c ∈ partsOf m, Proper c := by
  intro c hc
  obtain ⟨-, hne⟩ := List.mem_filter.1 hc
  simp only [Bool.and_eq_true, bne_iff_ne, ne_eq] at hne
  refine ⟨hne.1, hne.2, fun hdd => h ?_⟩
  rw [List.contains_iff_mem]
  exact List.mem_append_right _ (hdd ▸ hc)

/-- The directory a member is written in is on the way to the target or below it. -/
theorem dropLast_comparable (target parts : List String) :
    (target ++ parts).dropLast <+: target ∨ target <+: (target ++ parts).dropLast := by
  rcases parts.eq_nil_or_concat with rfl | ⟨init, c, rfl⟩
  · left
    rw [List.append_nil]
    exact List.dropLast_prefix target
  · right
    rw [List.concat_eq_append, ← List.append_assoc, List.dropLast_concat]
    exact List.prefix_append target init

/-- Unpacking members into a directory changes only what is below it, whatever their names: each
name is checked before anything of it is made or written. -/
theorem unpackMembers_within (ht : ∀ c ∈ target, Proper c) (names : List String) :
    Within target (unpackMembers a entries target names) := by
  induction names with
  | nil => exact (confined_pure ()).within
  | cons m rest ih =>
    rw [unpackMembers]
    split
    · exact (confined_throw_bind _ _).within
    · rename_i htrav
      have hpath : ∀ c ∈ target ++ partsOf m, Proper c := by
        intro c hc
        rcases List.mem_append.1 hc with hc | hc
        · exact ht c hc
        · exact proper_partsOf htrav c hc
      dsimp only
      split
      · exact (confined_throw_bind _ _).within
      · split
        -- a directory member: its directories, at or below the target
        · exact Within.bind (confined_makeDirs hpath (.inr (List.prefix_append _ _))).within
            fun _ => ih
        -- a file member: the directories of its parent, then the file
        · have hdir := confined_makeDirs (fun c hc => hpath c ((List.dropLast_prefix _).subset hc))
            (dropLast_comparable target (partsOf m))
          refine Within.bind hdir.within fun _ => ?_
          split
          · refine Within.bind (confined_orThrow _).within fun _ =>
              Within.bind (within_writeFile hpath (List.prefix_append _ _) _) fun _ => ?_
            split
            · exact (confined_throw_bind _ _).within
            · exact ih
          · exact (confined_throw_bind _ _).within

/-- Unpacking the names of an archive's directory fails with a refused name, a system error, or
an error the reader raises on a member; every name finds its entry. -/
theorem unpackMembers_fails {names : List String} (hn : ∀ m ∈ names, m ∈ Zip.names entries) :
    FailsWith (fun e => e.kind = .handler ∨ e.kind.isOs = true ∨ Zip.MemberFault a entries e)
      (unpackMembers a entries target names) := by
  have hdirs : ∀ p, FailsWith (fun e => e.kind = .handler ∨ e.kind.isOs = true ∨
      Zip.MemberFault a entries e) (onFilesKeeping (·.makeDirs p)) :=
    fun _ => failsWith_onFilesKeeping fun _ _ he => Or.inr (Or.inl (makeDirs_error_os he))
  induction names with
  | nil => exact failsWith_pure ()
  | cons m rest ih =>
    have ih := ih fun m' hm' => hn m' (List.mem_cons_of_mem _ hm')
    rw [unpackMembers]
    split
    · exact failsWith_throw_bind (.inl rfl) _
    · dsimp only
      split
      · exact failsWith_throw_bind (.inl rfl) _
      · split
        · exact (hdirs _).bind fun _ => ih
        · refine (hdirs _).bind fun _ => ?_
          split
          · rename_i x hx
            have hx := Zip.mem_of_entryOf hx
            refine failsWith_orThrow_bind (fun e he => .inr (.inr ⟨x, hx, .inl he⟩))
              fun d hd => ?_
            refine (failsWith_onFiles fun _ _ he => .inr (.inl (writeFile_error_os he))).bind
              fun _ => ?_
            split
            · rename_i f hf
              exact failsWith_throw_bind (.inr (.inr ⟨x, hx, .inr ⟨d, hd, hf⟩⟩)) _
            · exact ih
          · rename_i hnone
            exact absurd (Option.eq_none_iff_forall_ne_some.2 hnone)
              (Zip.entryOf_ne_none (hn m List.mem_cons_self))

/-- A failure that is a handler error, a system error or an error the reader raises is reported
as a handler error, or as an error the reader raises that is neither a system error nor a broken
archive. -/
theorem extractFailure_of {name : String} {e : Failure}
    (he : e.kind = .handler ∨ e.kind.isOs = true ∨ Zip.RaisesOn a e) :
    (extractFailure name e).kind = .handler ∨ (Zip.RaisesOn a (extractFailure name e) ∧
      (extractFailure name e).kind.isOs = false ∧ (extractFailure name e).kind ≠ .badArchive) := by
  unfold extractFailure
  split
  · exact .inl rfl
  · rename_i hk
    have hos : e.kind.isOs = false := by
      cases hos : e.kind.isOs
      · rfl
      · exact absurd (by rw [hos]; rfl) hk
    have hbad : e.kind ≠ .badArchive := fun hb => hk (by rw [hb]; rfl)
    rcases he with he | he | he
    · exact .inl he
    · exact absurd he (by rw [hos]; decide)
    · exact .inr ⟨he, hos, hbad⟩

theorem extract_confined (name : String) (ht : ∀ c ∈ target, Proper c) :
    Confined (Below target) target (extract name a target) :=
  Confined.catching (confined_makeDirs_bind ht fun _ =>
      (confined_orThrow _).within.bind fun _ => unpackMembers_within ht _)
    fun _ => confined_throw _

theorem extract_fails (name : String) :
    FailsWith (fun e => e.kind = .handler ∨
      (Zip.RaisesOn a e ∧ e.kind.isOs = false ∧ e.kind ≠ .badArchive))
      (extract name a target) := by
  refine FailsWith.catching (Q := fun e => e.kind = .handler ∨ e.kind.isOs = true ∨
    Zip.RaisesOn a e) ?_ fun e he => failsWith_throw (extractFailure_of he)
  refine (failsWith_onFilesKeeping fun _ _ he => .inr (.inl (makeDirs_error_os he))).bind
    fun _ => ?_
  refine failsWith_orThrow_bind (fun e he => .inr (.inr (.inl he))) fun entries hdir => ?_
  -- the member faults are faults of the archive whose directory was read
  exact (unpackMembers_fails fun _ hm => hm).mono fun e he =>
    he.imp_right (Or.imp_right fun hf => .inr ⟨entries, hdir, hf⟩)

theorem proper_content : ∀ c ∈ [contentDirName], Proper c := by
  intro c hc
  rw [List.mem_singleton.1 hc]
  exact ⟨by decide, by decide, by decide⟩

end ArchiveHandler

end AddonCatalog
