import AddonCatalog.Proofs.Files.Plain
/-!
# Where the operations on a plain volume act

On a plain volume a path of proper names (`Volume.Proper`: not empty, not `.` or `..`, of any
length) is looked up part by part, so a lookup that succeeds went straight down along
directories, and each of its names fits (`walk_eq_ok`). An operation that succeeds therefore
acts at the path it is given and keeps the volume plain: `writeFile_eq_ok`, `mkdir_eq_ok`,
`unlink_eq_ok`, `removeTree_eq_ok`, `replace_eq_ok`; and making the directories of a path,
whether it succeeds or not, only puts directories where nothing stood on its way
(`mkdirsFrom_madeAlong`).

`Volume.Confined S base v v'` is the footprint the later proofs track: `v'` differs from `v`
only at the paths where `S` holds, apart from directories made where nothing stood on the way
to `base`. It is reflexive, transitive and monotone, and setting or dropping entries where `S`
holds stays within it.

`checkExists_of_ordinary`: on a plain volume, whether a path of ordinary names leads to
something is whether it has an entry.
-/

namespace AddonCatalog

namespace Volume

/-- A name a lookup steps into: not empty, not `.` or `..`; it may be too long for a
directory. -/
structure Proper (c : String) : Prop where
  ne_empty : c ≠ ""
  ne_dot : c ≠ "."
  ne_dotdot : c ≠ ".."

theorem Ordinary.proper {c : String} (hc : Ordinary c) : Proper c :=
  ⟨hc.ne_empty, hc.ne_dot, hc.ne_dotdot⟩

theorem Proper.ordinary {c : String} (hc : Proper c) (hfit : c.utf8ByteSize ≤ maxNameBytes) :
    Ordinary c :=
  ⟨hc.ne_empty, hc.ne_dot, hc.ne_dotdot, hfit⟩

/-- The paths strictly below the directory `D`. -/
def Below (D q : List String) : Prop := D <+: q ∧ q ≠ D

theorem below_append {D rest : List String} (hr : rest ≠ []) : Below D (D ++ rest) :=
  ⟨List.prefix_append D rest, by simpa using hr⟩

theorem Below.ne_nil {D q : List String} (h : Below D q) : q ≠ [] := by
  rintro rfl
  exact h.2 (List.prefix_nil.1 h.1).symm

/-- What lies at or below a path strictly below `D` is strictly below `D`. -/
theorem Below.of_prefix {D p q : List String} (hb : Below D p) (hq : p <+: q) : Below D q := by
  refine ⟨hb.1.trans hq, fun h => hb.2 ?_⟩
  subst h
  exact hq.eq_of_length (Nat.le_antisymm hq.length_le hb.1.length_le)

variable {v : Volume} {fl : Bool} {fuel : Nat}

/-! ### Lookups that succeed -/

/-- A lookup fails at a proper name too long for a directory, once it reaches it. -/
theorem walk_of_long_name (hv : v.Plain) {acc rest : List String} {c : String} (hc : Proper c)
    (hlong : maxNameBytes < c.utf8ByteSize) :
    v.walk fl fuel acc (c :: rest) = .error .nameTooLong := by
  have h1 : (c == "" || c == ".") = false := by simp [hc.ne_empty, hc.ne_dot]
  have h2 : (c == "..") = false := by simp [hc.ne_dotdot]
  have h3 : (acc.isEmpty && !v.hasRoot) = false := by simp [hv.root]
  rw [walk]
  simp only [h1, h2, h3, Bool.false_eq_true, if_false, if_pos hlong]

/-- **A lookup that succeeds went straight down.** On a plain volume, a lookup of proper names
from a directory that succeeds reaches the path itself, along directories, and each of its
names fits. -/
theorem walk_eq_ok (hv : v.Plain) {acc rest : List String} {pl : Place}
    (hr : ∀ c ∈ rest, Proper c) (hacc : v.entryAt acc = some .dir)
    (h : v.walk fl fuel acc rest = .ok pl) :
    pl = ⟨acc ++ rest, v.entryAt (acc ++ rest)⟩ ∧ DirsAlong v acc rest.dropLast ∧
      ∀ c ∈ rest, Ordinary c := by
  induction rest generalizing acc with
  | nil =>
    have hw : v.walk fl fuel acc [] = .ok ⟨acc, v.entryAt acc⟩ := by simp [walk]
    rw [hw] at h
    cases h
    exact ⟨by simp, dirsAlong_nil.2 hacc, by simp⟩
  | cons c rest ih =>
    have hc : Proper c := hr c (by simp)
    by_cases hfit : c.utf8ByteSize ≤ maxNameBytes
    case neg =>
      rw [walk_of_long_name hv hc (by omega)] at h
      cases h
    have hco : Ordinary c := hc.ordinary hfit
    rw [walk_cons hv hco] at h
    -- the entry of the name decides whether the lookup goes on
    cases he : v.entryAt (acc ++ [c]) with
    | none =>
      cases rest with
      | nil =>
        simp only [he, List.isEmpty_nil, if_true, Except.ok.injEq] at h
        subst h
        exact ⟨by simp [he], dirsAlong_nil.2 hacc, by simpa using hco⟩
      | cons d rest => simp [he] at h
    | some e =>
      cases e with
      | dir =>
        simp only [he] at h
        obtain ⟨hpl, hd, hall⟩ := ih (fun x hx => hr x (by simp [hx])) he h
        refine ⟨by simpa using hpl, ?_, ?_⟩
        · cases rest with
          | nil => exact dirsAlong_nil.2 hacc
          | cons d rest =>
            rw [List.dropLast_cons_cons, dirsAlong_cons]
            exact ⟨hacc, hd⟩
        · intro x hx
          rcases List.mem_cons.1 hx with rfl | hx
          · exact hco
          · exact hall x hx
      | file b =>
        cases rest with
        | nil =>
          simp only [he, List.isEmpty_nil, if_true, Except.ok.injEq] at h
          subst h
          exact ⟨by simp [he], dirsAlong_nil.2 hacc, by simpa using hco⟩
        | cons d rest => simp [he] at h
      | link t => exact absurd he (hv.noLinks _ t)

section Lookup

variable {p : List String} {pl : Place}

theorem stat_eq_ok (hv : v.Plain) (hp : ∀ c ∈ p, Proper c) (h : v.stat p = .ok pl) :
    pl = ⟨p, v.entryAt p⟩ ∧ DirsAlong v [] p.dropLast ∧ ∀ c ∈ p, Ordinary c := by
  simpa using walk_eq_ok hv hp hv.rootDir h

theorem lstat_eq_ok (hv : v.Plain) (hp : ∀ c ∈ p, Proper c) (h : v.lstat p = .ok pl) :
    pl = ⟨p, v.entryAt p⟩ ∧ DirsAlong v [] p.dropLast ∧ ∀ c ∈ p, Ordinary c := by
  simpa using walk_eq_ok hv hp hv.rootDir h

/-- The empty path is the root, a directory. -/
theorem ne_nil_of_not_dir (hv : v.Plain) (h : v.entryAt p ≠ some .dir) : p ≠ [] := by
  rintro rfl
  exact h hv.rootDir

/-- The directories on the way to an entry are there. -/
theorem Plain.dirsAlong_of_entryAt (hv : v.Plain) {e : Entry} (he : v.entryAt p = some e) :
    DirsAlong v [] p.dropLast := by
  intro q hq
  rw [List.nil_append]
  by_cases hp0 : p = []
  · subst hp0
    rw [List.dropLast_nil, List.prefix_nil] at hq
    rw [hq]
    exact hv.rootDir
  · exact hv.parents p e he q (hq.trans (List.dropLast_prefix p)) (ne_of_prefix_dropLast hp0 hq)

/-- On a plain volume a path of proper names that has an entry is looked up directly. -/
theorem lstat_of_entryAt (hv : v.Plain) (hp : ∀ c ∈ p, Proper c) {e : Entry}
    (he : v.entryAt p = some e) : v.lstat p = .ok ⟨p, some e⟩ := by
  have hord : ∀ c ∈ p, Ordinary c := fun c hc => (hp c hc).ordinary (hv.fits p e he c hc)
  rw [lstat_of_dirs hv hord (hv.dirsAlong_of_entryAt he), he]

/-- A lookup of proper names that fails finds nothing at the path. -/
theorem entryAt_of_lstat_error (hv : v.Plain) (hp : ∀ c ∈ p, Proper c) {w : WalkError}
    (h : v.lstat p = .error w) : v.entryAt p = none := by
  cases he : v.entryAt p with
  | none => rfl
  | some e =>
    rw [lstat_of_entryAt hv hp he] at h
    cases h

theorem endsInDots_of_proper (hp : ∀ c ∈ p, Proper c) : endsInDots p = false := by
  unfold endsInDots
  cases hl : p.getLast? with
  | none => rfl
  | some c =>
    have hc := hp c (List.mem_of_getLast? hl)
    simp [hc.ne_dot, hc.ne_dotdot]

/-- On a plain volume, whether a path of ordinary names leads to something is whether it has an
entry. -/
theorem checkExists_of_ordinary (hv : v.Plain) (hp : ∀ c ∈ p, Ordinary c) :
    v.checkExists p = .ok (v.entryAt p).isSome := by
  unfold checkExists
  by_cases hd : DirsAlong v [] p.dropLast
  · rw [stat_of_dirs hv hp hd]
  · -- a gap on the way: the lookup fails short of the path, where nothing stands
    have hnone := hv.entryAt_of_gap hd
    have hr : ∀ c ∈ p.dropLast, Ordinary c := fun c hc => hp c (List.dropLast_subset _ hc)
    unfold stat
    by_cases hn : NoFileAlong v [] p.dropLast
    · rw [(walk_of_gap hv hr hv.rootDir hd).1 hn, hnone]
      rfl
    · rw [(walk_of_gap hv hr hv.rootDir hd).2 hn, hnone]
      rfl

end Lookup

/-! ### Footprints -/

/-- `v'` differs from `v` only at the paths where `S` holds, apart from directories made where
nothing stood on the way to `base`. -/
def Confined (S : List String → Prop) (base : List String) (v v' : Volume) : Prop :=
  ∀ q, ¬ S q → v'.entryAt q = v.entryAt q ∨
    q <+: base ∧ v.entryAt q = none ∧ v'.entryAt q = some .dir

section Confined

variable {S S' : List String → Prop} {base base' : List String} {v₁ v₂ v₃ : Volume}

theorem Confined.refl : Confined S base v v := fun _ _ => .inl rfl

theorem Confined.trans (h₁ : Confined S base v₁ v₂) (h₂ : Confined S base v₂ v₃) :
    Confined S base v₁ v₃ := by
  intro q hq
  rcases h₂ q hq with h | ⟨hb, hn, hd⟩ <;> rcases h₁ q hq with h' | ⟨hb', hn', hd'⟩
  · exact .inl (h.trans h')
  · exact .inr ⟨hb', hn', h.trans hd'⟩
  · exact .inr ⟨hb, h'.symm.trans hn, hd⟩
  · -- a directory made in the first run is not missing before the second
    rw [hn] at hd'
    cases hd'

/-- A footprint widens to a larger region, and to a base whose way covers the old one's outside
the region. -/
theorem Confined.mono (h : Confined S base v₁ v₂) (hS : ∀ q, S q → S' q)
    (hb : ∀ q, q <+: base → ¬ S' q → q <+: base') : Confined S' base' v₁ v₂ := by
  intro q hq
  rcases h q (fun hs => hq (hS q hs)) with h | ⟨hqb, hn, hd⟩
  · exact .inl h
  · exact .inr ⟨hb q hqb hq, hn, hd⟩

theorem confined_setEntry {p : List String} (hp : p ≠ []) (hS : S p) (e : Entry) :
    Confined S base v (v.setEntry p e) := by
  intro q hq
  rw [entryAt_setEntry hp, if_neg fun (h : q = p) => hq (h ▸ hS)]
  exact .inl rfl

theorem confined_dropTree {p : List String} (hp : p ≠ []) (hS : ∀ q, p <+: q → S q) :
    Confined S base v (v.dropTree p) := by
  intro q hq
  rw [entryAt_dropTree hp, if_neg fun h => hq (hS q h)]
  exact .inl rfl

/-- Directories made on the way to a path stay within a footprint whose region or way covers
every prefix of the path. -/
theorem Confined.of_dirs {p : List String} (h : Confined (fun _ => False) p v₁ v₂)
    (hp : ∀ q, q <+: p → ¬ S q → q <+: base) : Confined S base v₁ v₂ :=
  h.mono (fun _ h => h.elim) hp

end Confined

/-! ### Operations that succeed -/

section Ops

variable {p : List String} {v' : Volume}

/-- A write that succeeds puts a file at the path itself. -/
theorem writeFile_eq_ok (hv : v.Plain) (hp : ∀ c ∈ p, Proper c) {b : Blob}
    (h : v.writeFile p b = .ok v') :
    v' = v.setEntry p (.file b) ∧ v'.Plain ∧ v.entryAt p ≠ some .dir := by
  unfold writeFile at h
  rcases hs : v.stat p with e | pl
  · rw [hs] at h
    cases h
  obtain ⟨rfl, hd, hord⟩ := stat_eq_ok hv hp hs
  rw [hs] at h
  -- a directory there refuses the write; anything else is replaced by the file
  have hnd : v.entryAt p ≠ some .dir := by
    intro he
    simp [he] at h
  have hset : v' = v.setEntry p (.file b) := by
    cases he : v.entryAt p with
    | none =>
      simp only [he, Except.ok.injEq] at h
      exact h.symm
    | some e =>
      cases e with
      | dir => exact absurd he hnd
      | file b' =>
        simp only [he, Except.ok.injEq] at h
        exact h.symm
      | link t => exact absurd he (hv.noLinks _ t)
  exact ⟨hset, hset ▸ hv.setEntry_file hd (ne_nil_of_not_dir hv hnd)
    (fun c hc => (hord c hc).fits) hnd, hnd⟩

/-- A write fails with a system error. -/
theorem writeFile_error_os {b : Blob} {f : Failure} (h : v.writeFile p b = .error f) :
    f.kind.isOs = true := by
  unfold writeFile at h
  split at h
  · cases h
    exact OsError.isOs_kind .isDirectory
  · cases h
  · cases h
    exact OsError.isOs_kind (OsError.ofWalk _)

/-- Making one directory puts it where nothing stood, or finds one there. -/
theorem mkdir_eq_ok (hv : v.Plain) (hp : ∀ c ∈ p, Proper c) (h : v.mkdir p = .ok v') :
    v'.Plain ∧ Confined (fun _ => False) p v v' ∧ v'.entryAt p = some .dir := by
  unfold mkdir at h
  rcases hs : v.lstat p with e | pl
  · rw [hs] at h
    cases h
  obtain ⟨rfl, hd, hord⟩ := lstat_eq_ok hv hp hs
  rw [hs] at h
  cases he : v.entryAt p with
  | none =>
    simp only [he, Except.ok.injEq] at h
    subst h
    have hp0 : p ≠ [] := ne_nil_of_not_dir hv (by simp [he])
    refine ⟨hv.setEntry hp0 hd.parents (fun _ h => by cases h) (fun c hc => (hord c hc).fits)
      (.inl rfl), fun q _ => ?_, by rw [entryAt_setEntry hp0, if_pos rfl]⟩
    rw [entryAt_setEntry hp0]
    by_cases hq : q = p
    · subst hq
      exact .inr ⟨List.prefix_refl _, he, by simp⟩
    · rw [if_neg hq]
      exact .inl rfl
  | some e =>
    -- something is there: it must be a directory, which is kept
    have hst : v.stat p = .ok ⟨p, some e⟩ := by
      rw [stat_of_dirs hv hord hd, he]
    simp only [he] at h
    split at h
    · cases h
      rename_i hdir
      simp only [isDir, target?, hst] at hdir
      cases e with
      | dir => exact ⟨hv, Confined.refl, he⟩
      | file b => cases hdir
      | link t => cases hdir
    · cases h

/-- Making directories fails with a system error, whatever the volume. -/
theorem mkdirsFrom_error_os {f : Failure} :
    ∀ (fuel : Nat) (p : List String), (v.mkdirsFrom fuel p).2 = some f → f.kind.isOs = true
  | fuel, p, h => by
    rw [mkdirsFrom.eq_def] at h
    dsimp only at h
    rcases hm : v.mkdir p with e | v₁
    · rw [hm] at h
      cases e with
      | noEntry =>
        cases fuel with
        | zero =>
          cases h
          exact OsError.isOs_kind .noEntry
        | succ fuel =>
          dsimp only at h
          rcases hr : v.mkdirsFrom fuel p.dropLast with ⟨v₁, _ | f₁⟩
          · rw [hr] at h
            dsimp only at h
            rcases hm₁ : v₁.mkdir p with e₁ | v₂
            · rw [hm₁] at h
              cases h
              exact OsError.isOs_kind e₁
            · rw [hm₁] at h
              cases h
          · rw [hr] at h
            cases h
            exact mkdirsFrom_error_os fuel p.dropLast (by rw [hr])
      | _ =>
        cases h
        rfl
    · rw [hm] at h
      cases h

theorem makeDirs_error_os {f : Failure} (h : (v.makeDirs p).2 = some f) : f.kind.isOs = true :=
  mkdirsFrom_error_os _ _ h

/-- What making the directories of a path did to a plain volume `v`, ending with `r`: the volume
is plain, only directories were put where nothing stood on the way to the path, and the path is a
directory when it succeeded. -/
structure MadeAlong (p : List String) (v : Volume) (r : Volume × Option Failure) : Prop where
  plain : r.1.Plain
  confined : Confined (fun _ => False) p v r.1
  dir : r.2 = none → r.1.entryAt p = some .dir

theorem MadeAlong.fail {f : Option Failure} (hv : v.Plain) (hf : f ≠ none) :
    MadeAlong p v (v, f) :=
  ⟨hv, Confined.refl, fun h => absurd h hf⟩

theorem MadeAlong.of_mkdir (hv : v.Plain) (hp : ∀ c ∈ p, Proper c) (h : v.mkdir p = .ok v') :
    MadeAlong p v (v', none) :=
  have hm := mkdir_eq_ok hv hp h
  ⟨hm.1, hm.2.1, fun _ => hm.2.2⟩

/-- **Making directories** on a plain volume, along proper names and whatever the fuel, keeps it
plain and only puts directories where nothing stood on the way to the path, whether it succeeds
or stops. -/
theorem mkdirsFrom_madeAlong (hv : v.Plain) (fuel : Nat) :
    ∀ p : List String, (∀ c ∈ p, Proper c) → MadeAlong p v (v.mkdirsFrom fuel p) := by
  induction fuel with
  | zero =>
    intro p hp
    rw [mkdirsFrom.eq_def]
    dsimp only
    rcases hm : v.mkdir p with e | v₁
    · cases e <;> exact MadeAlong.fail hv (by simp)
    · exact MadeAlong.of_mkdir hv hp hm
  | succ fuel ih =>
    intro p hp
    rw [mkdirsFrom.eq_def]
    dsimp only
    rcases hm : v.mkdir p with e | v₁
    · cases e with
      | noEntry =>
        -- the parent is made first; what it made lies on the way to the path too
        dsimp only
        have hwide : ∀ {w w' : Volume}, Confined (fun _ => False) p.dropLast w w' →
            Confined (fun _ => False) p w w' := fun hc =>
          hc.of_dirs fun q hq _ => hq.trans (List.dropLast_prefix p)
        have hpar := ih p.dropLast fun c hc => hp c (List.dropLast_subset _ hc)
        rcases hr : v.mkdirsFrom fuel p.dropLast with ⟨v₁, _ | f⟩
        · rw [hr] at hpar
          dsimp only
          rcases hm₁ : v₁.mkdir p with e₁ | v₂
          · exact ⟨hpar.plain, hwide hpar.confined, fun h => (by cases h)⟩
          · have hlast := MadeAlong.of_mkdir hpar.plain hp hm₁
            exact ⟨hlast.plain, (hwide hpar.confined).trans hlast.confined, hlast.dir⟩
        · rw [hr] at hpar
          exact ⟨hpar.plain, hwide hpar.confined, fun h => (by cases h)⟩
      | _ => exact MadeAlong.fail hv (by simp)
    · exact MadeAlong.of_mkdir hv hp hm

theorem makeDirs_madeAlong (hv : v.Plain) (hp : ∀ c ∈ p, Proper c) :
    MadeAlong p v (v.makeDirs p) :=
  mkdirsFrom_madeAlong hv _ p hp

/-- Removing a file or link drops it. -/
theorem unlink_eq_ok (hv : v.Plain) (hp : ∀ c ∈ p, Proper c) (h : v.unlink p = .ok v') :
    v' = v.dropTree p ∧ v'.Plain ∧ p ≠ [] := by
  unfold unlink at h
  rcases hs : v.lstat p with e | pl
  · rw [hs] at h
    cases h
  obtain ⟨rfl, -, -⟩ := lstat_eq_ok hv hp hs
  rw [hs] at h
  cases he : v.entryAt p with
  | none => simp [he] at h
  | some e =>
    cases e with
    | dir => simp [he] at h
    | file b =>
      simp only [he, Except.ok.injEq] at h
      have hp0 : p ≠ [] := ne_nil_of_not_dir hv (by simp [he])
      exact ⟨h.symm, h ▸ hv.dropTree hp0, hp0⟩
    | link t => exact absurd he (hv.noLinks _ t)

/-- Removing a tree drops the directory at the path. -/
theorem removeTree_eq_ok (hv : v.Plain) (hp : ∀ c ∈ p, Proper c) (hp0 : p ≠ [])
    (h : v.removeTree p = .ok v') : v' = v.dropTree p ∧ v'.Plain ∧ v.entryAt p = some .dir := by
  unfold removeTree at h
  rcases hs : v.lstat p with e | pl
  · rw [hs] at h
    cases h
  obtain ⟨rfl, -, -⟩ := lstat_eq_ok hv hp hs
  rw [hs] at h
  cases he : v.entryAt p with
  | none => simp [he] at h
  | some e =>
    cases e with
    | dir =>
      simp only [he, Except.ok.injEq] at h
      exact ⟨h.symm, h ▸ hv.dropTree hp0, rfl⟩
    | file b => simp [he] at h
    | link t => simp [he] at h

/-- Removing a tree quietly drops a directory at the path, and leaves anything else. -/
theorem removeTreeQuietly_eq (hv : v.Plain) (hp : ∀ c ∈ p, Proper c) (hp0 : p ≠ []) :
    (v.entryAt p = some .dir → v.removeTreeQuietly p = v.dropTree p) ∧
      (v.entryAt p ≠ some .dir → v.removeTreeQuietly p = v) := by
  unfold removeTreeQuietly
  rcases h : v.removeTree p with f | v'
  · -- the removal failed: no directory was there
    have hnd : v.entryAt p ≠ some .dir := by
      intro he
      unfold removeTree at h
      rw [lstat_of_entryAt hv hp he] at h
      cases h
    exact ⟨fun he => absurd he hnd, fun _ => rfl⟩
  · obtain ⟨rfl, -, he⟩ := removeTree_eq_ok hv hp hp0 h
    exact ⟨fun _ => rfl, fun hnd => absurd he hnd⟩

/-- Moving an entry to a path not below it: the entry leaves its place for the other path, a
directory there refusing it. -/
theorem replace_eq_ok {src dst : List String} (hv : v.Plain) (hs : ∀ c ∈ src, Proper c)
    (hd : ∀ c ∈ dst, Proper c) (hsd : ¬ src <+: dst) (h : v.replace src dst = .ok v') :
    ∃ e, v.entryAt src = some e ∧ v' = (v.dropTree src).setEntry dst e ∧ v'.Plain := by
  unfold replace at h
  rw [endsInDots_of_proper hs, endsInDots_of_proper hd] at h
  simp only [Bool.or_self, Bool.false_eq_true, ↓reduceIte] at h
  rcases hls : v.lstat src with es | pls
  · rw [hls] at h
    cases h
  obtain ⟨rfl, -, -⟩ := lstat_eq_ok hv hs hls
  rcases hld : v.lstat dst with ed | pld
  · rw [hls, hld] at h
    cases he : v.entryAt src <;> simp [he] at h
  obtain ⟨rfl, hdd, hordd⟩ := lstat_eq_ok hv hd hld
  rw [hls, hld] at h
  cases he : v.entryAt src with
  | none => simp [he] at h
  | some e =>
    have hnd : v.entryAt dst ≠ some .dir := by
      intro h'
      simp [he, h'] at h
    have hv' : v' = (v.dropTree src).setEntry dst e := by
      cases h' : v.entryAt dst with
      | none =>
        simp only [he, h', Except.ok.injEq] at h
        exact h.symm
      | some e' =>
        cases e' with
        | dir => exact absurd h' hnd
        | file b =>
          simp only [he, h', Except.ok.injEq] at h
          exact h.symm
        | link t => exact absurd h' (hv.noLinks _ t)
    have hs0 : src ≠ [] := by
      rintro rfl
      exact hsd List.nil_prefix
    have hd0 : dst ≠ [] := ne_nil_of_not_dir hv hnd
    -- the way to `dst` is not below `src`, so dropping `src` keeps it
    have hdrop : ∀ q, ¬ src <+: q → (v.dropTree src).entryAt q = v.entryAt q := fun q hq => by
      rw [entryAt_dropTree hs0, if_neg hq]
    refine ⟨e, rfl, hv', hv' ▸ (hv.dropTree hs0).setEntry hd0 (fun q hq hne => ?_)
      (fun t het => hv.noLinks src t (het ▸ he)) (fun c hc => (hordd c hc).fits) (.inr ?_)⟩
    · rw [hdrop q fun h => hsd (h.trans hq)]
      exact hdd.parents q hq hne
    · rwa [hdrop dst hsd]

end Ops

end Volume

end AddonCatalog
