import AddonCatalog.Version.Range
import AddonCatalog.Proofs.Addon.Deduplicate
import Mathlib.Data.List.TakeDrop
import Mathlib.Data.List.TakeWhile

/-!
# Checking a version against a range

A range is written in interval notation, `[4.0.0,5.0.0)` or `(3.4;4.0.0]`, with blanks
allowed around every part (`VersionRange.Spells`); reading a range text follows this grammar
exactly (`VersionRange.parse?_eq_some_iff`).

A check reads the version, then the lower bound and compares, and reads the upper bound only
for a version that passed the lower one (`VersionRange.admitsVersion_eq`, with the upper
bound's part as `VersionRange.upperVerdict`). So:

* whatever a check answers is the verdict of the bounds, `VersionRange.AdmitsAt`
  (`inRange_ok`);
* within the digit limit every comparison answers, and a check fails exactly when the range
  text does not read or the range refuses the version (`VersionRange.Refuses`), always as a text
  that is not a version or a range (`inRange_error_iff_within`); past the limit a check can
  fail on a number alone (`inRange_error_past_limit`);
* the versions a range admits are closed under equality and form an interval of the order of
  versions (`VersionRange.admitsAt_between`).

`range_check_follows_bounds` collects these.
-/

namespace AddonCatalog

namespace VersionRange

section Split

variable {α : Type} {p : α → Bool} {l xs rest : List α} {c : α}

/-- Dropping the leading run of `p` stops at `c` exactly when `c` is the first element that
fails `p`. -/
theorem dropWhile_eq_cons_iff :
    l.dropWhile p = c :: rest ↔ ∃ xs, l = xs ++ c :: rest ∧ (∀ x ∈ xs, p x) ∧ p c = false := by
  constructor
  · intro h
    refine ⟨l.takeWhile p, ?_, fun x hx => List.mem_takeWhile_imp hx, ?_⟩
    · rw [← h, List.takeWhile_append_dropWhile]
    · have hne : l.dropWhile p ≠ [] := by simp [h]
      simpa [h] using List.head_dropWhile_not p hne
  · rintro ⟨xs, rfl, hxs, hc⟩
    rw [List.dropWhile_append_of_pos hxs, List.dropWhile_cons_of_neg (by simp [hc])]

/-- Splitting at the first element that fails `p`. -/
theorem span_eq_cons_iff :
    l.span p = (xs, c :: rest) ↔ l = xs ++ c :: rest ∧ (∀ x ∈ xs, p x) ∧ p c = false := by
  rw [List.span_eq_takeWhile_dropWhile, Prod.mk.injEq]
  constructor
  · rintro ⟨rfl, hd⟩
    obtain ⟨-, -, -, hc⟩ := dropWhile_eq_cons_iff.mp hd
    refine ⟨?_, fun x hx => List.mem_takeWhile_imp hx, hc⟩
    rw [← hd, List.takeWhile_append_dropWhile]
  · rintro ⟨rfl, hxs, hc⟩
    refine ⟨?_, dropWhile_eq_cons_iff.mpr ⟨xs, rfl, hxs, hc⟩⟩
    rw [List.takeWhile_append_of_pos hxs, List.takeWhile_cons_of_neg (by simp [hc]), List.append_nil]

end Split

/-! ### The grammar of ranges -/

/-- The characters `cs` write the range `r` in interval notation: blanks, an opening bracket, the
lower bound, a separator, the upper bound, a closing bracket, blanks. A bound holds no separator
and no closing bracket, and the range keeps it without the blanks at its ends. -/
def Spells (cs : List Char) (r : VersionRange) : Prop :=
  ∃ lead opening low sep high closing trail,
    cs = lead ++ opening :: (low ++ sep :: (high ++ closing :: trail)) ∧
    (∀ c ∈ lead, Text.isBlank c) ∧ (opening = '[' ∨ opening = '(') ∧
    (∀ c ∈ low, endsBound c = false) ∧ (sep = ',' ∨ sep = ';') ∧
    (∀ c ∈ high, endsBound c = false) ∧ (closing = ']' ∨ closing = ')') ∧
    (∀ c ∈ trail, Text.isBlank c) ∧
    r = ⟨opening == '(', String.ofList (Text.trimChars low), String.ofList (Text.trimChars high),
      closing == ')'⟩

/-- An opening bracket is not a blank: leading blanks end at it. -/
theorem isBlank_eq_false_of_opening {c : Char} (h : c = '[' ∨ c = '(') : Text.isBlank c = false := by
  rcases h with rfl | rfl <;> rfl

theorem endsBound_of_sep {c : Char} (h : c = ',' ∨ c = ';') : endsBound c = true := by
  rcases h with rfl | rfl <;> rfl

theorem endsBound_of_closing {c : Char} (h : c = ']' ∨ c = ')') : endsBound c = true := by
  rcases h with rfl | rfl <;> rfl

theorem span_bound {cs rest : List Char} {bound : List Char} {c : Char} :
    cs.span (fun c => !endsBound c) = (bound, c :: rest) ↔
      cs = bound ++ c :: rest ∧ (∀ x ∈ bound, endsBound x = false) ∧ endsBound c = true := by
  rw [span_eq_cons_iff]
  simp

/-- **Reading a range follows its grammar**: the text reads as `r` exactly when it writes `r`
in interval notation. -/
theorem parse?_eq_some_iff {s : String} {r : VersionRange} : parse? s = some r ↔ Spells s.toList r := by
  constructor
  · intro h
    unfold parse? at h
    rcases hd : s.toList.dropWhile Text.isBlank with _ | ⟨opening, rest⟩ <;> rw [hd] at h
    · cases h
    obtain ⟨lead, hcs, hlead, -⟩ := dropWhile_eq_cons_iff.mp hd
    dsimp only at h
    split at h
    rotate_left
    · cases h
    rename_i hopen
    rcases hl : rest.span (fun c => !endsBound c) with ⟨low, _ | ⟨sep, rest2⟩⟩ <;> rw [hl] at h
    · cases h
    obtain ⟨rfl, hlow, -⟩ := span_bound.mp hl
    dsimp only at h
    split at h
    rotate_left
    · cases h
    rename_i hsep
    rcases hh : rest2.span (fun c => !endsBound c) with ⟨high, _ | ⟨closing, trail⟩⟩ <;> rw [hh] at h
    · cases h
    obtain ⟨rfl, hhigh, -⟩ := span_bound.mp hh
    dsimp only at h
    split at h
    rotate_left
    · cases h
    rename_i hclose
    cases h
    simp only [Bool.or_eq_true, beq_iff_eq] at hopen hsep
    simp only [Bool.and_eq_true, Bool.or_eq_true, beq_iff_eq, List.all_eq_true] at hclose
    exact ⟨lead, opening, low, sep, high, closing, trail, hcs, hlead, hopen, hlow, hsep, hhigh,
      hclose.1, hclose.2, rfl⟩
  · rintro ⟨lead, opening, low, sep, high, closing, trail, hcs, hlead, hopen, hlow, hsep, hhigh,
      hclose, htrail, rfl⟩
    have hd : s.toList.dropWhile Text.isBlank =
        opening :: (low ++ sep :: (high ++ closing :: trail)) :=
      dropWhile_eq_cons_iff.mpr ⟨lead, hcs, hlead, isBlank_eq_false_of_opening hopen⟩
    have hl : (low ++ sep :: (high ++ closing :: trail)).span (fun c => !endsBound c) =
        (low, sep :: (high ++ closing :: trail)) :=
      span_bound.mpr ⟨rfl, hlow, endsBound_of_sep hsep⟩
    have hh : (high ++ closing :: trail).span (fun c => !endsBound c) = (high, closing :: trail) :=
      span_bound.mpr ⟨rfl, hhigh, endsBound_of_closing hclose⟩
    unfold parse?
    rw [hd]
    simp only [hl, hh, Bool.or_eq_true, beq_iff_eq, hopen, hsep, hclose, Bool.and_eq_true,
      List.all_eq_true, true_and, if_true]
    simpa using htrail

/-! ### Checking a version against the bounds -/

/-- The version `v` passes the lower bound `low`: it is above it, or equal to it when the bound
is included. -/
def AboveLower (r : VersionRange) (v low : Version) : Prop :=
  v.compare low = .gt ∨ (v.compare low = .eq ∧ r.lowerOpen = false)

/-- The version `v` passes the upper bound `high`: it is below it, or equal to it when the bound
is included. -/
def BelowUpper (r : VersionRange) (v high : Version) : Prop :=
  v.compare high = .lt ∨ (v.compare high = .eq ∧ r.upperOpen = false)

instance (r : VersionRange) (v low : Version) : Decidable (r.AboveLower v low) :=
  inferInstanceAs (Decidable (_ ∨ _))

instance (r : VersionRange) (v high : Version) : Decidable (r.BelowUpper v high) :=
  inferInstanceAs (Decidable (_ ∨ _))

/-- The range, whose lower bound reads `low`, admits `v`: `v` passes the lower bound and, when
an upper bound is given, that bound reads and `v` passes it. -/
def AdmitsAt (r : VersionRange) (low v : Version) : Prop :=
  r.AboveLower v low ∧ (r.upper ≠ "" → ∃ high, Version.parse r.upper = .ok high ∧ r.BelowUpper v high)

end VersionRange

namespace Version

theorem compareChecked_ok {a b : Version} {o : Ordering} (h : a.compareChecked b = .ok o) :
    o = a.compare b := by
  by_cases ho : a.Overflows b
  · obtain ⟨n, hn⟩ := compareChecked_of_overflows ho
    rw [hn] at h
    cases h
  · rw [compareChecked_of_not_overflows ho] at h
    exact (Except.ok.inj h).symm

/-- Within the digit limit, a text that does not read is not a version. -/
theorem WithinDigitLimit.isReading {t : String} (h : WithinDigitLimit t) {e : VersionError}
    (he : Version.parse t = .error e) : e.isReading = true := by
  cases hr : e.isReading
  · obtain ⟨n, rfl⟩ := VersionError.eq_tooManyDigits hr
    exact absurd he (h.1 n)
  · rfl

theorem compareChecked_of_fits {a b : Version} (ha : a.FitsDigits) (hb : b.FitsDigits) :
    a.compareChecked b = .ok (a.compare b) :=
  compareChecked_of_not_overflows fun ⟨_, hf⟩ => hf.elim (· ha) (· hb)

end Version

namespace VersionRange

/-- The verdict of the upper bound on `v`, once `v` has passed the lower bound. -/
def upperVerdict (r : VersionRange) (v : Version) : Except VersionError Bool :=
  if r.upper.isEmpty then pure true else do
    let high ← Version.parse r.upper
    match ← v.compareChecked high with
    | .gt => return false
    | .eq => return !r.upperOpen
    | .lt => return true

/-- A check reads the lower bound and compares, then leaves the rest to the upper bound. -/
theorem admitsVersion_eq (r : VersionRange) (v : Version) :
    r.admitsVersion v = (do
      let low ← Version.parse r.lower
      match ← v.compareChecked low with
      | .lt => return false
      | .eq => if r.lowerOpen then return false else r.upperVerdict v
      | .gt => r.upperVerdict v) := by
  rfl

variable {r : VersionRange} {v low : Version} {b : Bool}

theorem upperVerdict_ok (h : r.upperVerdict v = .ok b) :
    b = true ↔ (r.upper ≠ "" → ∃ high, Version.parse r.upper = .ok high ∧ r.BelowUpper v high) := by
  unfold upperVerdict at h
  by_cases he : r.upper = ""
  · have hemp : r.upper.isEmpty = true := by rw [he]; rfl
    simp only [hemp, if_true, pure, Except.pure, Except.ok.injEq] at h
    simp [← h, he]
  · have hne : r.upper.isEmpty = false := by simpa using he
    simp only [hne, Bool.false_eq_true, if_false, bind, Except.bind] at h
    cases hp : Version.parse r.upper with
    | error e => simp [hp] at h
    | ok high =>
      simp only [hp] at h
      cases hc : v.compareChecked high with
      | error e => simp [hc] at h
      | ok o =>
        have ho := Version.compareChecked_ok hc
        simp only [hc] at h
        cases o <;> simp only [pure, Except.pure, Except.ok.injEq] at h <;> subst h <;>
          simp [he, BelowUpper, ← ho]

/-- Whatever a check answers is the verdict of the bounds on `v`. -/
theorem admitsVersion_ok (h : r.admitsVersion v = .ok b) :
    ∃ low, Version.parse r.lower = .ok low ∧ (b = true ↔ r.AdmitsAt low v) := by
  rw [admitsVersion_eq] at h
  cases hl : Version.parse r.lower with
  | error e => simp [hl, bind, Except.bind] at h
  | ok low =>
    refine ⟨low, rfl, ?_⟩
    simp only [hl, bind, Except.bind] at h
    cases hc : v.compareChecked low with
    | error e => simp [hc] at h
    | ok o =>
      have ho := Version.compareChecked_ok hc
      simp only [hc] at h
      cases o with
      | lt =>
        simp only [pure, Except.pure, Except.ok.injEq] at h
        simp [← h, AdmitsAt, AboveLower, ← ho]
      | eq =>
        cases hopen : r.lowerOpen
        · simp only [hopen, Bool.false_eq_true, if_false] at h
          rw [upperVerdict_ok h]
          simp [AdmitsAt, AboveLower, ← ho, hopen]
        · simp only [hopen, if_true, pure, Except.pure, Except.ok.injEq] at h
          simp [← h, AdmitsAt, AboveLower, ← ho, hopen]
      | gt =>
        rw [upperVerdict_ok h]
        simp [AdmitsAt, AboveLower, ← ho]

/-! ### Within the digit limit -/

/-- Within the digit limit the upper bound's verdict reads the bound only when it is given, and
compares without fail. -/
theorem upperVerdict_within (hu : Version.WithinDigitLimit r.upper) (hv : v.FitsDigits) :
    r.upperVerdict v = if r.upper = "" then .ok true
      else (Version.parse r.upper).map fun high => decide (r.BelowUpper v high) := by
  unfold upperVerdict
  by_cases he : r.upper = ""
  · simp [he, pure, Except.pure]
  · have hne : r.upper.isEmpty = false := by simpa using he
    simp only [hne, Bool.false_eq_true, if_false, he, bind, Except.bind]
    cases hp : Version.parse r.upper with
    | error e => rfl
    | ok high =>
      simp only [Version.compareChecked_of_fits hv (hu.2 high hp), Except.map]
      cases ho : v.compare high <;> cases hopen : r.upperOpen <;>
        simp [BelowUpper, ho, hopen, pure, Except.pure]

/-- Within the digit limit a check reads the lower bound and compares without fail: a version
that passes the lower bound gets the upper bound's verdict, any other is refused. -/
theorem admitsVersion_within (hl : Version.WithinDigitLimit r.lower) (hv : v.FitsDigits) :
    r.admitsVersion v = (Version.parse r.lower).bind fun low =>
      if r.AboveLower v low then r.upperVerdict v else .ok false := by
  rw [admitsVersion_eq]
  cases hp : Version.parse r.lower with
  | error e => rfl
  | ok low =>
    simp only [bind, Except.bind, Version.compareChecked_of_fits hv (hl.2 low hp)]
    cases ho : v.compare low <;> cases hopen : r.lowerOpen <;>
      simp [AboveLower, ho, hopen, pure, Except.pure]

theorem admitsVersion_error_iff (hl : Version.WithinDigitLimit r.lower)
    (hu : Version.WithinDigitLimit r.upper) (hv : v.FitsDigits) :
    (∃ e, r.admitsVersion v = .error e) ↔ (∃ e, Version.parse r.lower = .error e) ∨
      ∃ low, Version.parse r.lower = .ok low ∧ r.AboveLower v low ∧ r.upper ≠ "" ∧
        ∃ e, Version.parse r.upper = .error e := by
  rw [admitsVersion_within hl hv]
  cases hp : Version.parse r.lower with
  | error e => simp [Except.bind]
  | ok low =>
    simp only [Except.bind, reduceCtorEq, exists_false, Except.ok.injEq, exists_eq_left', false_or]
    by_cases ha : r.AboveLower v low
    · rw [if_pos ha, upperVerdict_within hu hv]
      by_cases he : r.upper = ""
      · simp [he]
      · cases Version.parse r.upper <;> simp [he, ha, Except.map]
    · simp [ha]

/-- Within the digit limit every refusal is a reading error: the text is not a version. -/
theorem admitsVersion_error_isReading (hl : Version.WithinDigitLimit r.lower)
    (hu : Version.WithinDigitLimit r.upper) (hv : v.FitsDigits) {e : VersionError}
    (h : r.admitsVersion v = .error e) : e.isReading = true := by
  rw [admitsVersion_within hl hv] at h
  cases hp : Version.parse r.lower with
  | error e' =>
    rw [hp] at h
    cases h
    exact hl.isReading hp
  | ok low =>
    simp only [hp, Except.bind] at h
    split at h
    · rw [upperVerdict_within hu hv] at h
      split at h
      · cases h
      · cases hq : Version.parse r.upper with
        | error e' =>
          simp only [hq, Except.map] at h
          cases h
          exact hu.isReading hq
        | ok high => simp [hq, Except.map] at h
    · cases h

/-- Checking the version text `ver` against the range is refused as not a version or not a
range: the lower bound is empty, the version or the lower bound does not read, or the version
passes the lower bound and the upper bound is given but does not read. -/
def Refuses (r : VersionRange) (ver : Option String) : Prop :=
  r.lower = "" ∨ (∃ e, Version.read ver = .error e) ∨ (∃ e, Version.parse r.lower = .error e) ∨
    ∃ v low, Version.read ver = .ok v ∧ Version.parse r.lower = .ok low ∧ r.AboveLower v low ∧
      r.upper ≠ "" ∧ ∃ e, Version.parse r.upper = .error e

end VersionRange

/-! ### Checking texts -/

section Texts

variable {ver : Option String} {s : String} {r : VersionRange}

theorem inRange_of_parse?_none (h : VersionRange.parse? s = none) :
    inRange ver (some s) = .error (.invalidRange s) := by
  simp [inRange, h, throw, throwThe, MonadExceptOf.throw]

theorem inRange_of_parse?_some (h : VersionRange.parse? s = some r) :
    inRange ver (some s) =
      if r.lower = "" then .error (.noLowerBound s) else (Version.read ver).bind r.admitsVersion := by
  simp only [inRange, h, Option.getD_some, String.isEmpty_iff]
  split <;> rfl

section Limit

variable (hver : ∀ t ∈ ver, Version.WithinDigitLimit t)
include hver

theorem read_error_isReading {e : VersionError} (h : Version.read ver = .error e) :
    e.isReading = true := by
  cases ver with
  | none =>
    cases h
    rfl
  | some t => exact (hver t rfl).isReading h

theorem read_fits {v : Version} (h : Version.read ver = .ok v) : v.FitsDigits := by
  cases ver with
  | none => cases h
  | some t => exact (hver t rfl).2 v h

/-- **Refusals of a check, within the digit limit.** A check fails exactly when the range text
does not read or the range refuses the version, and every failure says that a text is not a
version or not a range. -/
theorem inRange_error_iff_within
    (hs : ∀ r, VersionRange.parse? s = some r →
      Version.WithinDigitLimit r.lower ∧ Version.WithinDigitLimit r.upper) :
    ((∃ e, inRange ver (some s) = .error e) ↔
      VersionRange.parse? s = none ∨ ∃ r, VersionRange.parse? s = some r ∧ r.Refuses ver) ∧
    ∀ e, inRange ver (some s) = .error e → e.isReading = true := by
  cases hp : VersionRange.parse? s with
  | none =>
    rw [inRange_of_parse?_none hp]
    exact ⟨by simp, fun e he => by cases he; rfl⟩
  | some r =>
    obtain ⟨hl, hu⟩ := hs r hp
    rw [inRange_of_parse?_some hp]
    by_cases h0 : r.lower = ""
    · rw [if_pos h0]
      exact ⟨by simp [VersionRange.Refuses, h0], fun e he => by cases he; rfl⟩
    rw [if_neg h0]
    cases hv : Version.read ver with
    | error e =>
      refine ⟨by simp [VersionRange.Refuses, hv, Except.bind], fun e' he' => ?_⟩
      cases he'
      exact read_error_isReading hver hv
    | ok v =>
      have hfit := read_fits hver hv
      simp only [Except.bind]
      refine ⟨?_, fun e he => VersionRange.admitsVersion_error_isReading hl hu hfit he⟩
      rw [VersionRange.admitsVersion_error_iff hl hu hfit]
      simp [VersionRange.Refuses, h0, hv]

end Limit

/-- Whatever a check answers is the verdict of the range's bounds on the version. -/
theorem inRange_ok {b : Bool} (h : inRange ver (some s) = .ok b) :
    ∃ r v low, VersionRange.parse? s = some r ∧ Version.read ver = .ok v ∧
      Version.parse r.lower = .ok low ∧ (b = true ↔ r.AdmitsAt low v) := by
  cases hp : VersionRange.parse? s with
  | none =>
    rw [inRange_of_parse?_none hp] at h
    cases h
  | some r =>
    rw [inRange_of_parse?_some hp] at h
    split at h
    · cases h
    cases hv : Version.read ver with
    | error e =>
      rw [hv] at h
      cases h
    | ok v =>
      rw [hv] at h
      obtain ⟨low, hl, hb⟩ := VersionRange.admitsVersion_ok h
      exact ⟨r, v, low, rfl, rfl, hl, hb⟩

/-- A check fails other than by a text that is not a version or a range only on a number past
the digit limit, in the version or in a bound. -/
theorem inRange_error_past_limit {e : VersionError} (h : inRange ver (some s) = .error e)
    (hr : e.isReading = false) :
    ∃ r, VersionRange.parse? s = some r ∧ ((∃ t ∈ ver, ¬ Version.WithinDigitLimit t) ∨
      ¬ Version.WithinDigitLimit r.lower ∨ ¬ Version.WithinDigitLimit r.upper) := by
  cases hp : VersionRange.parse? s with
  | none =>
    rw [inRange_of_parse?_none hp] at h
    cases h
    cases hr
  | some r =>
    refine ⟨r, rfl, ?_⟩
    by_contra hin
    simp only [not_or, not_exists, not_and, not_not] at hin
    obtain ⟨hver, hl, hu⟩ := hin
    have hs : ∀ r', VersionRange.parse? s = some r' →
        Version.WithinDigitLimit r'.lower ∧ Version.WithinDigitLimit r'.upper := by
      intro r' hr'
      rw [hp, Option.some.injEq] at hr'
      exact hr' ▸ ⟨hl, hu⟩
    rw [(inRange_error_iff_within hver hs).2 e h] at hr
    cases hr

end Texts

/-! ### The versions a range admits -/

namespace VersionRange

variable {r : VersionRange} {low high x y z : Version}

theorem aboveLower_of_isGE (h : r.AboveLower x low) (hyx : (y.compare x).isGE = true) :
    r.AboveLower y low := by
  rcases h with hgt | ⟨heq, hopen⟩
  · exact .inl (Std.TransCmp.gt_of_isGE_of_gt hyx hgt)
  · have hge : (y.compare low).isGE = true := Std.TransCmp.isGE_trans hyx (by rw [heq]; rfl)
    rcases Ordering.isGE_iff_eq_gt_or_eq_eq.mp hge with hgt | heq'
    · exact .inl hgt
    · exact .inr ⟨heq', hopen⟩

theorem belowUpper_of_isLE (h : r.BelowUpper z high) (hyz : (y.compare z).isLE = true) :
    r.BelowUpper y high := by
  rcases h with hlt | ⟨heq, hopen⟩
  · exact .inl (Std.TransCmp.lt_of_isLE_of_lt hyz hlt)
  · have hle : (y.compare high).isLE = true := Std.TransCmp.isLE_trans hyz (by rw [heq]; rfl)
    rcases Ordering.isLE_iff_eq_lt_or_eq_eq.mp hle with hlt | heq'
    · exact .inl hlt
    · exact .inr ⟨heq', hopen⟩

/-- **A range admits an interval of versions**: a version between two it admits is admitted. -/
theorem admitsAt_between (hx : r.AdmitsAt low x) (hz : r.AdmitsAt low z)
    (hxy : (x.compare y).isLE = true) (hyz : (y.compare z).isLE = true) : r.AdmitsAt low y := by
  refine ⟨aboveLower_of_isGE hx.1 (Std.OrientedCmp.isGE_iff_isLE.mpr hxy), fun hu => ?_⟩
  obtain ⟨high, hh, hb⟩ := hz.2 hu
  exact ⟨high, hh, belowUpper_of_isLE hb hyz⟩

/-- A version equal to one the range admits is admitted. -/
theorem admitsAt_of_eq (hx : r.AdmitsAt low x) (hxy : x.compare y = .eq) : r.AdmitsAt low y :=
  admitsAt_between hx hx (by rw [hxy]; rfl)
    (by rw [@Std.OrientedCmp.eq_swap _ Version.compare _ y x, hxy]; rfl)

end VersionRange

/-- **Checking a version against a range.** The range text reads exactly when it is written in
interval notation. Whatever a check answers is the verdict of the bounds: the version passes the
lower bound and, when an upper bound is given, the upper one. Within the digit limit a check
fails exactly when the range text is not in interval notation or the range refuses the version,
and then it reports a text that is not a version or not a range; past the limit a check can
fail on the number alone. The versions a range admits are closed under equality and form an
interval of the order of versions. -/
theorem range_check_follows_bounds (ver : Option String) (s : String) :
    (∀ r, VersionRange.parse? s = some r ↔ VersionRange.Spells s.toList r) ∧
    ((∀ t ∈ ver, Version.WithinDigitLimit t) →
      (∀ r, VersionRange.Spells s.toList r →
        Version.WithinDigitLimit r.lower ∧ Version.WithinDigitLimit r.upper) →
      ((∃ e, inRange ver (some s) = .error e) ↔
        (¬ ∃ r, VersionRange.Spells s.toList r) ∨
          ∃ r, VersionRange.Spells s.toList r ∧ r.Refuses ver) ∧
      ∀ e, inRange ver (some s) = .error e → e.isReading = true) ∧
    (∀ b, inRange ver (some s) = .ok b → ∃ r v low, VersionRange.Spells s.toList r ∧
      Version.read ver = .ok v ∧ Version.parse r.lower = .ok low ∧ (b = true ↔ r.AdmitsAt low v)) ∧
    (∀ e, inRange ver (some s) = .error e → e.isReading = false →
      ∃ r, VersionRange.Spells s.toList r ∧ ((∃ t ∈ ver, ¬ Version.WithinDigitLimit t) ∨
        ¬ Version.WithinDigitLimit r.lower ∨ ¬ Version.WithinDigitLimit r.upper)) ∧
    ∀ (r : VersionRange) (low x y z : Version), r.AdmitsAt low x →
      (x.compare y = .eq → r.AdmitsAt low y) ∧
      (r.AdmitsAt low z → (x.compare y).isLE = true → (y.compare z).isLE = true →
        r.AdmitsAt low y) := by
  have hspell : ∀ r, VersionRange.parse? s = some r ↔ VersionRange.Spells s.toList r :=
    fun _ => VersionRange.parse?_eq_some_iff
  refine ⟨hspell, fun hver hs => ?_, fun b h => ?_, fun e h hr => ?_, fun r low x y z hx =>
    ⟨VersionRange.admitsAt_of_eq hx, fun hz => VersionRange.admitsAt_between hx hz⟩⟩
  · obtain ⟨hiff, hread⟩ := inRange_error_iff_within hver fun r hr => hs r ((hspell r).mp hr)
    refine ⟨hiff.trans ?_, hread⟩
    simp only [← hspell]
    cases VersionRange.parse? s <;> simp
  · obtain ⟨r, v, low, hr, hv, hl, hb⟩ := inRange_ok h
    exact ⟨r, v, low, (hspell r).mp hr, hv, hl, hb⟩
  · obtain ⟨r, hr, hlim⟩ := inRange_error_past_limit h hr
    exact ⟨r, (hspell r).mp hr, hlim⟩

end AddonCatalog
