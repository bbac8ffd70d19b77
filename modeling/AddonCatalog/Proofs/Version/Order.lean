import AddonCatalog.Addon.Merge
import Mathlib.Data.Nat.Notation
/-!
# The order of versions

Versions compare by their numbers, the shorter list padded with zeros, and then by their
qualifier keys. Padding both lists further, to any common length, does not change the
comparison (`compare_padTo`), so any three versions can be compared at one length, where
the order is the lexicographic order of `List ℕ` followed by the lexicographic order of the
keys (`Version.compare_eq_compareAt`). Hence `Version.compare` is a total preorder
(`Std.TransCmp`).

Comparing two texts reads them first. A text that is not a version compares as equal to
everything, and the answer carries its message. Reading a number is refused past
`Number.maxDigits` digits, and that refusal is not caught: it fails the comparison. It
happens while reading a text (a numeric segment that is too long) or, for two texts that
read, when their numbers are equal and a qualifier's number is too long
(`Version.Overflows`).

* `compareTexts_error_iff`: comparing two texts fails exactly on such a number;
* `Addon.rank_antisymm`: ranking two addons both ways gives opposite answers, whenever
  both answer;
* `Addon.rank_eq_rankOrder`: on addons whose versions read within the limit, the ranking
  is the sign of a total preorder;
* `compare_total_preorder_up_to_digit_limit` collects these.
-/

namespace AddonCatalog

/-! ### Lists of numbers -/

theorem compareNumbers_eq_compare : ∀ x y : List ℕ, compareNumbers x y = compare x y
  | [], [] => rfl
  | [], _ :: _ => rfl
  | _ :: _, [] => rfl
  | a :: x, b :: y => by rw [compareNumbers, compareNumbers_eq_compare x y, List.compare_cons_cons]

theorem compareNumbers_eq_eq_iff {x y : List ℕ} : compareNumbers x y = .eq ↔ x = y := by
  rw [compareNumbers_eq_compare, Std.LawfulEqCmp.compare_eq_iff_eq]

theorem compare_append_of_length_eq {x y : List ℕ} (u v : List ℕ) (h : x.length = y.length) :
    compare (x ++ u) (y ++ v) = (compare x y).then (compare u v) := by
  induction x generalizing y with
  | nil => cases y <;> simp_all
  | cons a x ih =>
    cases y with
    | nil => simp at h
    | cons b y => simp [ih (by simpa using h), Ordering.then_assoc]

/-- A list of numbers padded with zeros to length `n`. -/
def padTo (n : ℕ) (l : List ℕ) : List ℕ := l ++ List.replicate (n - l.length) 0

theorem length_padTo {n : ℕ} {l : List ℕ} (h : l.length ≤ n) : (padTo n l).length = n := by
  simp [padTo]; omega

theorem padNumbers_eq (x y : List ℕ) :
    padNumbers x y = (padTo (max x.length y.length) x, padTo (max x.length y.length) y) := by
  simp only [padNumbers, padTo, Prod.mk.injEq]
  constructor <;> congr 2 <;> omega

theorem padTo_eq_append {m n : ℕ} {l : List ℕ} (hl : l.length ≤ m) (hm : m ≤ n) :
    padTo n l = padTo m l ++ List.replicate (n - m) 0 := by
  simp only [padTo, List.append_assoc, List.replicate_append_replicate]
  congr 2; omega

/-- Padding two lists further with zeros does not change how they compare. -/
theorem compare_padTo {m n : ℕ} {x y : List ℕ} (hx : x.length ≤ m) (hy : y.length ≤ m)
    (hm : m ≤ n) : compare (padTo n x) (padTo n y) = compare (padTo m x) (padTo m y) := by
  rw [padTo_eq_append hx hm, padTo_eq_append hy hm,
    compare_append_of_length_eq _ _ (by rw [length_padTo hx, length_padTo hy])]
  simp

/-! ### Versions at a common length -/

instance : Std.TransCmp QualifierKey.compare :=
  inferInstanceAs (Std.TransCmp (compareLex (compareOn QualifierKey.rank)
    (compareLex (compareOn QualifierKey.number) (compareOn QualifierKey.name))))

theorem transCmp_comap {α β : Type} (cmp : β → β → Ordering) [Std.TransCmp cmp] (f : α → β) :
    Std.TransCmp (fun a b => cmp (f a) (f b)) where
  eq_swap := Std.OrientedCmp.eq_swap
  isLE_trans := Std.TransCmp.isLE_trans

namespace Version

/-- The order of versions whose numbers have at most `n` entries: the numbers padded to
length `n`, then the qualifier keys. -/
def compareAt (n : ℕ) : Version → Version → Ordering :=
  compareLex (fun a b => Ord.compare (padTo n a.numbers) (padTo n b.numbers))
    (fun a b => (QualifierKey.ofQualifier a.qualifier).compare (QualifierKey.ofQualifier b.qualifier))

instance (n : ℕ) : Std.TransCmp (compareAt n) :=
  have := transCmp_comap Ord.compare fun a : Version => padTo n a.numbers
  have := transCmp_comap QualifierKey.compare fun a : Version =>
    QualifierKey.ofQualifier a.qualifier
  inferInstanceAs (Std.TransCmp (compareLex _ _))

theorem compare_eq_compareAt {n : ℕ} {a b : Version} (ha : a.numbers.length ≤ n)
    (hb : b.numbers.length ≤ n) : a.compare b = compareAt n a b := by
  simp only [Version.compare, padNumbers_eq, compareNumbers_eq_compare, compareAt, compareLex]
  rw [compare_padTo (Nat.le_max_left _ _) (Nat.le_max_right _ _) (Nat.max_le.mpr ⟨ha, hb⟩)]

/-- **Versions are totally preordered.** -/
instance : Std.TransCmp Version.compare where
  eq_swap {a b} := by
    have ha := Nat.le_max_left a.numbers.length b.numbers.length
    have hb := Nat.le_max_right a.numbers.length b.numbers.length
    rw [compare_eq_compareAt ha hb, compare_eq_compareAt hb ha,
      @Std.OrientedCmp.eq_swap _ (compareAt _) _]
  isLE_trans {a b c} hab hbc := by
    -- compare all three at the length of the longest
    have ha : a.numbers.length ≤ max a.numbers.length (max b.numbers.length c.numbers.length) := by
      omega
    have hb : b.numbers.length ≤ max a.numbers.length (max b.numbers.length c.numbers.length) := by
      omega
    have hc : c.numbers.length ≤ max a.numbers.length (max b.numbers.length c.numbers.length) := by
      omega
    rw [compare_eq_compareAt ha hb] at hab
    rw [compare_eq_compareAt hb hc] at hbc
    rw [compare_eq_compareAt ha hc]
    exact Std.TransCmp.isLE_trans hab hbc

/-! ### The digit limit of qualifiers -/

/-- The number of the version's qualifier has at most `Number.maxDigits` digits. -/
def FitsDigits (v : Version) : Prop := QualifierKey.digitCount v.qualifier ≤ Number.maxDigits

instance (v : Version) : Decidable v.FitsDigits := inferInstanceAs (Decidable (_ ≤ _))

/-- Comparing the two versions reads a qualifier's number that has too many digits: their
padded numbers are equal, so the qualifiers decide, and one of them does not fit. -/
def Overflows (a b : Version) : Prop :=
  (padNumbers a.numbers b.numbers).1 = (padNumbers a.numbers b.numbers).2 ∧
    (¬ a.FitsDigits ∨ ¬ b.FitsDigits)

instance (a b : Version) : Decidable (a.Overflows b) := inferInstanceAs (Decidable (_ ∧ _))

theorem overflows_comm {a b : Version} : a.Overflows b ↔ b.Overflows a := by
  simp only [Overflows, padNumbers]
  constructor <;> rintro ⟨h₁, h₂⟩ <;> exact ⟨h₁.symm, h₂.symm⟩

theorem checkQualifier_of_fits {v : Version} (h : v.FitsDigits) : v.checkQualifier = .ok () := by
  simp only [checkQualifier]
  rw [if_neg (Nat.not_lt.mpr h)]

theorem checkQualifier_of_not_fits {v : Version} (h : ¬ v.FitsDigits) :
    v.checkQualifier = .error (.tooManyDigits (QualifierKey.digitCount v.qualifier)) := by
  simp only [checkQualifier]
  rw [if_pos (Nat.lt_of_not_le h)]

theorem compareChecked_of_not_overflows {a b : Version} (h : ¬ a.Overflows b) :
    a.compareChecked b = .ok (a.compare b) := by
  by_cases he : (padNumbers a.numbers b.numbers).1 = (padNumbers a.numbers b.numbers).2
  · have ha : a.FitsDigits := Decidable.by_contra fun ha => h ⟨he, .inl ha⟩
    have hb : b.FitsDigits := Decidable.by_contra fun hb => h ⟨he, .inr hb⟩
    simp only [compareChecked, beq_iff_eq, compareNumbers_eq_eq_iff, he, if_true,
      checkQualifier_of_fits ha, checkQualifier_of_fits hb]
    rfl
  · simp only [compareChecked, beq_iff_eq, compareNumbers_eq_eq_iff, he, if_false]
    rfl

theorem compareChecked_of_overflows {a b : Version} (h : a.Overflows b) :
    ∃ n, a.compareChecked b = .error (.tooManyDigits n) := by
  obtain ⟨he, hab⟩ := h
  simp only [compareChecked, beq_iff_eq, compareNumbers_eq_eq_iff, he, if_true]
  by_cases ha : a.FitsDigits
  · have hb : ¬ b.FitsDigits := hab.resolve_left (not_not_intro ha)
    rw [checkQualifier_of_fits ha, checkQualifier_of_not_fits hb]
    exact ⟨_, rfl⟩
  · rw [checkQualifier_of_not_fits ha]
    exact ⟨_, rfl⟩

/-- The text is not a version, for a reason other than a number with too many digits. -/
def Unreadable (t : String) : Prop := ∃ e, Version.parse t = .error e ∧ e.isReading = true

end Version

theorem VersionError.eq_tooManyDigits {e : VersionError} (h : e.isReading = false) :
    ∃ n, e = .tooManyDigits n := by
  cases e <;> simp_all [VersionError.isReading]

/-! ### Comparing texts -/

/-- Comparing the texts `s` and `t` meets a number with too many digits: while reading `s`,
while reading `t` once `s` was read, or in the qualifiers of the two versions. -/
def DigitFailure (s t : String) : Prop :=
  (∃ n, Version.parse s = .error (.tooManyDigits n)) ∨
    ∃ a, Version.parse s = .ok a ∧ ((∃ n, Version.parse t = .error (.tooManyDigits n)) ∨
      ∃ b, Version.parse t = .ok b ∧ a.Overflows b)

section Texts

variable {s t : String} {a b : Version}

theorem compareTexts_of_not_overflows (hs : Version.parse s = .ok a) (ht : Version.parse t = .ok b)
    (h : ¬ a.Overflows b) : compareTexts (some s) (some t) = .ok ⟨a.compare b, none⟩ := by
  simp only [compareTexts, Version.read, hs, ht, bind, Except.bind,
    Version.compareChecked_of_not_overflows h]

theorem compareTexts_of_overflows (hs : Version.parse s = .ok a) (ht : Version.parse t = .ok b)
    (h : a.Overflows b) : ∃ n, compareTexts (some s) (some t) = .error (.tooManyDigits n) := by
  obtain ⟨n, hn⟩ := Version.compareChecked_of_overflows h
  refine ⟨n, ?_⟩
  simp only [compareTexts, Version.read, hs, ht, bind, Except.bind, hn]
  rfl

/-- Two texts that read compare without an error exactly when the comparison stays within
the digit limit. -/
theorem compareTexts_eq_iff (hs : Version.parse s = .ok a) (ht : Version.parse t = .ok b) :
    compareTexts (some s) (some t) = .ok ⟨a.compare b, none⟩ ↔ ¬ a.Overflows b := by
  refine ⟨fun h ho => ?_, compareTexts_of_not_overflows hs ht⟩
  obtain ⟨n, hn⟩ := compareTexts_of_overflows hs ht ho
  rw [hn] at h
  cases h

theorem compareTexts_of_reading_left {e : VersionError} (hs : Version.parse s = .error e)
    (he : e.isReading = true) : compareTexts (some s) (some t) = .ok ⟨.eq, some e.message⟩ := by
  simp only [compareTexts, Version.read, hs]
  simp [bind, Except.bind, he]

theorem compareTexts_of_reading_right {e : VersionError} (hs : Version.parse s = .ok a)
    (ht : Version.parse t = .error e) (he : e.isReading = true) :
    compareTexts (some s) (some t) = .ok ⟨.eq, some e.message⟩ := by
  simp only [compareTexts, Version.read, hs, ht]
  simp [bind, Except.bind, he]

theorem compareTexts_of_digits_left {n : ℕ} (hs : Version.parse s = .error (.tooManyDigits n)) :
    compareTexts (some s) (some t) = .error (.tooManyDigits n) := by
  simp only [compareTexts, Version.read, hs]
  rfl

theorem compareTexts_of_digits_right {n : ℕ} (hs : Version.parse s = .ok a)
    (ht : Version.parse t = .error (.tooManyDigits n)) :
    compareTexts (some s) (some t) = .error (.tooManyDigits n) := by
  simp only [compareTexts, Version.read, hs, ht]
  rfl

/-- Comparing two texts fails exactly when it meets a number with too many digits. -/
theorem compareTexts_error_iff :
    (∃ e, compareTexts (some s) (some t) = .error e) ↔ DigitFailure s t := by
  constructor
  · rintro ⟨e, he⟩
    cases hs : Version.parse s with
    | error e₁ =>
      cases hr : e₁.isReading
      · obtain ⟨n, rfl⟩ := VersionError.eq_tooManyDigits hr
        exact .inl ⟨n, hs⟩
      · rw [compareTexts_of_reading_left hs hr] at he
        cases he
    | ok a =>
      cases ht : Version.parse t with
      | error e₂ =>
        cases hr : e₂.isReading
        · obtain ⟨n, rfl⟩ := VersionError.eq_tooManyDigits hr
          exact .inr ⟨a, hs, .inl ⟨n, ht⟩⟩
        · rw [compareTexts_of_reading_right hs ht hr] at he
          cases he
      | ok b =>
        by_cases ho : a.Overflows b
        · exact .inr ⟨a, hs, .inr ⟨b, ht, ho⟩⟩
        · rw [compareTexts_of_not_overflows hs ht ho] at he
          cases he
  · rintro (⟨n, hs⟩ | ⟨a, hs, ⟨n, ht⟩ | ⟨b, ht, ho⟩⟩)
    · exact ⟨_, compareTexts_of_digits_left hs⟩
    · exact ⟨_, compareTexts_of_digits_right hs ht⟩
    · obtain ⟨n, hn⟩ := compareTexts_of_overflows hs ht ho
      exact ⟨_, hn⟩

end Texts

theorem orderingSign_swap (o : Ordering) : orderingSign o.swap = -orderingSign o := by
  cases o <;> rfl

/-! ### Ranking addons -/

namespace Addon

variable {a b : Addon}

theorem rank_of_compatible_ne (h : a.compatible ≠ b.compatible) :
    rank a b = .ok (if a.compatible then -1 else 1) := by
  simp [rank, h]

section SameFlag

variable (h : a.compatible = b.compatible)
include h

theorem rank_of_texts_error {e : VersionError}
    (hc : compareTexts (some a.version) (some b.version) = .error e) :
    rank a b = .error e.failure := by
  simp [rank, h, hc]

theorem rank_of_texts_unordered {o : Ordering} {m : String}
    (hc : compareTexts (some a.version) (some b.version) = .ok ⟨o, some m⟩) : rank a b = .ok 0 := by
  simp [rank, h, hc]

theorem rank_of_texts_ordered {o : Ordering}
    (hc : compareTexts (some a.version) (some b.version) = .ok ⟨o, none⟩) :
    rank a b = .ok (-orderingSign o) := by
  simp [rank, h, hc]

end SameFlag

/-- Ranking two addons fails exactly when their flags agree and comparing their versions
meets a number with too many digits. -/
theorem rank_error_iff :
    (∃ e, rank a b = .error e) ↔ a.compatible = b.compatible ∧ DigitFailure a.version b.version := by
  rw [← compareTexts_error_iff]
  by_cases h : a.compatible = b.compatible
  · cases hc : compareTexts (some a.version) (some b.version) with
    | error e => simp [rank_of_texts_error h hc, h]
    | ok c =>
      obtain ⟨o, _ | m⟩ := c
      · simp [rank_of_texts_ordered h hc, h]
      · simp [rank_of_texts_unordered h hc, h]
  · simp [rank_of_compatible_ne h, h]

section SameFlag

variable {x : Int} (h : a.compatible = b.compatible) (hr : rank a b = .ok x)
include h hr

/-- An addon whose version is not a version ranks as equal to any other of its flag. -/
theorem rank_eq_zero_of_unreadable
    (hu : Version.Unreadable a.version ∨ Version.Unreadable b.version) : x = 0 := by
  rcases hu with ⟨e, hs, he⟩ | ⟨e, ht, he⟩
  · rw [rank_of_texts_unordered h (compareTexts_of_reading_left hs he)] at hr
    exact (Except.ok.inj hr).symm
  · cases hs : Version.parse a.version with
    | ok va =>
      rw [rank_of_texts_unordered h (compareTexts_of_reading_right hs ht he)] at hr
      exact (Except.ok.inj hr).symm
    | error e₁ =>
      cases he₁ : e₁.isReading
      · obtain ⟨n, rfl⟩ := VersionError.eq_tooManyDigits he₁
        rw [rank_of_texts_error h (compareTexts_of_digits_left hs)] at hr
        cases hr
      · rw [rank_of_texts_unordered h (compareTexts_of_reading_left hs he₁)] at hr
        exact (Except.ok.inj hr).symm

theorem rank_versions_read (hu : ¬ (Version.Unreadable a.version ∨ Version.Unreadable b.version)) :
    ∃ va vb, Version.parse a.version = .ok va ∧ Version.parse b.version = .ok vb := by
  cases hs : Version.parse a.version with
  | error e =>
    cases he : e.isReading
    · obtain ⟨n, rfl⟩ := VersionError.eq_tooManyDigits he
      rw [rank_of_texts_error h (compareTexts_of_digits_left hs)] at hr
      cases hr
    · exact absurd (.inl ⟨e, hs, he⟩) hu
  | ok va =>
    cases ht : Version.parse b.version with
    | error e =>
      cases he : e.isReading
      · obtain ⟨n, rfl⟩ := VersionError.eq_tooManyDigits he
        rw [rank_of_texts_error h (compareTexts_of_digits_right hs ht)] at hr
        cases hr
      · exact absurd (.inr ⟨e, ht, he⟩) hu
    | ok vb => exact ⟨va, vb, rfl, rfl⟩

end SameFlag

/-- Ranking two addons both ways gives opposite answers, whenever both answer. -/
theorem rank_antisymm {x y : Int} (hab : rank a b = .ok x) (hba : rank b a = .ok y) : y = -x := by
  by_cases h : a.compatible = b.compatible
  · by_cases hu : Version.Unreadable a.version ∨ Version.Unreadable b.version
    · rw [rank_eq_zero_of_unreadable h hab hu, rank_eq_zero_of_unreadable h.symm hba hu.symm]
      rfl
    obtain ⟨va, vb, hva, hvb⟩ := rank_versions_read h hab hu
    by_cases ho : va.Overflows vb
    · obtain ⟨n, hn⟩ := compareTexts_of_overflows hva hvb ho
      rw [rank_of_texts_error h hn] at hab
      cases hab
    rw [rank_of_texts_ordered h (compareTexts_of_not_overflows hva hvb ho)] at hab
    rw [rank_of_texts_ordered h.symm
      (compareTexts_of_not_overflows hvb hva (mt Version.overflows_comm.mp ho))] at hba
    rw [← Except.ok.inj hab, ← Except.ok.inj hba, @Std.OrientedCmp.eq_swap _ Version.compare _,
      orderingSign_swap]
  · rw [rank_of_compatible_ne h] at hab
    rw [rank_of_compatible_ne (Ne.symm h)] at hba
    cases ha : a.compatible <;> cases hb : b.compatible <;> simp_all <;> omega

/-- The order `rank` follows on addons whose versions read as `ver` says: compatible first,
then newer versions first. -/
def rankOrder (ver : Addon → Version) : Addon → Addon → Ordering :=
  compareLex (compareOn fun a => !a.compatible) fun a b => (ver b).compare (ver a)

instance (ver : Addon → Version) : Std.TransCmp (rankOrder ver) :=
  have := transCmp_comap (fun x y => Version.compare y x) ver
  inferInstanceAs (Std.TransCmp (compareLex _ _))

theorem rank_eq_rankOrder {ver : Addon → Version} (ha : Version.parse a.version = .ok (ver a))
    (hb : Version.parse b.version = .ok (ver b)) (hfa : (ver a).FitsDigits)
    (hfb : (ver b).FitsDigits) : rank a b = .ok (orderingSign (rankOrder ver a b)) := by
  by_cases h : a.compatible = b.compatible
  · have ho : ¬ (ver a).Overflows (ver b) := fun ⟨_, hf⟩ => hf.elim (· hfa) (· hfb)
    rw [rank_of_texts_ordered h (compareTexts_of_not_overflows ha hb ho)]
    simp [rankOrder, compareLex, compareOn, h,
      @Std.OrientedCmp.eq_swap _ Version.compare _ (ver b), orderingSign_swap]
  · rw [rank_of_compatible_ne h]
    cases ha : a.compatible <;> cases hb : b.compatible <;>
      simp_all [rankOrder, compareLex, compareOn] <;> rfl

end Addon

/-- **Comparing versions is a total preorder, up to the digit limit.** `Version.compare`
is a total preorder; two texts that read compare as their versions, with no error, unless
the comparison reads a qualifier's number of more than `Number.maxDigits` digits; and
comparing two texts fails exactly when it meets a number with too many digits. Ranking
addons gives opposite answers both ways whenever both answer, ranks an addon whose version
is not a version as equal to any other of its flag, fails exactly when the flags agree and
the versions meet such a number, and on addons whose versions read within the limit it is
the sign of a total preorder. -/
theorem compare_total_preorder_up_to_digit_limit (s t : String) (a b : Addon)
    (ver : Addon → Version) :
    Std.TransCmp Version.compare ∧
    (∀ va vb, Version.parse s = .ok va → Version.parse t = .ok vb → ¬ va.Overflows vb →
      compareTexts (some s) (some t) = .ok ⟨va.compare vb, none⟩) ∧
    ((∃ e, compareTexts (some s) (some t) = .error e) ↔ DigitFailure s t) ∧
    (∀ x y, Addon.rank a b = .ok x → Addon.rank b a = .ok y → y = -x) ∧
    (∀ x, a.compatible = b.compatible →
      (Version.Unreadable a.version ∨ Version.Unreadable b.version) → Addon.rank a b = .ok x →
      x = 0) ∧
    ((∃ e, Addon.rank a b = .error e) ↔
      a.compatible = b.compatible ∧ DigitFailure a.version b.version) ∧
    Std.TransCmp (Addon.rankOrder ver) ∧
    (Version.parse a.version = .ok (ver a) → Version.parse b.version = .ok (ver b) →
      (ver a).FitsDigits → (ver b).FitsDigits →
      Addon.rank a b = .ok (orderingSign (Addon.rankOrder ver a b))) :=
  ⟨inferInstance, fun _ _ => compareTexts_of_not_overflows, compareTexts_error_iff,
    fun _ _ => Addon.rank_antisymm, fun _ h hu hr => Addon.rank_eq_zero_of_unreadable h hr hu,
    Addon.rank_error_iff, inferInstance, Addon.rank_eq_rankOrder⟩

end AddonCatalog
