import AddonCatalog.Version.Basic
import Mathlib.Data.List.Forall2

/-!
# Writing a version and reading it back

`Version.text` writes a version in normal form: its numbers in ASCII decimal, without leading
zeros, joined by `.`, then `.` and the qualifier. Reading that text gives the version back, for
every version that reading produced, whatever digits, zeros, dash suffix, line feeds and
qualifier its own text had:

* `readSegments_eq_ok_iff`: the segments a reading accepts are numbers within the digit limit,
  then at most one word that is alphanumeric, not a number, and not the first segment;
* `Reads.toDigits`: the decimal text of a number that was read is read as that number, and has
  no more digits than the text it was read from;
* `normalizeText_eq_self`: a text that starts and ends with no blank and holds no `-` is its own
  normal form; the last character of a normal form is never a blank (`getLast?_normalizeText`);
* `parse_text_of_parse`: reading the written form of a version that was read gives the same
  numbers and qualifier.
-/

namespace AddonCatalog

/-! ### ASCII digits -/

namespace Text

/-- The ten ASCII digits are decimal digits, each of its own value. -/
theorem digitValue?_ascii : ∀ d < 10, digitValue? (Char.ofNat (48 + d)) = some d := by
  decide +kernel

theorem toNat_of_isDigit {c : Char} (h : c.isDigit = true) : 48 ≤ c.toNat ∧ c.toNat ≤ 57 := by
  simp only [Char.isDigit, Bool.and_eq_true, decide_eq_true_eq, UInt32.le_iff_toNat_le] at h
  exact h

theorem digitValue?_of_isDigit {c : Char} (h : c.isDigit = true) :
    digitValue? c = some (c.toNat - 48) := by
  have hc := toNat_of_isDigit h
  have := digitValue?_ascii (c.toNat - 48) (by omega)
  rwa [show 48 + (c.toNat - 48) = c.toNat by omega, Char.ofNat_toNat] at this

theorem isDigit_eq_isSome (c : Char) : isDigit c = (digitValue? c).isSome := by
  simp [isDigit, digitValue?, RangeTable.contains]

/-- An ASCII digit is no blank. -/
theorem isBlank_of_isDigit {c : Char} (h : c.isDigit = true) : isBlank c = false := by
  have hc := toNat_of_isDigit h
  simp only [isBlank, Bool.or_eq_false_iff, Bool.and_eq_false_iff, decide_eq_false_iff_not,
    beq_eq_false_iff_ne, ne_eq]
  omega

end Text

/-! ### Lists split at a character -/

namespace Version

/-- No piece of a split holds the character split at. -/
theorem not_mem_of_mem_splitOn {xs l : List Char} {a : Char} (h : l ∈ xs.splitOn a) : a ∉ l := by
  induction xs generalizing l with
  | nil =>
    rw [List.splitOn_nil, List.mem_singleton] at h
    simp [h]
  | cons x xs ih =>
    rw [List.splitOn_cons_eq_if_modifyHead] at h
    split at h
    · rcases List.mem_cons.1 h with rfl | h
      · simp
      · exact ih h
    · -- `x` joins the first piece of the rest
      obtain ⟨r, rs, hr⟩ := List.exists_cons_of_ne_nil (List.splitOn_ne_nil a xs)
      rw [hr, List.modifyHead_cons] at h
      rcases List.mem_cons.1 h with rfl | h
      · have hxa : x ≠ a := by simpa using ‹¬(x == a) = true›
        simpa [hxa.symm] using ih (hr ▸ List.mem_cons_self)
      · exact ih (hr ▸ List.mem_cons_of_mem _ h)

theorem intercalate_append_singleton {sep : List Char} {xs : List (List Char)} (y : List Char)
    (hxs : xs ≠ []) : sep.intercalate (xs ++ [y]) = sep.intercalate xs ++ sep ++ y := by
  induction xs with
  | nil => exact absurd rfl hxs
  | cons x xs ih =>
    rcases xs with _ | ⟨x', xs⟩
    · simp
    · rw [List.cons_append, List.intercalate_cons_of_ne_nil (by simp), ih (List.cons_ne_nil _ _),
        List.intercalate_cons_cons]
      simp

theorem mem_intercalate {sep : List Char} {ls : List (List Char)} {c : Char}
    (h : c ∈ sep.intercalate ls) : c ∈ sep ∨ ∃ l ∈ ls, c ∈ l := by
  induction ls with
  | nil => simp at h
  | cons l ls ih =>
    rcases ls with _ | ⟨l', ls⟩
    · exact .inr ⟨l, List.mem_cons_self, by simpa using h⟩
    · rw [List.intercalate_cons_cons] at h
      simp only [List.mem_append] at h
      rcases h with (h | h) | h
      · exact .inr ⟨l, List.mem_cons_self, h⟩
      · exact .inl h
      · rcases ih h with h | ⟨l'', hl'', hc⟩
        · exact .inl h
        · exact .inr ⟨l'', List.mem_cons_of_mem _ hl'', hc⟩

theorem getLast?_intercalate_append (sep : List Char) (ls : List (List Char)) {y : List Char}
    (hy : y ≠ []) : (sep.intercalate (ls ++ [y])).getLast? = y.getLast? := by
  rcases ls with _ | ⟨l, ls⟩
  · simp
  · obtain ⟨c, hc⟩ := Option.isSome_iff_exists.1 (List.getLast?_isSome.2 hy)
    rw [intercalate_append_singleton y (List.cons_ne_nil _ _), List.getLast?_append, hc]
    rfl

/-! ### Trimming -/

theorem dropWhile_eq_self {p : Char → Bool} {l : List Char} (h : ∀ c ∈ l.head?, p c = false) :
    l.dropWhile p = l := by
  cases l with
  | nil => rfl
  | cons c l => simp [List.dropWhile_cons_of_neg, h c rfl]

/-- A list that starts and ends with no blank is already trimmed. -/
theorem trimChars_eq_self {cs : List Char} (hh : ∀ c ∈ cs.head?, Text.isBlank c = false)
    (hl : ∀ c ∈ cs.getLast?, Text.isBlank c = false) : Text.trimChars cs = cs := by
  unfold Text.trimChars
  rw [dropWhile_eq_self hh, dropWhile_eq_self (by simpa using hl), List.reverse_reverse]

/-- A trimmed list ends with no blank. -/
theorem getLast?_trimChars (cs : List Char) : ∀ c ∈ (Text.trimChars cs).getLast?, Text.isBlank c = false := by
  intro c hc
  unfold Text.trimChars at hc
  rw [List.getLast?_reverse] at hc
  have := List.head?_dropWhile_not Text.isBlank (cs.dropWhile Text.isBlank).reverse
  rw [Option.mem_def.1 hc] at this
  exact this

/-! ### The normal form of a text -/

/-- A normal form ends with no blank: a trimmed text, or one that ends in `.0`. -/
theorem getLast?_normalizeText (s : String) :
    ∀ c ∈ (normalizeText s).toList.getLast?, Text.isBlank c = false := by
  unfold normalizeText
  dsimp only
  split
  · intro c hc
    have : c = '0' := by simpa using hc.symm
    subst this
    decide
  · simpa using getLast?_trimChars s.toList

/-- A normal form holds no `-`: everything from the first one on was replaced. -/
theorem dash_not_mem_normalizeText (s : String) : '-' ∉ (normalizeText s).toList := by
  unfold normalizeText
  dsimp only
  split
  · intro h
    simp only [String.toList_append, String.toList_ofList, List.mem_append] at h
    rcases h with h | h
    · simpa using List.all_eq_true.1 List.all_takeWhile _ h
    · simp at h
  · rename_i h
    simpa [List.contains_iff_mem] using h

/-- A text that starts and ends with no blank and holds no `-` is its own normal form. -/
theorem normalizeText_eq_self {s : String} (hh : ∀ c ∈ s.toList.head?, Text.isBlank c = false)
    (hl : ∀ c ∈ s.toList.getLast?, Text.isBlank c = false) (hd : '-' ∉ s.toList) :
    normalizeText s = s := by
  have hc : s.toList.contains '-' = false := by simpa [List.contains_iff_mem] using hd
  simp only [normalizeText, trimChars_eq_self hh hl, hc, Bool.false_eq_true, if_false,
    String.ofList_toList]

/-! ### Numbers -/

/-- One step of reading the digits of a segment. -/
def digitStep (n : Nat) (c : Char) : Option Nat := (Text.digitValue? c).map (10 * n + ·)

theorem foldlM_digitStep_of_ascii {ds : List Char} (h : ∀ c ∈ ds, c.isDigit = true) (acc : Nat) :
    ds.foldlM digitStep acc = some (Nat.ofDigitChars 10 ds acc) := by
  induction ds generalizing acc with
  | nil => rfl
  | cons c ds ih =>
    simp only [List.foldlM_cons, digitStep, Text.digitValue?_of_isDigit (h c (.head _)),
      Option.map_some, Nat.ofDigitChars_cons]
    exact ih (fun c' hc' => h c' (.tail _ hc')) _

/-- A number read from `k` digits is below `10 ^ k`, whatever its leading zeros. -/
theorem foldlM_digitStep_lt {ds : List Char} {acc m : Nat} (h : ds.foldlM digitStep acc = some m) :
    m < (acc + 1) * Nat.pow 10 ds.length := by
  induction ds generalizing acc with
  | nil =>
    cases h
    simp
  | cons c ds ih =>
    simp only [List.foldlM_cons, digitStep] at h
    obtain ⟨d, hd, h⟩ := Option.bind_eq_some_iff.1 h
    obtain ⟨v, hv, rfl⟩ := Option.map_eq_some_iff.1 hd
    -- a digit's value is its distance from the start of its run, modulo ten
    have hv10 : v < 10 := by
      obtain ⟨r, -, rfl⟩ := Option.map_eq_some_iff.1 hv
      exact Nat.mod_lt _ (by decide)
    calc m < (10 * acc + v + 1) * Nat.pow 10 ds.length := ih h
      _ ≤ (acc + 1) * 10 * Nat.pow 10 ds.length := Nat.mul_le_mul_right _ (by omega)
      _ = (acc + 1) * Nat.pow 10 (c :: ds).length := by
        rw [List.length_cons, Nat.mul_assoc, Nat.mul_comm 10]
        rfl

/-- A segment of decimal digits is all digits: there is no line feed to drop. -/
theorem segmentDigits?_of_digits {ds : List Char} (hne : ds ≠ [])
    (h : ∀ c ∈ ds, Text.isDigit c = true) : segmentDigits? ds = some ds := by
  have hnl : '\n' ∉ ds := fun hm => absurd (h _ hm) (by decide +kernel)
  unfold segmentDigits?
  dsimp only
  split
  · rename_i r hr
    exact absurd (List.mem_reverse.1 (hr ▸ List.mem_cons_self)) hnl
  · simp [hne, List.all_eq_true.2 h]

/-- The digits of a segment are never empty, and all digits. -/
theorem digits_of_segmentDigits? {seg ds : List Char} (h : segmentDigits? seg = some ds) :
    ds ≠ [] ∧ ∀ c ∈ ds, Text.isDigit c = true := by
  unfold segmentDigits? at h
  dsimp only at h
  obtain ⟨hc, he⟩ := Option.ite_none_left_eq_some.1 h
  obtain rfl := Option.some.inj he
  simpa [List.isEmpty_iff, List.all_eq_true] using hc

theorem isDigit_of_mem_toDigits {n : Nat} {c : Char} (hc : c ∈ Nat.toDigits 10 n) :
    Text.isDigit c = true := by
  rw [Text.isDigit_eq_isSome,
    Text.digitValue?_of_isDigit (Nat.isDigit_of_mem_toDigits (by decide) (by decide) hc)]
  rfl

theorem segmentDigits?_toDigits (n : Nat) :
    segmentDigits? (Nat.toDigits 10 n) = some (Nat.toDigits 10 n) :=
  segmentDigits?_of_digits Nat.toDigits_ne_nil fun _ => isDigit_of_mem_toDigits

/-- The decimal text of a number reads as that number. -/
theorem segmentNumber?_toDigits (n : Nat) : segmentNumber? (Nat.toDigits 10 n) = some n := by
  rw [segmentNumber?, segmentDigits?_toDigits, Option.bind_some]
  rw [show (fun n c => (Text.digitValue? c).map (10 * n + ·)) = digitStep from rfl,
    foldlM_digitStep_of_ascii (fun c hc => Nat.isDigit_of_mem_toDigits (by decide) (by decide) hc),
    Nat.ofDigitChars_ten_toDigits]

/-- A segment that reads as the number `n`, within the digit limit. -/
def Reads (seg : List Char) (n : Nat) : Prop :=
  segmentNumber? seg = some n ∧ ((segmentDigits? seg).getD []).length ≤ Number.maxDigits

/-- The decimal text of a number that was read is read as that number, within the limit: it
has no more digits than the segment it was read from. -/
theorem Reads.toDigits {seg : List Char} {n : Nat} (h : Reads seg n) : Reads (Nat.toDigits 10 n) n := by
  obtain ⟨hn, hlim⟩ := h
  obtain ⟨ds, hds, hfold⟩ := Option.bind_eq_some_iff.1 hn
  rw [hds, Option.getD_some] at hlim
  have hne : ds ≠ [] := (digits_of_segmentDigits? hds).1
  have hlt : n < Nat.pow 10 ds.length := by simpa using foldlM_digitStep_lt hfold
  have hlen : (Nat.toDigits 10 n).length ≤ ds.length :=
    (Nat.length_toDigits_le_iff (by decide) (List.length_pos_iff.2 hne)).2 hlt
  refine ⟨segmentNumber?_toDigits n, ?_⟩
  rw [segmentDigits?_toDigits, Option.getD_some]
  omega

/-! ### Reading segments -/

/-- A segment that is read as the qualifier: it is not a number and is an alphanumeric word. -/
def IsQualifier (seg : List Char) : Prop :=
  segmentNumber? seg = none ∧ Text.isAlnumWord (String.ofList seg) = true

/-- How segments, the first at position `i`, split into what a reading accepts: segments read as
the numbers `ns`, then, when there is a qualifier, that word as the last segment, which is not
the first one. -/
def Splits (i : Nat) (segs : List (List Char)) (ns : List Nat) (q : Option String) : Prop :=
  ∃ numSegs, List.Forall₂ Reads numSegs ns ∧ segs = numSegs ++ q.toList.map String.toList ∧
    ∀ w ∈ q, IsQualifier w.toList ∧ 0 < i + numSegs.length

section Segments

variable {text : String} {total i : Nat} {segs : List (List Char)} {ns : List Nat}
  {q : Option String}

theorem splits_of_readSegments (htot : i + segs.length = total)
    (h : readSegments text total i segs = .ok (ns, q)) : Splits i segs ns q := by
  induction segs generalizing i ns with
  | nil =>
    cases h
    exact ⟨[], .nil, rfl, by simp⟩
  | cons seg rest ih =>
    have htot' : i + 1 + rest.length = total := by simp at htot; omega
    cases hn : segmentNumber? seg with
    | some n =>
      -- a number within the limit, then the rest
      simp only [readSegments, hn] at h
      split at h
      · cases h
      rename_i hlim
      cases hr : readSegments text total (i + 1) rest with
      | error e => simp [hr, Except.map] at h
      | ok p =>
        obtain ⟨ns', q'⟩ := p
        simp only [hr, Except.map, Except.ok.injEq, Prod.mk.injEq] at h
        obtain ⟨rfl, rfl⟩ := h
        obtain ⟨numSegs, hF, hsegs, hq⟩ := ih htot' hr
        refine ⟨seg :: numSegs, .cons ⟨hn, by omega⟩ hF, by simp [hsegs], fun w hw => ?_⟩
        obtain ⟨hw1, hw2⟩ := hq w hw
        exact ⟨hw1, by simp only [List.length_cons]; omega⟩
    | none =>
      -- not a number: the last segment, not the first, and alphanumeric
      simp only [readSegments, hn] at h
      split at h
      · rename_i hc
        simp only [Bool.and_eq_true, beq_iff_eq, decide_eq_true_eq] at hc
        obtain ⟨⟨hlast, hpos⟩, halnum⟩ := hc
        have hrest : rest = [] := List.length_eq_zero_iff.1 (by omega)
        subst hrest
        cases h
        refine ⟨[], .nil, by simp, fun w hw => ?_⟩
        cases hw
        exact ⟨⟨by simpa using hn, by simpa using halnum⟩, by simpa using hpos⟩
      · cases h

theorem readSegments_of_splits (htot : i + segs.length = total) (h : Splits i segs ns q) :
    readSegments text total i segs = .ok (ns, q) := by
  obtain ⟨numSegs, hF, rfl, hq⟩ := h
  induction hF generalizing i with
  | nil =>
    cases q with
    | none => rfl
    | some w =>
      obtain ⟨⟨hnum, halnum⟩, hpos⟩ := hq w rfl
      have hlast : i + 1 = total := by simpa using htot
      simp only [List.nil_append, Option.toList_some, List.map_cons, List.map_nil, readSegments,
        hnum, String.ofList_toList]
      rw [String.ofList_toList] at halnum
      simp [hlast, halnum, show 0 < i by simpa using hpos]
  | @cons seg n numSegs ns hr _ ih =>
    have htot' : i + 1 + (numSegs ++ q.toList.map String.toList).length = total := by
      simp at htot ⊢; omega
    have hrest := ih (fun w hw => by
      obtain ⟨hw1, hw2⟩ := hq w hw
      exact ⟨hw1, by simp only [List.length_cons] at hw2; omega⟩) htot'
    simp only [List.cons_append, readSegments, hr.1, show ¬((segmentDigits? seg).getD []).length > Number.maxDigits from
      Nat.not_lt.2 hr.2, if_false, hrest]
    rfl

/-- **The segments a reading accepts.** Reading segments, the first at position `i` of `total`,
answers the numbers `ns` and the qualifier `q` exactly when the segments split into segments
read as those numbers, within the digit limit, and then the qualifier as the last segment. -/
theorem readSegments_eq_ok_iff (htot : i + segs.length = total) :
    readSegments text total i segs = .ok (ns, q) ↔ Splits i segs ns q :=
  ⟨splits_of_readSegments htot, readSegments_of_splits htot⟩

end Segments

theorem ne_nil_of_isQualifier {seg : List Char} (h : IsQualifier seg) : seg ≠ [] := by
  rintro rfl
  simp [IsQualifier, Text.isAlnumWord] at h

theorem forall₂_reads_toDigits {segs : List (List Char)} {ns : List Nat}
    (h : List.Forall₂ Reads segs ns) : List.Forall₂ Reads (ns.map (Nat.toDigits 10)) ns := by
  induction h with
  | nil => exact .nil
  | cons hr _ ih => exact .cons hr.toDigits ih

/-! ### Writing a version -/

/-- The segments of a version's written form: each number in decimal, then the qualifier. -/
def segments (v : Version) : List (List Char) :=
  v.numbers.map (Nat.toDigits 10) ++ v.qualifier.toList.map String.toList

/-- The written form of a version with a number is its segments joined by `.`. -/
theorem text_toList {v : Version} (h : v.numbers ≠ []) :
    v.text.toList = ['.'].intercalate v.segments := by
  obtain ⟨ns, q⟩ := v
  cases q with
  | none => simp [text, segments, Function.comp_def]
  | some w =>
    rw [segments, Option.toList_some, List.map_singleton,
      intercalate_append_singleton _ (by simpa using h)]
    simp [text, Function.comp_def]

/-- What a reading leaves in a version it answers: at least one number, whose decimal text is
read back within the digit limit, and a qualifier that reads as one, holds no `.` and no `-`,
and ends with no blank. -/
structure Readable (v : Version) : Prop where
  numbers_ne_nil : v.numbers ≠ []
  numbers_read : List.Forall₂ Reads (v.numbers.map (Nat.toDigits 10)) v.numbers
  qualifier_reads : ∀ w ∈ v.qualifier, IsQualifier w.toList
  dot_not_mem : ∀ w ∈ v.qualifier, '.' ∉ w.toList
  dash_not_mem : ∀ w ∈ v.qualifier, '-' ∉ w.toList
  last_not_blank : ∀ w ∈ v.qualifier, ∀ c ∈ w.toList.getLast?, Text.isBlank c = false

/-- Every version a reading answers is readable: its qualifier is the last segment of a normal
form, so it inherits the normal form's last character and its lack of `-`. -/
theorem readable_of_parse {s : String} {v : Version} (h : parse s = .ok v) : v.Readable := by
  simp only [parse] at h
  split at h
  · cases h
  generalize hsegs : (normalizeText s).toList.splitOn '.' = segs at h
  cases hr : readSegments s segs.length 0 segs with
  | error e => simp [hr, Except.map] at h
  | ok p =>
    obtain ⟨ns, q⟩ := p
    simp only [hr, Except.map, Except.ok.injEq] at h
    subst h
    obtain ⟨numSegs, hF, rfl, hq⟩ := (readSegments_eq_ok_iff (by simp)).1 hr
    have hnum : numSegs ≠ [] := by
      rintro rfl
      cases q with
      | none => simp at hsegs
      | some w => simpa using (hq w rfl).2
    have hnormal : (normalizeText s).toList = ['.'].intercalate (numSegs ++ q.toList.map String.toList) := by
      rw [← hsegs, List.intercalate_splitOn]
    refine ⟨fun h0 => hnum (List.length_eq_zero_iff.1 (by rw [hF.length_eq]; exact List.length_eq_zero_iff.2 h0)),
      forall₂_reads_toDigits hF, fun w hw => (hq w hw).1, ?_, ?_, ?_⟩
    · rintro w rfl
      exact not_mem_of_mem_splitOn (hsegs ▸ List.mem_append_right _ List.mem_cons_self)
    all_goals
      rintro w rfl
      have hw := ne_nil_of_isQualifier (hq w rfl).1
      rw [Option.toList_some, List.map_singleton] at hnormal
    · -- the qualifier ends the normal form, which holds no `-`
      intro hd
      apply dash_not_mem_normalizeText s
      rw [hnormal, intercalate_append_singleton _ hnum]
      exact List.mem_append_right _ hd
    · rw [← getLast?_intercalate_append ['.'] numSegs hw, ← hnormal]
      exact getLast?_normalizeText s

section Written

variable {v : Version} (hv : v.Readable)
include hv

theorem segments_ne_nil : v.segments ≠ [] := by
  simp only [segments, ne_eq, List.append_eq_nil_iff, List.map_eq_nil_iff, not_and]
  exact fun h => absurd h hv.numbers_ne_nil

theorem dot_not_mem_segments : ∀ l ∈ v.segments, '.' ∉ l := by
  intro l hl
  rcases List.mem_append.1 hl with hl | hl
  · obtain ⟨n, -, rfl⟩ := List.mem_map.1 hl
    exact fun hd => absurd (Nat.isDigit_of_mem_toDigits (by decide) (by decide) hd) (by decide)
  · obtain ⟨w, hw, rfl⟩ := List.mem_map.1 hl
    exact hv.dot_not_mem w (Option.mem_toList.1 hw)

theorem dash_not_mem_text : '-' ∉ v.text.toList := by
  rw [text_toList hv.numbers_ne_nil]
  intro hd
  rcases mem_intercalate hd with hd | ⟨l, hl, hd⟩
  · simp at hd
  rcases List.mem_append.1 hl with hl | hl
  · obtain ⟨n, -, rfl⟩ := List.mem_map.1 hl
    exact absurd (Nat.isDigit_of_mem_toDigits (by decide) (by decide) hd) (by decide)
  · obtain ⟨w, hw, rfl⟩ := List.mem_map.1 hl
    exact hv.dash_not_mem w (Option.mem_toList.1 hw) hd

/-- A written version starts with the first digit of its first number. -/
theorem text_toList_eq_cons : ∃ d rest, v.text.toList = d :: rest ∧ d.isDigit = true := by
  obtain ⟨n, ns, hns⟩ := List.exists_cons_of_ne_nil hv.numbers_ne_nil
  obtain ⟨d, ds, hds⟩ := List.exists_cons_of_ne_nil (Nat.toDigits_ne_nil (b := 10) (n := n))
  rw [text_toList hv.numbers_ne_nil, segments, hns, List.map_cons, List.cons_append, hds,
    List.intercalate_cons_cons_left]
  exact ⟨d, _, rfl, Nat.isDigit_of_mem_toDigits (by decide) (by decide) (hds ▸ List.mem_cons_self)⟩

theorem head?_text : ∀ c ∈ v.text.toList.head?, Text.isBlank c = false := by
  obtain ⟨d, rest, htext, hd⟩ := text_toList_eq_cons hv
  rw [htext]
  intro c hc
  cases hc
  exact Text.isBlank_of_isDigit hd

/-- A written version ends with the last digit of its last number, or with its qualifier. -/
theorem getLast?_text : ∀ c ∈ v.text.toList.getLast?, Text.isBlank c = false := by
  rw [text_toList hv.numbers_ne_nil, segments]
  cases hq : v.qualifier with
  | none =>
    obtain ⟨init, n, hn⟩ := List.eq_nil_or_concat v.numbers |>.resolve_left hv.numbers_ne_nil
    rw [hn, List.concat_eq_append, Option.toList_none, List.map_nil, List.append_nil, List.map_append,
      List.map_singleton,
      getLast?_intercalate_append _ _ Nat.toDigits_ne_nil]
    intro c hc
    exact Text.isBlank_of_isDigit
      (Nat.isDigit_of_mem_toDigits (by decide) (by decide) (List.mem_of_getLast? hc))
  | some w =>
    rw [Option.toList_some, List.map_singleton,
      getLast?_intercalate_append _ _ (ne_nil_of_isQualifier (hv.qualifier_reads w hq))]
    exact hv.last_not_blank w hq

/-- A readable version is read back from its written form. -/
theorem parse_text_of_readable : parse v.text = .ok v := by
  have hsplit : v.text.toList.splitOn '.' = v.segments := by
    rw [text_toList hv.numbers_ne_nil]
    exact List.splitOn_intercalate '.' (dot_not_mem_segments hv) (segments_ne_nil hv)
  have hnormal : normalizeText v.text = v.text :=
    normalizeText_eq_self (head?_text hv) (getLast?_text hv) (dash_not_mem_text hv)
  have hne : v.text.isEmpty = false := by
    obtain ⟨d, rest, htext, -⟩ := text_toList_eq_cons hv
    cases hv' : v.text.isEmpty
    · rfl
    · simp [String.isEmpty_iff.1 hv'] at htext
  have hreads : readSegments v.text v.segments.length 0 v.segments = .ok (v.numbers, v.qualifier) :=
    (readSegments_eq_ok_iff (by simp)).2 ⟨_, hv.numbers_read, rfl, fun w hw =>
      ⟨hv.qualifier_reads w hw, by simpa [List.length_pos_iff] using hv.numbers_ne_nil⟩⟩
  simp only [parse, hnormal, hne, Bool.false_eq_true, if_false, hsplit, hreads]
  rfl

end Written

/-- **Writing a version and reading it back.** For every text that reads as a version, reading
the version's written form gives the same numbers and the same qualifier: decimal digits of any
script come back as ASCII digits, leading zeros, a dash suffix and a line feed after a number
are gone, and the qualifier comes back as it was. -/
theorem parse_text_of_parse {s : String} {v : Version} (h : parse s = .ok v) :
    parse v.text = .ok v :=
  parse_text_of_readable (readable_of_parse h)

theorem eq_ok_of_toOption {ε α : Type} {x : Except ε α} {a : α} (h : x.toOption = some a) :
    x = .ok a := by
  cases x with
  | error e => cases h
  | ok b =>
    cases h
    rfl

/-- Arabic-Indic digits with a leading zero, a number that ends in a line feed and a dash suffix
read as `12.3.4.0`, which is written `12.3.4.0` and read back. -/
theorem parse_text_of_parse_arabic_indic :
    parse " ٠١٢.3\n.4-SNAPSHOT " = .ok ⟨[12, 3, 4, 0], none⟩ ∧
      parse (⟨[12, 3, 4, 0], none⟩ : Version).text = .ok ⟨[12, 3, 4, 0], none⟩ :=
  have h : parse " ٠١٢.3\n.4-SNAPSHOT " = .ok ⟨[12, 3, 4, 0], none⟩ :=
    eq_ok_of_toOption (by decide +kernel)
  ⟨h, parse_text_of_parse h⟩

end Version

end AddonCatalog
