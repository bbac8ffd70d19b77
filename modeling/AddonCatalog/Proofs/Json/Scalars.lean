import Mathlib.Tactic.SplitIfs
import AddonCatalog.Json.Reader
import AddonCatalog.Json.Writer

/-!
# Reading back written strings and whole numbers

The writer and the reader agree on strings and whole numbers: reading the text of one gives it
back and leaves what follows in place, whenever what follows cannot extend it (`endsNumber`),
as is the case for anything that may follow a value in a document (`closesValue`). A string is
escaped one character at a time, so the agreement is proved per character and then by
induction on the string; it holds whether characters beyond ASCII are kept or escaped, those
beyond the basic plane as a pair of surrogate escapes.

* `readString_escapeChar`, `readString_writeString`: reading an escaped character, and a
  whole escaped string up to its closing quote;
* `readScalar_int_of_ends`, `readScalar_int`: reading the text of a whole number;
* `nestingFrom_writeString`, `nestingFrom_int`: the nesting scan sees a string or a number
  as one token at the depth where it stands.
-/

namespace AddonCatalog.Json

/-! ### Strings, one character at a time -/

section ReadString

variable {lone : Bool} {acc : List Char}

/-- A `\u` escape of a code that is no surrogate reads the character of that code, whether
or not another `\u` escape follows it. -/
theorem readString_unicode {a b c d : Char} {n : Nat} (hn : isSurrogate n = false)
    (h : hex4? a b c d = some n) (T : List Char) :
    readString lone acc ('\\' :: 'u' :: a :: b :: c :: d :: T) =
      readString lone (Char.ofNat n :: acc) T := by
  by_cases hT : ∃ e f g h rest, T = '\\' :: 'u' :: e :: f :: g :: h :: rest
  · -- two escapes in a row: the first is no high surrogate, so it is read alone
    obtain ⟨e, f, g, h', rest, rfl⟩ := hT
    have hlow : n < 0xd800 ∨ 0xe000 ≤ n := by simp [isSurrogate] at hn; omega
    rw [readString.eq_3, h]
    rcases hex4? e f g h' with _ | lo
    · simp [hn]
    · have : ¬(0xd800 ≤ n ∧ n < 0xdc00 ∧ 0xdc00 ≤ lo ∧ lo < 0xe000) := by omega
      simp [hn, this]
  · rw [readString.eq_4 _ _ _ _ _ _ _ fun e f g h rest heq => hT ⟨e, f, g, h, rest, heq⟩, h]
    simp [hn]

/-- A short escape reads its character. -/
theorem readString_short {e c : Char} (he : e ≠ 'u') (h : shortEscape? e = some c)
    (T : List Char) : readString lone acc ('\\' :: e :: T) = readString lone (c :: acc) T := by
  -- the escaped character is no `u`, so no unicode escape starts here
  rw [readString.eq_5 _ _ _ _ (fun _ _ _ _ _ _ _ _ _ hu _ => he hu) fun _ _ _ _ _ hu _ => he hu,
    h]

/-- A character that is no quote, no backslash and no control character reads as itself. -/
theorem readString_char {c : Char} (hq : c ≠ '"') (hb : c ≠ '\\') (hc : 32 ≤ c.toNat)
    (T : List Char) : readString lone acc (c :: T) = readString lone (c :: acc) T := by
  rw [readString.eq_6 _ _ _ _ hq (fun _ _ _ _ _ _ _ _ _ hc' _ => hb hc')
    (fun _ _ _ _ _ hc' _ => hb hc') fun _ _ hc' _ => hb hc', if_neg (by omega)]

end ReadString

/-- A digit of base sixteen reads back as its value. -/
theorem hexDigit_digitChar : ∀ k < 16,
    (if '0' ≤ k.digitChar ∧ k.digitChar ≤ '9' then some (k.digitChar.toNat - 48)
      else if 'a' ≤ k.digitChar ∧ k.digitChar ≤ 'f' then some (k.digitChar.toNat - 87)
      else if 'A' ≤ k.digitChar ∧ k.digitChar ≤ 'F' then some (k.digitChar.toNat - 55)
      else none) = some k := by
  decide

theorem digitChar_quiet : ∀ k < 16, k.digitChar ≠ '"' ∧ k.digitChar ≠ '\\' := by decide

theorem hex4?_digitChar {w x y z : Nat} (hw : w < 16) (hx : x < 16) (hy : y < 16) (hz : z < 16) :
    hex4? w.digitChar x.digitChar y.digitChar z.digitChar =
      some (((w * 16 + x) * 16 + y) * 16 + z) := by
  simp only [hex4?, hexDigit_digitChar w hw, hexDigit_digitChar x hx, hexDigit_digitChar y hy,
    hexDigit_digitChar z hz]

/-- The four hex digits of a code below `0x10000`, leading zeros included. -/
theorem hexPadded_four_toList {n : Nat} (hn : n < 0x10000) :
    (Text.hexPadded 4 n).toList =
      [(n / 4096).digitChar, (n / 256 % 16).digitChar, (n / 16 % 16).digitChar,
        (n % 16).digitChar] := by
  have low : ∀ m < 16, Nat.toDigits 16 m = [m.digitChar] := fun _ hm => Nat.toDigits_of_lt_base hm
  have step : ∀ m, 16 ≤ m → Nat.toDigits 16 m = Nat.toDigits 16 (m / 16) ++ [(m % 16).digitChar] :=
    fun _ hm => Nat.toDigits_of_base_le (by decide) hm
  have zero : (0 : Nat).digitChar = '0' := rfl
  simp only [Text.hexPadded, String.toList_ofList]
  -- one case per number of significant digits
  by_cases h1 : n < 16
  · rw [low n h1]
    simp [show n / 4096 = 0 by omega, show n / 256 % 16 = 0 by omega,
      show n / 16 % 16 = 0 by omega, Nat.mod_eq_of_lt h1, zero]
  by_cases h2 : n < 256
  · rw [step n (by omega), low (n / 16) (by omega)]
    simp [show n / 4096 = 0 by omega, show n / 256 % 16 = 0 by omega,
      show n / 16 % 16 = n / 16 by omega, zero]
  by_cases h3 : n < 4096
  · rw [step n (by omega), step (n / 16) (by omega), low (n / 16 / 16) (by omega)]
    simp [show n / 4096 = 0 by omega, show n / 16 / 16 = n / 256 % 16 by omega, zero]
  · rw [step n (by omega), step (n / 16) (by omega), step (n / 16 / 16) (by omega),
      low (n / 16 / 16 / 16) (by omega)]
    simp [show n / 16 / 16 / 16 = n / 4096 by omega, show n / 16 / 16 % 16 = n / 256 % 16 by omega]

/-- The four hex digits written for a code below `0x10000` read back as the code, and none of
them is a quote or a backslash. -/
theorem hexPadded_four {n : Nat} (hn : n < 0x10000) :
    ∃ a b c d, (Text.hexPadded 4 n).toList = [a, b, c, d] ∧ hex4? a b c d = some n ∧
      ∀ x ∈ [a, b, c, d], x ≠ '"' ∧ x ≠ '\\' := by
  refine ⟨_, _, _, _, hexPadded_four_toList hn, ?_, ?_⟩
  · rw [hex4?_digitChar (by omega) (by omega) (by omega) (by omega)]
    congr 1
    omega
  · simp only [List.mem_cons, List.not_mem_nil, or_false]
    rintro x (rfl | rfl | rfl | rfl) <;> exact digitChar_quiet _ (by omega)

theorem char_eq_ofNat {c : Char} {n : Nat} (h : c.toNat = n) : c = Char.ofNat n := by
  rw [← h, Char.ofNat_toNat]

/-- The code of a character is no surrogate and lies below `0x110000`. -/
theorem toNat_isValidChar (c : Char) :
    c.toNat < 0xd800 ∨ (0xdfff < c.toNat ∧ c.toNat < 0x110000) := by
  have := c.valid
  unfold UInt32.isValidChar Nat.isValidChar at this
  simp only [Char.toNat]
  omega

/-- A `\u` escape of a character below `0x10000` that is no surrogate reads that character. -/
theorem readString_hexEscape {lone : Bool} {acc : List Char} {c : Char} (hn : c.toNat < 0x10000)
    (hs : isSurrogate c.toNat = false) (T : List Char) :
    readString lone acc (("\\u" ++ Text.hexPadded 4 c.toNat).toList ++ T) =
      readString lone (c :: acc) T := by
  obtain ⟨a, b, d, e, hpad, hhex, -⟩ := hexPadded_four hn
  simp only [String.toList_append, hpad]
  rw [char_eq_ofNat (rfl : c.toNat = c.toNat)]
  exact readString_unicode hs hhex T

/-- A character beyond the basic plane, written as two `\u` escapes of a high and a low
surrogate, reads back as itself. -/
theorem readString_surrogates {lone : Bool} {acc : List Char} {c : Char} (hn : 0x10000 ≤ c.toNat)
    (T : List Char) :
    readString lone acc (("\\u" ++ Text.hexPadded 4 (0xd800 + (c.toNat - 0x10000) / 0x400) ++
        "\\u" ++ Text.hexPadded 4 (0xdc00 + (c.toNat - 0x10000) % 0x400)).toList ++ T) =
      readString lone (c :: acc) T := by
  have hmax := toNat_isValidChar c
  obtain ⟨a, b, d, e, hhi, hhex, -⟩ := hexPadded_four (n := 0xd800 + (c.toNat - 0x10000) / 0x400)
    (by omega)
  obtain ⟨f, g, h, i, hlo, hlex, -⟩ := hexPadded_four (n := 0xdc00 + (c.toNat - 0x10000) % 0x400)
    (by omega)
  simp only [String.toList_append, hhi, hlo]
  -- the two escapes form a pair, which the reader joins into one character
  rw [show ("\\u".toList ++ [a, b, d, e] ++ "\\u".toList ++ [f, g, h, i]) ++ T =
      '\\' :: 'u' :: a :: b :: d :: e :: '\\' :: 'u' :: f :: g :: h :: i :: T from rfl,
    readString.eq_3, hhex, hlex]
  simp only
  rw [if_pos (by omega), show 0x10000 + (0xd800 + (c.toNat - 0x10000) / 0x400 - 0xd800) * 0x400 +
      (0xdc00 + (c.toNat - 0x10000) % 0x400 - 0xdc00) = c.toNat by omega, Char.ofNat_toNat]

/-- Reading back the escaped form of a character reads that character, whether characters
beyond ASCII are escaped or not. -/
theorem readString_escapeChar (lone ascii : Bool) (acc : List Char) (c : Char) (T : List Char) :
    readString lone acc ((escapeChar ascii c).toList ++ T) = readString lone (c :: acc) T := by
  have hvalid := toNat_isValidChar c
  -- the seven characters with a short escape
  by_cases hq : c = '"'
  · subst hq; simp [escapeChar]; exact readString_short (by decide) rfl T
  by_cases hb : c = '\\'
  · subst hb; simp [escapeChar]; exact readString_short (by decide) rfl T
  by_cases hn : c = '\n'
  · subst hn; simp [escapeChar]; exact readString_short (by decide) rfl T
  by_cases hr : c = '\r'
  · subst hr; simp [escapeChar]; exact readString_short (by decide) rfl T
  by_cases ht : c = '\t'
  · subst ht; simp [escapeChar]; exact readString_short (by decide) rfl T
  by_cases h8 : c.toNat = 8
  · rw [char_eq_ofNat h8]; simp [escapeChar]; exact readString_short (by decide) rfl T
  by_cases h12 : c.toNat = 12
  · rw [char_eq_ofNat h12]; simp [escapeChar]; exact readString_short (by decide) rfl T
  simp only [escapeChar, beq_iff_eq, hq, hb, hn, hr, ht, h8, h12, if_false]
  by_cases hlow : c.toNat < 32
  · -- the other control characters are written `\u00XX`
    rw [if_pos hlow]
    exact readString_hexEscape (by omega) (by simp [isSurrogate]; omega) T
  rw [if_neg hlow]
  by_cases hwide : (ascii && decide (c.toNat > 126)) = true
  · rw [if_pos hwide]
    simp only [Bool.and_eq_true, decide_eq_true_eq] at hwide
    by_cases hbmp : c.toNat < 0x10000
    · -- beyond ASCII in the basic plane, where a character is never a surrogate
      rw [if_pos hbmp]
      exact readString_hexEscape hbmp (by simp [isSurrogate]; omega) T
    · rw [if_neg hbmp]
      exact readString_surrogates (by omega) T
  · rw [if_neg hwide, String.toList_ofList]
    exact readString_char hq hb (by omega) T

/-! ### Whole strings -/

variable {ascii : Bool}

theorem readString_escaped (lone : Bool) :
    ∀ (cs acc T : List Char),
      readString lone acc ((cs.flatMap fun c => (escapeChar ascii c).toList) ++ T) =
        readString lone (cs.reverse ++ acc) T
  | [], _, _ => rfl
  | c :: cs, acc, T => by
    rw [List.flatMap_cons, List.append_assoc, readString_escapeChar, readString_escaped lone cs]
    simp

theorem writeString_toList (s : String) :
    (writeString ascii s).toList =
      '"' :: (s.toList.flatMap fun c => (escapeChar ascii c).toList) ++ ['"'] := by
  simp [writeString, String.toList_append, String.toList_join, List.flatMap_map]

/-- Reading an escaped string up to its closing quote gives the string back. -/
theorem readString_writeString (lone : Bool) (s : String) (T : List Char) :
    readString lone [] ((s.toList.flatMap fun c => (escapeChar ascii c).toList) ++ '"' :: T) =
      some (s, T) := by
  rw [readString_escaped, readString]
  simp

/-! ### The nesting scan through a string -/

theorem nestingFrom_quietChar {c : Char} (hq : c ≠ '"') (hb : c ≠ '\\') (T : List Char)
    (d b : Nat) : nestingFrom (c :: T) true false d b = nestingFrom T true false d b := by
  have h1 : (c != '"') = true := bne_iff_ne.2 hq
  have h2 : (c == '\\') = false := beq_eq_false_iff_ne.2 hb
  simp only [nestingFrom, h1, h2, Bool.false_eq_true, if_false]

theorem nestingFrom_quiet {cs : List Char} (h : ∀ x ∈ cs, x ≠ '"' ∧ x ≠ '\\') (T : List Char)
    (d b : Nat) : nestingFrom (cs ++ T) true false d b = nestingFrom T true false d b := by
  induction cs with
  | nil => rfl
  | cons c cs ih =>
    simp only [List.mem_cons, forall_eq_or_imp] at h
    rw [List.cons_append, nestingFrom_quietChar h.1.1 h.1.2, ih h.2]

/-- Inside a string the scan passes over an escaped character, and stays inside. -/
theorem nestingFrom_escapeChar (c : Char) (T : List Char) (d b : Nat) :
    nestingFrom ((escapeChar false c).toList ++ T) true false d b =
      nestingFrom T true false d b := by
  -- a short escape is a backslash and one character
  by_cases hq : c = '"'
  · subst hq; simp [escapeChar, nestingFrom]
  by_cases hb : c = '\\'
  · subst hb; simp [escapeChar, nestingFrom]
  by_cases hn : c = '\n'
  · subst hn; simp [escapeChar, nestingFrom]
  by_cases hr : c = '\r'
  · subst hr; simp [escapeChar, nestingFrom]
  by_cases ht : c = '\t'
  · subst ht; simp [escapeChar, nestingFrom]
  by_cases h8 : c.toNat = 8
  · rw [char_eq_ofNat h8]; simp [escapeChar, nestingFrom]
  by_cases h12 : c.toNat = 12
  · rw [char_eq_ofNat h12]; simp [escapeChar, nestingFrom]
  simp only [escapeChar, beq_iff_eq, hq, hb, hn, hr, ht, h8, h12, Bool.false_and,
    Bool.false_eq_true, if_false]
  by_cases hlow : c.toNat < 32
  · rw [if_pos hlow]
    obtain ⟨a, b', c', d', hpad, -, hquiet⟩ := hexPadded_four (n := c.toNat) (by omega)
    simp only [String.toList_append, hpad, List.append_assoc]
    calc nestingFrom ('\\' :: 'u' :: ([a, b', c', d'] ++ T)) true false d b
        = nestingFrom ([a, b', c', d'] ++ T) true false d b := rfl
      _ = nestingFrom T true false d b := nestingFrom_quiet hquiet T d b
  · rw [if_neg hlow, String.toList_ofList]
    exact nestingFrom_quietChar hq hb T d b

theorem nestingFrom_escaped :
    ∀ (cs T : List Char) (d b : Nat),
      nestingFrom ((cs.flatMap fun c => (escapeChar false c).toList) ++ T) true false d b =
        nestingFrom T true false d b
  | [], _, _, _ => rfl
  | c :: cs, T, d, b => by
    rw [List.flatMap_cons, List.append_assoc, nestingFrom_escapeChar, nestingFrom_escaped cs]

/-- A written string is one token at the depth where it stands. -/
theorem nestingFrom_writeString (s : String) (T : List Char) (d b : Nat) :
    nestingFrom ((writeString false s).toList ++ T) false false d b =
      nestingFrom T false false d (max b d) := by
  simp only [writeString_toList, List.cons_append, List.append_assoc]
  calc _ = nestingFrom ((s.toList.flatMap fun c => (escapeChar false c).toList) ++ '"' :: T)
        true false d (max b d) := rfl
    _ = _ := by rw [nestingFrom_escaped]; rfl

/-! ### Whole numbers -/

/-- Whether a text may follow a written value in a document: it is empty, or it goes on with
a separator or a closing bracket. -/
def closesValue : List Char → Bool
  | [] => true
  | c :: _ => c == ',' || c == ']' || c == '}'

theorem closesValue_cases {rest : List Char} (hr : closesValue rest = true) :
    rest = [] ∨ ∃ t, rest = ',' :: t ∨ rest = ']' :: t ∨ rest = '}' :: t := by
  cases rest with
  | nil => exact .inl rfl
  | cons c t =>
    simp only [closesValue, Bool.or_eq_true, beq_iff_eq] at hr
    rcases hr with (rfl | rfl) | rfl <;> simp

/-- Whether a text may follow the digits of a whole number without extending it: it is empty,
or it goes on with a character that is no digit, no point and no exponent mark. -/
def endsNumber : List Char → Bool
  | [] => true
  | c :: _ => !isAsciiDigit c && c != '.' && c != 'e' && c != 'E'

theorem endsNumber_of_closesValue {rest : List Char} (hr : closesValue rest = true) :
    endsNumber rest = true := by
  rcases closesValue_cases hr with rfl | ⟨t, rfl | rfl | rfl⟩ <;> rfl

section EndsNumber

variable {rest : List Char} (hr : endsNumber rest = true)
include hr

theorem takeWhile_digits {ds : List Char} (hd : ∀ x ∈ ds, isAsciiDigit x = true) :
    (ds ++ rest).takeWhile isAsciiDigit = ds := by
  induction ds with
  | nil =>
    cases rest with
    | nil => rfl
    | cons c t =>
      simp only [endsNumber, Bool.and_eq_true, Bool.not_eq_true'] at hr
      simp [hr.1.1.1]
  | cons d ds ih =>
    simp only [List.mem_cons, forall_eq_or_imp] at hd
    simp [hd.1, ih hd.2]

theorem fractionPart_ends : fractionPart rest = (none, rest) := by
  cases rest with
  | nil => rfl
  | cons c t =>
    simp only [endsNumber, Bool.and_eq_true, bne_iff_ne] at hr
    unfold fractionPart
    split
    next heq => exact absurd (List.cons.inj heq).1 hr.1.1.2
    next => rfl

theorem exponentPart_ends : exponentPart rest = none := by
  cases rest with
  | nil => rfl
  | cons c t =>
    simp only [endsNumber, Bool.and_eq_true, bne_iff_ne] at hr
    simp [exponentPart, hr.1.2, hr.2]

end EndsNumber

theorem numberSign_digit {d : Char} (hd : isAsciiDigit d = true) (r : List Char) :
    numberSign (d :: r) = (false, d :: r) := by
  unfold numberSign
  split
  next heq => simp only [List.cons.injEq] at heq; simp [heq.1, isAsciiDigit] at hd
  next => rfl

section Digits

variable {d : Char} {ds rest : List Char} (hd : isAsciiDigit d = true) (h0 : d = '0' → ds = [])
  (hds : ∀ x ∈ ds, isAsciiDigit x = true) (hr : endsNumber rest = true)
include hd h0 hds hr

/-- The integer part of digits without a leading zero is all of them. -/
theorem wholeDigits_digits : wholeDigits (d :: (ds ++ rest)) = d :: ds := by
  unfold wholeDigits
  split
  next tail heq =>
    simp only [List.cons.injEq] at heq
    rw [heq.1, h0 heq.1]
  next => exact @takeWhile_digits rest hr (d :: ds) (by simpa using And.intro hd hds)

/-- Digits without a leading zero read as the number they write; what follows them is
neither a fraction nor an exponent, so the number is whole. -/
theorem readNumber_digits :
    readNumber (d :: ds ++ rest) = some (.int (digitsValue (d :: ds)), rest) := by
  simp [readNumber, numberSign_digit hd, wholeDigits_digits hd h0 hds hr, fractionPart_ends hr,
    exponentPart_ends hr]

theorem readNumber_minus_digits :
    readNumber ('-' :: d :: ds ++ rest) = some (.int (-(digitsValue (d :: ds) : Int)), rest) := by
  simp [readNumber, numberSign, wholeDigits_digits hd h0 hds hr, fractionPart_ends hr,
    exponentPart_ends hr]

end Digits

theorem digitsValue_toDigits (m : Nat) : digitsValue (Nat.toDigits 10 m) = m :=
  Nat.ofDigitChars_ten_toDigits

theorem isAsciiDigit_of_mem_toDigits {m : Nat} {c : Char} (h : c ∈ Nat.toDigits 10 m) :
    isAsciiDigit c = true := by
  have := Nat.isDigit_of_mem_toDigits (by decide) (by decide) h
  simpa [isAsciiDigit, Char.isDigit, Char.le_def] using this

theorem toDigits_ne_zero_cons : ∀ m, 0 < m → ∀ t, Nat.toDigits 10 m ≠ '0' :: t := by
  intro m
  induction m using Nat.strongRecOn with
  | _ m ih =>
    intro hm t h
    by_cases hlt : m < 10
    · rw [Nat.toDigits_of_lt_base hlt] at h
      simp at h
      omega
    · -- the leading digit of `m` is the leading digit of `m / 10`
      rw [Nat.toDigits_of_base_le (by decide) (by omega)] at h
      obtain ⟨d, ds, hds⟩ :=
        List.exists_cons_of_ne_nil (Nat.toDigits_ne_nil (b := 10) (n := m / 10))
      rw [hds] at h
      simp only [List.cons_append, List.cons.injEq] at h
      exact ih (m / 10) (by omega) (by omega) ds (h.1 ▸ hds)

/-- The digits of a whole number: ASCII digits, and no leading zero but in `0` itself. -/
theorem toDigits_cons (m : Nat) : ∃ d ds, Nat.toDigits 10 m = d :: ds ∧
    (∀ x ∈ d :: ds, isAsciiDigit x = true) ∧ (d = '0' → ds = []) := by
  obtain ⟨d, ds, hds⟩ := List.exists_cons_of_ne_nil (Nat.toDigits_ne_nil (b := 10) (n := m))
  refine ⟨d, ds, hds, fun x hx => isAsciiDigit_of_mem_toDigits (hds ▸ hx), fun hd => ?_⟩
  subst hd
  rcases Nat.eq_zero_or_pos m with rfl | hm
  · simpa using hds.symm
  · exact absurd hds (toDigits_ne_zero_cons m hm ds)

theorem toString_ofNat_toList (m : Nat) :
    (toString (Int.ofNat m)).toList = Nat.toDigits 10 m := by
  simp [Int.toString_eq_repr, Int.repr]

theorem toString_negSucc_toList (m : Nat) :
    (toString (Int.negSucc m)).toList = '-' :: Nat.toDigits 10 (m + 1) := by
  simp [Int.toString_eq_repr, Int.repr]

/-- A text that starts with a digit, or with a minus and a digit, is read as a number: none of
the literals the reader names starts that way. -/
theorem readScalar_number {cs : List Char}
    (hcs : ∃ d t, isAsciiDigit d = true ∧ (cs = d :: t ∨ cs = '-' :: d :: t)) :
    readScalar cs = readNumber cs := by
  -- both shapes go through the fallback equation, whose six side conditions exclude the literals
  obtain ⟨d, t, hd, rfl | rfl⟩ := hcs <;>
  · refine readScalar.eq_7 _ ?_ ?_ ?_ ?_ ?_ ?_ <;>
    · intro r h
      simp only [List.cons.injEq] at h
      simp_all [isAsciiDigit]

theorem readScalar_digit {d : Char} {cs : List Char} (hd : isAsciiDigit d = true) :
    readScalar (d :: cs) = readNumber (d :: cs) :=
  readScalar_number ⟨d, cs, hd, .inl rfl⟩

theorem readScalar_minus_digit {d : Char} {cs : List Char} (hd : isAsciiDigit d = true) :
    readScalar ('-' :: d :: cs) = readNumber ('-' :: d :: cs) :=
  readScalar_number ⟨d, cs, hd, .inr rfl⟩

/-- The text of a whole number reads back as that number, whatever follows it that does not
extend it. -/
theorem readScalar_int_of_ends (n : Int) {rest : List Char} (hr : endsNumber rest = true) :
    readScalar ((toString n).toList ++ rest) = some (.int n, rest) := by
  cases n with
  | ofNat m =>
    obtain ⟨d, ds, hds, hdig, h0⟩ := toDigits_cons m
    have hd := hdig d (by simp)
    rw [toString_ofNat_toList, hds, List.cons_append, readScalar_digit hd, ← List.cons_append,
      readNumber_digits hd h0 (fun x hx => hdig x (by simp [hx])) hr, ← hds, digitsValue_toDigits]
    rfl
  | negSucc m =>
    obtain ⟨d, ds, hds, hdig, h0⟩ := toDigits_cons (m + 1)
    have hd := hdig d (by simp)
    rw [toString_negSucc_toList, hds, List.cons_append, List.cons_append, readScalar_minus_digit hd,
      ← List.cons_append, ← List.cons_append,
      readNumber_minus_digits hd h0 (fun x hx => hdig x (by simp [hx])) hr, ← hds,
      digitsValue_toDigits]
    rfl

/-- The text of a whole number reads back as that number. -/
theorem readScalar_int (n : Int) {rest : List Char} (hr : closesValue rest = true) :
    readScalar ((toString n).toList ++ rest) = some (.int n, rest) :=
  readScalar_int_of_ends n (endsNumber_of_closesValue hr)

/-- The text of a whole number starts with a minus or a digit. -/
theorem toString_int_head (i : Int) :
    ∃ c t, (toString i).toList = c :: t ∧ 45 ≤ c.toNat ∧ c.toNat ≤ 57 := by
  cases i with
  | ofNat m =>
    obtain ⟨c, ds, hds, hdig, -⟩ := toDigits_cons m
    have h := hdig c (by simp)
    simp only [isAsciiDigit, Bool.and_eq_true, decide_eq_true_eq] at h
    have h48 : 48 ≤ c.toNat := h.1
    exact ⟨c, ds, by rw [toString_ofNat_toList, hds], by omega, h.2⟩
  | negSucc m => exact ⟨'-', _, toString_negSucc_toList m, by decide, by decide⟩

/-! ### The nesting scan through a number -/

theorem nestingFrom_digit {c : Char} (hc : isAsciiDigit c = true) (cs : List Char) (e : Bool)
    (d b : Nat) : nestingFrom (c :: cs) false e d b = nestingFrom cs false false d (max b d) := by
  have h : 48 ≤ c.toNat ∧ c.toNat ≤ 57 := by
    simp only [isAsciiDigit, Bool.and_eq_true, decide_eq_true_eq] at hc
    exact ⟨hc.1, hc.2⟩
  -- a digit is none of the characters the scan tests for
  have below : ∀ x : Char, x.toNat < 48 → (c == x) = false := by
    intro x hx; simp only [beq_eq_false_iff_ne]; rintro rfl; omega
  have above : ∀ x : Char, 57 < x.toNat → (c == x) = false := by
    intro x hx; simp only [beq_eq_false_iff_ne]; rintro rfl; omega
  simp (disch := decide) only [nestingFrom, below, above, Bool.or_false, Bool.false_eq_true,
    if_false]

theorem nestingFrom_digits {ds : List Char} (hne : ds ≠ []) (hd : ∀ x ∈ ds, isAsciiDigit x = true)
    (T : List Char) (d b : Nat) :
    nestingFrom (ds ++ T) false false d b = nestingFrom T false false d (max b d) := by
  induction ds generalizing b with
  | nil => exact absurd rfl hne
  | cons c ds ih =>
    simp only [List.mem_cons, forall_eq_or_imp] at hd
    rw [List.cons_append, nestingFrom_digit hd.1]
    cases ds with
    | nil => rfl
    | cons c' ds => rw [ih (List.cons_ne_nil _ _) hd.2, Nat.max_assoc, Nat.max_self]

/-- A written whole number is one token at the depth where it stands. -/
theorem nestingFrom_int (n : Int) (T : List Char) (d b : Nat) :
    nestingFrom ((toString n).toList ++ T) false false d b =
      nestingFrom T false false d (max b d) := by
  have digits (m : Nat) := nestingFrom_digits (Nat.toDigits_ne_nil (b := 10) (n := m))
    (fun _ hx => isAsciiDigit_of_mem_toDigits hx) T d
  cases n with
  | ofNat m => rw [toString_ofNat_toList, digits]
  | negSucc m =>
    rw [toString_negSucc_toList, List.cons_append]
    calc _ = nestingFrom (Nat.toDigits 10 (m + 1) ++ T) false false d (max b d) := rfl
      _ = _ := by rw [digits, Nat.max_assoc, Nat.max_self]

/-- A character past the blanks is where the reader starts. -/
theorem skipSpace_cons {c : Char} (hc : 32 < c.toNat) (T : List Char) :
    skipSpace (c :: T) = c :: T := by
  have below : ∀ x : Char, x.toNat ≤ 32 → (c == x) = false := by
    intro x hx; simp only [beq_eq_false_iff_ne]; rintro rfl; omega
  simp (disch := decide) only [skipSpace, below, Bool.or_false, Bool.false_eq_true, if_false]

end AddonCatalog.Json
