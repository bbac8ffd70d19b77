import AddonCatalog.Proofs.Addon.Record

/-!
# A record names the uid it was written for

`ofRecord_toRecord` reads a record back for addons whose properties are plain. A record of
any other addon, with doubles written in their shortest digits or keys written twice, need
not come back equal; what does come back is its uid, and that is what a reconciliation acts
on:

* `numberChar`, `NumberPrefix`: the characters a number is written with; the number reader
  only consumes them (`numberPrefix_of_readNumber`), and a double is written with them
  (`writeFloat_record`);
* `LeftOver`: after a value written before a delimiter, the reader stops at that delimiter,
  or inside a double, where no container reader goes on;
* `readValue_write_leftOver`, `readMembers_write_keys`: reading a written value that succeeds
  consumes exactly its text, and reads every member of an object under its own key;
* `parse_render_first`: so the first member of an object, a string, is read back as written;
* `ofRecord_toRecord_uid`: a record that reads back at all reads back with the uid of the
  addon it was written for.
-/

namespace AddonCatalog.Json

/-! ## Number characters -/

/-- The characters a number is written with: digits, the point, the exponent mark and the
signs. -/
def numberChar (c : Char) : Bool :=
  isAsciiDigit c || c == '.' || c == 'e' || c == 'E' || c == '+' || c == '-'

/-- `cs` is `rest` after number characters. -/
def NumberPrefix (cs rest : List Char) : Prop :=
  ∃ pre, cs = pre ++ rest ∧ ∀ c ∈ pre, numberChar c = true

namespace NumberPrefix

theorem refl (cs : List Char) : NumberPrefix cs cs := ⟨[], rfl, by simp⟩

theorem trans {a b c : List Char} (h₁ : NumberPrefix a b) (h₂ : NumberPrefix b c) :
    NumberPrefix a c := by
  obtain ⟨p, rfl, hp⟩ := h₁
  obtain ⟨q, rfl, hq⟩ := h₂
  refine ⟨p ++ q, (List.append_assoc _ _ _).symm, fun x hx => ?_⟩
  rcases List.mem_append.mp hx with hx | hx
  · exact hp x hx
  · exact hq x hx

theorem cons {c : Char} {cs rest : List Char} (hc : numberChar c = true) (h : NumberPrefix cs rest) :
    NumberPrefix (c :: cs) rest :=
  NumberPrefix.trans ⟨[c], rfl, by simpa using hc⟩ h

end NumberPrefix

theorem numberChar_of_digit {c : Char} (h : isAsciiDigit c = true) : numberChar c = true := by
  simp [numberChar, h]

theorem numberPrefix_takeWhile (cs : List Char) :
    NumberPrefix cs (cs.drop (cs.takeWhile isAsciiDigit).length) := by
  obtain ⟨t, ht⟩ := List.takeWhile_prefix isAsciiDigit (l := cs)
  have hdrop : cs.drop (cs.takeWhile isAsciiDigit).length = t := by
    calc cs.drop (cs.takeWhile isAsciiDigit).length
        = (cs.takeWhile isAsciiDigit ++ t).drop (cs.takeWhile isAsciiDigit).length := by rw [ht]
      _ = t := List.drop_left
  rw [hdrop]
  exact ⟨_, ht.symm, fun c hc => numberChar_of_digit (List.all_eq_true.mp List.all_takeWhile c hc)⟩

theorem numberPrefix_numberSign (cs : List Char) : NumberPrefix cs (numberSign cs).2 := by
  unfold numberSign
  split
  · exact .cons rfl (.refl _)
  · exact .refl _

theorem numberPrefix_wholeDigits (cs : List Char) :
    NumberPrefix cs (cs.drop (wholeDigits cs).length) := by
  unfold wholeDigits
  split
  · exact .cons rfl (.refl _)
  · exact numberPrefix_takeWhile cs

theorem numberPrefix_fractionPart (cs : List Char) : NumberPrefix cs (fractionPart cs).2 := by
  unfold fractionPart
  split
  · split
    · exact .cons rfl (numberPrefix_takeWhile _)
    · exact .refl _
  · exact .refl _

theorem numberPrefix_of_exponentPart {cs rest : List Char} {e : Int} (h : exponentPart cs = some (e, rest)) :
    NumberPrefix cs rest := by
  unfold exponentPart at h
  split at h
  · rename_i c r
    split at h
    · rename_i he
      have hc : numberChar c = true := by
        simp only [Bool.or_eq_true, beq_iff_eq] at he
        rcases he with rfl | rfl <;> rfl
      split at h
      rename_i eneg r1 hsign
      have hrest : r1.drop (r1.takeWhile isAsciiDigit).length = rest := by
        split at h <;> (dsimp only at h; split at h) <;>
          first | exact (Prod.mk.inj (Option.some.inj h)).2 | cases h
      rw [← hrest]
      refine .cons hc (NumberPrefix.trans ?_ (numberPrefix_takeWhile r1))
      -- the sign after the mark
      split at hsign <;> (simp only [Prod.mk.injEq] at hsign; rw [← hsign.2])
      · exact .cons rfl (.refl _)
      · exact .cons rfl (.refl _)
      · exact .refl _
    · simp at h
  · simp at h

/-- The number reader consumes number characters only. -/
theorem numberPrefix_of_readNumber {cs rest : List Char} {v : Json} (h : readNumber cs = some (v, rest)) :
    NumberPrefix cs rest := by
  unfold readNumber at h
  rcases hs : numberSign cs with ⟨neg, cs1⟩
  have hsign : NumberPrefix cs cs1 := by simpa [hs] using numberPrefix_numberSign cs
  rw [hs] at h
  dsimp only at h
  split at h
  · cases h
  rcases hf : fractionPart (cs1.drop (wholeDigits cs1).length) with ⟨frac, cs3⟩
  have hfrac : NumberPrefix cs cs3 := by
    refine hsign.trans ((numberPrefix_wholeDigits cs1).trans ?_)
    simpa [hf] using numberPrefix_fractionPart (cs1.drop (wholeDigits cs1).length)
  rw [hf] at h
  dsimp only at h
  -- what follows the fraction: an exponent, or nothing
  split at h
  · cases h
    exact hfrac
  · rcases he : exponentPart cs3 with _ | ⟨ex, rest'⟩
    · rw [he] at h
      cases h
      exact hfrac
    · rw [he] at h
      cases h
      exact hfrac.trans (numberPrefix_of_exponentPart he)

/-! ## The text of a double -/

theorem numberChar_of_mem_toString {n : Nat} {c : Char} (h : c ∈ (toString n).toList) :
    numberChar c = true := by
  rw [show (toString n).toList = Nat.toDigits 10 n by simp [Nat.toString_eq_repr, Nat.repr]] at h
  exact numberChar_of_digit (isAsciiDigit_of_mem_toDigits h)

theorem numberChar_of_mem_zeros {n : Nat} {c : Char} (h : c ∈ (Number.zeros n).toList) :
    numberChar c = true := by
  simp only [Number.zeros, String.toList_ofList, List.mem_replicate] at h
  rw [h.2]
  rfl

theorem render_numberChars (l : Number.FloatLayout) (d : Number.Decimal) :
    ∀ c ∈ (l.render d).toList, numberChar c = true := by
  intro c hc
  unfold Number.FloatLayout.render at hc
  dsimp only at hc
  -- the digits and the exponent are written with digits; the rest are marks
  have hd : ∀ c ∈ (toString d.digits).toList, numberChar c = true := fun _ => numberChar_of_mem_toString
  have hx : ∀ c ∈ (toString (d.exponent + (toString d.digits).length - 1).natAbs).toList,
      numberChar c = true := fun _ => numberChar_of_mem_toString
  generalize toString (d.exponent + (toString d.digits).length - 1).natAbs = X at hc hx
  generalize toString d.digits = S at hc hd hx
  have hmarks : numberChar '0' = true ∧ numberChar '.' = true ∧ numberChar 'e' = true ∧
      numberChar '+' = true ∧ numberChar '-' = true := by decide
  split_ifs at hc <;> (try split at hc) <;>
    simp only [String.toList_append, List.mem_append, String.toList_ofList] at hc <;>
    simp at hc <;>
    grind [numberChar_of_mem_zeros, List.mem_of_mem_take, List.mem_of_mem_drop]
theorem toString_head (n : Nat) : ∃ c t, (toString n).toList = c :: t ∧ isAsciiDigit c = true := by
  obtain ⟨c, t, hct, hdig, -⟩ := toDigits_cons n
  exact ⟨c, t, by simp [Nat.toString_eq_repr, Nat.repr, hct], hdig c (by simp)⟩

theorem render_head (l : Number.FloatLayout) (d : Number.Decimal) :
    ∃ c t, (l.render d).toList = c :: t ∧ isAsciiDigit c = true := by
  obtain ⟨c, t, hct, hc⟩ := toString_head d.digits
  unfold Number.FloatLayout.render
  dsimp only
  generalize toString d.digits = S at hct ⊢
  split_ifs
  · exact ⟨c, _, by simp only [String.toList_append, hct, List.cons_append]; rfl, hc⟩
  · exact ⟨c, _, by simp only [String.toList_append, String.toList_ofList, hct, List.take_succ_cons,
      List.cons_append]; rfl, hc⟩
  · exact ⟨'0', _, by simp only [String.toList_append]; rfl, rfl⟩
  all_goals
    rw [hct]
    cases t <;>
      exact ⟨c, _, (by simp only [String.toList_append, String.toList_ofList, List.cons_append]; rfl), hc⟩

/-- The text of a double in a stored record: `null` when it is not finite, else number
characters starting with a digit or with a minus and a digit. -/
theorem writeFloat_record (x : Float) :
    (writeFloat JsonStyle.record x).toList = ['n', 'u', 'l', 'l'] ∨
      (∀ c ∈ (writeFloat JsonStyle.record x).toList, numberChar c = true) ∧
        ∃ c t, isAsciiDigit c = true ∧ ((writeFloat JsonStyle.record x).toList = c :: t ∨
          (writeFloat JsonStyle.record x).toList = '-' :: c :: t) := by
  unfold writeFloat
  split
  · rename_i b _
    right
    obtain ⟨c, t, hct, hc⟩ := render_head Number.FloatLayout.compact (Number.shortest b)
    have hchars := render_numberChars Number.FloatLayout.compact (Number.shortest b)
    rw [show JsonStyle.record.floatLayout = .compact from rfl, Number.FloatLayout.renderBinary]
    cases b.negative
    · simp only [Bool.false_eq_true, if_false, String.toList_append, String.toList_empty,
        List.nil_append]
      exact ⟨hchars, c, t, hc, .inl hct⟩
    · simp only [if_true, String.toList_append, hct]
      refine ⟨fun x hx => ?_, c, t, hc, .inr (by simp)⟩
      simp only [List.mem_append] at hx
      rcases hx with hx | hx
      · simp at hx; rw [hx]; rfl
      · exact hchars x (hct ▸ hx)
  all_goals
    left
    simp [JsonStyle.record]

/-! ## What the reader leaves after a value -/

/-- What the reader leaves of `rest` after a value written before it: `rest` itself or,
after a double read only in part, text that starts with a number character. -/
def LeftOver (rest rest' : List Char) : Prop :=
  rest' = rest ∨ ∃ c t, rest' = c :: t ∧ numberChar c = true

theorem numberChar_of_closes {c : Char} {t : List Char} (h : closesValue (c :: t) = true) :
    numberChar c = false := by
  simp only [closesValue, Bool.or_eq_true, beq_iff_eq] at h
  rcases h with (rfl | rfl) | rfl <;> rfl

/-- Number characters read off the front of a number text followed by a delimiter leave the
delimiter, or the rest of the number text. -/
theorem leftOver_of_numberPrefix {t rest rest' : List Char} (ht : ∀ c ∈ t, numberChar c = true)
    (hr : closesValue rest = true) (h : NumberPrefix (t ++ rest) rest') : LeftOver rest rest' := by
  obtain ⟨pre, heq, hpre⟩ := h
  rcases List.append_eq_append_iff.mp heq with ⟨a', rfl, hrest⟩ | ⟨c', rfl, rfl⟩
  · -- the reader went past the number: only possible if it read nothing of `rest`
    cases a' with
    | nil => exact .inl (by simpa using hrest.symm)
    | cons x a' =>
      subst hrest
      have hx := hpre x (by simp)
      rw [numberChar_of_closes hr] at hx
      cases hx
  · cases c' with
    | nil => exact .inl (by simp)
    | cons x c' => exact .inr ⟨x, c' ++ rest, rfl, ht x (by simp)⟩

theorem readScalar_null (r : List Char) : readScalar ('n' :: 'u' :: 'l' :: 'l' :: r) = some (.null, r) := by
  rw [readScalar]

theorem readScalar_true (r : List Char) :
    readScalar ('t' :: 'r' :: 'u' :: 'e' :: r) = some (.bool true, r) := by
  rw [readScalar]

theorem readScalar_false (r : List Char) :
    readScalar ('f' :: 'a' :: 'l' :: 's' :: 'e' :: r) = some (.bool false, r) := by
  rw [readScalar]

/-- A literal word is read back whole. -/
theorem readValue_word {r : Reading} {n d : Nat} {c : Char} {t rest : List Char} {v : Json}
    (hc : 32 < c.toNat) (h1 : c ≠ '{') (h2 : c ≠ '[') (h3 : c ≠ '"')
    (hs : readScalar (c :: (t ++ rest)) = some (v, rest)) :
    readValue r (n + 1) d (c :: t ++ rest) = .ok (v, rest) := by
  rw [List.cons_append, readValue_scalar r n d hc h1 h2 h3, hs]

theorem digit_toNat {c : Char} (h : isAsciiDigit c = true) : 48 ≤ c.toNat ∧ c.toNat ≤ 57 := by
  simp only [isAsciiDigit, Bool.and_eq_true, decide_eq_true_eq] at h
  exact ⟨h.1, h.2⟩

/-- Reading the record text of a double stops at the delimiter after it, or inside it. -/
theorem readValue_writeFloat (r : Reading) {x : Float} {rest rest' : List Char} {F d : Nat}
    {v' : Json} (hr : closesValue rest = true)
    (h : readValue r F d ((writeFloat JsonStyle.record x).toList ++ rest) = .ok (v', rest')) :
    LeftOver rest rest' := by
  obtain ⟨n, rfl⟩ : ∃ n, F = n + 1 := by
    cases F with
    | zero => simp [readValue] at h
    | succ n => exact ⟨n, rfl⟩
  rcases writeFloat_record x with hnull | ⟨hchars, c, t, hc, hct⟩
  · rw [hnull, readValue_word (by decide) (by decide) (by decide) (by decide) (readScalar_null _)] at h
    exact .inl (Prod.mk.inj (Except.ok.inj h)).2.symm
  · have hc' := digit_toNat hc
    have hread : readNumber ((writeFloat JsonStyle.record x).toList ++ rest) = some (v', rest') := by
      rcases hct with hct | hct
      · rw [hct, List.cons_append,
          readValue_scalar r n d (by omega) (by rintro rfl; simp at hc') (by rintro rfl; simp at hc')
            (by rintro rfl; simp at hc'), readScalar_digit hc] at h
        rw [hct, List.cons_append]
        split at h <;> simp_all
      · rw [hct, List.cons_append, List.cons_append,
          readValue_scalar r n d (by decide) (by decide) (by decide) (by decide),
          readScalar_minus_digit hc] at h
        rw [hct, List.cons_append, List.cons_append]
        split at h <;> simp_all
    exact leftOver_of_numberPrefix hchars hr (numberPrefix_of_readNumber hread)

theorem numberChar_toNat {c : Char} (h : numberChar c = true) : 32 < c.toNat := by
  simp only [numberChar, Bool.or_eq_true, beq_iff_eq] at h
  rcases h with ((((hd | rfl) | rfl) | rfl) | rfl) | rfl
  · have := digit_toNat hd; omega
  all_goals decide

/-- A delimiter that the reader finds after a value written before a delimiter is that
delimiter. -/
theorem LeftOver.eq_of_skipSpace {x y : Char} {rest r1 after : List Char} (h : LeftOver (x :: rest) r1)
    (hs : skipSpace r1 = y :: after) (hy : numberChar y = false) : r1 = x :: rest := by
  rcases h with h | ⟨c, t, rfl, hc⟩
  · exact h
  · rw [skipSpace_cons (numberChar_toNat hc)] at hs
    rw [(List.cons.inj hs).1, hy] at hc
    cases hc

section Inversion

variable {r : Reading} {m d : Nat} {v' : Json} {rest' : List Char}

theorem readItems_ok {acc : List Json} {cs : List Char}
    (h : readItems r (m + 1) d acc cs = .ok (v', rest')) :
    ∃ v r1, readValue r m d cs = .ok (v, r1) ∧
      ((∃ after, skipSpace r1 = ',' :: after ∧ readItems r m d (v :: acc) after = .ok (v', rest')) ∨
        (∃ after, skipSpace r1 = ']' :: after ∧ v' = .arr (v :: acc).reverse ∧ rest' = after)) := by
  unfold readItems at h
  rcases hv : readValue r m d cs with e | ⟨v, r1⟩
  · simp [hv, bind, Except.bind] at h
  · simp only [hv, bind, Except.bind] at h
    refine ⟨v, r1, rfl, ?_⟩
    split at h
    · exact .inl ⟨_, by assumption, h⟩
    · simp only [Except.ok.injEq, Prod.mk.injEq] at h
      exact .inr ⟨_, by assumption, h.1.symm, h.2.symm⟩
    · cases h

theorem readMembers_ok {acc : List (String × Json)} {k : String} {T A : List Char}
    (hk : readString r.lone [] T = some (k, ':' :: A))
    (h : readMembers r (m + 1) d acc ('"' :: T) = .ok (v', rest')) :
    ∃ v r1, readValue r m d A = .ok (v, r1) ∧
      ((∃ after, skipSpace r1 = ',' :: after ∧
          readMembers r m d ((k, v) :: acc) after = .ok (v', rest')) ∨
        (∃ after, skipSpace r1 = '}' :: after ∧
          v' = .obj (collectMembers ((k, v) :: acc).reverse) ∧ rest' = after)) := by
  simp only [readMembers, skipSpace_cons (c := '"') (by decide), hk,
    skipSpace_cons (c := ':') (by decide)] at h
  rcases hv : readValue r m d A with e | ⟨v, r1⟩
  · simp [hv, bind, Except.bind] at h
  · simp only [hv, bind, Except.bind] at h
    refine ⟨v, r1, rfl, ?_⟩
    split at h
    · exact .inl ⟨_, by assumption, h⟩
    · simp only [Except.ok.injEq, Prod.mk.injEq] at h
      exact .inr ⟨_, by assumption, h.1.symm, h.2.symm⟩
    · cases h

end Inversion

section Fuel

variable {r : Reading} {F d : Nat} {p : Json × List Char}

theorem readValue_fuel {cs : List Char} (h : readValue r F d cs = .ok p) : ∃ n, F = n + 1 := by
  cases F with
  | zero => simp [readValue] at h
  | succ n => exact ⟨n, rfl⟩

theorem readItems_fuel {acc : List Json} {cs : List Char} (h : readItems r F d acc cs = .ok p) :
    ∃ n, F = n + 1 := by
  cases F with
  | zero => simp [readItems] at h
  | succ n => exact ⟨n, rfl⟩

theorem readMembers_fuel {acc : List (String × Json)} {cs : List Char}
    (h : readMembers r F d acc cs = .ok p) : ∃ n, F = n + 1 := by
  cases F with
  | zero => simp [readMembers] at h
  | succ n => exact ⟨n, rfl⟩

/-- A container is only read inside the room the reader allows. -/
theorem room_of_readValue {n : Nat} {c : Char} {cs : List Char} (hc : c = '[' ∨ c = '{')
    (h : readValue r (n + 1) d (c :: cs) = .ok p) : d < r.room := by
  refine Nat.lt_of_not_le fun hd => ?_
  rcases hc with rfl | rfl <;>
    simp [readValue, skipSpace_cons (c := '[') (by decide), skipSpace_cons (c := '{') (by decide),
      show d ≥ r.room by omega] at h

end Fuel

/-- Every value's record text starts with a visible character other than a closing bracket. -/
theorem write_record_head (l : Nat) (v : Json) :
    ∃ c t, (write JsonStyle.record l v).toList = c :: t ∧ 32 < c.toNat ∧ c ≠ ']' := by
  cases v with
  | float x =>
    rcases writeFloat_record x with hnull | ⟨-, c, t, hc, hct | hct⟩
    · exact ⟨'n', _, by simp only [write]; rw [hnull], by decide, by decide⟩
    · have := digit_toNat hc
      exact ⟨c, t, by simp only [write]; rw [hct], by omega, by rintro rfl; simp at this⟩
    · exact ⟨'-', c :: t, by simp only [write]; rw [hct], by decide, by decide⟩
  | null => exact ⟨'n', ['u', 'l', 'l'], by simp [write], by decide, by decide⟩
  | bool b =>
    cases b with
    | false => exact ⟨'f', ['a', 'l', 's', 'e'], by simp [write], by decide, by decide⟩
    | true => exact ⟨'t', ['r', 'u', 'e'], by simp [write], by decide, by decide⟩
  | int i =>
    obtain ⟨c, t, hct, h45, h57⟩ := toString_int_head i
    exact ⟨c, t, hct, by omega, by rintro rfl; exact absurd h57 (by decide)⟩
  | str s => exact ⟨'"', _, writeString_toList s, by decide, by decide⟩
  | arr xs =>
    cases xs with
    | nil => exact ⟨'[', [']'], by simp [write], by decide, by decide⟩
    | cons x xs => exact ⟨'[', _, by rw [write_arr_toList, List.cons_append], by decide, by decide⟩
  | obj ms =>
    cases ms with
    | nil => exact ⟨'{', ['}'], by simp [write], by decide, by decide⟩
    | cons m ms => exact ⟨'{', _, by rw [write_obj_toList, List.cons_append], by decide, by decide⟩

/-! ## Reading a written value -/

-- The cases match on the value only, as in `readValue_write`.
mutual
/-- **Reading a written value stops where its text ends**, whatever doubles it holds: the
reader leaves the delimiter after it, unless it stopped inside a double. -/
theorem readValue_write_leftOver (r : Reading) (l : Nat) : ∀ (v : Json) (rest : List Char)
    (F d : Nat) (v' : Json) (rest' : List Char), closesValue rest = true →
    readValue r F d ((write JsonStyle.record l v).toList ++ rest) = .ok (v', rest') →
    LeftOver rest rest'
  | .null => by
    intro rest F d v' rest' _ h
    obtain ⟨n, rfl⟩ := readValue_fuel h
    rw [show (write JsonStyle.record l .null).toList = ['n', 'u', 'l', 'l'] by simp [write],
      readValue_word (by decide) (by decide) (by decide) (by decide) (readScalar_null _)] at h
    exact .inl (Prod.mk.inj (Except.ok.inj h)).2.symm
  | .bool true => by
    intro rest F d v' rest' _ h
    obtain ⟨n, rfl⟩ := readValue_fuel h
    rw [show (write JsonStyle.record l (.bool true)).toList = ['t', 'r', 'u', 'e'] by simp [write],
      readValue_word (by decide) (by decide) (by decide) (by decide) (readScalar_true _)] at h
    exact .inl (Prod.mk.inj (Except.ok.inj h)).2.symm
  | .bool false => by
    intro rest F d v' rest' _ h
    obtain ⟨n, rfl⟩ := readValue_fuel h
    rw [show (write JsonStyle.record l (.bool false)).toList = ['f', 'a', 'l', 's', 'e'] by simp [write],
      readValue_word (by decide) (by decide) (by decide) (by decide) (readScalar_false _)] at h
    exact .inl (Prod.mk.inj (Except.ok.inj h)).2.symm
  | .int i => by
    intro rest F d v' rest' hr h
    obtain ⟨n, rfl⟩ := readValue_fuel h
    obtain ⟨c, t, hct, h45, h57⟩ := toString_int_head i
    have hne : ∀ x : Char, 57 < x.toNat ∨ x.toNat < 45 → c ≠ x := by
      rintro x hx rfl; omega
    simp only [write] at h
    rw [hct, List.cons_append, readValue_scalar r n d (by omega) (hne _ (by decide))
      (hne _ (by decide)) (hne _ (by decide)), ← List.cons_append, ← hct, readScalar_int i hr] at h
    exact .inl (Prod.mk.inj (Except.ok.inj h)).2.symm
  | .float _ => fun _ _ _ _ _ hr h => readValue_writeFloat r hr h
  | .str s => by
    intro rest F d v' rest' _ h
    obtain ⟨n, rfl⟩ := readValue_fuel h
    simp only [write, JsonStyle.record, writeString_toList, List.cons_append, List.append_assoc] at h
    rw [readValue_string, readString_writeString] at h
    exact .inl (Prod.mk.inj (Except.ok.inj h)).2.symm
  | .arr [] => by
    intro rest F d v' rest' _ h
    obtain ⟨n, rfl⟩ := readValue_fuel h
    rw [show (write JsonStyle.record l (.arr [])).toList = ['[', ']'] by simp [write],
      List.cons_append] at h
    have hd := room_of_readValue (.inl rfl) h
    simp [readValue, skipSpace, show ¬d ≥ r.room by omega] at h
    exact .inl h.2.symm
  | .arr (x :: xs) => by
    intro rest F d v' rest' _ h
    obtain ⟨n, rfl⟩ := readValue_fuel h
    rw [write_arr_toList] at h
    simp only [List.cons_append, List.append_assoc] at h
    have hd := room_of_readValue (.inl rfl) h
    obtain ⟨c, t, hct, hc, hne⟩ := write_record_head (l + 1) x
    have hI : (String.join (writeItems JsonStyle.record (l + 1) true (x :: xs))).toList =
        c :: (t ++ (String.join (writeItems JsonStyle.record (l + 1) false xs)).toList) := by
      rw [writeItems_toList, hct]; rfl
    rw [hI, List.cons_append, readValue_array r n d hd hc hne, ← List.cons_append, ← hI] at h
    exact .inl (readItems_write_leftOver r (l + 1) (x :: xs) (List.cons_ne_nil _ _) [] rest n (d + 1)
      v' rest' h)
  | .obj [] => by
    intro rest F d v' rest' _ h
    obtain ⟨n, rfl⟩ := readValue_fuel h
    rw [show (write JsonStyle.record l (.obj [])).toList = ['{', '}'] by simp [write],
      List.cons_append] at h
    have hd := room_of_readValue (.inr rfl) h
    simp [readValue, skipSpace, show ¬d ≥ r.room by omega] at h
    exact .inl h.2.symm
  | .obj ((k, v) :: ms) => by
    intro rest F d v' rest' _ h
    obtain ⟨n, rfl⟩ := readValue_fuel h
    rw [write_obj_toList] at h
    simp only [List.cons_append, List.append_assoc] at h
    have hd := room_of_readValue (.inr rfl) h
    have hM : (String.join (writeMembers JsonStyle.record (l + 1) true ((k, v) :: ms))).toList =
        '"' :: ((k.toList.flatMap fun c => (escapeChar false c).toList) ++ '"' :: ':' ::
          ((write JsonStyle.record (l + 1) v).toList ++
            (String.join (writeMembers JsonStyle.record (l + 1) false ms)).toList)) := by
      rw [writeMembers_toList, writeString_toList]
      simp only [separator, ↓reduceIte, List.nil_append, List.cons_append, List.append_assoc]
    rw [hM, List.cons_append, readValue_object r n d hd, ← List.cons_append, ← hM] at h
    exact .inl (readMembers_write_keys r (l + 1) ((k, v) :: ms) (List.cons_ne_nil _ _) [] rest n
      (d + 1) v' rest' h).1

theorem readItems_write_leftOver (r : Reading) (l : Nat) : ∀ (xs : List Json), xs ≠ [] →
    ∀ (acc : List Json) (rest : List Char) (F d : Nat) (v' : Json) (rest' : List Char),
    readItems r F d acc
        ((String.join (writeItems JsonStyle.record l true xs)).toList ++ ']' :: rest) =
      .ok (v', rest') → rest' = rest
  | [], hne => absurd rfl hne
  | [x], _ => by
    intro acc rest F d v' rest' h
    obtain ⟨m, rfl⟩ := readItems_fuel h
    have hJ : (String.join (writeItems JsonStyle.record l true [x])).toList =
        (write JsonStyle.record l x).toList := by
      rw [writeItems_toList]
      simp only [separator, ↓reduceIte, List.nil_append, writeItems, String.join_nil,
        String.toList_empty, List.append_nil]
    rw [hJ] at h
    obtain ⟨v, r1, hv, ⟨after, hs, -⟩ | ⟨after, hs, -, rfl⟩⟩ := readItems_ok h
    all_goals
      have hr1 := (readValue_write_leftOver r l x _ m d v r1 rfl hv).eq_of_skipSpace hs rfl
      rw [hr1, skipSpace_cons (by decide)] at hs
    · cases hs
    · exact (List.cons.inj hs).2.symm
  | x :: y :: ys, _ => by
    intro acc rest F d v' rest' h
    obtain ⟨m, rfl⟩ := readItems_fuel h
    have hJ : (String.join (writeItems JsonStyle.record l true (x :: y :: ys))).toList =
        (write JsonStyle.record l x).toList ++
          ',' :: (String.join (writeItems JsonStyle.record l true (y :: ys))).toList := by
      rw [writeItems_toList, writeItems_false_toList]; rfl
    rw [hJ, List.append_assoc, List.cons_append] at h
    obtain ⟨v, r1, hv, ⟨after, hs, hnext⟩ | ⟨after, hs, -⟩⟩ := readItems_ok h
    all_goals
      have hr1 := (readValue_write_leftOver r l x _ m d v r1 rfl hv).eq_of_skipSpace hs rfl
      rw [hr1, skipSpace_cons (by decide)] at hs
    · rw [← (List.cons.inj hs).2] at hnext
      exact readItems_write_leftOver r l (y :: ys) (List.cons_ne_nil _ _) (v :: acc) rest m d v'
        rest' hnext
    · cases hs

theorem readMembers_write_keys (r : Reading) (l : Nat) : ∀ (ms : List (String × Json)), ms ≠ [] →
    ∀ (acc : List (String × Json)) (rest : List Char) (F d : Nat) (v' : Json) (rest' : List Char),
    readMembers r F d acc
        ((String.join (writeMembers JsonStyle.record l true ms)).toList ++ '}' :: rest) =
      .ok (v', rest') →
    rest' = rest ∧ ∃ ms', v' = .obj (collectMembers (acc.reverse ++ ms')) ∧
      ms'.map (·.1) = ms.map (·.1)
  | [], hne => absurd rfl hne
  | [(k, v)], _ => by
    intro acc rest F d v' rest' h
    obtain ⟨m, rfl⟩ := readMembers_fuel h
    have hJ : (String.join (writeMembers JsonStyle.record l true [(k, v)])).toList =
        '"' :: ((k.toList.flatMap fun c => (escapeChar false c).toList) ++ '"' :: ':' ::
          (write JsonStyle.record l v).toList) := by
      rw [writeMembers_toList, writeString_toList]
      simp only [separator, ↓reduceIte, List.nil_append, List.cons_append, List.append_assoc,
        writeMembers, String.join_nil, String.toList_empty, List.append_nil]
    rw [hJ] at h
    simp only [List.cons_append, List.append_assoc] at h
    obtain ⟨v1, r1, hv, ⟨after, hs, -⟩ | ⟨after, hs, rfl, rfl⟩⟩ :=
      readMembers_ok (readString_writeString r.lone k _) h
    all_goals
      have hr1 := (readValue_write_leftOver r l v _ m d v1 r1 rfl hv).eq_of_skipSpace hs rfl
      rw [hr1, skipSpace_cons (by decide)] at hs
    · cases hs
    · exact ⟨(List.cons.inj hs).2.symm, [(k, v1)], by simp, rfl⟩
  | (k, v) :: n :: ms, _ => by
    intro acc rest F d v' rest' h
    obtain ⟨m, rfl⟩ := readMembers_fuel h
    have hJ : (String.join (writeMembers JsonStyle.record l true ((k, v) :: n :: ms))).toList =
        '"' :: ((k.toList.flatMap fun c => (escapeChar false c).toList) ++ '"' :: ':' ::
          ((write JsonStyle.record l v).toList ++
            ',' :: (String.join (writeMembers JsonStyle.record l true (n :: ms))).toList)) := by
      rw [writeMembers_toList, writeMembers_false_toList, writeString_toList]
      simp only [separator, ↓reduceIte, List.nil_append, List.cons_append, List.append_assoc]
    rw [hJ] at h
    simp only [List.cons_append, List.append_assoc] at h
    obtain ⟨v1, r1, hv, ⟨after, hs, hnext⟩ | ⟨after, hs, -⟩⟩ :=
      readMembers_ok (readString_writeString r.lone k _) h
    all_goals
      have hr1 := (readValue_write_leftOver r l v _ m d v1 r1 rfl hv).eq_of_skipSpace hs rfl
      rw [hr1, skipSpace_cons (by decide)] at hs
    · rw [← (List.cons.inj hs).2] at hnext
      obtain ⟨hrest, ms', hv', hkeys⟩ := readMembers_write_keys r l (n :: ms) (List.cons_ne_nil _ _)
        ((k, v1) :: acc) rest m d v' rest' hnext
      refine ⟨hrest, (k, v1) :: ms', by simpa using hv', by simp [hkeys]⟩
    · cases hs
end

/-! ## The first member of a record -/

theorem readValue_of_parse {t : String} {v : Json} (h : parse? t = some v) :
    ∃ rest, readValue ⟨false, t.length + 1⟩ (t.length + 2) 0 t.toList = .ok (v, rest) := by
  unfold parse? parseWith at h
  rcases hv : readValue ⟨false, t.length + 1⟩ (t.length + 2) 0 t.toList with e | ⟨v', rest⟩
  · simp [hv, bind, Except.bind, Except.toOption] at h
  · simp only [hv, bind, Except.bind] at h
    split at h
    · exact ⟨rest, by simpa [pure, Except.pure, Except.toOption] using h⟩
    · simp [throw, throwThe, MonadExceptOf.throw, Except.toOption] at h

/-- **A record text reads back the first member of its object**: whatever doubles the rest
holds, reading the text of an object whose first member is a string gives an object with
that member first and the other members under their own keys. -/
theorem parse_render_first {k s : String} {ms : List (String × Json)} (hms : ms ≠ []) {v : Json}
    (h : parse? (render JsonStyle.record (.obj ((k, .str s) :: ms))) = some v) :
    ∃ ms', v = .obj (collectMembers ((k, .str s) :: ms')) ∧ ms'.map (·.1) = ms.map (·.1) := by
  obtain ⟨rest, h⟩ := readValue_of_parse h
  generalize hr : (⟨false, _⟩ : Reading) = r at h
  obtain ⟨n, hn⟩ := readValue_fuel h
  obtain ⟨m₀, ms₀, rfl⟩ := List.exists_cons_of_ne_nil hms
  have hM : (String.join (writeMembers JsonStyle.record 1 true ((k, .str s) :: m₀ :: ms₀))).toList =
      '"' :: ((k.toList.flatMap fun c => (escapeChar false c).toList) ++ '"' :: ':' :: '"' ::
        ((s.toList.flatMap fun c => (escapeChar false c).toList) ++ '"' :: ',' ::
          (String.join (writeMembers JsonStyle.record 1 true (m₀ :: ms₀))).toList)) := by
    rw [writeMembers_toList, writeMembers_false_toList, writeString_toList]
    simp [separator, write, JsonStyle.record, writeString_toList]
  rw [hn, render, write_obj_toList, hM] at h
  simp only [List.cons_append, List.append_assoc] at h
  rw [readValue_object r n 0 (by rw [← hr]; exact Nat.succ_pos _)] at h
  obtain ⟨m, rfl⟩ := readMembers_fuel h
  obtain ⟨v1, r1, hv, ⟨after, hs, hnext⟩ | ⟨after, hs, -⟩⟩ :=
    readMembers_ok (readString_writeString r.lone k _) h
  all_goals
    obtain ⟨m', rfl⟩ := readValue_fuel hv
    rw [readValue_string, readString_writeString] at hv
    obtain ⟨rfl, rfl⟩ := Prod.mk.inj (Except.ok.inj hv)
    rw [skipSpace_cons (by decide)] at hs
  · -- the first member is followed by the others
    obtain ⟨-, rfl⟩ := List.cons.inj hs
    obtain ⟨-, ms', rfl, hkeys⟩ := readMembers_write_keys r 1 (m₀ :: ms₀) (List.cons_ne_nil _ _)
      [(k, .str s)] [] (m' + 1) 1 v rest hnext
    exact ⟨ms', by simp, hkeys⟩
  · cases hs
end AddonCatalog.Json

namespace AddonCatalog.Addon

/-! ## The uid of a record -/

open Schema in
theorem field_uid_first (u : String) (ms : List (String × Json)) :
    field (("uid", .str u) :: ms) "uid" none Schema.uid =
      if uidShaped u then .ok u else .error [⟨["uid"], .uidShape⟩] := by
  by_cases hu : uidShaped u = true
  · simp [field, Schema.uid, text, hu, bind, Except.bind, pure, Except.pure]
  · simp [field, Schema.uid, text, hu, bind, Except.bind, throw, throwThe, MonadExceptOf.throw]

theorem field_ne_error_nil {α : Type} (ms : List (String × Json)) (name : String) (dflt : Option α)
    (read : Json → Except Violation α) : Schema.field ms name dflt read ≠ .error [] := by
  unfold Schema.field
  split
  · split <;> simp
  · split <;> simp

/-- An addon read from members has the uid its `uid` field reads as. -/
theorem ofMembers_uid {ms : List (String × Json)} {b : Addon} (h : ofMembers ms = .ok b) :
    Schema.field ms "uid" none Schema.uid = .ok b.uid := by
  unfold ofMembers at h
  dsimp only at h
  split at h
  · rename_i hempty
    rw [← Except.ok.inj h]
    -- the uid field has no error, or the errors would not be empty
    cases hf : Schema.field ms "uid" none Schema.uid with
    | error es =>
      rw [hf] at hempty
      simp only [Schema.errorsOf, List.append_assoc, List.isEmpty_iff, List.append_eq_nil_iff] at hempty
      exact absurd (hempty.1 ▸ hf) (field_ne_error_nil _ _ _ _)
    | ok u => rfl
  · cases h

/-- **A record names the uid it was written for**: whatever doubles or repeated keys its
properties hold, a record that reads back at all reads back with the uid of its addon. -/
theorem ofRecord_toRecord_uid (a : Addon) {b : Addon} (h : ofRecord a.toRecord = .ok b) :
    b.uid = a.uid := by
  unfold ofRecord ofText at h
  split at h
  · rename_i v hv
    split at h
    · obtain ⟨ms', rfl, hkeys⟩ := Json.parse_render_first (List.cons_ne_nil _ _) hv
      have hnodup : ((("uid", Json.str a.uid) :: ms').map (·.1)).Nodup := by
        rw [List.map_cons, hkeys]
        simp only [List.map_cons, List.map_nil]
        decide
      rw [ofJson, Json.collectMembers_of_nodup hnodup] at h
      have hf := ofMembers_uid h
      rw [field_uid_first] at hf
      split at hf
      · exact (Except.ok.inj hf).symm
      · cases hf
    · cases h
  · cases h

end AddonCatalog.Addon
