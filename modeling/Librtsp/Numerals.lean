import Librtsp.CString

/-!
# Numbers that are printed and read back

A printed number is a non-empty text of digits.  The number routines read such
a text back, up to the first byte that is no digit.
-/

namespace CString

variable {base n : Nat} {text rest : Bytes}

/-- The number a text of digits adds to the digits read before it. -/
def digitSum (base : Nat) (text : Bytes) (n : Nat) : Nat :=
  text.foldl (fun n b => n * base + (digitVal base b).getD 0) n

/-- A non-empty text of digits with that value. -/
structure Spells (base : Nat) (text : Bytes) (n : Nat) : Prop where
  nonempty : text ≠ []
  digits : ∀ b ∈ text, (digitVal base b).isSome
  value : digitSum base text 0 = n

/-- The text is at its end or at a byte that is no digit. -/
def PastDigits (base : Nat) (rest : Bytes) : Prop :=
  ∀ b ∈ rest.head?, digitVal base b = none

@[simp] theorem pastDigits_nil : PastDigits base [] := by
  simp [PastDigits]

@[simp] theorem pastDigits_cons {b : UInt8} :
    PastDigits base (b :: rest) ↔ digitVal base b = none := by
  simp [PastDigits]

theorem digitSum_append (text text' : Bytes) (n : Nat) :
    digitSum base (text ++ text') n = digitSum base text' (digitSum base text n) := by
  simp [digitSum, List.foldl_append]

/-! ## Digits -/

theorem digit_plain {b : UInt8} (h : (digitVal 16 b).isSome) :
    isSpace b = false ∧ b ≠ 0x2b ∧ b ≠ 0x2d ∧ toLower b ≠ 0x78 := by
  have hall : ∀ i : Fin 256, (digitVal 16 (UInt8.ofNat i)).isSome = true →
      isSpace (UInt8.ofNat i) = false ∧ UInt8.ofNat i ≠ 0x2b ∧ UInt8.ofNat i ≠ 0x2d ∧
        toLower (UInt8.ofNat i) ≠ 0x78 := by
    decide +kernel
  simpa using hall ⟨b.toNat, b.toNat_lt⟩ (by simpa using h)

theorem digitVal_sixteen {b : UInt8} (hbase : base ≤ 16) (h : (digitVal base b).isSome) :
    (digitVal 16 b).isSome := by
  unfold digitVal at h ⊢
  by_cases hdigit : isDigit b
  · simp only [hdigit, ↓reduceIte] at h ⊢
    split at h
    next hlt => simp [show b.toNat - 0x30 < 16 by omega]
    next => simp at h
  · by_cases halpha : isAlpha b
    · simp only [hdigit, halpha, ↓reduceIte, Bool.false_eq_true] at h ⊢
      split at h
      next hlt => simp [show (toLower b).toNat - 0x61 + 10 < 16 by omega]
      next => simp at h
    · simp [hdigit, halpha] at h

theorem Spells.plain (hbase : base ≤ 16) (htext : Spells base text n) {b : UInt8}
    (hb : b ∈ text) : isSpace b = false ∧ b ≠ 0x2b ∧ b ≠ 0x2d ∧ toLower b ≠ 0x78 :=
  digit_plain (digitVal_sixteen hbase (htext.digits b hb))

/-! ## Printed numbers -/

/-- Digits of a number, printed by any function that has their values. -/
theorem spells_toDigits (hbase : 1 < base) {print : Char → UInt8}
    (hprint : ∀ d < base, digitVal base (print (Nat.digitChar d)) = some d) (n : Nat) :
    Spells base ((Nat.toDigits base n).map print) n := by
  induction n using Nat.strong_induction_on with
  | _ n ih =>
      rw [Nat.toDigits_eq_if hbase]
      split
      next hlt =>
        constructor
        · simp
        · simp [hprint n hlt]
        · simp [digitSum, hprint n hlt]
      next hle =>
        have hpos : 0 < n := by omega
        have hquotient := ih (n / base) (Nat.div_lt_self hpos hbase)
        have hlast := hprint (n % base) (Nat.mod_lt n (by omega))
        rw [List.map_append, List.map_singleton]
        constructor
        · simp
        · intro b hb
          rcases List.mem_append.mp hb with hb | hb
          · exact hquotient.digits b hb
          · rw [List.mem_singleton.mp hb, hlast, Option.isSome_some]
        · rw [digitSum_append, hquotient.value]
          simp only [digitSum, List.foldl_cons, List.foldl_nil, hlast, Option.getD_some]
          exact Nat.div_add_mod' n base

theorem Spells.zero (hbase : 0 < base) (htext : Spells base text n) :
    Spells base (0x30 :: text) n := by
  have hzero : digitVal base 0x30 = some 0 := by
    simp [digitVal, isDigit, hbase]
  constructor
  · simp
  · intro b hb
    rcases List.mem_cons.mp hb with rfl | hb
    · rw [hzero, Option.isSome_some]
    · exact htext.digits b hb
  · simpa [digitSum, hzero] using htext.value

theorem Spells.zeros (hbase : 0 < base) (htext : Spells base text n) (count : Nat) :
    Spells base (List.replicate count 0x30 ++ text) n := by
  induction count with
  | zero => simpa using htext
  | succ count ih =>
      rw [List.replicate_succ, List.cons_append]
      exact ih.zero hbase

theorem spells_formatNat (n : Nat) : Spells 10 (formatNat n) n := by
  apply spells_toDigits (by decide)
  decide

theorem spells_formatHex (width n : Nat) : Spells 16 (formatHex width n) n := by
  apply Spells.zeros (by decide)
  apply spells_toDigits (by decide)
  decide

theorem spells_formatHex_lower (width n : Nat) :
    Spells 16 ((formatHex width n).map toLower) n := by
  unfold formatHex
  rw [List.map_append, List.map_replicate, List.map_map]
  apply Spells.zeros (by decide)
  apply spells_toDigits (by decide)
  decide

theorem formatHex_length {width n : Nat} (hwidth : 0 < width) (hn : n < 16 ^ width) :
    (formatHex width n).length = width := by
  have hlength := (Nat.length_toDigits_le_iff (n := n) (b := 16) (by decide) hwidth).mpr hn
  unfold formatHex
  rw [List.length_append, List.length_replicate, List.length_map]
  omega

/-! ## The bytes of printed numbers -/

/-- A visible byte that is neither a comma nor a semicolon. -/
def isTextByte (b : UInt8) : Bool :=
  0x21 ≤ b && b ≤ 0x7e && b != 0x2c && b != 0x3b

theorem isTextByte_digit {b : UInt8} (h : (digitVal 16 b).isSome) : isTextByte b = true := by
  have hall : ∀ i : Fin 256, (digitVal 16 (UInt8.ofNat i)).isSome = true →
      isTextByte (UInt8.ofNat i) = true := by
    decide +kernel
  simpa using hall ⟨b.toNat, b.toNat_lt⟩ (by simpa using h)

theorem Spells.textByte (hbase : base ≤ 16) (htext : Spells base text n) {b : UInt8}
    (hb : b ∈ text) : isTextByte b = true :=
  isTextByte_digit (digitVal_sixteen hbase (htext.digits b hb))

theorem formatInt_textByte {i : Int} {b : UInt8} (hb : b ∈ formatInt i) :
    isTextByte b = true := by
  cases i with
  | ofNat n => exact (spells_formatNat n).textByte (by decide) hb
  | negSucc n =>
      rcases List.mem_cons.mp hb with rfl | hb
      · decide
      · exact (spells_formatNat (n + 1)).textByte (by decide) hb

theorem formatInt_ne_nil (i : Int) : formatInt i ≠ [] := by
  cases i with
  | ofNat n => exact (spells_formatNat n).nonempty
  | negSucc n => exact List.cons_ne_nil _ _

/-! ## Sizes -/

theorem digitVal_lt {b : UInt8} {d : Nat} (h : digitVal base b = some d) : d < base := by
  unfold digitVal at h
  simp only [Option.ite_none_right_eq_some, Option.some.injEq] at h
  exact h.2 ▸ h.1

theorem digitSum_lt (hbase : 0 < base) (text : Bytes) (n : Nat) :
    digitSum base text n < (n + 1) * base ^ text.length := by
  induction text generalizing n with
  | nil => simp [digitSum]
  | cons b text ih =>
      have hdigit : (digitVal base b).getD 0 < base := by
        cases h : digitVal base b with
        | none => exact hbase
        | some d => exact digitVal_lt h
      calc
        digitSum base (b :: text) n =
            digitSum base text (n * base + (digitVal base b).getD 0) := rfl
        _ < (n * base + (digitVal base b).getD 0 + 1) * base ^ text.length := ih _
        _ ≤ ((n + 1) * base) * base ^ text.length := by
          apply Nat.mul_le_mul_right
          rw [Nat.add_mul]
          omega
        _ = (n + 1) * base ^ (b :: text).length := by
          rw [List.length_cons, Nat.pow_succ]
          ring

theorem digits_lt (hbase : 0 < base) (s : Bytes) : digits base s < base ^ s.length := by
  have htaken := (List.takeWhile_prefix (fun b => (digitVal base b).isSome) (l := s)).length_le
  calc
    digits base s < (0 + 1) * base ^ (s.takeWhile fun b => (digitVal base b).isSome).length :=
      digitSum_lt hbase _ 0
    _ ≤ base ^ s.length := by
      rw [Nat.zero_add, Nat.one_mul]
      exact Nat.pow_le_pow_right hbase htaken

theorem sign_length (s : Bytes) : (sign s).2.length ≤ s.length := by
  unfold sign
  split
  next => simp
  next => simp
  next => exact Nat.le_refl _

/-- A number has no more digits than its text. -/
theorem strtol_lt (s : Bytes) : (strtol s).1 < (10 : Int) ^ s.length := by
  have hpos : (0 : Int) < 10 ^ s.length := by positivity
  have hlength : (sign (s.dropWhile isSpace)).2.length ≤ s.length :=
    (sign_length _).trans (List.dropWhile_suffix _).length_le
  have hdigits : (digits 10 (sign (s.dropWhile isSpace)).2 : Int) < 10 ^ s.length := by
    have hlt := digits_lt (show 0 < 10 by decide) (sign (s.dropWhile isSpace)).2
    have hle := Nat.pow_le_pow_right (n := 10) (by decide) hlength
    exact_mod_cast hlt.trans_le hle
  unfold strtol
  dsimp only
  split
  next => exact hpos
  next =>
    dsimp only
    split
    next => omega
    next => omega

theorem formatNat_length_le_iff {n k : Nat} (hk : 0 < k) :
    (formatNat n).length ≤ k ↔ n < 10 ^ k := by
  unfold formatNat
  rw [List.length_map]
  exact Nat.length_toDigits_le_iff (by decide) hk

/-- The last digit comes off the end. -/
theorem formatNat_step {n : Nat} (hn : 10 ≤ n) :
    ∃ digit, formatNat n = formatNat (n / 10) ++ [digit] := by
  refine ⟨UInt8.ofNat (Nat.digitChar (n % 10)).toNat, ?_⟩
  unfold formatNat
  rw [Nat.toDigits_of_base_le (by decide) hn]
  simp

/-! ## Reading -/

theorem takeWhile_spells (htext : Spells base text n) (hrest : PastDigits base rest) :
    ((text ++ rest).takeWhile fun b => (digitVal base b).isSome) = text ∧
      afterDigits base (text ++ rest) = rest := by
  have hall : ∀ b ∈ text, (digitVal base b).isSome = true := htext.digits
  unfold afterDigits
  rw [List.takeWhile_append_of_pos hall, List.dropWhile_append_of_pos hall]
  cases rest with
  | nil => simp
  | cons b rest => simp [pastDigits_cons.mp hrest]

theorem digits_spells (htext : Spells base text n) (hrest : PastDigits base rest) :
    digits base (text ++ rest) = n := by
  unfold digits
  rw [(takeWhile_spells htext hrest).1]
  exact htext.value

/-- Digits are no space and no sign. -/
theorem sign_spells (hbase : base ≤ 16) (htext : Spells base text n) :
    sign ((text ++ rest).dropWhile isSpace) = (false, text ++ rest) := by
  obtain ⟨b, tail, rfl⟩ := List.exists_cons_of_ne_nil htext.nonempty
  obtain ⟨hspace, hplus, hminus, -⟩ := htext.plain hbase (List.mem_cons_self)
  rw [List.cons_append, List.dropWhile_cons_of_neg (by simp [hspace])]
  unfold sign
  split
  next heq =>
    simp only [List.cons.injEq] at heq
    exact absurd heq.1 hplus
  next heq =>
    simp only [List.cons.injEq] at heq
    exact absurd heq.1 hminus
  next => rfl

theorem dropHexPrefix_spells (htext : Spells 16 text n)
    (hx : ∀ b ∈ rest.head?, toLower b ≠ 0x78) :
    dropHexPrefix (text ++ rest) = text ++ rest := by
  have hsecond : ∀ (zero x d : UInt8) (s : Bytes), text ++ rest = zero :: x :: d :: s →
      toLower x ≠ 0x78 := by
    intro zero x d s heq
    cases htext' : text with
    | nil => exact absurd htext' htext.nonempty
    | cons b tail =>
        rw [htext', List.cons_append, List.cons.injEq] at heq
        cases tail with
        | nil =>
            apply hx
            rw [List.nil_append] at heq
            simp [heq.2]
        | cons b' tail =>
            rw [List.cons_append, List.cons.injEq] at heq
            rw [← heq.2.1]
            exact (htext.plain (by decide) (by simp [htext'])).2.2.2
  unfold dropHexPrefix
  split
  next x d s heq =>
    have hx' := hsecond _ x d s heq
    rw [if_neg (by simp [hx']), heq]
  next => rfl

theorem head_spells (htext : Spells base text n) :
    (((text ++ rest).head?).bind (digitVal base)).isSome := by
  obtain ⟨b, tail, rfl⟩ := List.exists_cons_of_ne_nil htext.nonempty
  exact htext.digits b List.mem_cons_self

theorem strtoul_spells (hbase : base ≤ 16) (htext : Spells base text n)
    (hrest : PastDigits base rest) (hx : base = 16 → ∀ b ∈ rest.head?, toLower b ≠ 0x78)
    (hn : n < 2 ^ 64) :
    strtoul base (text ++ rest) = ⟨UInt64.ofNat n, false, some rest⟩ := by
  have htext16 : (if base = 16 then dropHexPrefix (text ++ rest) else text ++ rest) =
      text ++ rest := by
    split
    next hsixteen =>
      subst hsixteen
      exact dropHexPrefix_spells htext (hx rfl)
    next => rfl
  have hhead : ((text ++ rest).head?.bind (digitVal base)).isNone = false := by
    rw [← Option.not_isSome, head_spells htext, Bool.not_true]
  unfold strtoul
  rw [sign_spells hbase htext]
  dsimp only
  rw [htext16, hhead, digits_spells htext hrest, (takeWhile_spells htext hrest).2,
    if_neg Bool.false_ne_true, if_pos hn, if_neg Bool.false_ne_true]

theorem strtol_spells (htext : Spells 10 text n) (hrest : PastDigits 10 rest)
    (hn : n < 2 ^ 63) : strtol (text ++ rest) = ((n : Int), rest) := by
  have hhead : ((text ++ rest).head?.bind (digitVal 10)).isNone = false := by
    rw [← Option.not_isSome, head_spells htext, Bool.not_true]
  unfold strtol
  rw [sign_spells (by decide) htext]
  dsimp only
  rw [hhead, digits_spells htext hrest, (takeWhile_spells htext hrest).2]
  simp only [Bool.false_eq_true, ↓reduceIte, Prod.mk.injEq, and_true]
  omega

theorem atoi_spells (htext : Spells 10 text n) (hrest : PastDigits 10 rest) (hn : n < 2 ^ 63) :
    atoi (text ++ rest) = Int32.ofInt n := by
  have hlong : min (n : Int) (2 ^ 63 - 1) = n := by omega
  unfold atoi
  rw [sign_spells (by decide) htext]
  dsimp only
  rw [digits_spells htext hrest]
  simp only [Bool.false_eq_true, ↓reduceIte, hlong]

theorem atoi_minus_spells
    (htext : Spells 10 text n) (hrest : PastDigits 10 rest) (hn : n ≤ 2 ^ 63) :
    atoi (0x2d :: (text ++ rest)) = Int32.ofInt (-n) := by
  have hlong : max (-n : Int) (-2 ^ 63) = -n := by omega
  have hsign : sign ((0x2d :: (text ++ rest)).dropWhile isSpace) = (true, text ++ rest) := rfl
  unfold atoi
  rw [hsign]
  dsimp only
  rw [digits_spells htext hrest]
  simp only [↓reduceIte, hlong]

/-- A printed number that is followed by no digit is read back. -/
theorem atoi_formatInt (i : Int) (hi : -2 ^ 63 ≤ i ∧ i < 2 ^ 63)
    (hrest : PastDigits 10 rest) : atoi (formatInt i ++ rest) = Int32.ofInt i := by
  cases i with
  | ofNat n =>
      have hn : n < 2 ^ 63 := by
        rw [Int.ofNat_eq_natCast] at hi
        omega
      exact atoi_spells (spells_formatNat n) hrest hn
  | negSucc n =>
      have hn : n + 1 ≤ 2 ^ 63 := by
        rw [Int.negSucc_eq] at hi
        omega
      have hvalue := atoi_minus_spells (spells_formatNat (n + 1)) hrest hn
      rw [Int.natCast_add_one, ← Int.negSucc_eq] at hvalue
      exact hvalue

/-! ## Storing -/

/-- Any number of 32 bits comes back from `%d`, the sign included. -/
theorem formatSigned_read (n : UInt32) : UInt32.ofInt (atoi (formatSigned n)).toInt = n := by
  have hbound : n.toNat < 2 ^ 32 := n.toNat_lt
  have hlow : -(2 ^ 31 : Int) ≤ Int.bmod n.toNat (2 ^ 32) := Int.le_bmod (by decide)
  have hhigh : Int.bmod n.toNat (2 ^ 32) < 2 ^ 31 := Int.bmod_lt (by decide)
  have hread := atoi_formatInt (Int.bmod n.toNat (2 ^ 32)) (by omega) pastDigits_nil
  rw [List.append_nil] at hread
  have hvalue : (Int.bmod (n.toNat : Int) (2 ^ 32)) % 2 ^ 32 = n.toNat := by
    have hmod : (Int.bmod (n.toNat : Int) (2 ^ 32)) % (2 ^ 32 : Nat) = n.toNat % (2 ^ 32 : Nat) :=
      Int.bmod_emod
    rw [Int.emod_eq_of_lt (a := (n.toNat : Int)) (by omega) (by omega)] at hmod
    exact hmod
  unfold formatSigned
  rw [hread, Int32.toInt_ofInt]
  unfold UInt32.ofInt
  rw [show Int.bmod (Int.bmod (n.toNat : Int) (2 ^ 32)) Int32.size = Int.bmod n.toNat (2 ^ 32) from
    Int.bmod_bmod, hvalue]
  simp

/-- A number read as a 32-bit one and stored in sixteen bits. -/
theorem uint16_ofInt_int32 (n : Nat) :
    UInt16.ofInt (Int32.ofInt n).toInt = UInt16.ofNat n := by
  have hmod : ((Int32.ofInt n).toInt % 2 ^ 16).toNat = n % 2 ^ 16 := by
    rw [Int32.toInt_ofInt, Int32.size, Int.bmod_def]
    split <;> omega
  apply UInt16.toNat_inj.mp
  rw [UInt16.ofInt, hmod, UInt16.toNat_ofNat', UInt16.toNat_ofNat', Nat.mod_mod]

theorem uint32_ofInt_int32 (n : Nat) :
    UInt32.ofInt (Int32.ofInt n).toInt = UInt32.ofNat n := by
  have hmod : ((Int32.ofInt n).toInt % 2 ^ 32).toNat = n % 2 ^ 32 := by
    rw [Int32.toInt_ofInt, Int32.size, Int.bmod_def]
    split <;> omega
  apply UInt32.toNat_inj.mp
  rw [UInt32.ofInt, hmod, UInt32.toNat_ofNat', UInt32.toNat_ofNat', Nat.mod_mod]

end CString
