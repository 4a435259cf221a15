import Mathlib

/-!
# C strings and the string routines of the C library

A C string is the list of its bytes without the terminating NUL.  Routines
that cut a string in place are functions returning the pieces.  A pointer
that may be null is an `Option`, and a routine applied to a null pointer or to
a tokeniser state that was never set faults instead of returning a value.
The tokeniser is `strtok_r` with the save pointer of glibc: once the text is
used up the save pointer stands on its terminating NUL.
-/

namespace CString

abbrev Bytes := List UInt8

/-- The bytes of an ASCII literal. -/
def ascii (s : String) : Bytes :=
  s.toList.map fun c => UInt8.ofNat c.toNat

/-- The bytes of a literal are those of its characters. -/
theorem ascii_without {s : String} {x y : UInt8}
    (h : ∀ c ∈ s.toList, c.toNat ≠ x.toNat ∧ c.toNat ≠ y.toNat ∧ c.toNat < 256) :
    ∀ b ∈ ascii s, b ≠ x ∧ b ≠ y := by
  intro b hb
  obtain ⟨c, hc, rfl⟩ := List.mem_map.mp hb
  obtain ⟨hx, hy, hbyte⟩ := h c hc
  have hvalue : (UInt8.ofNat c.toNat).toNat = c.toNat := Nat.mod_eq_of_lt hbyte
  constructor
  · intro heq
    exact hx (hvalue.symm.trans (congrArg UInt8.toNat heq))
  · intro heq
    exact hy (hvalue.symm.trans (congrArg UInt8.toNat heq))

/-- Uses of memory the C standard leaves undefined: of a pointer that is null or was never
set, and of the bytes behind a buffer. -/
inductive Fault where
  | nullString
  | noTokenState
  | pastBuffer
  deriving DecidableEq, Repr

/-! ## Character classes and comparisons -/

def isSpace (b : UInt8) : Bool :=
  b == 0x20 || (0x09 ≤ b && b ≤ 0x0d)

def isDigit (b : UInt8) : Bool :=
  0x30 ≤ b && b ≤ 0x39

def isAlpha (b : UInt8) : Bool :=
  (0x41 ≤ b && b ≤ 0x5a) || (0x61 ≤ b && b ≤ 0x7a)

def isAlnum (b : UInt8) : Bool :=
  isDigit b || isAlpha b

def toLower (b : UInt8) : UInt8 :=
  if 0x41 ≤ b && b ≤ 0x5a then b + 0x20 else b

/-- `strcasecmp(a, b) == 0` -/
def strcasecmpEq (a b : Bytes) : Bool :=
  a.map toLower == b.map toLower

/-- `strncmp(a, b, n) == 0` -/
def strncmpEq (a b : Bytes) (n : Nat) : Bool :=
  a.take n == b.take n

/-- `strncasecmp(a, b, n) == 0` -/
def strncasecmpEq (a b : Bytes) (n : Nat) : Bool :=
  strcasecmpEq (a.take n) (b.take n)

/-- `strcmp(a, b) == 0` on a pointer nobody has checked. -/
def strcmpPtr (a : Option Bytes) (b : Bytes) : Except Fault Bool :=
  match a with
  | none => .error .nullString
  | some a => .ok (a == b)

@[simp] theorem strcmpPtr_some (a b : Bytes) : strcmpPtr (some a) b = .ok (a == b) := rfl

/-! ## Cutting at a byte -/

/-- `strchr(s, c)`: the text before the first `c` and the text after it. -/
def strchr (c : UInt8) : Bytes → Option (Bytes × Bytes)
  | [] => none
  | b :: s =>
      if b = c then some ([], s)
      else (strchr c s).map fun cut => (b :: cut.1, cut.2)

theorem strchr_eq_some
    {c : UInt8} {s before after : Bytes} (h : strchr c s = some (before, after)) :
    s = before ++ c :: after ∧ c ∉ before := by
  induction s generalizing before after with
  | nil => simp [strchr] at h
  | cons b s ih =>
      by_cases hb : b = c
      · simp only [strchr, hb, ↓reduceIte, Option.some.injEq, Prod.mk.injEq] at h
        obtain ⟨rfl, rfl⟩ := h
        simp [hb]
      · simp only [strchr, hb, ↓reduceIte, Option.map_eq_some_iff, Prod.exists,
          Prod.mk.injEq] at h
        obtain ⟨before', after', hcut, rfl, rfl⟩ := h
        obtain ⟨rfl, hnot⟩ := ih hcut
        simp only [List.cons_append, List.mem_cons, not_or, true_and]
        exact ⟨fun h => hb h.symm, hnot⟩

theorem strchr_append
    {c : UInt8} {before : Bytes} (hbefore : c ∉ before) (after : Bytes) :
    strchr c (before ++ c :: after) = some (before, after) := by
  induction before with
  | nil => simp [strchr]
  | cons b before ih =>
      rw [List.mem_cons, not_or] at hbefore
      rw [List.cons_append, strchr, if_neg (Ne.symm hbefore.1), ih hbefore.2]
      rfl

theorem strchr_none {c : UInt8} {s : Bytes} (h : c ∉ s) : strchr c s = none := by
  induction s with
  | nil => rfl
  | cons b s ih =>
      rw [List.mem_cons, not_or] at h
      rw [strchr, if_neg (Ne.symm h.1), ih h.2]
      rfl

theorem strchr_eq_none {c : UInt8} {s : Bytes} (h : strchr c s = none) : c ∉ s := by
  intro hmem
  obtain ⟨before, after, rfl, hbefore⟩ := List.eq_append_cons_of_mem hmem
  rw [strchr_append hbefore] at h
  simp at h

/-- `strrchr(s, c)`: the text before the last `c` and the text after it. -/
def strrchr (c : UInt8) (s : Bytes) : Option (Bytes × Bytes) :=
  (strchr c s.reverse).map fun cut => (cut.2.reverse, cut.1.reverse)

theorem strrchr_eq_some
    {c : UInt8} {s before after : Bytes} (h : strrchr c s = some (before, after)) :
    s = before ++ c :: after ∧ c ∉ after := by
  unfold strrchr at h
  rw [Option.map_eq_some_iff] at h
  obtain ⟨⟨first, second⟩, hcut, heq⟩ := h
  rw [Prod.mk.injEq] at heq
  obtain ⟨rfl, rfl⟩ := heq
  obtain ⟨hs, hnot⟩ := strchr_eq_some hcut
  constructor
  · rw [← List.reverse_reverse s, hs]
    simp
  · simpa using hnot

theorem strrchr_append
    {c : UInt8} (before : Bytes) {after : Bytes} (hafter : c ∉ after) :
    strrchr c (before ++ c :: after) = some (before, after) := by
  have hreverse : (before ++ c :: after).reverse = after.reverse ++ c :: before.reverse := by
    simp
  unfold strrchr
  rw [hreverse, strchr_append (by simpa using hafter)]
  simp

theorem strrchr_none {c : UInt8} {s : Bytes} (h : c ∉ s) : strrchr c s = none := by
  unfold strrchr
  rw [strchr_none (by simpa using h)]
  rfl

/-! ## The tokeniser -/

/-- One `strtok_r` step on a text: the token and the text left after it. -/
def strtok (delims s : Bytes) : Option (Bytes × Bytes) :=
  match s.dropWhile (delims.contains ·) with
  | [] => none
  | b :: rest =>
      some ((b :: rest).takeWhile (!delims.contains ·),
        ((b :: rest).dropWhile (!delims.contains ·)).drop 1)

/-- `strtok_r(s, delims, &save)`: a null `s` continues from the save pointer. -/
def strtokR (s : Option Bytes) (delims : Bytes) (save : Option Bytes) :
    Except Fault (Option Bytes × Option Bytes) :=
  match s.or save with
  | none => .error .noTokenState
  | some text =>
      match strtok delims text with
      | none => .ok (none, some [])
      | some (token, rest) => .ok (some token, some rest)

/-- The token of `strtokR` on a text that is there. -/
def firstToken (delims s : Bytes) : Option Bytes :=
  (strtok delims s).map Prod.fst

/-- What the save pointer stands on after that call. -/
def afterToken (delims s : Bytes) : Bytes :=
  ((strtok delims s).map Prod.snd).getD []

@[simp] theorem strtokR_some (s delims : Bytes) (save : Option Bytes) :
    strtokR (some s) delims save =
      .ok (firstToken delims s, some (afterToken delims s)) := by
  simp only [strtokR, firstToken, afterToken, Option.some_or]
  cases strtok delims s <;> rfl

@[simp] theorem strtokR_none_some (rest delims : Bytes) :
    strtokR none delims (some rest) =
      .ok (firstToken delims rest, some (afterToken delims rest)) := by
  simp only [strtokR, firstToken, afterToken, Option.none_or]
  cases strtok delims rest <;> rfl

@[simp] theorem strtokR_none_none (delims : Bytes) :
    strtokR none delims none = .error .noTokenState := rfl

theorem strtok_length
    {delims s token rest : Bytes} (h : strtok delims s = some (token, rest)) :
    0 < token.length ∧ token.length + rest.length ≤ s.length := by
  unfold strtok at h
  have hdrop : (s.dropWhile (delims.contains ·)).length ≤ s.length :=
    (List.dropWhile_suffix _).length_le
  split at h
  next => simp at h
  next b tail hs =>
    have hb : delims.contains b = false := by
      have := List.head?_dropWhile_not (delims.contains ·) s
      rw [hs] at this
      simpa using this
    rw [hs] at hdrop
    simp only [Option.some.injEq, Prod.mk.injEq] at h
    obtain ⟨rfl, rfl⟩ := h
    have hsplit := congrArg List.length
      (List.takeWhile_append_dropWhile (p := (!delims.contains ·)) (l := b :: tail))
    rw [List.length_append] at hsplit
    constructor
    · simp only [List.takeWhile_cons, hb, Bool.not_false, ↓reduceIte, List.length_cons]
      omega
    · simp only [List.length_drop]
      omega

/-- Tokens of `s` in at most `fuel` steps. -/
def tokensFuel (delims : Bytes) : Nat → Bytes → List Bytes
  | 0, _ => []
  | fuel + 1, s =>
      match strtok delims s with
      | none => []
      | some (token, rest) => token :: tokensFuel delims fuel rest

/-- All the tokens a `strtok_r` loop over `s` sees; every step uses up a byte. -/
def tokens (delims s : Bytes) : List Bytes :=
  tokensFuel delims s.length s

theorem tokensFuel_eq
    {delims : Bytes} {fuel fuel' : Nat} {s : Bytes}
    (hfuel : s.length ≤ fuel) (hfuel' : s.length ≤ fuel') :
    tokensFuel delims fuel s = tokensFuel delims fuel' s := by
  have hnil : strtok delims [] = none := rfl
  induction fuel generalizing fuel' s with
  | zero =>
      have hs : s = [] := List.length_eq_zero_iff.mp (by omega)
      subst hs
      cases fuel' <;> simp [tokensFuel, hnil]
  | succ fuel ih =>
      cases fuel' with
      | zero =>
          have hs : s = [] := List.length_eq_zero_iff.mp (by omega)
          subst hs
          simp [tokensFuel, hnil]
      | succ fuel' =>
          simp only [tokensFuel]
          cases hstep : strtok delims s with
          | none => rfl
          | some cut =>
              obtain ⟨token, rest⟩ := cut
              have hlength := strtok_length hstep
              simp only
              rw [ih (show rest.length ≤ fuel by omega) (show rest.length ≤ fuel' by omega)]

/-- The loop equation: take a token, go on with the text after it. -/
theorem tokens_eq (delims s : Bytes) :
    tokens delims s =
      match strtok delims s with
      | none => []
      | some (token, rest) => token :: tokens delims rest := by
  unfold tokens
  rw [tokensFuel_eq (Nat.le_refl _) (show s.length ≤ s.length + 1 by omega)]
  simp only [tokensFuel]
  cases hstep : strtok delims s with
  | none => rfl
  | some cut =>
      obtain ⟨token, rest⟩ := cut
      have hlength := strtok_length hstep
      simp only
      rw [tokensFuel_eq (show rest.length ≤ s.length by omega) (Nat.le_refl _)]

/-! ## Loops over tokens -/

section Visit

variable {ε σ τ : Type}

/-- A loop over tokens whose body may fail, stop the loop or go on. -/
def visit (step : σ → τ → Except ε (ForInStep σ)) : List τ → σ → Except ε (ForInStep σ)
  | [], s => .ok (.yield s)
  | t :: ts, s =>
      match step s t with
      | .error e => .error e
      | .ok (.done s) => .ok (.done s)
      | .ok (.yield s) => visit step ts s

variable {step : σ → τ → Except ε (ForInStep σ)}

/-- A visit that reaches the end of the first tokens goes on with the others. -/
theorem visit_append {ts : List τ} {s s' : σ} (h : visit step ts s = .ok (.yield s'))
    (us : List τ) : visit step (ts ++ us) s = visit step us s' := by
  induction ts generalizing s with
  | nil =>
      cases h
      rfl
  | cons t ts ih =>
      rw [visit] at h
      rw [List.cons_append, visit]
      split at h
      next => cases h
      next => cases h
      next => exact ih h

/-- A visit fails exactly when its body fails at a token it reaches. -/
theorem visit_error_iff {ts : List τ} {s : σ} {e : ε} :
    visit step ts s = .error e ↔
      ∃ before t after s', ts = before ++ t :: after ∧
        visit step before s = .ok (.yield s') ∧ step s' t = .error e := by
  induction ts generalizing s with
  | nil =>
      constructor
      · intro h
        simp [visit] at h
      · rintro ⟨before, t, after, s', hts, -⟩
        simp at hts
  | cons t ts ih =>
      constructor
      · intro h
        rw [visit] at h
        split at h
        next e' hstep =>
          cases h
          exact ⟨[], t, ts, s, rfl, rfl, hstep⟩
        next => simp at h
        next s₁ hstep =>
          obtain ⟨before, t', after, s', rfl, hbefore, hfail⟩ := ih.mp h
          refine ⟨t :: before, t', after, s', rfl, ?_, hfail⟩
          simp only [visit, hstep, hbefore]
      · rintro ⟨before, t', after, s', hts, hbefore, hfail⟩
        cases before with
        | nil =>
            simp only [List.nil_append, List.cons.injEq] at hts
            obtain ⟨rfl, rfl⟩ := hts
            simp only [visit, Except.ok.injEq, ForInStep.yield.injEq] at hbefore
            subst hbefore
            simp [visit, hfail]
        | cons t₀ before =>
            simp only [List.cons_append, List.cons.injEq] at hts
            obtain ⟨rfl, rfl⟩ := hts
            rw [visit] at hbefore
            split at hbefore
            next => simp at hbefore
            next => simp at hbefore
            next s₁ hstep =>
              simp only [visit, hstep]
              exact ih.mpr ⟨before, t', after, s', rfl, hbefore, hfail⟩

end Visit

/-! ## Numbers -/

/-- Value of a digit in bases up to sixteen. -/
def digitVal (base : Nat) (b : UInt8) : Option Nat :=
  let v :=
    if isDigit b then b.toNat - 0x30
    else if isAlpha b then (toLower b).toNat - 0x61 + 10
    else base
  if v < base then some v else none

/-- The number the leading digits spell. -/
def digits (base : Nat) (s : Bytes) : Nat :=
  (s.takeWhile fun b => (digitVal base b).isSome).foldl
    (fun n b => n * base + (digitVal base b).getD 0) 0

/-- The text after the leading digits. -/
def afterDigits (base : Nat) (s : Bytes) : Bytes :=
  s.dropWhile fun b => (digitVal base b).isSome

/-- An optional sign: whether it is a minus, and the text after it. -/
def sign : Bytes → Bool × Bytes
  | 0x2b :: s => (false, s)
  | 0x2d :: s => (true, s)
  | s => (false, s)

/-- `(int)strtol(s, NULL, 10)`, which is `atoi`: the value is first clamped to
64 bits, then truncated to 32. -/
def atoi (s : Bytes) : Int32 :=
  let signed := sign (s.dropWhile isSpace)
  let n : Int := digits 10 signed.2
  let long : Int :=
    if signed.1 then max (-n) (-2 ^ 63) else min n (2 ^ 63 - 1)
  Int32.ofInt long

/-- `strtol(s, &end, 10)`: the value, clamped to 64 bits, and the text the end
pointer stands on. -/
def strtol (s : Bytes) : Int × Bytes :=
  let signed := sign (s.dropWhile isSpace)
  let n : Int := digits 10 signed.2
  if (signed.2.head?.bind (digitVal 10)).isNone then (0, s)
  else (if signed.1 then max (-n) (-2 ^ 63) else min n (2 ^ 63 - 1), afterDigits 10 signed.2)

/-- A call of `strtoul`: the value, whether it overflowed, and the text the end
pointer stands on when digits were found. -/
structure Strtoul where
  value : UInt64
  erange : Bool
  rest : Option Bytes

/-- Drops a hexadecimal prefix that a digit follows. -/
def dropHexPrefix : Bytes → Bytes
  | 0x30 :: x :: d :: s =>
      if toLower x == 0x78 && (digitVal 16 d).isSome then d :: s else 0x30 :: x :: d :: s
  | s => s

/-- `strtoul(s, &end, base)` for base ten or sixteen. -/
def strtoul (base : Nat) (s : Bytes) : Strtoul :=
  let signed := sign (s.dropWhile isSpace)
  let text := if base = 16 then dropHexPrefix signed.2 else signed.2
  let n := digits base text
  if (text.head?.bind (digitVal base)).isNone then ⟨0, false, none⟩
  else if n < 2 ^ 64 then
    ⟨if signed.1 then -UInt64.ofNat n else UInt64.ofNat n, false, some (afterDigits base text)⟩
  else ⟨0xffffffffffffffff, true, some (afterDigits base text)⟩

/-- Decimal digits of `%u`. -/
def formatNat (n : Nat) : Bytes :=
  (Nat.toDigits 10 n).map fun c => UInt8.ofNat c.toNat

/-- `%d` -/
def formatInt : Int → Bytes
  | .ofNat n => formatNat n
  | .negSucc n => 0x2d :: formatNat (n + 1)

/-- `%d` of an unsigned argument, read as signed. -/
def formatSigned (n : UInt32) : Bytes :=
  formatInt (Int.bmod n.toNat (2 ^ 32))

/-- Digits of `n` in base sixteen, upper case, at least `width` of them. -/
def formatHex (width n : Nat) : Bytes :=
  let text := (Nat.toDigits 16 n).map fun c => UInt8.ofNat c.toUpper.toNat
  List.replicate (width - text.length) 0x30 ++ text

end CString
