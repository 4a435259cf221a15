import Librtsp.Base64Text
import Librtsp.ClientAuth

/-!
# Base64 as the library does it

The decoder goes through its text one character at a time and stores a group of bytes
after every fourth.  Only the second and third byte of a group look at the room left.
-/

namespace Librtsp

open CString

/-! ## Decoding -/

inductive DecodeStop where
  | errno (e : Errno)
  | outOfBounds (index : Nat)
  deriving DecidableEq, Repr

/-- The six bits of a character.  A pad character has none, and is only accepted at
the end of the text. -/
def decodeChar (n padding i : Nat) (c : UInt8) : Option UInt32 :=
  if 0x41 ≤ c ∧ c ≤ 0x5a then some (c.toUInt32 - 0x41)
  else if 0x61 ≤ c ∧ c ≤ 0x7a then some (26 + c.toUInt32 - 0x61)
  else if 0x30 ≤ c ∧ c ≤ 0x39 then some (52 + c.toUInt32 - 0x30)
  else if c = 0x2b then some 62
  else if c = 0x2f then some 63
  else if c ≠ 0x3d then none
  else if i < n - padding then none
  else some 0

structure DecodeState where
  out : Bytes
  j : Nat := 0
  acc : UInt32 := 0
  deriving DecidableEq, Repr

/-- `_out[j++] = value` -/
def decodeStore (s : DecodeState) (value : UInt8) : Except DecodeStop DecodeState :=
  if s.j < s.out.length then .ok { s with out := s.out.set s.j value, j := s.j + 1 }
  else .error (.outOfBounds s.j)

/-- The same if there is room left. -/
def decodeStoreGuarded (outLen : Nat) (s : DecodeState) (value : UInt8) :
    Except DecodeStop DecodeState :=
  if s.j < outLen then decodeStore s value else .ok s

def decodeStoreGroup (outLen : Nat) (s : DecodeState) : Except DecodeStop DecodeState := do
  let s ← decodeStore s (s.acc >>> 16).toUInt8
  let s ← decodeStoreGuarded outLen s (s.acc >>> 8 &&& 0xff).toUInt8
  let s ← decodeStoreGuarded outLen s (s.acc &&& 0xff).toUInt8
  .ok { s with acc := 0 }

def decodeStep (n padding outLen i : Nat) (c : UInt8) (s : DecodeState) :
    Except DecodeStop DecodeState :=
  match decodeChar n padding i c with
  | none => .error (.errno .einval)
  | some value =>
      let s := { s with acc := s.acc <<< 6 ||| value }
      if (i + 1) % 4 = 0 then decodeStoreGroup outLen s else .ok s

def decodeLoop (n padding outLen : Nat) :
    Nat → Bytes → DecodeState → Except DecodeStop DecodeState
  | _, [], s => .ok s
  | i, c :: rest, s => do
      let s ← decodeStep n padding outLen i c s
      decodeLoop n padding outLen (i + 1) rest s

/-- The pad characters at the end of a text. -/
def trailingPads (str : Bytes) : Nat :=
  (str.reverse.takeWhile (· = 0x3d)).length

def rtspBase64Decode (str : Bytes) : Except DecodeStop Bytes :=
  if str = [] then .error (.errno .einval)
  else
    let n := min str.length (maxRtspBase64Len + 1)
    if maxRtspBase64Len < n then .error (.errno .einval)
    else if n = 0 ∨ n % 4 ≠ 0 then .error (.errno .einval)
    else if n < 4 then .error (.errno .einval)
    else
      let padding := trailingPads str
      if 2 < padding then .error (.errno .einval)
      else
        let outLen := n / 4 * 3 - padding
        (decodeLoop n padding outLen 0 str { out := List.replicate outLen 0 }).map (·.out)

/-! ## Encoding -/

theorem encodeChar_eq {val : UInt8} (hval : val.toNat < 64) :
    encodeChar val = Base64.letter val.toNat := by
  have hall : ∀ i : Fin 64, encodeChar (UInt8.ofNat i) = Base64.letter i := by decide +kernel
  simpa using hall ⟨val.toNat, hval⟩

theorem toNat_and_63 (x : UInt8) : (x &&& 0x3f).toNat = x.toNat % 64 :=
  Nat.and_two_pow_sub_one_eq_mod x.toNat 6

/-- The bits of two bytes that share a letter do not overlap. -/
theorem toNat_shiftOr (x y : UInt8) {k : Nat} (hk : 0 < k ∧ k < 8) :
    ((x <<< UInt8.ofNat k ||| y >>> UInt8.ofNat (8 - k)) &&& 0x3f).toNat =
      (x.toNat * 2 ^ k + y.toNat / 2 ^ (8 - k)) % 64 := by
  have hy := y.toNat_lt
  have hpow : 2 ^ (8 - k) * 2 ^ k = 2 ^ 8 := by
    rw [← Nat.pow_add]
    congr 1
    omega
  have hhigh : x.toNat * 2 ^ k % 2 ^ 8 = x.toNat % 2 ^ (8 - k) * 2 ^ k := by
    rw [← hpow, Nat.mul_mod_mul_right]
  have hlow : y.toNat / 2 ^ (8 - k) < 2 ^ k := by
    apply Nat.div_lt_of_lt_mul
    rwa [hpow]
  have hor : x.toNat * 2 ^ k % 2 ^ 8 ||| y.toNat / 2 ^ (8 - k) =
      x.toNat * 2 ^ k % 2 ^ 8 + y.toNat / 2 ^ (8 - k) := by
    rw [hhigh, ← Nat.shiftLeft_eq, Nat.shiftLeft_add_eq_or_of_lt hlow]
  have hleft : (UInt8.ofNat k).toNat % 8 = k := by
    rw [UInt8.toNat_ofNat']
    omega
  have hright : (UInt8.ofNat (8 - k)).toNat % 8 = 8 - k := by
    rw [UInt8.toNat_ofNat']
    omega
  rw [toNat_and_63, UInt8.toNat_or, UInt8.toNat_shiftLeft, UInt8.toNat_shiftRight, hleft, hright,
    Nat.shiftLeft_eq, Nat.shiftRight_eq_div_pow, hor, Nat.add_mod,
    Nat.mod_mod_of_dvd _ (show 64 ∣ 2 ^ 8 by decide), ← Nat.add_mod]

theorem encodeChar_first (x : UInt8) : encodeChar (x >>> 2) = Base64.letter (x.toNat / 4) := by
  have hlt := x.toNat_lt
  have hvalue : (x >>> 2).toNat = x.toNat / 4 := by
    rw [UInt8.toNat_shiftRight]
    exact Nat.shiftRight_eq_div_pow x.toNat 2
  rw [encodeChar_eq (by omega), hvalue]

theorem encodeChar_shared (x y : UInt8) :
    encodeChar ((x <<< 4 ||| y >>> 4) &&& 0x3f) =
        Base64.letter ((x.toNat * 16 + y.toNat / 16) % 64) ∧
      encodeChar ((x <<< 2 ||| y >>> 6) &&& 0x3f) =
        Base64.letter ((x.toNat * 4 + y.toNat / 64) % 64) := by
  have hfour : ((x <<< 4 ||| y >>> 4) &&& 0x3f).toNat = (x.toNat * 16 + y.toNat / 16) % 64 :=
    toNat_shiftOr x y (k := 4) (by decide)
  have htwo : ((x <<< 2 ||| y >>> 6) &&& 0x3f).toNat = (x.toNat * 4 + y.toNat / 64) % 64 :=
    toNat_shiftOr x y (k := 2) (by decide)
  constructor
  · rw [encodeChar_eq (hfour ▸ Nat.mod_lt _ (by decide)), hfour]
  · rw [encodeChar_eq (htwo ▸ Nat.mod_lt _ (by decide)), htwo]

theorem encodeChar_low (x : UInt8) :
    encodeChar (x &&& 0x3f) = Base64.letter (x.toNat % 64) := by
  rw [encodeChar_eq (toNat_and_63 x ▸ Nat.mod_lt _ (by decide)), toNat_and_63]

theorem base64Text_eq (data : Bytes) : base64Text data = Base64.encode data := by
  induction data using base64Text.induct with
  | case1 x1 x2 x3 rest ih =>
      have h1 := x1.toNat_lt
      have h2 := x2.toNat_lt
      have h3 := x3.toNat_lt
      have hletters := (Base64.letters_values (a := x1.toNat / 4)
        (b := (x1.toNat * 16 + x2.toNat / 16) % 64) (c := (x2.toNat * 4 + x3.toNat / 64) % 64)
        (d := x3.toNat % 64) (g := Base64.group x1 x2 x3) (by omega) (by omega) (by omega)
        (by omega) (by unfold Base64.group; omega)).1
      rw [base64Text, Base64.encode, ih, hletters, encodeChar_first, (encodeChar_shared x1 x2).1,
        (encodeChar_shared x2 x3).2, encodeChar_low]
      rfl
  | case2 x1 x2 =>
      have h1 := x1.toNat_lt
      have h2 := x2.toNat_lt
      have hletters := (Base64.letters_values (a := x1.toNat / 4)
        (b := (x1.toNat * 16 + x2.toNat / 16) % 64)
        (c := (x2.toNat * 4 + (0 : UInt8).toNat / 64) % 64)
        (d := 0) (g := Base64.group x1 x2 0) (by omega) (by omega) (by omega)
        (by omega) (by unfold Base64.group; rw [UInt8.toNat_zero]; omega)).2.1
      have hlast : x2 <<< 2 = x2 <<< 2 ||| (0 : UInt8) >>> 6 := by simp
      rw [base64Text, Base64.encode, hletters, encodeChar_first, (encodeChar_shared x1 x2).1,
        hlast, (encodeChar_shared x2 0).2]
      rfl
  | case3 x1 =>
      have h1 := x1.toNat_lt
      have hletters := (Base64.letters_values (a := x1.toNat / 4)
        (b := (x1.toNat * 16 + (0 : UInt8).toNat / 16) % 64) (c := 0) (d := 0)
        (g := Base64.group x1 0 0) (by omega) (by omega) (by omega) (by omega)
        (by unfold Base64.group; rw [UInt8.toNat_zero]; omega)).2.2
      have hlast : x1 <<< 4 = x1 <<< 4 ||| (0 : UInt8) >>> 4 := by simp
      rw [base64Text, Base64.encode, hletters, encodeChar_first, hlast, (encodeChar_shared x1 0).1]
      rfl
  | case4 => rfl

/-! ## One character -/

theorem decodeChar_letter (n padding i : Nat) {v : Nat} (hv : v < 64) :
    decodeChar n padding i (Base64.letter v) = some (UInt32.ofNat v) := by
  have hall : ∀ v : Fin 64, decodeChar 0 0 0 (Base64.letter v) = some (UInt32.ofNat v) := by
    decide +kernel
  have hpad : Base64.letter v ≠ Base64.pad := fun heq =>
    Base64.pad_notin_alphabet (heq ▸ Base64.letter_mem hv)
  rw [← hall ⟨v, hv⟩]
  simp only [decodeChar, if_pos (show Base64.letter v ≠ 0x3d from hpad)]

theorem decodeChar_pad {n padding i : Nat} (hi : n - padding ≤ i) :
    decodeChar n padding i Base64.pad = some 0 :=
  if_neg (Nat.not_lt.mpr hi)

theorem decodeChar_some {n padding i : Nat} {c : UInt8}
    (h : (decodeChar n padding i c).isSome) :
    c ∈ Base64.alphabet ∨ c = Base64.pad ∧ n - padding ≤ i := by
  by_cases hpad : c = Base64.pad
  · subst hpad
    refine .inr ⟨rfl, Nat.not_lt.mp fun hlt => ?_⟩
    have hnone : decodeChar n padding i Base64.pad = none := if_pos hlt
    rw [hnone] at h
    cases h
  · have hall : ∀ i : Fin 256, UInt8.ofNat i ≠ Base64.pad →
        (decodeChar 0 0 0 (UInt8.ofNat i)).isSome → UInt8.ofNat i ∈ Base64.alphabet := by
      decide +kernel
    have hsame : decodeChar n padding i c = decodeChar 0 0 0 c := by
      simp only [decodeChar, if_pos (show c ≠ 0x3d from hpad)]
    rw [hsame] at h
    have hc := hall ⟨c.toNat, c.toNat_lt⟩
    simp only [UInt8.ofNat_toNat] at hc
    exact .inl (hc hpad h)

/-! ## One group -/

/-- A buffer that is written up to some index, with zeros behind. -/
def filled (written : Bytes) (room : Nat) (acc : UInt32) : DecodeState :=
  { out := written ++ List.replicate room 0, j := written.length, acc }

@[simp] theorem filled_acc (written : Bytes) (room : Nat) (acc : UInt32) :
    (filled written room acc).acc = acc := rfl

theorem decodeStore_filled (written : Bytes) (room : Nat) (acc : UInt32) (value : UInt8) :
    decodeStore (filled written (room + 1) acc) value =
      .ok (filled (written ++ [value]) room acc) := by
  unfold decodeStore filled
  rw [if_pos (by simp)]
  simp [List.set_append_right, List.replicate_succ]

theorem decodeStoreGuarded_filled (written : Bytes) {room outLen : Nat} (acc : UInt32)
    (value : UInt8) (hout : outLen = written.length + room) :
    decodeStoreGuarded outLen (filled written room acc) value =
      .ok (filled (written ++ [value].take room) (room - 1) acc) := by
  subst hout
  unfold decodeStoreGuarded
  cases room with
  | zero =>
      rw [if_neg (show ¬(filled written 0 acc).j < written.length + 0 from Nat.lt_irrefl _),
        List.take_zero, List.append_nil]
  | succ room =>
      rw [if_pos (show (filled written (room + 1) acc).j < written.length + (room + 1) from
        Nat.lt_add_of_pos_right (Nat.succ_pos room)), decodeStore_filled, List.take_succ_cons,
        List.take_nil, Nat.add_sub_cancel]

theorem decodeStoreGroup_filled {written : Bytes} {room outLen : Nat} (acc : UInt32)
    (hroom : 0 < room) (hout : outLen = written.length + room) :
    decodeStoreGroup outLen (filled written room acc) =
      .ok (filled (written ++ [(acc >>> 16).toUInt8, (acc >>> 8 &&& 0xff).toUInt8,
        (acc &&& 0xff).toUInt8].take room) (room - 3) 0) := by
  obtain ⟨room, rfl⟩ : ∃ room', room = room' + 1 := ⟨room - 1, by omega⟩
  have hsecond := decodeStoreGuarded_filled (written ++ [(acc >>> 16).toUInt8]) acc
    (acc >>> 8 &&& 0xff).toUInt8 (show outLen = _ + room by simp; omega)
  have hthird := decodeStoreGuarded_filled
    (written ++ [(acc >>> 16).toUInt8] ++ [(acc >>> 8 &&& 0xff).toUInt8].take room) acc
    (acc &&& 0xff).toUInt8 (show outLen = _ + (room - 1) by simp; omega)
  unfold decodeStoreGroup
  rw [filled_acc, decodeStore_filled]
  dsimp only [bind, Except.bind]
  rw [filled_acc, hsecond]
  dsimp only
  rw [filled_acc, hthird]
  have htake : [(acc >>> 16).toUInt8] ++ [(acc >>> 8 &&& 0xff).toUInt8].take room ++
      [(acc &&& 0xff).toUInt8].take (room - 1) =
        [(acc >>> 16).toUInt8, (acc >>> 8 &&& 0xff).toUInt8, (acc &&& 0xff).toUInt8].take
          (room + 1) := by
    match room with
    | 0 => rfl
    | 1 => rfl
    | room + 2 => simp
  rw [← htake, ← List.append_assoc, ← List.append_assoc]
  rfl

theorem shiftAcc_eq {x v : Nat} (hx : x < 2 ^ 18) (hv : v < 64) :
    UInt32.ofNat x <<< 6 ||| UInt32.ofNat v = UInt32.ofNat (x * 64 + v) := by
  have hacc : (UInt32.ofNat x).toNat = x := by
    rw [UInt32.toNat_ofNat']
    omega
  have hvalue : (UInt32.ofNat v).toNat = v := by
    rw [UInt32.toNat_ofNat']
    omega
  have hshift : (UInt32.ofNat x <<< 6).toNat = x <<< 6 := by
    rw [UInt32.toNat_shiftLeft, hacc]
    exact Nat.mod_eq_of_lt (by rw [Nat.shiftLeft_eq]; change x * 2 ^ 6 < 2 ^ 32; omega)
  apply UInt32.toNat_inj.mp
  rw [UInt32.toNat_or, hshift, hvalue, ← Nat.shiftLeft_add_eq_or_of_lt (i := 6) hv,
    Nat.shiftLeft_eq, UInt32.toNat_ofNat']
  omega

theorem storedOctets_eq (acc : UInt32) (room : Nat) :
    [(acc >>> 16).toUInt8, (acc >>> 8 &&& 0xff).toUInt8, (acc &&& 0xff).toUInt8].take room =
      Base64.octets (min room 3) acc.toNat := by
  have hfirst : (acc >>> 16).toUInt8 = UInt8.ofNat (acc.toNat / 256 ^ 2) := by
    apply UInt8.toNat_inj.mp
    rw [UInt32.toNat_toUInt8, UInt32.toNat_shiftRight, UInt8.toNat_ofNat']
    exact congrArg (· % 2 ^ 8) (Nat.shiftRight_eq_div_pow acc.toNat 16)
  have hmask (x : UInt32) : (x &&& 0xff).toUInt8 = UInt8.ofNat x.toNat := by
    have hand : (x &&& 0xff).toNat = x.toNat % 2 ^ 8 := Nat.and_two_pow_sub_one_eq_mod x.toNat 8
    apply UInt8.toNat_inj.mp
    rw [UInt32.toNat_toUInt8, hand, UInt8.toNat_ofNat', Nat.mod_mod]
  have hsecond : (acc >>> 8).toNat = acc.toNat / 256 ^ 1 := by
    rw [UInt32.toNat_shiftRight]
    exact Nat.shiftRight_eq_div_pow acc.toNat 8
  rw [hfirst, hmask, hmask, hsecond, ← Base64.octets_take]
  simp [Base64.octets, List.range_succ]

section Group

variable {n padding outLen i room x v : Nat} {written : Bytes} {c : UInt8}

theorem decodeStep_within (outLen : Nat) (written : Bytes) (room : Nat)
    (hc : decodeChar n padding i c = some (UInt32.ofNat v)) (hx : x < 2 ^ 18)
    (hv : v < 64) (hi : (i + 1) % 4 ≠ 0) :
    decodeStep n padding outLen i c (filled written room (UInt32.ofNat x)) =
      .ok (filled written room (UInt32.ofNat (x * 64 + v))) := by
  rw [← shiftAcc_eq hx hv]
  simp only [decodeStep, hc]
  rw [if_neg hi]
  rfl

theorem decodeStep_last (hc : decodeChar n padding i c = some (UInt32.ofNat v)) (hx : x < 2 ^ 18)
    (hv : v < 64) (hi : (i + 1) % 4 = 0) (hroom : 0 < room)
    (hout : outLen = written.length + room) :
    decodeStep n padding outLen i c (filled written room (UInt32.ofNat x)) =
      .ok (filled (written ++ Base64.octets (min room 3) (x * 64 + v)) (room - 3) 0) := by
  have hgroup := decodeStoreGroup_filled (UInt32.ofNat x <<< 6 ||| UInt32.ofNat v) hroom hout
  have hvalue : (UInt32.ofNat (x * 64 + v)).toNat = x * 64 + v := by
    rw [UInt32.toNat_ofNat']
    omega
  rw [storedOctets_eq, shiftAcc_eq hx hv, hvalue, ← shiftAcc_eq hx hv] at hgroup
  simp only [decodeStep, hc]
  rw [if_pos hi]
  exact hgroup

end Group

/-- Four characters with the digits of a number leave its bytes behind. -/
theorem decodeLoop_group {n padding outLen i : Nat} {written : Bytes} {room : Nat}
    {c1 c2 c3 c4 : UInt8} {a b c d g : Nat} (rest : Bytes) (hi : i % 4 = 0) (ha : a < 64)
    (hb : b < 64) (hc : c < 64) (hd : d < 64) (hg : g = ((a * 64 + b) * 64 + c) * 64 + d)
    (h1 : decodeChar n padding i c1 = some (UInt32.ofNat a))
    (h2 : decodeChar n padding (i + 1) c2 = some (UInt32.ofNat b))
    (h3 : decodeChar n padding (i + 2) c3 = some (UInt32.ofNat c))
    (h4 : decodeChar n padding (i + 3) c4 = some (UInt32.ofNat d))
    (hroom : 0 < room) (hout : outLen = written.length + room) :
    decodeLoop n padding outLen i (c1 :: c2 :: c3 :: c4 :: rest) (filled written room 0) =
      decodeLoop n padding outLen (i + 4) rest
        (filled (written ++ Base64.octets (min room 3) g) (room - 3) 0) := by
  have hstep1 := decodeStep_within outLen written room h1
    (show 0 < 2 ^ 18 by decide) ha (by omega)
  rw [Nat.zero_mul, Nat.zero_add] at hstep1
  have hstep2 := decodeStep_within outLen written room h2
    (show a < 2 ^ 18 by omega) hb (by omega)
  have hstep3 := decodeStep_within outLen written room h3
    (show a * 64 + b < 2 ^ 18 by omega) hc (by omega)
  have hstep4 := decodeStep_last h4 (show (a * 64 + b) * 64 + c < 2 ^ 18 by omega) hd (by omega)
    hroom hout
  rw [← hg] at hstep4
  simp only [decodeLoop]
  rw [show (0 : UInt32) = UInt32.ofNat 0 from rfl, hstep1]
  dsimp only [bind, Except.bind]
  rw [hstep2]
  dsimp only
  rw [hstep3]
  dsimp only
  rw [hstep4]
  rfl

/-- The loop turns a text of the language into the bytes it stands for. -/
theorem decodeLoop_stands {text bytes : Bytes} {pads : Nat} (h : Base64.Stands text bytes pads)
    {n outLen i : Nat} {written : Bytes} (hi : i % 4 = 0) (hn : n = i + text.length)
    (hout : outLen = written.length + bytes.length) :
    decodeLoop n pads outLen i text (filled written bytes.length 0) =
      .ok (filled (written ++ bytes) 0 0) := by
  induction h generalizing i written with
  | @last k g hk hg hlow =>
      rw [Base64.octets_length] at hout ⊢
      simp only [List.length_append, Base64.letters_length, List.length_replicate] at hn
      obtain ⟨ha, hb, hc, hd, hsum⟩ := Base64.group_sextets hg
      obtain ⟨hfour, hthree, htwo⟩ := Base64.letters_values ha hb hc hd hsum
      have hzero : 0 < 64 := by decide
      obtain rfl | rfl | rfl : k = 1 ∨ k = 2 ∨ k = 3 := by omega
      · have hgroup := decodeLoop_group [] hi ha hb hzero hzero (g := g) (by omega)
          (decodeChar_letter n (3 - 1) i ha) (decodeChar_letter n (3 - 1) (i + 1) hb)
          (decodeChar_pad (by omega)) (decodeChar_pad (by omega)) (by decide) hout
        rw [htwo]
        exact hgroup
      · have hgroup := decodeLoop_group [] hi ha hb hc hzero (g := g) (by omega)
          (decodeChar_letter n (3 - 2) i ha) (decodeChar_letter n (3 - 2) (i + 1) hb)
          (decodeChar_letter n (3 - 2) (i + 2) hc) (decodeChar_pad (by omega)) (by decide) hout
        rw [hthree]
        exact hgroup
      · have hgroup := decodeLoop_group [] hi ha hb hc hd hsum
          (decodeChar_letter n (3 - 3) i ha) (decodeChar_letter n (3 - 3) (i + 1) hb)
          (decodeChar_letter n (3 - 3) (i + 2) hc) (decodeChar_letter n (3 - 3) (i + 3) hd)
          (by decide) hout
        rw [hfour]
        exact hgroup
  | @cons text bytes pads g hg htext ih =>
      obtain ⟨ha, hb, hc, hd, hsum⟩ := Base64.group_sextets hg
      obtain ⟨hfour, -, -⟩ := Base64.letters_values ha hb hc hd hsum
      have hsize := htext.size
      rw [List.length_append, Base64.octets_length] at hout ⊢
      rw [List.length_append, Base64.letters_length] at hn
      have hgroup := decodeLoop_group text hi ha hb hc hd hsum
        (decodeChar_letter n pads i ha) (decodeChar_letter n pads (i + 1) hb)
        (decodeChar_letter n pads (i + 2) hc) (decodeChar_letter n pads (i + 3) hd)
        (show 0 < 3 + bytes.length by omega) hout
      have hstored : outLen = (written ++ Base64.octets 3 g).length + bytes.length := by
        rw [List.length_append, Base64.octets_length]
        omega
      have hrest := ih (show (i + 4) % 4 = 0 by omega) (by omega) hstored
      rw [Nat.min_eq_right (Nat.le_add_right 3 _), Nat.add_sub_cancel_left, hrest,
        List.append_assoc] at hgroup
      rw [hfour]
      exact hgroup

theorem trailingPads_stands {text bytes : Bytes} {pads : Nat}
    (h : Base64.Stands text bytes pads) : trailingPads text = pads := by
  obtain ⟨body, rfl, hbody⟩ := h.body
  unfold trailingPads
  rw [List.reverse_append, List.reverse_replicate, List.takeWhile_append_of_pos]
  · have hnone : body.reverse.takeWhile (fun c => decide (c = 0x3d)) = [] := by
      cases hrev : body.reverse with
      | nil => rfl
      | cons c rest =>
          have hc : c ∈ body := List.mem_reverse.mp (hrev ▸ List.mem_cons_self)
          have hpad : c ≠ Base64.pad := fun heq => Base64.pad_notin_alphabet (heq ▸ hbody c hc)
          rw [List.takeWhile_cons_of_neg (by simpa using show ¬c = 0x3d from hpad)]
    rw [hnone, List.append_nil, List.length_replicate]
  · intro c hc
    rw [List.eq_of_mem_replicate hc]
    rfl

theorem rtspBase64Decode_stands {text bytes : Bytes} {pads : Nat}
    (h : Base64.Stands text bytes pads) (hlength : text.length ≤ maxRtspBase64Len) :
    rtspBase64Decode text = .ok bytes := by
  obtain ⟨hfour, hgroups, hsize, hpads⟩ := h.size
  have hne : text ≠ [] := by
    rintro rfl
    simp at hfour
  have hn : min text.length (maxRtspBase64Len + 1) = text.length := by omega
  have hout : text.length / 4 * 3 - pads = bytes.length := by omega
  have hloop : decodeLoop text.length pads bytes.length 0 text (filled [] bytes.length 0) =
      .ok (filled ([] ++ bytes) 0 0) :=
    decodeLoop_stands h rfl (Nat.zero_add _).symm (Nat.zero_add _).symm
  unfold rtspBase64Decode
  rw [if_neg hne]
  dsimp only
  rw [hn, if_neg (by omega), if_neg (by omega), if_neg (by omega), trailingPads_stands h,
    if_neg (by omega), hout]
  change (decodeLoop _ _ _ 0 text (filled [] bytes.length 0)).map _ = _
  rw [hloop]
  simp [Except.map, filled]

/-! ## Which texts are decoded -/

theorem decodeLoop_chars {n padding outLen i : Nat} {text : Bytes} {s s' : DecodeState}
    (h : decodeLoop n padding outLen i text s = .ok s') {k : Nat} {c : UInt8}
    (hc : text[k]? = some c) : (decodeChar n padding (i + k) c).isSome := by
  induction text generalizing i k s with
  | nil => cases hc
  | cons b text ih =>
      rw [decodeLoop] at h
      cases hstep : decodeStep n padding outLen i b s with
      | error stop =>
          rw [hstep] at h
          cases h
      | ok s₁ =>
          rw [hstep] at h
          cases k with
          | zero =>
              rw [List.getElem?_cons_zero, Option.some.injEq] at hc
              subst hc
              unfold decodeStep at hstep
              split at hstep
              next => cases hstep
              next value hvalue => rw [Nat.add_zero, hvalue, Option.isSome_some]
          | succ k =>
              rw [List.getElem?_cons_succ] at hc
              have hrest := ih h hc
              rwa [Nat.add_assoc, Nat.add_comm 1 k] at hrest

theorem trailingPads_split (text : Bytes) :
    ∃ body, text = body ++ List.replicate (trailingPads text) Base64.pad := by
  have hpads : text.reverse.takeWhile (fun c => decide (c = 0x3d)) =
      List.replicate (trailingPads text) Base64.pad := by
    refine List.eq_replicate_of_mem fun c hc => ?_
    have hequal := List.mem_takeWhile_imp (p := fun c => decide (c = 0x3d)) hc
    exact of_decide_eq_true hequal
  refine ⟨(text.reverse.dropWhile fun c => decide (c = 0x3d)).reverse, ?_⟩
  have hsplit := List.takeWhile_append_dropWhile (p := fun c => decide (c = 0x3d))
    (l := text.reverse)
  rw [← List.reverse_inj, List.reverse_append, List.reverse_replicate, List.reverse_reverse,
    ← hpads]
  exact hsplit.symm

/-- The texts that are decoded are those of the language, up to the longest. -/
theorem rtspBase64Decode_padded {text out : Bytes} (h : rtspBase64Decode text = .ok out) :
    Base64.Padded text ∧ text.length ≤ maxRtspBase64Len := by
  unfold rtspBase64Decode at h
  split at h
  next => cases h
  next hne =>
    dsimp only at h
    split at h
    next => cases h
    next hlong =>
      have hn : min text.length (maxRtspBase64Len + 1) = text.length := by omega
      rw [hn] at h hlong
      split at h
      next => cases h
      next hgroups =>
        split at h
        next => cases h
        next =>
          split at h
          next => cases h
          next hpads =>
            cases hloop : decodeLoop text.length (trailingPads text)
                (text.length / 4 * 3 - trailingPads text) 0 text
                { out := List.replicate (text.length / 4 * 3 - trailingPads text) 0 } with
            | error stop =>
                rw [hloop] at h
                cases h
            | ok s =>
                obtain ⟨body, hbody⟩ := trailingPads_split text
                refine ⟨⟨hne, by omega, body, trailingPads text, hbody, by omega, ?_⟩, by omega⟩
                intro c hc
                obtain ⟨k, hk, rfl⟩ := List.mem_iff_getElem.mp hc
                have hlength : text.length = body.length + trailingPads text := by
                  conv_lhs => rw [hbody]
                  rw [List.length_append, List.length_replicate]
                have hat : text[k]? = some body[k] := by
                  rw [hbody, List.getElem?_append_left hk, List.getElem?_eq_getElem hk]
                obtain hletter | ⟨-, hend⟩ := decodeChar_some (decodeLoop_chars hloop hat)
                · exact hletter
                · omega

/-- No byte is stored outside the buffer. -/
theorem decodeLoop_bounds {n padding outLen i : Nat} {text : Bytes} {written : Bytes}
    {room : Nat} {acc : UInt32} (hn : n = i + text.length) (hgroups : n % 4 = 0)
    (hout : outLen + padding = n / 4 * 3) (hpads : padding ≤ 2)
    (hroom : written.length + room = outLen) (hwritten : written.length = min (i / 4 * 3) outLen)
    (index : Nat) :
    decodeLoop n padding outLen i text (filled written room acc) ≠ .error (.outOfBounds index) := by
  induction text generalizing i written room acc with
  | nil => simp [decodeLoop]
  | cons c text ih =>
      rw [List.length_cons] at hn
      rw [decodeLoop]
      unfold decodeStep
      split
      next => simp [bind, Except.bind]
      next value _ =>
        by_cases hlast : (i + 1) % 4 = 0
        · have hgroup := decodeStoreGroup_filled
            ((filled written room acc).acc <<< 6 ||| value) (show 0 < room by omega) hroom.symm
          rw [if_pos hlast]
          change (decodeStoreGroup outLen (filled written room _) >>= _) ≠ _
          rw [hgroup, storedOctets_eq]
          refine ih (by omega) ?_ ?_
          · rw [List.length_append, Base64.octets_length]
            omega
          · rw [List.length_append, Base64.octets_length]
            omega
        · rw [if_neg hlast]
          exact ih (by omega) hroom (by omega)

theorem rtspBase64Decode_bounds (text : Bytes) (index : Nat) :
    rtspBase64Decode text ≠ .error (.outOfBounds index) := by
  unfold rtspBase64Decode
  split
  next => simp
  next hne =>
    dsimp only
    split
    next => simp
    next hlong =>
      have hn : min text.length (maxRtspBase64Len + 1) = text.length := by omega
      rw [hn]
      split
      next => simp
      next hgroups =>
        split
        next => simp
        next =>
          split
          next => simp
          next hpads =>
            have hloop : decodeLoop text.length (trailingPads text)
                (text.length / 4 * 3 - trailingPads text) 0 text
                (filled [] (text.length / 4 * 3 - trailingPads text) 0) ≠
                  .error (.outOfBounds index) :=
              decodeLoop_bounds (Nat.zero_add _).symm (by omega) (by omega) (by omega)
                (Nat.zero_add _) (by simp) index
            intro heq
            apply hloop
            change (decodeLoop _ _ _ 0 text (filled [] _ 0)).map _ = _ at heq
            cases h : decodeLoop text.length (trailingPads text)
                (text.length / 4 * 3 - trailingPads text) 0 text
                (filled [] (text.length / 4 * 3 - trailingPads text) 0) with
            | error stop =>
                rw [h] at heq
                cases heq
                rfl
            | ok s =>
                rw [h] at heq
                cases heq

/-! ## Both ways -/

/-- Bytes are encoded as the standard does, and decoded to what they were. -/
theorem base64_roundTrip {data : Bytes} (hdata : data ≠ [])
    (hlength : data.length ≤ maxRtspBase64Len / 4 * 3) :
    rtspBase64Encode data = .ok (Base64.encode data) ∧
      (Base64.encode data).length = 4 * ((data.length + 2) / 3) ∧
      rtspBase64Decode (Base64.encode data) = .ok data := by
  have hmax : maxRtspBase64Len / 4 * 3 = 3072 := rfl
  have htext := Base64.encode_length data
  obtain ⟨pads, hstands⟩ := Base64.exists_stands_encode hdata
  refine ⟨?_, htext, rtspBase64Decode_stands hstands ?_⟩
  · unfold rtspBase64Encode
    rw [if_neg hdata, if_neg (by omega), base64Text_eq]
  · rw [htext, show maxRtspBase64Len = 4096 from rfl]
    omega

theorem credentials_roundTrip :
    rtspBase64Encode (ascii "user:pass") = .ok (ascii "dXNlcjpwYXNz") ∧
      rtspBase64Decode (ascii "dXNlcjpwYXNz") = .ok (ascii "user:pass") := by
  have htext : Base64.encode (ascii "user:pass") = ascii "dXNlcjpwYXNz" := by decide +kernel
  have hround := base64_roundTrip (show ascii "user:pass" ≠ [] by decide +kernel)
    (by decide +kernel)
  rw [htext] at hround
  exact ⟨hround.1, hround.2.2⟩

/-- What decoding a text does. -/
structure DecodesPadded (text : Bytes) : Prop where
  accepts : (∃ out, rtspBase64Decode text = .ok out) ↔
    Base64.Padded text ∧ text.length ≤ maxRtspBase64Len
  bounds : ∀ index, rtspBase64Decode text ≠ .error (.outOfBounds index)
  length : ∀ out, rtspBase64Decode text = .ok out →
    out.length = 3 * text.length / 4 - text.count Base64.pad
  reencodes : ∀ out, rtspBase64Decode text = .ok out →
    rtspBase64Encode out = .ok (Base64.clearUnused text)

/-- The decoder accepts the padded texts up to the longest one, stores nothing outside
its buffer and loses only bits that belong to no byte. -/
theorem rtspBase64Decode_decodesPadded (text : Bytes) : DecodesPadded text := by
  have hstands : ∀ out, rtspBase64Decode text = .ok out →
      ∃ pads, Base64.Stands text out pads ∧ text.length ≤ maxRtspBase64Len := by
    intro out hdecode
    obtain ⟨hpadded, hlength⟩ := rtspBase64Decode_padded hdecode
    obtain ⟨bytes, pads, hstands⟩ := Base64.padded_iff.mp hpadded
    rw [rtspBase64Decode_stands hstands hlength] at hdecode
    cases hdecode
    exact ⟨pads, hstands, hlength⟩
  refine ⟨⟨?_, ?_⟩, rtspBase64Decode_bounds text, ?_, ?_⟩
  · rintro ⟨out, hdecode⟩
    exact rtspBase64Decode_padded hdecode
  · rintro ⟨hpadded, hlength⟩
    obtain ⟨bytes, pads, hstands⟩ := Base64.padded_iff.mp hpadded
    exact ⟨bytes, rtspBase64Decode_stands hstands hlength⟩
  · intro out hdecode
    obtain ⟨pads, hstands, -⟩ := hstands out hdecode
    have hsize := hstands.size
    rw [hstands.count_pad]
    omega
  · intro out hdecode
    obtain ⟨pads, hstands, hlength⟩ := hstands out hdecode
    have hsize := hstands.size
    have hmax : maxRtspBase64Len / 4 * 3 = 3072 := rfl
    rw [show maxRtspBase64Len = 4096 from rfl] at hlength
    have hne : out ≠ [] := by
      rintro rfl
      rw [List.length_nil] at hsize
      omega
    unfold rtspBase64Encode
    rw [if_neg hne, if_neg (by omega), base64Text_eq, hstands.encode_eq]

end Librtsp
