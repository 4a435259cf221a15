import Librtsp.CString

/-!
# Padded base64

Three bytes are one number of twenty-four bits, and four letters of six bits each.  A
last group of one or two bytes is filled up with zeros, and pad characters stand for the
letters nothing of the group is left for.
-/

namespace Base64

open CString

/-! ## Letters -/

def alphabet : Bytes :=
  ascii "ABCDEFGHIJKLMNOPQRSTUVWXYZabcdefghijklmnopqrstuvwxyz0123456789+/"

/-- The pad character, an equal sign. -/
def pad : UInt8 := 0x3d

def letter (n : Nat) : UInt8 :=
  alphabet.getD n pad

def letterNumber (c : UInt8) : Option Nat :=
  alphabet.idxOf? c

theorem alphabet_length : alphabet.length = 64 := by
  decide +kernel

theorem letter_eq {n : Nat} (hn : n < alphabet.length) : letter n = alphabet[n] := by
  rw [letter, List.getD_eq_getElem?_getD, List.getElem?_eq_getElem hn, Option.getD_some]

theorem letter_mem {n : Nat} (hn : n < 64) : letter n ∈ alphabet := by
  rw [← alphabet_length] at hn
  rw [letter_eq hn]
  exact List.getElem_mem hn

theorem exists_letter {c : UInt8} (hc : c ∈ alphabet) : ∃ n < 64, c = letter n := by
  obtain ⟨n, hn, rfl⟩ := List.mem_iff_getElem.mp hc
  exact ⟨n, alphabet_length ▸ hn, (letter_eq hn).symm⟩

theorem letterNumber_letter {n : Nat} (hn : n < 64) : letterNumber (letter n) = some n := by
  have hall : ∀ i : Fin 64, letterNumber (letter i) = some i.val := by decide +kernel
  exact hall ⟨n, hn⟩

theorem pad_notin_alphabet : pad ∉ alphabet := by
  decide +kernel

/-! ## Groups -/

def group (x1 x2 x3 : UInt8) : Nat :=
  x1.toNat * 2 ^ 16 + x2.toNat * 2 ^ 8 + x3.toNat

/-- The first letters of a group. -/
def letters (count g : Nat) : Bytes :=
  (List.range count).map fun i => letter (g / 64 ^ (3 - i) % 64)

/-- The first bytes of a group. -/
def octets (count g : Nat) : Bytes :=
  (List.range count).map fun i => UInt8.ofNat (g / 256 ^ (2 - i))

/-- The standard encoding with padding. -/
def encode : Bytes → Bytes
  | x1 :: x2 :: x3 :: rest => letters 4 (group x1 x2 x3) ++ encode rest
  | [x1, x2] => letters 3 (group x1 x2 0) ++ [pad]
  | [x1] => letters 2 (group x1 0 0) ++ [pad, pad]
  | [] => []

@[simp] theorem letters_length (count g : Nat) : (letters count g).length = count := by
  simp [letters]

@[simp] theorem octets_length (count g : Nat) : (octets count g).length = count := by
  simp [octets]

theorem octets_take (count room g : Nat) :
    (octets count g).take room = octets (min room count) g := by
  simp [octets, ← List.map_take, List.take_range]

theorem letters_subset (count g : Nat) : ∀ c ∈ letters count g, c ∈ alphabet := by
  intro c hc
  obtain ⟨i, -, rfl⟩ := List.mem_map.mp hc
  exact letter_mem (Nat.mod_lt _ (by decide))

theorem group_lt (x1 x2 x3 : UInt8) : group x1 x2 x3 < 2 ^ 24 := by
  have h1 := x1.toNat_lt
  have h2 := x2.toNat_lt
  have h3 := x3.toNat_lt
  unfold group
  omega

theorem octets_group (x1 x2 x3 : UInt8) :
    octets 3 (group x1 x2 x3) = [x1, x2, x3] ∧ octets 2 (group x1 x2 x3) = [x1, x2] ∧
      octets 1 (group x1 x2 x3) = [x1] := by
  have h1 := x1.toNat_lt
  have h2 := x2.toNat_lt
  have h3 := x3.toNat_lt
  have hfirst : UInt8.ofNat (group x1 x2 x3 / 256 ^ 2) = x1 := by
    apply UInt8.toNat_inj.mp
    rw [UInt8.toNat_ofNat']
    unfold group
    omega
  have hsecond : UInt8.ofNat (group x1 x2 x3 / 256 ^ 1) = x2 := by
    apply UInt8.toNat_inj.mp
    rw [UInt8.toNat_ofNat']
    unfold group
    omega
  have hthird : UInt8.ofNat (group x1 x2 x3 / 256 ^ 0) = x3 := by
    apply UInt8.toNat_inj.mp
    rw [UInt8.toNat_ofNat']
    unfold group
    omega
  simp only [octets, List.range_succ, List.range_zero, List.nil_append, List.cons_append,
    List.map_cons, List.map_nil, Nat.sub_zero, Nat.sub_self, Nat.reduceSub]
  exact ⟨by rw [hfirst, hsecond, hthird], by rw [hfirst, hsecond], by rw [hfirst]⟩

theorem group_octets {g : Nat} (hg : g < 2 ^ 24) :
    group (UInt8.ofNat (g / 256 ^ 2)) (UInt8.ofNat (g / 256 ^ 1)) (UInt8.ofNat (g / 256 ^ 0)) =
      g := by
  unfold group
  simp only [UInt8.toNat_ofNat']
  omega

theorem group_first {g : Nat} (hg : g < 2 ^ 24) :
    group (UInt8.ofNat (g / 256 ^ 2)) 0 0 = g / 65536 * 65536 := by
  unfold group
  rw [UInt8.toNat_ofNat', UInt8.toNat_zero]
  omega

theorem group_second {g : Nat} (hg : g < 2 ^ 24) :
    group (UInt8.ofNat (g / 256 ^ 2)) (UInt8.ofNat (g / 256 ^ 1)) 0 = g / 256 * 256 := by
  unfold group
  rw [UInt8.toNat_ofNat', UInt8.toNat_ofNat', UInt8.toNat_zero]
  omega

theorem letters_congr {count g g' : Nat}
    (h : ∀ i < count, g / 64 ^ (3 - i) % 64 = g' / 64 ^ (3 - i) % 64) :
    letters count g = letters count g' := by
  refine List.map_congr_left fun i hi => ?_
  rw [h i (List.mem_range.mp hi)]

theorem letters_succ (count g : Nat) :
    letters (count + 1) g = letters count g ++ [letter (g / 64 ^ (3 - count) % 64)] := by
  simp [letters, List.range_succ]

/-- Four letters are those of one group. -/
theorem letters_values {a b c d g : Nat} (h1 : a < 64) (h2 : b < 64) (h3 : c < 64) (h4 : d < 64)
    (hg : g = ((a * 64 + b) * 64 + c) * 64 + d) :
    letters 4 g = [letter a, letter b, letter c, letter d] ∧
      letters 3 g = [letter a, letter b, letter c] ∧ letters 2 g = [letter a, letter b] := by
  have hfirst : g / 64 ^ (3 - 0) % 64 = a := by omega
  have hsecond : g / 64 ^ (3 - 1) % 64 = b := by omega
  have hthird : g / 64 ^ (3 - 2) % 64 = c := by omega
  have hfourth : g / 64 ^ (3 - 3) % 64 = d := by omega
  have hnone : letters 0 g = [] := rfl
  rw [letters_succ, letters_succ, letters_succ, letters_succ, hnone, hfirst, hsecond, hthird,
    hfourth]
  exact ⟨rfl, rfl, rfl⟩

/-- The digits of a group. -/
theorem group_sextets {g : Nat} (hg : g < 2 ^ 24) :
    g / 64 ^ 3 < 64 ∧ g / 64 ^ 2 % 64 < 64 ∧ g / 64 % 64 < 64 ∧ g % 64 < 64 ∧
      g = ((g / 64 ^ 3 * 64 + g / 64 ^ 2 % 64) * 64 + g / 64 % 64) * 64 + g % 64 := by
  omega

theorem encode_length (data : Bytes) : (encode data).length = 4 * ((data.length + 2) / 3) := by
  induction data using encode.induct with
  | case1 x1 x2 x3 rest ih =>
      rw [encode, List.length_append, letters_length, ih]
      simp only [List.length_cons]
      omega
  | case2 x1 x2 => simp [encode]
  | case3 x1 => simp [encode]
  | case4 => rfl

/-! ## The language -/

/-- A text with the bytes it stands for and the number of its pad characters. -/
inductive Stands : Bytes → Bytes → Nat → Prop where
  | last {k g : Nat} (hk : 1 ≤ k ∧ k ≤ 3) (hg : g < 2 ^ 24) (hlow : g % 64 ^ (3 - k) = 0) :
      Stands (letters (k + 1) g ++ List.replicate (3 - k) pad) (octets k g) (3 - k)
  | cons {text bytes : Bytes} {pads g : Nat} (hg : g < 2 ^ 24) (htext : Stands text bytes pads) :
      Stands (letters 4 g ++ text) (octets 3 g ++ bytes) pads

/-- Letters up to at most two pad characters, in groups of four. -/
structure Padded (text : Bytes) : Prop where
  nonempty : text ≠ []
  groups : text.length % 4 = 0
  letters : ∃ body pads, text = body ++ List.replicate pads pad ∧ pads ≤ 2 ∧
    ∀ c ∈ body, c ∈ alphabet

variable {text bytes : Bytes} {pads : Nat}

theorem Stands.size (h : Stands text bytes pads) :
    4 ≤ text.length ∧ text.length % 4 = 0 ∧ bytes.length + pads = text.length / 4 * 3 ∧
      pads ≤ 2 := by
  induction h with
  | last hk =>
      simp only [List.length_append, letters_length, List.length_replicate, octets_length]
      omega
  | cons hg htext ih =>
      simp only [List.length_append, letters_length, octets_length]
      omega

theorem Stands.body (h : Stands text bytes pads) :
    ∃ body, text = body ++ List.replicate pads pad ∧ ∀ c ∈ body, c ∈ alphabet := by
  induction h with
  | last => exact ⟨_, rfl, letters_subset _ _⟩
  | @cons text bytes pads g hg htext ih =>
      obtain ⟨body, rfl, hbody⟩ := ih
      refine ⟨letters 4 g ++ body, (List.append_assoc _ _ _).symm, ?_⟩
      intro c hc
      obtain hc | hc := List.mem_append.mp hc
      · exact letters_subset _ _ c hc
      · exact hbody c hc

theorem Stands.padded (h : Stands text bytes pads) : Padded text := by
  obtain ⟨hlength, hgroups, -, hpads⟩ := h.size
  obtain ⟨body, rfl, hbody⟩ := h.body
  refine ⟨?_, hgroups, body, pads, rfl, hpads, hbody⟩
  rintro heq
  simp [heq] at hlength

theorem stands_of_letters : ∀ (body : Bytes) {pads : Nat}, (∀ c ∈ body, c ∈ alphabet) →
    pads ≤ 2 → 0 < body.length + pads → (body.length + pads) % 4 = 0 →
    ∃ bytes, Stands (body ++ List.replicate pads pad) bytes pads
  | c1 :: c2 :: c3 :: c4 :: rest, pads, hbody, hpads, hpos, hlength => by
      obtain ⟨v1, h1, rfl⟩ := exists_letter (hbody c1 (by simp))
      obtain ⟨v2, h2, rfl⟩ := exists_letter (hbody c2 (by simp))
      obtain ⟨v3, h3, rfl⟩ := exists_letter (hbody c3 (by simp))
      obtain ⟨v4, h4, rfl⟩ := exists_letter (hbody c4 (by simp))
      obtain ⟨g, hgroup⟩ : ∃ g, g = ((v1 * 64 + v2) * 64 + v3) * 64 + v4 := ⟨_, rfl⟩
      have hvalues := (letters_values h1 h2 h3 h4 hgroup).1
      have hg : g < 2 ^ 24 := by omega
      simp only [List.length_cons] at hlength
      by_cases hrest : 0 < rest.length + pads
      · obtain ⟨bytes, htext⟩ := stands_of_letters rest (fun c hc => hbody c (by simp [hc])) hpads
          hrest (by omega)
        refine ⟨octets 3 g ++ bytes, ?_⟩
        have hcons := Stands.cons hg htext
        rwa [hvalues] at hcons
      · obtain rfl : rest = [] := List.eq_nil_of_length_eq_zero (by omega)
        obtain rfl : pads = 0 := by omega
        have hlast := Stands.last (k := 3) ⟨by decide, by decide⟩ hg (Nat.mod_one g)
        rw [hvalues] at hlast
        exact ⟨_, hlast⟩
  | [c1, c2, c3], pads, hbody, hpads, _, hlength => by
      obtain ⟨v1, h1, rfl⟩ := exists_letter (hbody c1 (by simp))
      obtain ⟨v2, h2, rfl⟩ := exists_letter (hbody c2 (by simp))
      obtain ⟨v3, h3, rfl⟩ := exists_letter (hbody c3 (by simp))
      obtain ⟨g, hgroup⟩ : ∃ g, g = ((v1 * 64 + v2) * 64 + v3) * 64 + 0 := ⟨_, rfl⟩
      have hvalues := (letters_values h1 h2 h3 (by decide) hgroup).2.1
      obtain rfl : pads = 1 := by
        simp only [List.length_cons, List.length_nil] at hlength
        omega
      have hlast := Stands.last (k := 2) (g := g) ⟨by decide, by decide⟩ (by omega) (by omega)
      rw [hvalues] at hlast
      exact ⟨_, hlast⟩
  | [c1, c2], pads, hbody, hpads, _, hlength => by
      obtain ⟨v1, h1, rfl⟩ := exists_letter (hbody c1 (by simp))
      obtain ⟨v2, h2, rfl⟩ := exists_letter (hbody c2 (by simp))
      obtain ⟨g, hgroup⟩ : ∃ g, g = ((v1 * 64 + v2) * 64 + 0) * 64 + 0 := ⟨_, rfl⟩
      have hvalues := (letters_values h1 h2 (by decide) (by decide) hgroup).2.2
      obtain rfl : pads = 2 := by
        simp only [List.length_cons, List.length_nil] at hlength
        omega
      have hlast := Stands.last (k := 1) (g := g) ⟨by decide, by decide⟩ (by omega) (by omega)
      rw [hvalues] at hlast
      exact ⟨_, hlast⟩
  | [c1], pads, _, hpads, _, hlength => by
      simp only [List.length_cons, List.length_nil] at hlength
      omega
  | [], pads, _, hpads, hpos, hlength => by
      simp only [List.length_nil] at hlength hpos
      omega

theorem padded_iff : Padded text ↔ ∃ bytes pads, Stands text bytes pads := by
  constructor
  · rintro ⟨hne, hgroups, body, pads, rfl, hpads, hbody⟩
    rw [List.length_append, List.length_replicate] at hgroups
    have hpos : 0 < body.length + pads := by
      rw [← List.length_replicate (n := pads) (a := pad), ← List.length_append]
      exact List.length_pos_iff.mpr hne
    obtain ⟨bytes, hstands⟩ := stands_of_letters body hbody hpads hpos hgroups
    exact ⟨bytes, pads, hstands⟩
  · rintro ⟨bytes, pads, hstands⟩
    exact hstands.padded

theorem Stands.count_pad (h : Stands text bytes pads) : text.count pad = pads := by
  obtain ⟨body, rfl, hbody⟩ := h.body
  have hnone : body.count pad = 0 := List.count_eq_zero.mpr fun hmem =>
    pad_notin_alphabet (hbody pad hmem)
  rw [List.count_append, hnone, List.count_replicate_self, Nat.zero_add]

/-! ## Encoding -/

theorem exists_stands_encode {data : Bytes} (hdata : data ≠ []) :
    ∃ pads, Stands (encode data) data pads := by
  induction data using encode.induct with
  | case1 x1 x2 x3 rest ih =>
      have hoctets := (octets_group x1 x2 x3).1
      by_cases hrest : rest = []
      · subst hrest
        have hlast := Stands.last (k := 3) ⟨by decide, by decide⟩ (group_lt x1 x2 x3)
          (Nat.mod_one _)
        rw [hoctets] at hlast
        exact ⟨0, hlast⟩
      · obtain ⟨pads, htext⟩ := ih hrest
        have hcons := Stands.cons (group_lt x1 x2 x3) htext
        rw [hoctets] at hcons
        exact ⟨pads, hcons⟩
  | case2 x1 x2 =>
      have hlow : group x1 x2 0 % 64 ^ (3 - 2) = 0 := by
        unfold group
        change (_ + 0) % 64 ^ 1 = 0
        omega
      have hlast := Stands.last (k := 2) ⟨by decide, by decide⟩ (group_lt x1 x2 0) hlow
      rw [(octets_group x1 x2 0).2.1] at hlast
      exact ⟨1, hlast⟩
  | case3 x1 =>
      have hlow : group x1 0 0 % 64 ^ (3 - 1) = 0 := by
        unfold group
        change (_ + 0 * 2 ^ 8 + 0) % 64 ^ 2 = 0
        omega
      have hlast := Stands.last (k := 1) ⟨by decide, by decide⟩ (group_lt x1 0 0) hlow
      rw [(octets_group x1 0 0).2.2] at hlast
      exact ⟨2, hlast⟩
  | case4 => exact absurd rfl hdata

/-- The text with the bits of its last letter cleared that belong to no byte. -/
def clearUnused (text : Bytes) : Bytes :=
  let pads := text.count pad
  let body := text.take (text.length - pads)
  body.dropLast ++
    ((body.getLast?.bind letterNumber).map fun n => letter (n / 4 ^ pads * 4 ^ pads)).toList ++
    List.replicate pads pad

theorem clearUnused_eq {front : Bytes} {n : Nat} (hfront : ∀ c ∈ front, c ∈ alphabet)
    (hn : n < 64) :
    clearUnused (front ++ [letter n] ++ List.replicate pads pad) =
      front ++ [letter (n / 4 ^ pads * 4 ^ pads)] ++ List.replicate pads pad := by
  have hnone : (front ++ [letter n]).count pad = 0 := by
    refine List.count_eq_zero.mpr fun hmem => pad_notin_alphabet ?_
    obtain hmem | hmem := List.mem_append.mp hmem
    · exact hfront pad hmem
    · rw [List.mem_singleton.mp hmem]
      exact letter_mem hn
  unfold clearUnused
  rw [List.count_append, hnone, List.count_replicate_self, Nat.zero_add, List.length_append,
    List.length_replicate]
  dsimp only
  rw [Nat.add_sub_cancel, List.take_left, List.dropLast_concat, List.getLast?_concat,
    Option.bind_some, letterNumber_letter hn]
  rfl

theorem encode_octets {g : Nat} (hg : g < 2 ^ 24) (rest : Bytes) :
    encode (octets 3 g ++ rest) = letters 4 g ++ encode rest := by
  have hoctets : octets 3 g = [UInt8.ofNat (g / 256 ^ 2), UInt8.ofNat (g / 256 ^ 1),
      UInt8.ofNat (g / 256 ^ 0)] := rfl
  rw [hoctets, List.cons_append, List.cons_append, List.cons_append, List.nil_append, encode,
    group_octets hg]

/-- Encoding the bytes gives the text back, but for the bits that belong to none. -/
theorem Stands.encode_split (h : Stands text bytes pads) :
    ∃ front n, n < 64 ∧ (∀ c ∈ front, c ∈ alphabet) ∧
      text = front ++ [letter n] ++ List.replicate pads pad ∧
      encode bytes = front ++ [letter (n / 4 ^ pads * 4 ^ pads)] ++ List.replicate pads pad := by
  induction h with
  | @last k g hk hg hlow =>
      refine ⟨letters k g, g / 64 ^ (3 - k) % 64, Nat.mod_lt _ (by decide), letters_subset _ _,
        by rw [letters_succ], ?_⟩
      obtain rfl | rfl | rfl : k = 1 ∨ k = 2 ∨ k = 3 := by omega
      · have hencode : encode (octets 1 g) = letters 2 (g / 65536 * 65536) ++ [pad, pad] := by
          rw [← group_first hg]
          rfl
        have hfront : letters 1 (g / 65536 * 65536) = letters 1 g := by
          refine letters_congr fun i hi => ?_
          obtain rfl : i = 0 := by omega
          omega
        have hlast : g / 65536 * 65536 / 64 ^ (3 - 1) % 64 =
            g / 64 ^ (3 - 1) % 64 / 4 ^ (3 - 1) * 4 ^ (3 - 1) := by
          omega
        rw [hencode, letters_succ, hfront, hlast]
        rfl
      · have hencode : encode (octets 2 g) = letters 3 (g / 256 * 256) ++ [pad] := by
          rw [← group_second hg]
          rfl
        have hfront : letters 2 (g / 256 * 256) = letters 2 g := by
          refine letters_congr fun i hi => ?_
          obtain rfl | rfl : i = 0 ∨ i = 1 := by omega
          · omega
          · omega
        have hlast : g / 256 * 256 / 64 ^ (3 - 2) % 64 =
            g / 64 ^ (3 - 2) % 64 / 4 ^ (3 - 2) * 4 ^ (3 - 2) := by
          omega
        rw [hencode, letters_succ, hfront, hlast]
        rfl
      · have hencode := encode_octets hg []
        rw [List.append_nil] at hencode
        rw [hencode, letters_succ]
        simp [encode]
  | @cons text bytes pads g hg htext ih =>
      obtain ⟨front, n, hn, hfront, rfl, hencode⟩ := ih
      refine ⟨letters 4 g ++ front, n, hn, ?_, by simp only [List.append_assoc], ?_⟩
      · intro c hc
        obtain hc | hc := List.mem_append.mp hc
        · exact letters_subset _ _ c hc
        · exact hfront c hc
      · rw [encode_octets hg, hencode]
        simp only [List.append_assoc]

theorem Stands.encode_eq (h : Stands text bytes pads) : encode bytes = clearUnused text := by
  obtain ⟨front, n, hn, hfront, rfl, hencode⟩ := h.encode_split
  rw [hencode, clearUnused_eq hfront hn]

end Base64
