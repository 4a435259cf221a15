import Librtsp.HeaderText
import Librtsp.PatternSearch

/-!
# The end of a header in a buffer

`find_double_newline` looks for four blank lines one after the other, each over the whole
buffer.  It reads no byte behind the given length and reports a blank line exactly when one
stands there; the one it reports is the earliest of the buffer only when no blank line that
is looked for before it occurs.  Bytes that are appended then move the end of the header,
unless the earliest blank line is the one that is looked for first.
-/

namespace Librtsp

open CString PatternSearch

/-- The blank lines in the order in which they are looked for. -/
def newlines : List Bytes := [crlfCrlf, lfCrlfCr, lfLf, crCr]

/-! ## The search, byte by byte -/

/-- A read behind the given length. -/
structure ReadBeyond where
  offset : Nat
  deriving DecidableEq, Repr

/-- `s[i]` -/
def readByte (s : Bytes) (i : Nat) : Except ReadBeyond UInt8 :=
  match s[i]? with
  | some b => .ok b
  | none => .error ⟨i⟩

/-- `strncmp(&s[i], find, strlen(find)) == 0` -/
def strncmpRead (s : Bytes) : Nat → Bytes → Except ReadBeyond Bool
  | _, [] => .ok true
  | i, c :: find => do
      let b ← readByte s i
      if b ≠ c then .ok false
      else if b = 0 then .ok true
      else strncmpRead s (i + 1) find

/-- The loop of `rtsp_strnstr` at offset `i`, with `slen` bytes left. -/
def strnstrRead (s : Bytes) (c : UInt8) (find : Bytes) :
    Nat → Nat → Except ReadBeyond (Option Nat)
  | 0, _ => .ok none
  | slen + 1, i =>
      if find.length < slen + 1 then do
        let sc ← readByte s i
        let equal ← if sc = c then strncmpRead s (i + 1) find else .ok false
        if equal then .ok (some i)
        else if sc = 0 then .ok none
        else strnstrRead s c find slen (i + 1)
      else .ok none

def rtspStrnstrRead (s find : Bytes) : Except ReadBeyond (Option Nat) :=
  match find with
  | [] => .ok (some 0)
  | c :: find => strnstrRead s c find s.length 0

def newlineRead (s : Bytes) : List Bytes → Except ReadBeyond (Option (Nat × Nat))
  | [] => .ok none
  | newline :: rest => do
      match ← rtspStrnstrRead s newline with
      | some p => .ok (some (p, newline.length))
      | none => newlineRead s rest

/-- `find_double_newline` with every read of the buffer. -/
def findDoubleNewlineRead (s : Bytes) : Except ReadBeyond (Option (Nat × Nat)) :=
  newlineRead s newlines

theorem readByte_append (before s : Bytes) (b : UInt8) :
    readByte (before ++ b :: s) before.length = .ok b := by
  unfold readByte
  rw [List.getElem?_append_right (Nat.le_refl _), Nat.sub_self, List.getElem?_cons_zero]

theorem strncmpRead_eq {find s : Bytes} (before : Bytes) (hfind : 0 ∉ find)
    (hlength : find.length ≤ s.length) :
    strncmpRead (before ++ s) before.length find = .ok (strncmpEq s find find.length) := by
  induction find generalizing before s with
  | nil => simp [strncmpRead, strncmpEq]
  | cons c find ih =>
      cases s with
      | nil => simp at hlength
      | cons b s =>
          rw [strncmpRead, readByte_append, except_ok_bind]
          rw [List.mem_cons, not_or] at hfind
          by_cases hb : b = c
          · have hne : b ≠ 0 := fun hzero => hfind.1 (hzero ▸ hb)
            have hrest := ih (before ++ [b]) hfind.2 (Nat.le_of_succ_le_succ hlength)
            rw [List.append_assoc, List.singleton_append, List.length_append,
              List.length_singleton] at hrest
            rw [if_neg (not_not.mpr hb), if_neg hne, hrest, hb]
            simp [strncmpEq]
          · rw [if_pos hb]
            simp [strncmpEq, hb]

theorem strnstrRead_eq {c : UInt8} {find s : Bytes} (before : Bytes) (hfind : 0 ∉ find) :
    strnstrRead (before ++ s) c find s.length before.length =
      .ok (strnstrFrom c find before.length s) := by
  induction s generalizing before with
  | nil => rfl
  | cons sc s ih =>
      rw [List.length_cons, strnstrRead, strnstrFrom, List.length_cons]
      split
      next hlength =>
        rw [readByte_append, except_ok_bind]
        have hrest := ih (before ++ [sc])
        have hcompare := strncmpRead_eq (before ++ [sc]) hfind (Nat.le_of_lt_succ hlength)
        rw [List.append_assoc, List.singleton_append, List.length_append,
          List.length_singleton] at hrest hcompare
        by_cases hsc : sc = c
        · rw [if_pos hsc, hcompare, except_ok_bind]
          dsimp only
          rw [hrest]
          by_cases hequal : strncmpEq s find find.length = true
          · rw [if_pos hequal, if_pos ⟨hsc, hequal⟩]
          · have hmatch : ¬(sc = c ∧ strncmpEq s find find.length = true) := fun h => hequal h.2
            rw [if_neg hequal, if_neg hmatch]
            split <;> rfl
        · rw [if_neg hsc, except_ok_bind]
          dsimp only
          have hmatch : ¬(sc = c ∧ strncmpEq s find find.length = true) := fun h => hsc h.1
          rw [if_neg Bool.false_ne_true, hrest, if_neg hmatch]
          split <;> rfl
      next => rfl

/-- Nothing is read behind the given length. -/
theorem findDoubleNewlineRead_eq (s : Bytes) :
    findDoubleNewlineRead s = .ok (findDoubleNewline s) := by
  have hsearch : ∀ newline ∈ newlines, rtspStrnstrRead s newline = .ok (rtspStrnstr s newline) := by
    have hnul : ∀ newline ∈ newlines, 0 ∉ newline := by decide
    intro newline hmem
    cases newline with
    | nil => rfl
    | cons c find =>
        exact strnstrRead_eq [] fun h => hnul _ hmem (List.mem_cons_of_mem c h)
  unfold findDoubleNewlineRead findDoubleNewline newlines
  simp only [newlineRead, hsearch crlfCrlf (by decide), hsearch lfCrlfCr (by decide),
    hsearch lfLf (by decide), hsearch crCr (by decide), except_ok_bind]
  cases rtspStrnstr s crlfCrlf with
  | some p => rfl
  | none =>
      cases rtspStrnstr s lfCrlfCr with
      | some p => rfl
      | none =>
          cases rtspStrnstr s lfLf with
          | some p => rfl
          | none =>
              cases rtspStrnstr s crCr with
              | some p => rfl
              | none => rfl

/-! ## The search as a search for patterns -/

theorem newlines_apart : Apart newlines := by
  have hshort : ∀ a ∈ newlines, ∀ b ∈ newlines, a.take 2 = b.take 2 → a = b := by decide
  have hlength : ∀ a ∈ newlines, 2 ≤ a.length := by decide
  have htake : ∀ a ∈ newlines, ∀ s, a <+: s → s.take 2 = a.take 2 := by
    rintro a ha s ⟨rest, rfl⟩
    rw [List.take_append_of_le_length (hlength a ha)]
  intro a ha b hb s has hbs
  exact hshort a ha b hb ((htake a ha s has).symm.trans (htake b hb s hbs))

theorem strnstrFrom_eq {c : UInt8} {find s : Bytes} (hnul : 0 ∉ s) (i : Nat) :
    strnstrFrom c find i s = (earliest [c :: find] s).map fun found => found.1 + i := by
  induction s generalizing i with
  | nil => rfl
  | cons sc s ih =>
      rw [List.mem_cons, not_or] at hnul
      rw [strnstrFrom, earliest]
      split
      next hlength =>
        by_cases hmatch : sc = c ∧ strncmpEq s find find.length = true
        · have hbegins : (c :: find).isPrefixOf (sc :: s) = true := by
            have htake : s.take find.length = find := by simpa [strncmpEq] using hmatch.2
            rw [List.isPrefixOf_iff_prefix, hmatch.1]
            exact List.cons_prefix_cons.mpr ⟨rfl, List.prefix_iff_eq_take.mpr htake.symm⟩
          rw [if_pos hmatch]
          simp [hbegins]
        · have hbegins : ¬(c :: find) <+: (sc :: s) := by
            intro h
            obtain ⟨hc, hfind⟩ := List.cons_prefix_cons.mp h
            refine hmatch ⟨hc.symm, ?_⟩
            simpa [strncmpEq] using (List.prefix_iff_eq_take.mp hfind).symm
          have hnone : [c :: find].find? (·.isPrefixOf (sc :: s)) = none := by
            rw [find_prefix_none]
            simpa using hbegins
          rw [if_neg hmatch, if_neg (Ne.symm hnul.1), hnone, ih hnul.2]
          cases earliest [c :: find] s with
          | none => rfl
          | some found => simp only [Option.map_some]; congr 1; omega
      next hlength =>
        have hnone : earliest [c :: find] (sc :: s) = none := by
          refine earliest_none_iff.mpr fun p pat hpat hoccurs => ?_
          rw [List.mem_singleton.mp hpat] at hoccurs
          have hbound := hoccurs.bound (List.cons_ne_nil c find)
          simp only [List.length_cons] at hbound hlength
          omega
        rw [earliest] at hnone
        rw [hnone]
        rfl

theorem rtspStrnstr_eq {s find : Bytes} (hnul : 0 ∉ s) (hne : find ≠ []) :
    rtspStrnstr s find = (earliest [find] s).map Prod.fst := by
  cases find with
  | nil => exact absurd rfl hne
  | cons c find => exact strnstrFrom_eq hnul 0

/-- The blank lines are looked for one after the other. -/
theorem findDoubleNewline_eq {s : Bytes} (hnul : 0 ∉ s) :
    findDoubleNewline s =
      (inOrder newlines s).map fun found => (found.1, found.2.length) := by
  have hsearch : ∀ newline ∈ newlines,
      rtspStrnstr s newline = (earliest [newline] s).map Prod.fst := by
    have hne : ∀ newline ∈ newlines, newline ≠ [] := by decide
    exact fun newline hmem => rtspStrnstr_eq hnul (hne newline hmem)
  have hpat : ∀ {newline : Bytes} {found : Nat × Bytes},
      earliest [newline] s = some found → found.2 = newline := fun h =>
    List.mem_singleton.mp (earliest_some h).1
  unfold findDoubleNewline inOrder newlines
  rw [hsearch crlfCrlf (by decide), hsearch lfCrlfCr (by decide), hsearch lfLf (by decide),
    hsearch crCr (by decide)]
  simp only [List.findSome?_cons, List.findSome?_nil]
  cases hcrlf : earliest [crlfCrlf] s with
  | some found => simp [hpat hcrlf, crlfCrlf]
  | none =>
      cases hlfcr : earliest [lfCrlfCr] s with
      | some found => simp [hpat hlfcr, lfCrlfCr]
      | none =>
          cases hlf : earliest [lfLf] s with
          | some found => simp [hpat hlf, lfLf]
          | none =>
              cases hcr : earliest [crCr] s with
              | some found => simp [hpat hcr, crCr]
              | none => rfl

/-! ## The first blank line -/

/-- The search reports a blank line when there is one, and no other begins before it. -/
structure FindsFirst (s : Bytes) : Prop where
  within : findDoubleNewlineRead s = .ok (findDoubleNewline s)
  reported : (findDoubleNewline s).isSome ↔ ∃ newline ∈ newlines, ∃ p, Occurs newline s p
  first : ∀ p n, findDoubleNewline s = some (p, n) →
    (∃ newline ∈ newlines, Occurs newline s p ∧ n = newline.length) ∧
      ∀ q < p, ∀ newline ∈ newlines, ¬Occurs newline s q

/-- Bytes behind the end of the header do not move it. -/
def KeepsEnd (s : Bytes) : Prop :=
  ∀ found, findDoubleNewline s = some found →
    ∀ more, findDoubleNewline (s ++ more) = some found

theorem reported_iff {s : Bytes} (hnul : 0 ∉ s) :
    (findDoubleNewline s).isSome ↔ ∃ newline ∈ newlines, ∃ p, Occurs newline s p := by
  rw [findDoubleNewline_eq hnul, Option.isSome_map, ← Option.ne_none_iff_isSome, Ne,
    inOrder_none_iff]
  constructor
  · intro h
    by_contra hnone
    exact h fun p newline hmem hoccurs => hnone ⟨newline, hmem, p, hoccurs⟩
  · rintro ⟨newline, hmem, p, hoccurs⟩ h
    exact h p newline hmem hoccurs

/-- The earliest blank line is the one reported exactly when none that is looked for before
it occurs at all. -/
theorem findsFirst_iff {s : Bytes} (hnul : 0 ∉ s) :
    FindsFirst s ↔
      ∀ found ∈ earliest newlines s, ∀ newline ∈ newlines.takeWhile (· ≠ found.2), ∀ q,
        ¬Occurs newline s q := by
  rw [← inOrder_eq_earliest_iff]
  constructor
  · intro h
    cases hfound : inOrder newlines s with
    | none => exact (earliest_none_iff.mpr (inOrder_none_iff.mp hfound)).symm
    | some found =>
        obtain ⟨p, newline⟩ := found
        obtain ⟨hmem, hone, -⟩ := inOrder_some hfound
        have hfirst := h.first p newline.length (by rw [findDoubleNewline_eq hnul, hfound]; rfl)
        exact ((earliest_eq_some_iff newlines_apart).mpr
          ⟨hmem, (earliest_some hone).2.1, hfirst.2⟩).symm
  · intro h
    refine ⟨findDoubleNewlineRead_eq s, reported_iff hnul, fun p n hfind => ?_⟩
    rw [findDoubleNewline_eq hnul, h] at hfind
    obtain ⟨⟨p', newline⟩, hearliest, heq⟩ := Option.map_eq_some_iff.mp hfind
    cases heq
    obtain ⟨hmem, hoccurs, hbefore⟩ := earliest_some hearliest
    exact ⟨⟨newline, hmem, hoccurs, rfl⟩, hbefore⟩

/-- The end of a header is the first blank line and stays there exactly when the earliest
blank line, if there is one, is the one that is looked for first. -/
theorem headerEnd_iff {s : Bytes} (hnul : 0 ∉ s) :
    FindsFirst s ∧ KeepsEnd s ↔ ∀ found ∈ earliest newlines s, found.2 = crlfCrlf := by
  constructor
  · rintro ⟨hfirst, hkeeps⟩ ⟨p, newline⟩ hearliest
    obtain ⟨hmem, hoccurs, -⟩ := earliest_some hearliest
    have hfind : findDoubleNewline s = some (p, newline.length) := by
      rw [findDoubleNewline_eq hnul,
        inOrder_eq_earliest_iff.mpr ((findsFirst_iff hnul).mp hfirst), hearliest]
      rfl
    have hnul' : 0 ∉ s ++ crlfCrlf := by
      rw [List.mem_append, not_or]
      exact ⟨hnul, by decide⟩
    have hlonger := hkeeps _ hfind crlfCrlf
    rw [findDoubleNewline_eq hnul'] at hlonger
    obtain ⟨⟨p', newline'⟩, horder, heq⟩ := Option.map_eq_some_iff.mp hlonger
    obtain rfl : p' = p := congrArg Prod.fst heq
    obtain ⟨hmem', hone, hnone⟩ := inOrder_some horder
    have hcrlf : Occurs crlfCrlf (s ++ (crlfCrlf ++ [])) s.length := occurs_of_append
    rw [List.append_nil] at hcrlf
    have hbound := hoccurs.bound (show newline ≠ [] by rintro rfl; revert hmem; decide)
    have hsame : newline = newline' :=
      newlines_apart newline hmem newline' hmem' _
        (hoccurs.append (by omega) crlfCrlf) (earliest_some hone).2.1
    by_contra hother
    have hlooked : crlfCrlf ∈ newlines.takeWhile (· ≠ newline') := by
      rw [← hsame, newlines, List.takeWhile_cons_of_pos (by simpa using Ne.symm hother)]
      exact List.mem_cons_self
    exact hnone crlfCrlf hlooked s.length hcrlf
  · intro h
    have hfirst : FindsFirst s := by
      refine (findsFirst_iff hnul).mpr fun found hfound newline hmem => ?_
      rw [h found hfound] at hmem
      exact absurd hmem (by decide +revert)
    refine ⟨hfirst, fun found hfind more => ?_⟩
    rw [findDoubleNewline_eq hnul,
      inOrder_eq_earliest_iff.mpr ((findsFirst_iff hnul).mp hfirst)] at hfind
    obtain ⟨⟨p, newline⟩, hearliest, rfl⟩ := Option.map_eq_some_iff.mp hfind
    obtain rfl : newline = crlfCrlf := h _ hearliest
    obtain ⟨hmem, hoccurs, hbefore⟩ := earliest_some hearliest
    have hone : earliest [crlfCrlf] s = some (p, crlfCrlf) :=
      (earliest_eq_some_iff (apart_single crlfCrlf)).mpr
        ⟨List.mem_cons_self, hoccurs, fun q hq other hother =>
          hbefore q hq other (List.mem_singleton.mp hother ▸ hmem)⟩
    have hstrnstr : rtspStrnstr s crlfCrlf = some p := by
      rw [rtspStrnstr_eq hnul (by decide), hone]
      rfl
    unfold findDoubleNewline
    rw [show rtspStrnstr (s ++ more) crlfCrlf = some p from strnstrFrom_append hstrnstr more]
    rfl

/-- A blank line of two line feeds is passed over for a later one. -/
theorem lineFeeds_passedOver :
    0 ∉ ascii "a\n\nb\r\n\r\n" ∧ findDoubleNewline (ascii "a\n\nb\r\n\r\n") = some (4, 4) ∧
      Occurs lfLf (ascii "a\n\nb\r\n\r\n") 1 ∧ ¬FindsFirst (ascii "a\n\nb\r\n\r\n") := by
  have hfind : findDoubleNewline (ascii "a\n\nb\r\n\r\n") = some (4, 4) := by decide
  have hoccurs : Occurs lfLf (ascii "a\n\nb\r\n\r\n") 1 := ⟨ascii "b\r\n\r\n", by decide⟩
  refine ⟨by decide, hfind, hoccurs, fun h => ?_⟩
  exact (h.first 4 4 hfind).2 1 (by decide) lfLf (by decide) hoccurs

/-- The condition holds of a buffer with one message. -/
theorem crlfHeader_end :
    0 ∉ ascii "a\r\n\r\nb" ∧
      (FindsFirst (ascii "a\r\n\r\nb") ∧ KeepsEnd (ascii "a\r\n\r\nb") ↔
        ∀ found ∈ earliest newlines (ascii "a\r\n\r\nb"), found.2 = crlfCrlf) :=
  ⟨by decide, headerEnd_iff (by decide)⟩

end Librtsp
