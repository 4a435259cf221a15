import Librtsp.RangeText

/-!
# Writing a range and reading it back

The writer keeps thirty-two bits of a time.  Whole seconds that fit are read back as
they were, in the notation with hours and minutes as in the one without.
-/

namespace Librtsp

open CString

/-- What the floating point routines do with the text of a whole number below
`2 ^ 24`, which a `float` holds exactly, and with no microseconds. -/
structure Platform.ExactWhole (P : Platform) : Prop where
  whole : ∀ {text : Bytes} {n : Nat}, Spells 10 text n → n < 2 ^ 24 →
    P.floatToUInt64 (P.atof text) = UInt64.ofNat n
  micros : ∀ {text : Bytes} {n : Nat}, Spells 10 text n → n < 2 ^ 24 →
    P.floatMicros (P.atof text) (UInt64.ofNat n) = 0
  millis : P.formatMillis 0 = []

/-- A time in whole seconds, the time of now, or an open end. -/
inductive NptForm : RtspTime → Prop where
  | time (sec : UInt64) : NptForm { format := .npt, sec }
  | now : NptForm { format := .npt, now := true }
  | infinity : NptForm { format := .npt, infinity := true }

structure NptRange (range : RtspRange) : Prop where
  start : NptForm range.start
  stop : NptForm range.stop ∨ range.stop.format = .unknown
  time : range.time = 0

/-- The finite times of a range have at most thirty-two bits. -/
def FitsSeconds (range : RtspRange) : Prop :=
  range.start.sec.toNat < 2 ^ 32 ∧
    (range.stop.format = .npt → range.stop.sec.toNat < 2 ^ 32)

theorem NptForm.format {time : RtspTime} (h : NptForm time) : time.format = .npt := by
  cases h <;> rfl

/-! ## The text of a time -/

def secondsText (sec : Nat) : Bytes :=
  if sec < 60 then formatNat sec
  else formatNat (sec / 3600) ++ ascii ":" ++ format02 (sec / 60 % 60) ++ ascii ":" ++
    format02 (sec % 60)

def nptText (time : RtspTime) : Bytes :=
  if time.now then ascii "now"
  else if time.infinity then []
  else secondsText (time.sec.toNat % 2 ^ 32)

theorem spells_format02 (n : Nat) : Spells 10 (format02 n) n := by
  unfold format02
  split
  next => exact (spells_formatNat n).zero (by decide)
  next => exact spells_formatNat n

theorem format02_length {n : Nat} (hn : n < 100) : (format02 n).length ≤ 2 := by
  unfold format02
  split
  next hlt =>
    have hlength := (formatNat_length_le_iff (n := n) (k := 1) (by decide)).mpr (by omega)
    rw [List.length_cons]
    omega
  next => exact (formatNat_length_le_iff (by decide)).mpr (by omega)

/-- The separators of a range are no digits. -/
theorem separator_notin {text : Bytes} {n : Nat} (htext : Spells 10 text n) {b : UInt8}
    (hb : digitVal 10 b = none) : b ∉ text := by
  intro hmem
  have hdigit := htext.digits b hmem
  rw [hb] at hdigit
  cases hdigit

theorem separator_notin_secondsText (sec : Nat) {b : UInt8} (hb : digitVal 10 b = none)
    (hcolon : b ≠ 0x3a) : b ∉ secondsText sec := by
  have hascii : b ∉ ascii ":" := by
    simpa [ascii] using hcolon
  unfold secondsText
  split
  next => exact separator_notin (spells_formatNat _) hb
  next =>
    simp only [List.mem_append, not_or]
    exact ⟨⟨⟨⟨separator_notin (spells_formatNat _) hb, hascii⟩,
      separator_notin (spells_format02 _) hb⟩, hascii⟩, separator_notin (spells_format02 _) hb⟩

theorem secondsText_length {sec : Nat} (hsec : sec < 2 ^ 32) : (secondsText sec).length ≤ 13 := by
  unfold secondsText
  split
  next hlt =>
    have hlength := (formatNat_length_le_iff (n := sec) (k := 2) (by decide)).mpr (by omega)
    omega
  next =>
    have hhrs := (formatNat_length_le_iff (n := sec / 3600) (k := 7) (by decide)).mpr (by omega)
    have hmin := format02_length (n := sec / 60 % 60) (by omega)
    have hsec := format02_length (n := sec % 60) (by omega)
    have hcolon : (ascii ":").length = 1 := rfl
    simp only [List.length_append, hcolon]
    omega

/-- The arithmetic of the writer does not wrap. -/
theorem clock_toNat (v : UInt32) :
    (v / (60 * 60)).toNat = v.toNat / 3600 ∧
      (v / 60 - v / (60 * 60) * 60).toNat = v.toNat / 60 % 60 ∧
      (v - (v / 60 - v / (60 * 60) * 60) * 60 - v / (60 * 60) * 60 * 60).toNat =
        v.toNat % 60 := by
  have hlt : v.toNat < 2 ^ 32 := v.toNat_lt
  have hhrs : (v / (60 * 60)).toNat = v.toNat / 3600 := UInt32.toNat_div v _
  have hdiv : (v / 60).toNat = v.toNat / 60 := UInt32.toNat_div v _
  have hmul : (v / (60 * 60) * 60).toNat = v.toNat / 3600 * 60 := by
    rw [UInt32.toNat_mul, hhrs]
    exact Nat.mod_eq_of_lt (by change v.toNat / 3600 * 60 < 2 ^ 32; omega)
  have hmul' : (v / (60 * 60) * 60 * 60).toNat = v.toNat / 3600 * 60 * 60 := by
    rw [UInt32.toNat_mul, hmul]
    exact Nat.mod_eq_of_lt (by change v.toNat / 3600 * 60 * 60 < 2 ^ 32; omega)
  have hmin : (v / 60 - v / (60 * 60) * 60).toNat = v.toNat / 60 % 60 := by
    rw [UInt32.toNat_sub_of_le _ _ (by rw [UInt32.le_iff_toNat_le]; omega), hmul, hdiv]
    omega
  have hmins : ((v / 60 - v / (60 * 60) * 60) * 60).toNat = v.toNat / 60 % 60 * 60 := by
    rw [UInt32.toNat_mul, hmin]
    exact Nat.mod_eq_of_lt (by change v.toNat / 60 % 60 * 60 < 2 ^ 32; omega)
  have hrest : (v - (v / 60 - v / (60 * 60) * 60) * 60).toNat =
      v.toNat - v.toNat / 60 % 60 * 60 := by
    rw [UInt32.toNat_sub_of_le _ _ (by rw [UInt32.le_iff_toNat_le]; omega), hmins]
  refine ⟨hhrs, hmin, ?_⟩
  rw [UInt32.toNat_sub_of_le _ _ (by rw [UInt32.le_iff_toNat_le]; omega), hrest, hmul']
  omega

/-- Neither does the arithmetic of the reader. -/
theorem clock_sum {v : Nat} (hv : v < 2 ^ 32) :
    UInt64.ofNat (v % 60) + (UInt32.ofNat (v / 60 % 60) * 60 +
      UInt32.ofNat (v / 3600) * 60 * 60).toUInt64 = UInt64.ofNat v := by
  have hhrs : (UInt32.ofNat (v / 3600) * 60 * 60).toNat = v / 3600 * 60 * 60 := by
    simp only [UInt32.toNat_mul, UInt32.toNat_ofNat']
    change v / 3600 % 2 ^ 32 * 60 % 2 ^ 32 * 60 % 2 ^ 32 = _
    omega
  have hmin : (UInt32.ofNat (v / 60 % 60) * 60).toNat = v / 60 % 60 * 60 := by
    simp only [UInt32.toNat_mul, UInt32.toNat_ofNat']
    change v / 60 % 60 % 2 ^ 32 * 60 % 2 ^ 32 = _
    omega
  have hdiv : v / 3600 = v / 60 / 60 := (Nat.div_div_eq_div_mul v 60 60).symm
  have hsum : v / 60 % 60 * 60 + v / 3600 * 60 * 60 = v - v % 60 := by omega
  apply UInt64.toNat_inj.mp
  rw [UInt64.toNat_add, UInt32.toNat_toUInt64, UInt32.toNat_add, hhrs, hmin, hsum,
    UInt64.toNat_ofNat', UInt64.toNat_ofNat', Nat.mod_eq_of_lt (show v - v % 60 < 2 ^ 32 by omega),
    Nat.mod_eq_of_lt (show v % 60 < 2 ^ 64 by omega), Nat.add_sub_of_le (Nat.mod_le v 60)]

section Platform

variable {P : Platform}

theorem rtspTimeWrite_whole (hP : P.ExactWhole) (sec : UInt64) :
    rtspTimeWrite P { format := .npt, sec } = [.ok (secondsText (sec.toNat % 2 ^ 32))] := by
  have hsum : (sec + ((0 : UInt32) / 1000000).toUInt64).toUInt32 = sec.toUInt32 := by
    rw [show ((0 : UInt32) / 1000000).toUInt64 = 0 from rfl, UInt64.add_zero]
  have hvalue : sec.toUInt32.toNat = sec.toNat % 2 ^ 32 := UInt64.toNat_toUInt32 sec
  obtain ⟨hhrs, hmin, hsec⟩ := clock_toNat sec.toUInt32
  unfold rtspTimeWrite secondsText
  dsimp only
  rw [if_neg (by simp), if_neg (by simp), hsum, hP.millis, ← hvalue, hhrs, hmin, hsec,
    List.append_nil, List.append_nil]
  by_cases hshort : sec.toUInt32.toNat < 60
  · rw [if_pos hshort, if_neg, Nat.mod_eq_of_lt hshort]
    rw [UInt32.lt_iff_toNat_lt, UInt32.lt_iff_toNat_lt, hhrs, hmin]
    change ¬(0 < _ ∨ 0 < _)
    omega
  · rw [if_neg hshort, if_pos]
    rw [UInt32.lt_iff_toNat_lt, UInt32.lt_iff_toNat_lt, hhrs, hmin]
    change 0 < _ ∨ 0 < _
    omega

/-- A form that is not an open end is printed as one text. -/
theorem NptForm.written (hP : P.ExactWhole) {time : RtspTime} (h : NptForm time) :
    printed (if time.infinity then [] else rtspTimeWrite P time) = some (nptText time) := by
  cases h with
  | time sec =>
      rw [if_neg (by simp), rtspTimeWrite_whole hP]
      simp [nptText]
  | now => rfl
  | infinity => rfl

/-! ## Reading a time back -/

/-- The time with the seconds that are printed. -/
def RtspTime.shortened (time : RtspTime) : RtspTime :=
  { time with sec := UInt64.ofNat (time.sec.toNat % 2 ^ 32) }

theorem digit_ne_n {text : Bytes} {n : Nat} (htext : Spells 10 text n) : text ≠ ascii "now" := by
  rintro rfl
  exact separator_notin htext (show digitVal 10 0x6e = none by decide) (by decide +kernel)

theorem nptRead_secondsText (hP : P.ExactWhole) {v : Nat} (hv : v < 2 ^ 32) :
    nptRead P (secondsText v) = .ok { format := .npt, sec := UInt64.ofNat v } := by
  have hcolon : digitVal 10 0x3a = none := by decide
  unfold nptRead rtspTimeRead secondsText
  by_cases hshort : v < 60
  · have hspells := spells_formatNat v
    rw [if_pos hshort, if_neg hspells.nonempty]
    dsimp only
    rw [strchr_none (separator_notin hspells hcolon)]
    dsimp only
    rw [if_neg (digit_ne_n hspells), hP.whole hspells (by omega), hP.micros hspells (by omega)]
  · have hhrs := spells_formatNat (v / 3600)
    have hmin := spells_format02 (v / 60 % 60)
    have hsec := spells_format02 (v % 60)
    have hne : ∀ rest : Bytes, formatNat (v / 3600) ++ rest ≠ [] := by
      intro rest
      simp [hhrs.nonempty]
    rw [if_neg hshort, List.append_assoc, List.append_assoc, List.append_assoc, if_neg (hne _)]
    dsimp only
    have hcut : strchr 0x3a (formatNat (v / 3600) ++ (ascii ":" ++ (format02 (v / 60 % 60) ++
        (ascii ":" ++ format02 (v % 60))))) =
          some (formatNat (v / 3600), format02 (v / 60 % 60) ++ (ascii ":" ++ format02 (v % 60))) :=
      strchr_append (separator_notin hhrs hcolon) _
    have hcut' : strchr 0x3a (format02 (v / 60 % 60) ++ (ascii ":" ++ format02 (v % 60))) =
        some (format02 (v / 60 % 60), format02 (v % 60)) :=
      strchr_append (separator_notin hmin hcolon) _
    rw [hcut]
    dsimp only
    rw [hcut']
    dsimp only
    have hatoi := atoi_spells hhrs pastDigits_nil (by omega)
    have hatoi' := atoi_spells hmin pastDigits_nil (by omega)
    rw [List.append_nil] at hatoi hatoi'
    have hlow : (UInt64.ofNat (v % 60)).toUInt32.toUInt64 = UInt64.ofNat (v % 60) := by
      apply UInt64.toNat_inj.mp
      rw [UInt32.toNat_toUInt64, UInt64.toNat_toUInt32, UInt64.toNat_ofNat']
      omega
    rw [hatoi, hatoi', uint32_ofInt_int32, uint32_ofInt_int32, hP.whole hsec (by omega),
      clock_sum hv, hlow, hP.micros hsec (by omega)]

example : secondsText 3661 = ascii "1:01:01" := by
  decide +kernel

theorem NptForm.read (hP : P.ExactWhole) {time : RtspTime} (h : NptForm time) :
    nptRead P (nptText time) = .ok time.shortened := by
  cases h with
  | time sec => exact nptRead_secondsText hP (Nat.mod_lt _ (by decide))
  | now => rfl
  | infinity => rfl

theorem NptForm.cmp_iff {time : RtspTime} (h : NptForm time) :
    rtspTimeCmp time time.shortened ↔ time.sec.toNat < 2 ^ 32 := by
  have hlt : time.sec.toNat < 2 ^ 64 := time.sec.toNat_lt
  have hsame : time.sec = UInt64.ofNat (time.sec.toNat % 2 ^ 32) ↔ time.sec.toNat < 2 ^ 32 := by
    rw [← UInt64.toNat_inj, UInt64.toNat_ofNat']
    omega
  rw [← hsame]
  simp [rtspTimeCmp, RtspTime.shortened, h.format]

/-! ## The text of a range -/

def stopParts (stop : RtspTime) : Option Bytes :=
  if stop.format = .npt then some (nptText stop) else none

def rangeText (range : RtspRange) : Bytes :=
  ascii "npt=" ++ nptText range.start ++
    (stopParts range.stop).elim [] fun stop => ascii "-" ++ stop

theorem NptForm.separator_notin {time : RtspTime} (h : NptForm time) {b : UInt8}
    (hb : b = 0x3b ∨ b = 0x2d) : b ∉ nptText time := by
  cases h with
  | time sec =>
      rcases hb with rfl | rfl
      · exact separator_notin_secondsText _ (by decide) (by decide)
      · exact separator_notin_secondsText _ (by decide) (by decide)
  | now =>
      rcases hb with rfl | rfl
      · decide +kernel
      · decide +kernel
  | infinity => exact List.not_mem_nil

theorem NptForm.text_length {time : RtspTime} (h : NptForm time) :
    (nptText time).length ≤ 13 := by
  cases h with
  | time sec => exact secondsText_length (Nat.mod_lt _ (by decide))
  | now => decide +kernel
  | infinity => decide

variable {range : RtspRange}

theorem NptRange.stop_written (hP : P.ExactWhole) (hrange : NptRange range) {text : Bytes}
    (htext : printed (rtspRangeStopWrite P range.start range.stop) = some text) :
    text = (stopParts range.stop).elim [] fun stop => ascii "-" ++ stop := by
  unfold rtspRangeStopWrite at htext
  unfold stopParts
  split at htext
  next hnpt =>
    rw [if_pos hnpt]
    split at htext
    next => cases htext
    next =>
      split at htext
      next => cases htext
      next =>
        have hform : NptForm range.stop := by
          obtain hform | habsent := hrange.stop
          · exact hform
          · simp [habsent] at hnpt
        rw [printed_append_some rfl, hform.written hP] at htext
        cases htext
        rfl
  next hnpt =>
    rw [if_neg hnpt]
    cases htext
    rfl

theorem NptRange.written (hP : P.ExactWhole) (hrange : NptRange range) {text : Bytes}
    (htext : printed (rtspRangeHeaderWrite P range) = some text) :
    text = ascii "Range: " ++ rangeText range ++ rtspCrlf := by
  have hformats : ¬(range.start.format ≠ range.stop.format ∧ range.stop.format ≠ .unknown) := by
    rw [hrange.start.format]
    obtain hstop | habsent := hrange.stop
    · simp [hstop.format]
    · simp [habsent]
  unfold rtspRangeHeaderWrite at htext
  rw [if_neg hformats, hrange.start.format, hrange.time, if_neg (show ¬(0 : UInt64) < 0 by simp),
    List.append_nil] at htext
  obtain ⟨line, crlf, hline, hcrlf, rfl⟩ := printed_append htext
  obtain ⟨name, value, hname, hvalue, rfl⟩ := printed_append hline
  obtain ⟨start, stop, hstart, hstop, rfl⟩ := printed_append hvalue
  rw [printed_append_some rfl, hrange.start.written hP] at hstart
  cases hcrlf
  cases hname
  cases hstart
  rw [hrange.stop_written hP hstop]
  simp [rangeText]

theorem NptRange.parts (hrange : NptRange range) :
    rangeParts (rangeText range) =
      some ⟨ascii "npt", nptText range.start, stopParts range.stop, none⟩ := by
  have hstop : ∀ stop ∈ stopParts range.stop, (0x3b : UInt8) ∉ stop := by
    intro stop hmem
    unfold stopParts at hmem
    split at hmem
    next hnpt =>
      obtain hform | habsent := hrange.stop
      · cases hmem
        exact hform.separator_notin (.inl rfl)
      · simp [habsent] at hnpt
    next => cases hmem
  have hsemicolon : (0x3b : UInt8) ∉ rangeText range := by
    have hname : (0x3b : UInt8) ∉ ascii "npt=" := by decide +kernel
    unfold rangeText
    rw [List.mem_append, List.mem_append, not_or, not_or]
    refine ⟨⟨hname, hrange.start.separator_notin (.inl rfl)⟩, ?_⟩
    cases h : stopParts range.stop with
    | none => exact List.not_mem_nil
    | some stop => exact List.not_mem_cons_of_ne_of_not_mem (by decide) (hstop stop h)
  have hequal : ∀ times : Bytes, strchr 0x3d (ascii "npt=" ++ times) = some (ascii "npt", times) :=
    fun times => strchr_append (show 0x3d ∉ ascii "npt" by decide +kernel) times
  unfold rangeParts timesParts
  rw [strchr_none hsemicolon]
  unfold rangeText
  dsimp only
  rw [List.append_assoc, hequal]
  dsimp only
  have hdash : (0x2d : UInt8) ∉ nptText range.start := hrange.start.separator_notin (.inr rfl)
  cases stopParts range.stop with
  | none =>
      rw [Option.elim_none, List.append_nil, strchr_none hdash]
  | some stop =>
      rw [show nptText range.start ++ (some stop).elim [] (fun stop => ascii "-" ++ stop) =
        nptText range.start ++ 0x2d :: stop from rfl, strchr_append hdash]

theorem NptRange.text_length (hrange : NptRange range) : (rangeText range).length < pathMax := by
  have hstart := hrange.start.text_length
  have hstop : ((stopParts range.stop).elim [] fun stop => ascii "-" ++ stop).length ≤ 14 := by
    unfold stopParts
    split
    next hnpt =>
      obtain hform | habsent := hrange.stop
      · exact Nat.succ_le_succ hform.text_length
      · simp [habsent] at hnpt
    next => decide
  unfold rangeText
  rw [List.length_append, List.length_append, show (ascii "npt=").length = 4 from rfl,
    show pathMax = 4096 from rfl]
  omega

/-- The range that is read back. -/
def RtspRange.shortened (range : RtspRange) : RtspRange :=
  { start := range.start.shortened
    stop := if range.stop.format = .npt then range.stop.shortened else {} }

theorem NptRange.read (hP : P.ExactWhole) (hrange : NptRange range) :
    rtspRangeHeaderRead P (rangeText range) = .ok range.shortened := by
  have hstop : nptStopRead P (stopParts range.stop) =
      .ok (if range.stop.format = .npt then range.stop.shortened else {}) := by
    unfold stopParts
    split
    next hnpt =>
      obtain hform | habsent := hrange.stop
      · exact hform.read hP
      · simp [habsent] at hnpt
    next => rfl
  rw [rangeRead_parts, if_neg (Nat.not_le_of_lt hrange.text_length), hrange.parts]
  dsimp only
  unfold partsRead
  rw [if_pos rfl]
  dsimp only
  rw [hrange.start.read hP, hstop]
  rfl

theorem NptRange.cmp_iff (hrange : NptRange range) :
    rtspRangeCmp range range.shortened ↔ FitsSeconds range := by
  have hstop : rtspTimeCmp range.stop
      (if range.stop.format = .npt then range.stop.shortened else {}) ↔
        (range.stop.format = .npt → range.stop.sec.toNat < 2 ^ 32) := by
    obtain hform | habsent := hrange.stop
    · rw [if_pos hform.format, hform.cmp_iff]
      exact ⟨fun h _ => h, fun h => h hform.format⟩
    · simp [rtspTimeCmp, habsent]
  unfold rtspRangeCmp FitsSeconds
  rw [Bool.and_eq_true, Bool.and_eq_true, ← hstop, ← hrange.start.cmp_iff]
  simp [RtspRange.shortened, hrange.time]

/-- A range of whole seconds that is written reads back as it was exactly when its
times fit in thirty-two bits. -/
theorem nptRange_roundTrip_iff (hP : P.ExactWhole) (hrange : NptRange range)
    {str str' : RtspString} (hwrite : rtspPrint (rtspRangeHeaderWrite P range) str = .ok str') :
    ∃ value, str'.str = str.str ++ (ascii "Range: " ++ value ++ rtspCrlf) ∧
      ((∃ range', rtspRangeHeaderRead P value = .ok range' ∧ rtspRangeCmp range range') ↔
        FitsSeconds range) := by
  obtain ⟨text, htext, rfl⟩ := rtspPrint_ok hwrite
  refine ⟨rangeText range, by rw [hrange.written hP htext], ?_⟩
  rw [hrange.read hP, ← hrange.cmp_iff]
  constructor
  · rintro ⟨range', hread, hcmp⟩
    cases hread
    exact hcmp
  · intro hcmp
    exact ⟨_, rfl, hcmp⟩

end Platform

/-! ## A platform with whole numbers -/

/-- The bits of a whole number below `2 ^ 24` as a `float`. -/
def wholeFloat (n : Nat) : UInt32 :=
  if n = 0 then 0 else UInt32.ofNat ((n.log2 + 126) * 2 ^ 23 + n * 2 ^ (23 - n.log2))

/-- The whole part of such a number. -/
def floatWhole (bits : UInt32) : UInt64 :=
  if bits = 0 then 0
  else UInt64.ofNat
    ((bits.toNat % 2 ^ 23 + 2 ^ 23) / 2 ^ (23 - (bits.toNat / 2 ^ 23 - 127)))

def wholePlatform : Platform :=
  { Platform.bare with
    atof := fun text => wholeFloat (digits 10 (text.dropWhile isSpace))
    floatToUInt64 := floatWhole }

theorem floatWhole_wholeFloat {n : Nat} (hn : n < 2 ^ 24) :
    floatWhole (wholeFloat n) = UInt64.ofNat n := by
  by_cases hzero : n = 0
  · subst hzero
    rfl
  · have hle : 2 ^ n.log2 ≤ n := Nat.log2_self_le hzero
    have hlt : n < 2 ^ (n.log2 + 1) := Nat.lt_log2_self
    have hlog : n.log2 < 24 := Nat.log2_lt hzero |>.mpr hn
    unfold wholeFloat
    rw [if_neg hzero]
    generalize n.log2 = e at hle hlt hlog
    have hpow : 2 ^ e * 2 ^ (23 - e) = 2 ^ 23 := by
      rw [← Nat.pow_add]
      congr 1
      omega
    have hlow : 2 ^ 23 ≤ n * 2 ^ (23 - e) := hpow ▸ Nat.mul_le_mul_right _ hle
    have hhigh : n * 2 ^ (23 - e) < 2 ^ 24 := by
      calc
        n * 2 ^ (23 - e) < 2 ^ (e + 1) * 2 ^ (23 - e) :=
          Nat.mul_lt_mul_of_pos_right hlt (Nat.two_pow_pos _)
        _ = 2 ^ 24 := by rw [Nat.pow_succ, Nat.mul_right_comm, hpow, ← Nat.pow_succ]
    generalize hm : n * 2 ^ (23 - e) = m at hlow hhigh
    have hbits : (UInt32.ofNat ((e + 126) * 2 ^ 23 + m)).toNat = (e + 126) * 2 ^ 23 + m := by
      rw [UInt32.toNat_ofNat']
      omega
    have hne : UInt32.ofNat ((e + 126) * 2 ^ 23 + m) ≠ 0 := by
      intro heq
      rw [heq] at hbits
      change 0 = _ at hbits
      omega
    have hexponent : ((e + 126) * 2 ^ 23 + m) / 2 ^ 23 - 127 = e := by omega
    have hfraction : ((e + 126) * 2 ^ 23 + m) % 2 ^ 23 + 2 ^ 23 = m := by omega
    unfold floatWhole
    rw [if_neg hne, hbits, hexponent, hfraction, ← hm,
      Nat.mul_div_cancel _ (Nat.two_pow_pos _)]

theorem wholePlatform_exact : wholePlatform.ExactWhole := by
  have hatof {text : Bytes} {n : Nat} (htext : Spells 10 text n) :
      wholePlatform.atof text = wholeFloat n := by
    obtain ⟨b, tail, rfl⟩ := List.exists_cons_of_ne_nil htext.nonempty
    have hspace := (htext.plain (by decide) List.mem_cons_self).1
    have hdigits := digits_spells htext pastDigits_nil
    rw [List.append_nil] at hdigits
    unfold wholePlatform
    dsimp only
    rw [List.dropWhile_cons_of_neg (by simp [hspace]), hdigits]
  constructor
  · intro text n htext hn
    rw [hatof htext]
    exact floatWhole_wholeFloat hn
  · intros
    rfl
  · rfl

/-- More than an hour, to the end. -/
def hourRange : RtspRange :=
  { start := { format := .npt, sec := 3661 }, stop := { format := .npt, infinity := true } }

theorem hourRange_roundTrip :
    ∃ value range', ascii "Range: npt=1:01:01-" ++ rtspCrlf =
        ascii "Range: " ++ value ++ rtspCrlf ∧
      rtspRangeHeaderRead wholePlatform value = .ok range' ∧ rtspRangeCmp hourRange range' := by
  have hwrite : rtspPrint (rtspRangeHeaderWrite wholePlatform hourRange) { maxLen := 64 } =
      .ok ⟨ascii "Range: npt=1:01:01-" ++ rtspCrlf, 64⟩ := by
    decide +kernel
  have hrange : NptRange hourRange := ⟨.time 3661, .inl .infinity, rfl⟩
  obtain ⟨value, hvalue, hiff⟩ := nptRange_roundTrip_iff wholePlatform_exact hrange hwrite
  obtain ⟨range', hread, hcmp⟩ := hiff.mpr ⟨by decide, fun _ => by decide⟩
  exact ⟨value, range', hvalue, hread, hcmp⟩

/-- `2 ^ 32` seconds are written as none. -/
theorem longRange_readsZero :
    rtspPrint (rtspRangeHeaderWrite wholePlatform
        { start := { format := .npt, sec := 2 ^ 32 } }) { maxLen := 64 } =
      .ok ⟨ascii "Range: " ++ ascii "npt=0" ++ rtspCrlf, 64⟩ ∧
    rtspRangeHeaderRead wholePlatform (ascii "npt=0") = .ok { start := { format := .npt } } ∧
    rtspRangeCmp { start := { format := .npt, sec := 2 ^ 32 } } { start := { format := .npt } } =
      false := by
  decide +kernel

end Librtsp
