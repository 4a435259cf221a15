import Librtsp.HeaderRead
import Librtsp.HeaderWrite
import Librtsp.Numerals
import Librtsp.ServerReply
import Librtsp.TokenSafety

/-!
# The text of a `Range` header

A range is cut at its first semicolon, equal sign and dash.  The reader has no
use for its own rules about open ends, which only concern a stop that is not a
normal play time; the writer keeps them.
-/

namespace Librtsp

open CString

/-! ## Cutting a range -/

structure RangeParts where
  format : Bytes
  start : Bytes
  stop : Option Bytes
  time : Option Bytes
  deriving DecidableEq, Repr

def timesParts (times : Bytes) (time : Option Bytes) : Option RangeParts :=
  match strchr 0x3d times with
  | none => none
  | some (format, times) =>
      match strchr 0x2d times with
      | none => some ⟨format, times, none, time⟩
      | some (start, stop) => some ⟨format, start, some stop, time⟩

def rangeParts (str : Bytes) : Option RangeParts :=
  match strchr 0x3b str with
  | none => timesParts str none
  | some (times, time) => timesParts times (some time)

section Platform

variable (P : Platform)

/-- What the reader makes of a single time. -/
theorem nptRead_cases (s : Bytes) :
    if s.count 0x3a = 1 then nptRead P s = .error (.errno .einval)
    else ∃ time, nptRead P s = .ok time ∧ time.format = .npt ∧ (time.infinity ↔ s = []) ∧
      (time.now ↔ s = ascii "now") := by
  unfold nptRead rtspTimeRead
  by_cases hempty : s = []
  · subst hempty
    exact ⟨_, rfl, rfl, by simp, by decide +kernel⟩
  · rw [if_neg hempty]
    dsimp only
    cases hcolon : strchr 0x3a s with
    | none =>
        have hcount : s.count 0x3a = 0 := List.count_eq_zero.mpr (strchr_eq_none hcolon)
        rw [if_neg (by omega)]
        by_cases hnow : s = ascii "now"
        · rw [if_pos hnow]
          exact ⟨_, rfl, rfl, by simp [hempty], by simp [hnow]⟩
        · rw [if_neg hnow]
          exact ⟨_, rfl, rfl, by simp [hempty], by simp [hnow]⟩
    | some cut =>
        obtain ⟨hrsStr, rest⟩ := cut
        obtain ⟨rfl, hnot⟩ := strchr_eq_some hcolon
        have hcount : (hrsStr ++ 0x3a :: rest).count 0x3a = rest.count 0x3a + 1 := by
          rw [List.count_append, List.count_eq_zero.mpr hnot, List.count_cons_self]
          omega
        rw [hcount]
        dsimp only
        cases hsecond : strchr 0x3a rest with
        | none =>
            rw [if_pos (by simpa [List.count_eq_zero] using strchr_eq_none hsecond)]
        | some cut' =>
            obtain ⟨minStr, secStr⟩ := cut'
            obtain ⟨rfl, -⟩ := strchr_eq_some hsecond
            have hnow : hrsStr ++ 0x3a :: (minStr ++ 0x3a :: secStr) ≠ ascii "now" := by
              intro heq
              have hmem : (0x3a : UInt8) ∈ ascii "now" := by
                rw [← heq]
                simp
              exact absurd hmem (by decide +kernel)
            rw [if_neg (by simp)]
            exact ⟨_, rfl, rfl, by simp, by simp [hnow]⟩

theorem nptRead_format {s : Bytes} {time : RtspTime} (h : nptRead P s = .ok time) :
    time.format = .npt := by
  have hcases := nptRead_cases P s
  split at hcases
  next =>
    rw [hcases] at h
    cases h
  next =>
    obtain ⟨time', hread, hformat, -, -⟩ := hcases
    rw [hread] at h
    cases h
    exact hformat

theorem nptStopRead_format {s : Option Bytes} {time : RtspTime} (h : nptStopRead P s = .ok time) :
    time.format = .npt ∨ time = {} := by
  cases s with
  | none => exact .inr (Except.ok.inj h).symm
  | some s => exact .inl (nptRead_format P h)

def partsRead (parts : RangeParts) : Except Stop RtspRange :=
  if parts.format = ascii "npt" then do
    let start ← nptRead P parts.start
    let stop ← nptStopRead P parts.stop
    let time ← rangeTimeRead P parts.time
    .ok { start, stop, time }
  else if parts.format = ascii "smpte" then .error (.errno .enosys)
  else if parts.format = ascii "clock" then .error (.errno .enosys)
  else .error (.errno .einval)

/-- The checks of the reader after the two times. -/
def checkedRange (time : Option Bytes) (range : RtspRange) : Except Stop RtspRange :=
  if range.stop.format ≠ .unknown ∧ range.stop.format ≠ range.start.format then
    .error (.errno .einval)
  else if range.stop.format ≠ .npt ∧ range.start.infinity ∧
      range.start.infinity = range.stop.infinity then
    .error (.errno .einval)
  else if range.stop.format ≠ .npt ∧ range.stop.now then
    .error (.errno .einval)
  else do
    let time ← rangeTimeRead P time
    .ok { range with time }

/-- They accept whatever the times are. -/
theorem checkedRange_eq {start stop : RtspTime} (time : Option Bytes)
    (hstart : start.format = .npt) (hstop : stop.format = .npt ∨ stop = {}) :
    checkedRange P time { start, stop } =
      rangeTimeRead P time >>= fun time => .ok { start, stop, time } := by
  unfold checkedRange
  cases hstop with
  | inl hnpt => simp [hnpt, hstart]
  | inr hnone =>
      subst hnone
      rw [if_neg (by simp), if_neg (by simp), if_neg (by simp)]

theorem timesRead_eq (times : Bytes) (time : Option Bytes) :
    rangeTimesRead P times >>= checkedRange P time =
      match timesParts times time with
      | none => .error (.errno .einval)
      | some parts => partsRead P parts := by
  unfold rangeTimesRead timesParts
  cases strchr 0x3d times with
  | none => rfl
  | some cut =>
      obtain ⟨format, times⟩ := cut
      have hparts (parts : RangeParts) (htime : parts.time = time) :
          ((if parts.format = ascii "npt" then do
              let start ← nptRead P parts.start
              let stop ← nptStopRead P parts.stop
              .ok { start, stop }
            else if parts.format = ascii "smpte" then .error (.errno .enosys)
            else if parts.format = ascii "clock" then .error (.errno .enosys)
            else .error (.errno .einval) : Except Stop RtspRange) >>= checkedRange P time) =
          partsRead P parts := by
        unfold partsRead
        by_cases hnpt : parts.format = ascii "npt"
        · rw [if_pos hnpt, if_pos hnpt]
          cases hstart : nptRead P parts.start with
          | error e => rfl
          | ok start =>
              cases hstop : nptStopRead P parts.stop with
              | error e => rfl
              | ok stop =>
                  subst htime
                  exact checkedRange_eq P parts.time (nptRead_format P hstart)
                    (nptStopRead_format P hstop)
        · rw [if_neg hnpt, if_neg hnpt]
          split
          next => rfl
          next =>
            split
            next => rfl
            next => rfl
      cases hdash : strchr 0x2d times with
      | none =>
          simp only [hdash]
          exact hparts ⟨format, times, none, time⟩ rfl
      | some cut =>
          simp only [hdash]
          exact hparts ⟨format, cut.1, some cut.2, time⟩ rfl

theorem rangeRead_parts (str : Bytes) :
    rtspRangeHeaderRead P str =
      if pathMax ≤ str.length then .error (.errno .enametoolong)
      else
        match rangeParts str with
        | none => .error (.errno .einval)
        | some parts => partsRead P parts := by
  unfold rtspRangeHeaderRead rangeParts
  by_cases hlong : pathMax ≤ str.length
  · rw [if_pos hlong, if_pos hlong]
  · rw [if_neg hlong, if_neg hlong]
    cases strchr 0x3b str with
    | none => exact timesRead_eq P str none
    | some cut => exact timesRead_eq P cut.1 (some cut.2)

/-! ## Which texts the reader accepts -/

/-- A `time` parameter without a value, or whose value is not a date. -/
def BadTimeParam (time : Option Bytes) : Prop :=
  ∃ param, time = some param ∧ strncmpEq param (ascii "time") 4 ∧
    ∀ name value, strchr 0x3d param = some (name, value) →
      ∃ e, P.timeLocalParse value = .error e

structure RangeParts.Sound (parts : RangeParts) : Prop where
  format : parts.format = ascii "npt"
  start : parts.start.count 0x3a ≠ 1
  stop : ∀ stop, parts.stop = some stop → stop.count 0x3a ≠ 1
  time : ¬BadTimeParam P parts.time

/-- Something is wrong with a text that has nothing to do with the rules of a
range. -/
def OtherwiseRefused (str : Bytes) : Prop :=
  pathMax ≤ str.length ∨ ∀ parts, rangeParts str = some parts → ¬parts.Sound P

structure RangeParts.Yields (parts : RangeParts) (range : RtspRange) : Prop where
  startFormat : range.start.format = .npt
  startOpen : range.start.infinity ↔ parts.start = []
  stopFormat : range.stop.format = .npt ∨ range.stop = {}
  stopOpen : range.stop.infinity ↔ parts.stop = some []
  stopNow : range.stop.now ↔ parts.stop = some (ascii "now")

theorem rangeTimeRead_cases (time : Option Bytes) :
    BadTimeParam P time ∧ (∃ e, rangeTimeRead P time = .error (.errno e)) ∨
      ¬BadTimeParam P time ∧ ∃ date, rangeTimeRead P time = .ok date := by
  unfold BadTimeParam rangeTimeRead
  cases time with
  | none => exact .inr ⟨by simp, 0, rfl⟩
  | some param =>
      by_cases hname : strncmpEq param (ascii "time") 4
      · dsimp only
        rw [if_pos hname]
        cases hcut : strchr 0x3d param with
        | none => exact .inl ⟨⟨param, rfl, hname, by simp [hcut]⟩, _, rfl⟩
        | some cut =>
            obtain ⟨name, value⟩ := cut
            dsimp only
            cases hparse : P.timeLocalParse value with
            | error e =>
                refine .inl ⟨⟨param, rfl, hname, ?_⟩, e, rfl⟩
                intro name' value' hcut'
                rw [hcut] at hcut'
                cases hcut'
                exact ⟨e, hparse⟩
            | ok date =>
                refine .inr ⟨?_, date, rfl⟩
                rintro ⟨param', heq, -, hvalue⟩
                cases heq
                obtain ⟨e, he⟩ := hvalue name value hcut
                rw [hparse] at he
                cases he
      · dsimp only
        rw [if_neg hname]
        refine .inr ⟨?_, 0, rfl⟩
        rintro ⟨param', heq, hname', -⟩
        cases heq
        exact hname hname'

theorem nptStopRead_cases (stop : Option Bytes) :
    (∃ s, stop = some s ∧ s.count 0x3a = 1) ∧ nptStopRead P stop = .error (.errno .einval) ∨
      (∀ s, stop = some s → s.count 0x3a ≠ 1) ∧ ∃ time, nptStopRead P stop = .ok time ∧
        (time.format = .npt ∨ time = {}) ∧ (time.infinity ↔ stop = some []) ∧
        (time.now ↔ stop = some (ascii "now")) := by
  cases stop with
  | none => exact .inr ⟨by simp, _, rfl, by simp⟩
  | some s =>
      have hcases := nptRead_cases P s
      by_cases hcolon : s.count 0x3a = 1
      · rw [if_pos hcolon] at hcases
        exact .inl ⟨⟨s, rfl, hcolon⟩, hcases⟩
      · rw [if_neg hcolon] at hcases
        obtain ⟨time, hread, hformat, hopen, hnow⟩ := hcases
        exact .inr ⟨by simpa using hcolon, time, hread, .inl hformat, by simpa using hopen,
          by simpa using hnow⟩

theorem partsRead_cases (parts : RangeParts) :
    ¬parts.Sound P ∧ (∃ e, partsRead P parts = .error (.errno e)) ∨
      parts.Sound P ∧ ∃ range, partsRead P parts = .ok range ∧ parts.Yields range := by
  unfold partsRead
  by_cases hformat : parts.format = ascii "npt"
  · rw [if_pos hformat]
    have hstart := nptRead_cases P parts.start
    by_cases hcolon : parts.start.count 0x3a = 1
    · rw [if_pos hcolon] at hstart
      rw [hstart]
      exact .inl ⟨fun h => h.start hcolon, .einval, rfl⟩
    · rw [if_neg hcolon] at hstart
      obtain ⟨start, hstart, hnpt, hopen, -⟩ := hstart
      rw [hstart]
      obtain ⟨⟨stop, hstop, hcolon'⟩, hread⟩ | ⟨hcolon', stop, hread, hnpt', hopen', hnow'⟩ :=
        nptStopRead_cases P parts.stop
      · rw [hread]
        exact .inl ⟨fun h => h.stop stop hstop hcolon', .einval, rfl⟩
      · rw [hread]
        obtain ⟨hbad, e, hdate⟩ | ⟨hgood, date, hdate⟩ := rangeTimeRead_cases P parts.time
        · rw [hdate]
          exact .inl ⟨fun h => h.time hbad, e, rfl⟩
        · rw [hdate]
          exact .inr ⟨⟨hformat, hcolon, hcolon', hgood⟩, _, rfl, hnpt, hopen, hnpt', hopen',
            hnow'⟩
  · rw [if_neg hformat]
    refine .inl ⟨fun h => hformat h.format, ?_⟩
    split
    next => exact ⟨_, rfl⟩
    next =>
      split
      next => exact ⟨_, rfl⟩
      next => exact ⟨_, rfl⟩

theorem rangeRead_refused {str : Bytes} (h : OtherwiseRefused P str) :
    ∃ e, rtspRangeHeaderRead P str = .error (.errno e) := by
  rw [rangeRead_parts]
  by_cases hlong : pathMax ≤ str.length
  · rw [if_pos hlong]
    exact ⟨_, rfl⟩
  · rw [if_neg hlong]
    cases hparts : rangeParts str with
    | none => exact ⟨_, rfl⟩
    | some parts =>
        obtain ⟨-, hread⟩ | ⟨hsound, -⟩ := partsRead_cases P parts
        · exact hread
        · exact absurd hsound (h.resolve_left hlong parts hparts)

theorem rangeRead_accepted {str : Bytes} (h : ¬OtherwiseRefused P str) :
    ∃ parts range, rangeParts str = some parts ∧ rtspRangeHeaderRead P str = .ok range ∧
      parts.Yields range := by
  unfold OtherwiseRefused at h
  push Not at h
  obtain ⟨hshort, parts, hparts, hsound⟩ := h
  obtain ⟨hfaulty, -⟩ | ⟨-, range, hread, hyields⟩ := partsRead_cases P parts
  · exact absurd hsound hfaulty
  · refine ⟨parts, range, hparts, ?_, hyields⟩
    rw [rangeRead_parts, if_neg (by omega), hparts]
    exact hread

/-! ## The rules of a range -/

structure RangeRules (range : RtspRange) : Prop where
  notBothOpen : ¬(range.start.infinity ∧ range.stop.infinity)
  stopNotNow : ¬range.stop.now

/-- A text with two open ends, or that stops now. -/
def BreaksRule (str : Bytes) : Prop :=
  ∃ parts, rangeParts str = some parts ∧
    (parts.start = [] ∧ parts.stop = some [] ∨ parts.stop = some (ascii "now"))

/-- The range can be written into every buffer that is large enough. -/
def Writable (range : RtspRange) : Prop :=
  ∃ text : Bytes, ∀ maxLen, text.length < maxLen → maxLen < 2 ^ 31 →
    rtspPrint (rtspRangeHeaderWrite P range) { maxLen } = .ok { str := text, maxLen }

/-- What is read obeys the rules and can be written, and a text that breaks a
rule is rejected. -/
structure AcceptsWritable (str : Bytes) : Prop where
  accepted : ∀ range, rtspRangeHeaderRead P str = .ok range → RangeRules range ∧ Writable P range
  rejected : BreaksRule str → ∃ e, rtspRangeHeaderRead P str = .error (.errno e)

theorem RangeParts.Yields.rules_iff {parts : RangeParts} {range : RtspRange}
    (h : parts.Yields range) :
    RangeRules range ↔
      ¬(parts.start = [] ∧ parts.stop = some [] ∨ parts.stop = some (ascii "now")) := by
  rw [← h.startOpen, ← h.stopOpen, ← h.stopNow, not_or]
  exact ⟨fun hrules => ⟨hrules.notBothOpen, hrules.stopNotNow⟩, fun hrules => ⟨hrules.1, hrules.2⟩⟩

theorem printed_rtspTimeWrite {time : RtspTime} (hformat : time.format = .npt)
    (hclosed : ¬time.infinity) : ∃ text, printed (rtspTimeWrite P time) = some text := by
  unfold rtspTimeWrite
  rw [hformat]
  dsimp only
  rw [if_neg hclosed]
  split
  next => exact ⟨_, rfl⟩
  next =>
    split
    next => exact ⟨_, rfl⟩
    next => exact ⟨_, rfl⟩

theorem printed_rtspRangeStopWrite {start stop : RtspTime}
    (hformat : stop.format = .npt ∨ stop = {}) (hopen : ¬(start.infinity ∧ stop.infinity))
    (hnow : ¬stop.now) : ∃ text, printed (rtspRangeStopWrite P start stop) = some text := by
  unfold rtspRangeStopWrite
  cases hformat with
  | inr hnone =>
      subst hnone
      exact ⟨_, rfl⟩
  | inl hnpt =>
      have hboth : ¬(start.infinity ∧ start.infinity = stop.infinity) := by
        rintro ⟨hstart, hsame⟩
        exact hopen ⟨hstart, hsame ▸ hstart⟩
      rw [if_pos hnpt, if_neg hboth, if_neg hnow]
      split
      next => exact ⟨_, rfl⟩
      next hclosed =>
        obtain ⟨text, htext⟩ := printed_rtspTimeWrite P hnpt hclosed
        exact ⟨ascii "-" ++ text, by simp [htext]⟩

/-- A range that is read and obeys the rules can be written. -/
theorem RangeParts.Yields.writable {parts : RangeParts} {range : RtspRange}
    (h : parts.Yields range) (hrules : RangeRules range)
    (hdate : ∀ date, ∃ text, P.timeLocalFormat .iso8601Short date = .ok text) :
    Writable P range := by
  have hstart : ∃ text, printed (if range.start.infinity then []
      else rtspTimeWrite P range.start) = some text := by
    split
    next => exact ⟨_, rfl⟩
    next hclosed => exact printed_rtspTimeWrite P h.startFormat hclosed
  obtain ⟨start, hstart⟩ := hstart
  obtain ⟨stop, hstop⟩ := printed_rtspRangeStopWrite P h.stopFormat hrules.notBothOpen
    hrules.stopNotNow
  have hformats : ¬(range.start.format ≠ range.stop.format ∧ range.stop.format ≠ .unknown) := by
    rw [h.startFormat]
    obtain hnpt | hnone := h.stopFormat
    · simp [hnpt]
    · simp [hnone]
  have hprinted : ∃ text, printed (rtspRangeHeaderWrite P range) = some text := by
    unfold rtspRangeHeaderWrite
    rw [if_neg hformats, h.startFormat]
    rw [List.append_assoc, List.append_assoc, printed_append_some rfl,
      List.append_assoc, List.append_assoc, printed_append_some rfl,
      printed_append_some hstart, printed_append_some hstop]
    obtain ⟨date, htext⟩ := hdate range.time
    rw [htext]
    split
    next => exact ⟨_, rfl⟩
    next => exact ⟨_, rfl⟩
  obtain ⟨text, htext⟩ := hprinted
  exact ⟨text, fun maxLen hroom hmax => rtspPrint_room htext hmax (by simpa using hroom)⟩

theorem rangeRead_acceptsWritable_iff
    (hdate : ∀ date, ∃ text, P.timeLocalFormat .iso8601Short date = .ok text) (str : Bytes) :
    AcceptsWritable P str ↔ ¬BreaksRule str ∨ OtherwiseRefused P str := by
  by_cases hrefused : OtherwiseRefused P str
  · obtain ⟨e, he⟩ := rangeRead_refused P hrefused
    exact ⟨fun _ => .inr hrefused, fun _ => ⟨by simp [he], fun _ => ⟨e, he⟩⟩⟩
  · obtain ⟨parts, range, hparts, hread, hyields⟩ := rangeRead_accepted P hrefused
    constructor
    · intro h
      refine .inl fun hbreaks => ?_
      obtain ⟨e, he⟩ := h.rejected hbreaks
      rw [hread] at he
      cases he
    · intro h
      have hkeeps := h.resolve_right hrefused
      have hrules : RangeRules range := hyields.rules_iff.mpr fun hbreaks =>
        hkeeps ⟨parts, hparts, hbreaks⟩
      refine ⟨?_, fun hbreaks => absurd hbreaks hkeeps⟩
      intro range' hread'
      rw [hread] at hread'
      cases hread'
      exact ⟨hrules, hyields.writable P hrules hdate⟩

end Platform

/-- A platform on which every date has a text. -/
def datedPlatform : Platform :=
  { Platform.bare with timeLocalFormat := fun _ _ => .ok (ascii "19700101T000000+0000") }

theorem rangeToTheEnd_acceptsWritable :
    AcceptsWritable datedPlatform (ascii "npt=0-") := by
  refine (rangeRead_acceptsWritable_iff datedPlatform (fun _ => ⟨_, rfl⟩) _).mpr (.inl ?_)
  have hparts : rangeParts (ascii "npt=0-") =
      some ⟨ascii "npt", ascii "0", some [], none⟩ := by
    decide +kernel
  rintro ⟨parts, heq, hbreaks⟩
  rw [hparts] at heq
  cases heq
  revert hbreaks
  decide +kernel

/-- The range without ends is read, and cannot be written. -/
theorem openRange_accepted :
    ∃ range, rtspRangeHeaderRead datedPlatform (ascii "npt=-") = .ok range ∧
      range.start.infinity ∧ range.stop.infinity ∧
      rtspPrint (rtspRangeHeaderWrite datedPlatform range) { maxLen := 64 } = .error .einval :=
  ⟨{ start := { format := .npt, infinity := true }, stop := { format := .npt, infinity := true } },
    by decide +kernel, rfl, rfl, by decide +kernel⟩

end Librtsp
