import Librtsp.SlotLists

/-!
# The text of an `RTP-Info` header

An array of entries that is written and read back, and what the reader makes of
any text: which entries it reads, where it stops and which texts it refuses.
-/

namespace Librtsp

open CString

/-! ## What ends the reader -/

/-- A fault the reader reports, or one at which it stops without an error. -/
inductive Trouble where
  | refused
  | stops
  deriving DecidableEq, Repr

/-- A parameter without a key is refused, and so is a number too large for
`strtoul`; at another text that is not a number the reader stops. -/
def paramTrouble (param : Bytes) : Option Trouble :=
  if (paramCut param).1 = [] then some .refused
  else if (paramCut param).1 = ascii "rtptime" then
    match nonEmpty (paramCut param).2 with
    | none => none
    | some value =>
        if (strtoul 10 value).erange then some .refused
        else if (strtoul 10 value).rest ≠ some [] then some .stops
        else none
  else none

def storeParam (rtpi : RtspRtpInfoHeader) (param : Bytes) : RtspRtpInfoHeader :=
  match nonEmpty (paramCut param).2 with
  | none => rtpi
  | some value =>
      if (paramCut param).1 = ascii "seq" then
        { rtpi with seq := UInt16.ofInt (atoi value).toInt, seqValid := true }
      else if (paramCut param).1 = ascii "rtptime" then
        { rtpi with rtptime := (strtoul 10 value).value.toUInt32, rtptimeValid := true }
      else rtpi

/-- A reader that has come across that trouble, or has come to `next` without any. -/
def EndsAs {β : Type} (trouble : Option Trouble) (stopped : β → Prop) (next : β)
    (result : Except Stop β) : Prop :=
  match trouble with
  | some .refused => ∃ e, result = .error (.errno e)
  | some .stops => ∃ b, result = .ok b ∧ stopped b
  | none => result = .ok next

def isDone {σ : Type} : ForInStep σ → Bool
  | .done _ => true
  | .yield _ => false

theorem rtpInfoParamRead_endsAs (rtpi : RtspRtpInfoHeader) (param : Bytes) :
    EndsAs (paramTrouble param) (isDone ·) (.yield (storeParam rtpi param))
      (rtpInfoParamRead rtpi param) := by
  obtain ⟨hkey, hvalue⟩ := paramCut_tokens param
  have hother : ascii "rtptime" ≠ ascii "seq" := by decide +kernel
  unfold paramTrouble storeParam rtpInfoParamRead
  simp only [strtokR_some, strtokR_none_some, orFault_ok, except_ok_bind, hkey, hvalue]
  by_cases hempty : (paramCut param).1 = []
  · rw [if_pos hempty, hempty]
    exact ⟨_, rfl⟩
  · rw [if_neg hempty, nonEmpty_of_ne hempty]
    cases nonEmpty (paramCut param).2 with
    | none =>
        split
        next => rfl
        next => rfl
    | some value =>
        dsimp only
        by_cases hrtptime : (paramCut param).1 = ascii "rtptime"
        · have hseq : (paramCut param).1 ≠ ascii "seq" := hrtptime ▸ hother
          rw [if_pos hrtptime, if_pos hrtptime, if_neg hseq, if_neg hseq, if_pos hrtptime]
          by_cases hrange : (strtoul 10 value).erange = true
          · rw [if_pos hrange, if_pos (.inr hrange), if_pos hrange]
            exact ⟨_, rfl⟩
          · rw [if_neg hrange]
            by_cases hrest : (strtoul 10 value).rest ≠ some []
            · rw [if_pos hrest, if_pos (.inl hrest), if_neg hrange]
              exact ⟨_, rfl, rfl⟩
            · rw [if_neg hrest, if_neg (by tauto)]
              rfl
        · rw [if_neg hrtptime, if_neg hrtptime, if_neg hrtptime]
          rfl

/-- Parameters are read one after the other up to the first trouble. -/
theorem visit_rtpInfoParamRead (params : List Bytes) (rtpi : RtspRtpInfoHeader) :
    EndsAs (params.findSome? paramTrouble) (isDone ·) (.yield (params.foldl storeParam rtpi))
      (visit rtpInfoParamRead params rtpi) := by
  induction params generalizing rtpi with
  | nil => rfl
  | cons param params ih =>
      have hparam := rtpInfoParamRead_endsAs rtpi param
      rw [List.findSome?_cons, List.foldl_cons, visit]
      cases htrouble : paramTrouble param with
      | none =>
          rw [htrouble] at hparam
          rw [show rtpInfoParamRead rtpi param = _ from hparam]
          exact ih _
      | some trouble =>
          rw [htrouble] at hparam
          cases trouble with
          | refused =>
              obtain ⟨e, he⟩ := hparam
              rw [he]
              exact ⟨e, rfl⟩
          | stops =>
              obtain ⟨stopped, hstopped, hdone⟩ := hparam
              rw [hstopped]
              cases stopped with
              | done s => exact ⟨.done s, rfl, rfl⟩
              | yield s => simp [isDone] at hdone

/-- The URL of an entry, which is the value of its first parameter. -/
def entryUrl (params : List Bytes) : Option Bytes :=
  match params with
  | [] => none
  | param :: _ => if (paramCut param).1 = ascii "url" then nonEmpty (paramCut param).2 else none

def entryTrouble (params : List Bytes) : Option Trouble :=
  match entryUrl params with
  | none => some .refused
  | some _ => params.tail.findSome? paramTrouble

/-- What the parameters of an entry say. -/
def entryInfo (params : List Bytes) : RtspRtpInfoHeader :=
  params.tail.foldl storeParam { url := entryUrl params }

theorem rtpInfoOfParams_endsAs (params : List Bytes) :
    EndsAs (entryTrouble params) (· = none) (some (entryInfo params))
      (rtpInfoOfParams params) := by
  cases params with
  | nil => exact ⟨_, rfl⟩
  | cons param params =>
      obtain ⟨hkey, hvalue⟩ := paramCut_tokens param
      unfold entryTrouble entryInfo entryUrl rtpInfoOfParams
      dsimp only
      rw [hkey, hvalue]
      by_cases hurl : (paramCut param).1 = ascii "url"
      · have hne : ascii "url" ≠ [] := by decide +kernel
        rw [hurl, nonEmpty_of_ne hne, if_pos rfl]
        cases nonEmpty (paramCut param).2 with
        | none => exact ⟨_, rfl⟩
        | some url =>
            have hvisit := visit_rtpInfoParamRead params { url := some url }
            dsimp only
            rw [if_neg (by simp), List.tail_cons]
            cases htrouble : params.findSome? paramTrouble with
            | none =>
                rw [htrouble] at hvisit
                rw [show visit rtpInfoParamRead params _ = _ from hvisit]
                rfl
            | some trouble =>
                rw [htrouble] at hvisit
                cases trouble with
                | refused =>
                    obtain ⟨e, he⟩ := hvisit
                    rw [he]
                    exact ⟨e, rfl⟩
                | stops =>
                    obtain ⟨stopped, hstopped, hdone⟩ := hvisit
                    rw [hstopped]
                    cases stopped with
                    | done s => exact ⟨none, rfl, rfl⟩
                    | yield s => simp [isDone] at hdone
      · rw [if_neg hurl]
        cases hsome : nonEmpty (some (paramCut param).1) with
        | none => exact ⟨_, rfl⟩
        | some key =>
            obtain rfl : (paramCut param).1 = key := Option.some.inj (nonEmpty_some hsome)
            cases nonEmpty (paramCut param).2 with
            | none => exact ⟨_, rfl⟩
            | some value =>
                dsimp only
                rw [if_pos hurl]
                exact ⟨_, rfl⟩

/-- The trouble the reader comes across first. -/
def listTrouble (entries : List Bytes) : Option Trouble :=
  entries.findSome? fun entry => entryTrouble (tokens semicolon entry)

theorem readEntries_rtpInfo (entries : List Bytes) :
    EndsAs (listTrouble entries) (fun _ => True)
      (entries.map fun entry => entryInfo (tokens semicolon entry))
      (readEntries rtpInfoOfParams entries) := by
  unfold listTrouble
  induction entries with
  | nil => rfl
  | cons entry entries ih =>
      have hentry := rtpInfoOfParams_endsAs (tokens semicolon entry)
      rw [List.findSome?_cons, readEntries, List.map_cons]
      cases htrouble : entryTrouble (tokens semicolon entry) with
      | none =>
          rw [htrouble] at hentry
          rw [show rtpInfoOfParams _ = _ from hentry]
          dsimp only
          cases hlater : entries.findSome? fun entry => entryTrouble (tokens semicolon entry) with
          | none =>
              rw [hlater] at ih
              rw [show readEntries rtpInfoOfParams entries = _ from ih]
              rfl
          | some trouble =>
              rw [hlater] at ih
              cases trouble with
              | refused =>
                  obtain ⟨e, he⟩ := ih
                  rw [he]
                  exact ⟨e, rfl⟩
              | stops =>
                  obtain ⟨items, hitems, -⟩ := ih
                  rw [hitems]
                  exact ⟨_, rfl, trivial⟩
      | some trouble =>
          rw [htrouble] at hentry
          cases trouble with
          | refused =>
              obtain ⟨e, he⟩ := hentry
              rw [he]
              exact ⟨e, rfl⟩
          | stops =>
              obtain ⟨stopped, hstopped, rfl⟩ := hentry
              rw [hstopped]
              exact ⟨[], rfl, trivial⟩

example : readEntries rtpInfoOfParams [ascii "url=a;seq=7", ascii "url=b"] =
    .ok [{ url := some (ascii "a"), seqValid := true, seq := 7 },
      { url := some (ascii "b") }] := by
  decide +kernel

/-! ## Writing and reading back -/

theorem paramRead_seq (seq : UInt16) :
    paramTrouble (ascii "seq=" ++ formatNat seq.toNat) = none ∧
      ∀ rtpi, storeParam rtpi (ascii "seq=" ++ formatNat seq.toNat) =
        { rtpi with seq, seqValid := true } := by
  have hspells := spells_formatNat seq.toNat
  have hbound := seq.toNat_lt
  have hread := atoi_spells hspells pastDigits_nil (by omega)
  rw [List.append_nil] at hread
  have hkey : ascii "seq" ≠ [] ∧ 0x3d ∉ ascii "seq" := by decide +kernel
  have hother : ascii "seq" ≠ ascii "rtptime" := by decide +kernel
  have hcut : paramCut (ascii "seq=" ++ formatNat seq.toNat) =
      (ascii "seq", some (formatNat seq.toNat)) := paramCut_keyValue hkey.1 hkey.2 _
  unfold paramTrouble storeParam
  rw [hcut]
  dsimp only
  rw [nonEmpty_of_ne hspells.nonempty, if_neg hkey.1, if_neg hother]
  refine ⟨rfl, fun rtpi => ?_⟩
  dsimp only
  rw [if_pos rfl, hread, uint16_ofInt_int32, UInt16.ofNat_toNat]

theorem paramRead_rtptime (rtptime : UInt32) :
    paramTrouble (ascii "rtptime=" ++ formatNat rtptime.toNat) = none ∧
      ∀ rtpi, storeParam rtpi (ascii "rtptime=" ++ formatNat rtptime.toNat) =
        { rtpi with rtptime, rtptimeValid := true } := by
  have hspells := spells_formatNat rtptime.toNat
  have hbound := rtptime.toNat_lt
  have hread := strtoul_spells (by decide) hspells pastDigits_nil (by simp)
    (show rtptime.toNat < 2 ^ 64 by omega)
  rw [List.append_nil] at hread
  have hkey : ascii "rtptime" ≠ [] ∧ 0x3d ∉ ascii "rtptime" := by decide +kernel
  have hother : ascii "rtptime" ≠ ascii "seq" := by decide +kernel
  have hcut : paramCut (ascii "rtptime=" ++ formatNat rtptime.toNat) =
      (ascii "rtptime", some (formatNat rtptime.toNat)) := paramCut_keyValue hkey.1 hkey.2 _
  have hvalue : (UInt64.ofNat rtptime.toNat).toUInt32 = rtptime := by simp
  unfold paramTrouble storeParam
  rw [hcut]
  dsimp only
  rw [nonEmpty_of_ne hspells.nonempty, if_neg hkey.1, if_pos rfl]
  dsimp only
  rw [hread]
  refine ⟨rfl, fun rtpi => ?_⟩
  rw [if_neg hother, if_pos rfl, hvalue]

/-- An entry whose unset numbers are zero. -/
def RtspRtpInfoHeader.cleared (rtpi : RtspRtpInfoHeader) : RtspRtpInfoHeader :=
  { rtpi with
    seq := if rtpi.seqValid then rtpi.seq else 0
    rtptime := if rtpi.rtptimeValid then rtpi.rtptime else 0 }

theorem rtpInfoParams_textsOf {Q : UInt8 → Prop} (hQ : ∀ b, isTextByte b = true → Q b)
    {rtpi : RtspRtpInfoHeader} {url : Bytes} (hurl : ∀ b ∈ url, Q b) :
    TextsOf Q (rtpInfoParams rtpi url) := by
  have hdigits : ∀ n : Nat, ∀ b ∈ formatNat n, Q b :=
    fun n => spells_textOf hQ (by decide) (spells_formatNat n)
  refine .append (.append (.named (ascii_textOf hQ (by decide +kernel)) hurl) ?_) ?_
  · exact .ite (fun _ => .named (ascii_textOf hQ (by decide +kernel)) (hdigits _)) fun _ => .nil
  · exact .ite (fun _ => .named (ascii_textOf hQ (by decide +kernel)) (hdigits _)) fun _ => .nil

theorem rtpInfoOfParams_rtpInfoParams {rtpi : RtspRtpInfoHeader} {url : Bytes}
    (hurl : nonEmpty rtpi.url = some url) :
    rtpInfoOfParams (rtpInfoParams rtpi url) = .ok (some rtpi.cleared) := by
  have hkey : ascii "url" ≠ [] ∧ 0x3d ∉ ascii "url" := by decide +kernel
  have hcut : paramCut (ascii "url=" ++ url) = (ascii "url", some url) :=
    paramCut_keyValue hkey.1 hkey.2 url
  obtain ⟨text, seqValid, seq, rtptimeValid, rtptime⟩ := rtpi
  have hsome : text = some url := nonEmpty_some hurl
  have hstart : ∀ params, entryUrl ((ascii "url=" ++ url) :: params) = some url := by
    intro params
    rw [entryUrl, hcut, if_pos rfl]
    exact hsome ▸ hurl
  have hend := rtpInfoOfParams_endsAs
    (rtpInfoParams ⟨text, seqValid, seq, rtptimeValid, rtptime⟩ url)
  have htrouble : entryTrouble
      (rtpInfoParams ⟨text, seqValid, seq, rtptimeValid, rtptime⟩ url) = none := by
    unfold entryTrouble rtpInfoParams
    rw [List.append_assoc, List.singleton_append, hstart]
    cases seqValid <;> cases rtptimeValid <;>
      simp [paramRead_seq, paramRead_rtptime]
  rw [htrouble] at hend
  rw [show rtpInfoOfParams _ = _ from hend]
  unfold entryInfo rtpInfoParams RtspRtpInfoHeader.cleared
  rw [List.append_assoc, List.singleton_append, hstart]
  cases seqValid <;> cases rtptimeValid <;>
    simp [paramRead_seq, paramRead_rtptime, hsome]

/-- An entry that is written has such parameters, and they say what the entry says once its
unset numbers are zero. -/
theorem rtpInfoEntry_read {Q : UInt8 → Prop} (hQ : ∀ b, isTextByte b = true → Q b)
    {rtpi : RtspRtpInfoHeader} (hurl : ∀ url ∈ rtpi.url, ∀ b ∈ url, Q b) {rendering : Bytes}
    (htext : rtpInfoText rtpi = some rendering) :
    ∃ params, rendering = List.intercalate semicolon params ∧ params ≠ [] ∧
      TextsOf Q params ∧ rtpInfoOfParams params = .ok (some rtpi.cleared) := by
  obtain ⟨url, hne, rfl⟩ := Option.map_eq_some_iff.mp htext
  exact ⟨rtpInfoParams rtpi url, rfl, by simp [rtpInfoParams],
    rtpInfoParams_textsOf hQ (hurl url (nonEmpty_some hne)), rtpInfoOfParams_rtpInfoParams hne⟩

/-- An array of entries that is written is read back in order; an unset number
comes back as zero. -/
theorem rtpInfo_roundTrip {slots : List (Option RtspRtpInfoHeader)} {maxCount : Nat}
    {str str' : RtspString}
    (hurl : ∀ rtpi, some rtpi ∈ slots → ∀ url ∈ rtpi.url, ListText url)
    (hmax : slots.length ≤ maxCount)
    (h : rtspPrint (rtspRtpInfoHeaderWriteSlots slots) str = .ok str') :
    ∃ value, str'.str = str.str ++ (ascii "RTP-Info: " ++ value ++ rtspCrlf) ∧
      rtspRtpInfoHeaderRead value maxCount =
        .ok ((writtenEntries rtpInfoText slots).map RtspRtpInfoHeader.cleared) := by
  refine ⟨slotsText rtpInfoText slots, slotsHeader_written rtpInfoWrite_renders h, ?_⟩
  rw [rtspRtpInfoHeaderRead_eq]
  refine readEntries_slots ?_ hmax
  intro rtpi hslot rendering htext
  obtain ⟨params, hrendering, hne, htexts, hread⟩ :=
    @rtpInfoEntry_read ListByte (fun _ => listByte_textByte) rtpi (hurl rtpi hslot) _ htext
  exact ⟨params, hrendering, htexts.listParams hne fun _ hb => hb, hread⟩

/-- A null pointer and an entry without a URL are not read back. -/
theorem mixedSlots_roundTrip :
    ∃ str' value, rtspPrint (rtspRtpInfoHeaderWriteSlots
        [none, some { url := some (ascii "a=1"), seqValid := true, seq := 65535 }, some {}])
        { maxLen := 64 } = .ok str' ∧
      str'.str = [] ++ (ascii "RTP-Info: " ++ value ++ rtspCrlf) ∧
      rtspRtpInfoHeaderRead value 3 =
        .ok [{ url := some (ascii "a=1"), seqValid := true, seq := 65535 }] := by
  have hprint : rtspPrint (rtspRtpInfoHeaderWriteSlots
      [none, some { url := some (ascii "a=1"), seqValid := true, seq := 65535 }, some {}])
      { maxLen := 64 } = .ok ⟨ascii "RTP-Info: url=a=1;seq=65535," ++ rtspCrlf, 64⟩ := by
    decide +kernel
  have hurl : ∀ rtpi, some rtpi ∈
      [none, some { url := some (ascii "a=1"), seqValid := true, seq := 65535 },
        some ({} : RtspRtpInfoHeader)] → ∀ url ∈ rtpi.url, ListText url := by
    intro rtpi hmem url hsome
    simp only [List.mem_cons, reduceCtorEq, Option.some.injEq, List.not_mem_nil, or_false,
      false_or] at hmem
    rcases hmem with rfl | rfl
    · rw [← Option.mem_some.mp hsome]
      exact listText_ascii (by decide)
    · simp at hsome
  obtain ⟨value, hvalue, hread⟩ := rtpInfo_roundTrip hurl (Nat.le_refl 3) hprint
  refine ⟨_, value, hprint, hvalue, hread.trans ?_⟩
  decide +kernel

/-- A sequence number that is not flagged as set is not written. -/
theorem unsetSeq_readsZero :
    printed (rtspRtpInfoHeaderWriteSlots [some { url := some (ascii "a"), seq := 5 }]) =
        some (ascii "RTP-Info: " ++ ascii "url=a" ++ rtspCrlf) ∧
      rtspRtpInfoHeaderRead (ascii "url=a") 1 = .ok [{ url := some (ascii "a"), seq := 0 }] ∧
      rtspRtpInfoHeaderRead (ascii "url=a") 1 ≠ .ok [{ url := some (ascii "a"), seq := 5 }] := by
  decide +kernel

/-! ## Entries that are lost -/

/-- An `rtptime` parameter whose value is not a number followed by nothing else. -/
def MalformedRtptime (param : Bytes) : Prop :=
  (paramCut param).1 = ascii "rtptime" ∧
    ∃ value ∈ (paramCut param).2, (strtoul 10 value).rest ≠ some []

def MalformedEntry (entry : Bytes) : Prop :=
  entryUrl (tokens semicolon entry) = none ∨
    ∃ param ∈ (tokens semicolon entry).tail, MalformedRtptime param

/-- A reader that returns no list with an entry missing. -/
structure ReadsEvery (str : Bytes) (maxCount : Nat) : Prop where
  all : ∀ infos, rtspRtpInfoHeaderRead str maxCount = .ok infos →
    infos = (reachedEntries str maxCount).map fun entry => entryInfo (tokens semicolon entry)
  refuses : (∃ entry ∈ reachedEntries str maxCount, MalformedEntry entry) →
    ∃ e, rtspRtpInfoHeaderRead str maxCount = .error (.errno e)

theorem paramTrouble_stops {param : Bytes} (h : paramTrouble param = some .stops) :
    MalformedRtptime param := by
  unfold paramTrouble at h
  split at h
  next => simp at h
  next =>
    split at h
    next hkey =>
      cases hvalue : nonEmpty (paramCut param).2 with
      | none => simp [hvalue] at h
      | some value =>
          rw [hvalue] at h
          dsimp only at h
          split at h
          next => simp at h
          next =>
            split at h
            next hrest => exact ⟨hkey, value, nonEmpty_some hvalue, hrest⟩
            next => simp at h
    next => simp at h

/-- The reader stops at an `rtptime` that is not a number only. -/
theorem listTrouble_stops {entries : List Bytes} (h : listTrouble entries = some .stops) :
    ∃ entry ∈ entries, ∃ param ∈ (tokens semicolon entry).tail, MalformedRtptime param := by
  obtain ⟨entry, hentry, htrouble⟩ := List.exists_of_findSome?_eq_some h
  unfold entryTrouble at htrouble
  split at htrouble
  next => simp at htrouble
  next =>
    obtain ⟨param, hparam, hstops⟩ := List.exists_of_findSome?_eq_some htrouble
    exact ⟨entry, hentry, param, hparam, paramTrouble_stops hstops⟩

/-- No entry is lost exactly when no `rtptime` is malformed, or the reader comes
across a fault that it reports before it stops. -/
theorem rtpInfoRead_readsEvery_iff (str : Bytes) (maxCount : Nat) :
    ReadsEvery str maxCount ↔
      listTrouble (reachedEntries str maxCount) = some .refused ∨
        ∀ entry ∈ reachedEntries str maxCount,
          ∀ param ∈ (tokens semicolon entry).tail, ¬MalformedRtptime param := by
  have hread := readEntries_rtpInfo (reachedEntries str maxCount)
  rw [← rtspRtpInfoHeaderRead_eq] at hread
  have hrefused : listTrouble (reachedEntries str maxCount) = some .refused →
      ReadsEvery str maxCount := by
    intro hrefused
    rw [hrefused] at hread
    obtain ⟨e, he⟩ := hread
    constructor
    · intro infos hinfos
      rw [he] at hinfos
      simp at hinfos
    · intro _
      exact ⟨e, he⟩
  constructor
  · intro hevery
    cases htrouble : listTrouble (reachedEntries str maxCount) with
    | none =>
        rw [htrouble] at hread
        refine .inr fun entry hentry param hparam hmalformed => ?_
        obtain ⟨e, he⟩ := hevery.refuses ⟨entry, hentry, .inr ⟨param, hparam, hmalformed⟩⟩
        rw [show rtspRtpInfoHeaderRead str maxCount = _ from hread] at he
        simp at he
    | some trouble =>
        rw [htrouble] at hread
        cases trouble with
        | refused => exact .inl rfl
        | stops =>
            obtain ⟨infos, hinfos, -⟩ := hread
            obtain ⟨entry, hentry, hparam⟩ := listTrouble_stops htrouble
            obtain ⟨e, he⟩ := hevery.refuses ⟨entry, hentry, .inr hparam⟩
            rw [hinfos] at he
            simp at he
  · rintro (htrouble | hclean)
    · exact hrefused htrouble
    · cases htrouble : listTrouble (reachedEntries str maxCount) with
      | none =>
          rw [htrouble] at hread
          constructor
          · intro infos hinfos
            rw [show rtspRtpInfoHeaderRead str maxCount = _ from hread] at hinfos
            exact (Except.ok.inj hinfos).symm
          · rintro ⟨entry, hentry, hurl | ⟨param, hparam, hmalformed⟩⟩
            · have hnone := List.findSome?_eq_none_iff.mp htrouble entry hentry
              simp [entryTrouble, hurl] at hnone
            · exact absurd hmalformed (hclean entry hentry param hparam)
      | some trouble =>
          cases trouble with
          | refused => exact hrefused htrouble
          | stops =>
              obtain ⟨entry, hentry, param, hparam, hmalformed⟩ := listTrouble_stops htrouble
              exact absurd hmalformed (hclean entry hentry param hparam)

/-- Both entries are lost at an `rtptime` of the first that is not a number. -/
theorem badRtptime_losesEntries :
    rtspRtpInfoHeaderRead (ascii "url=a;rtptime=x,url=b") 2 = .ok [] ∧
      ¬ReadsEvery (ascii "url=a;rtptime=x,url=b") 2 := by
  have hread : rtspRtpInfoHeaderRead (ascii "url=a;rtptime=x,url=b") 2 = .ok [] := by
    decide +kernel
  refine ⟨hread, fun hevery => ?_⟩
  have hentries : (reachedEntries (ascii "url=a;rtptime=x,url=b") 2).length = 2 := by
    decide +kernel
  have hlength := congrArg List.length (hevery.all [] hread)
  rw [List.length_map, hentries] at hlength
  simp at hlength

end Librtsp
