import Librtsp.RtpInfoText
import Librtsp.TransportText

/-!
# Numbers in `Transport` and `RTP-Info` parameters

The readers convert the numbers of a parameter with different routines and store
them in fields of 8, 16 or 32 bits.  A number is compared here with what the
record holds right after its parameter has been read.
-/

namespace Librtsp

open CString

/-! ## Decimal numbers -/

/-- The value of a text of decimal digits. -/
def decimalNat (text : Bytes) : Option Nat :=
  if text ≠ [] ∧ text.all isDigit then some (digitSum 10 text 0) else none

theorem decimalNat_spells {text : Bytes} {n : Nat} (h : decimalNat text = some n) :
    Spells 10 text n := by
  unfold decimalNat at h
  split at h
  next hdigits =>
    refine ⟨hdigits.1, fun b hb => ?_, Option.some.inj h⟩
    have hdigit := List.all_eq_true.mp hdigits.2 b hb
    have hbounds : b.toNat - 0x30 < 10 := by
      simp only [isDigit, Bool.and_eq_true, decide_eq_true_eq] at hdigit
      have hupper := UInt8.le_iff_toNat_le.mp hdigit.2
      have hvalue : (0x39 : UInt8).toNat = 57 := rfl
      omega
    unfold digitVal
    simp [hdigit, hbounds]
  next => simp at h

/-- One number, or two with a dash between them. -/
def portNumbers (value : Bytes) : Option (List Nat) :=
  match strchr 0x2d value with
  | none => (decimalNat value).map fun n => [n]
  | some (stream, control) => do
      let n ← decimalNat stream
      let m ← decimalNat control
      some [n, m]

/-- Two numbers with a dash between them. -/
def pairNumbers (value : Bytes) : Option (List Nat) :=
  match strchr 0x2d value with
  | none => none
  | some (rtp, rtcp) => do
      let n ← decimalNat rtp
      let m ← decimalNat rtcp
      some [n, m]

theorem portNumbers_cases {value : Bytes} {numbers : List Nat}
    (h : portNumbers value = some numbers) :
    (strchr 0x2d value = none ∧ ∃ n, Spells 10 value n ∧ numbers = [n]) ∨
      ∃ stream control n m, strchr 0x2d value = some (stream, control) ∧ Spells 10 stream n ∧
        Spells 10 control m ∧ numbers = [n, m] := by
  unfold portNumbers at h
  cases hcut : strchr 0x2d value with
  | none =>
      rw [hcut] at h
      obtain ⟨n, hn, rfl⟩ := Option.map_eq_some_iff.mp h
      exact .inl ⟨rfl, n, decimalNat_spells hn, rfl⟩
  | some cut =>
      obtain ⟨stream, control⟩ := cut
      rw [hcut] at h
      simp only [Option.bind_eq_bind, Option.bind_eq_some_iff, Option.some.injEq] at h
      obtain ⟨n, hn, m, hm, rfl⟩ := h
      exact .inr ⟨stream, control, n, m, rfl, decimalNat_spells hn, decimalNat_spells hm, rfl⟩

theorem pairNumbers_cases {value : Bytes} {numbers : List Nat}
    (h : pairNumbers value = some numbers) :
    ∃ rtp rtcp n m, value = rtp ++ 0x2d :: rtcp ∧ Spells 10 rtp n ∧ Spells 10 rtcp m ∧
      numbers = [n, m] := by
  unfold pairNumbers at h
  cases hcut : strchr 0x2d value with
  | none => simp [hcut] at h
  | some cut =>
      obtain ⟨rtp, rtcp⟩ := cut
      rw [hcut] at h
      simp only [Option.bind_eq_bind, Option.bind_eq_some_iff, Option.some.injEq] at h
      obtain ⟨n, hn, m, hm, rfl⟩ := h
      exact ⟨rtp, rtcp, n, m, (strchr_eq_some hcut).1, decimalNat_spells hn, decimalNat_spells hm,
        rfl⟩

/-! ## Conversions -/

/-- `atoi` into sixteen bits. -/
theorem atoi_uint16_iff {text rest : Bytes} {n : Nat} (htext : Spells 10 text n)
    (hrest : PastDigits 10 rest) :
    (UInt16.ofInt (atoi (text ++ rest)).toInt).toNat = n ↔ n < 2 ^ 16 := by
  constructor
  · intro h
    rw [← h]
    exact UInt16.toNat_lt _
  · intro hn
    rw [atoi_spells htext hrest (by omega), uint16_ofInt_int32, UInt16.toNat_ofNat']
    omega

/-- `strtoul` into 32 bits. -/
theorem strtoul_uint32_iff {text rest : Bytes} {n : Nat} (htext : Spells 10 text n)
    (hrest : PastDigits 10 rest) :
    (strtoul 10 (text ++ rest)).value.toUInt32.toNat = n ↔ n < 2 ^ 32 := by
  constructor
  · intro h
    rw [← h]
    exact UInt32.toNat_lt _
  · intro hn
    rw [strtoul_spells (by decide) htext hrest (by simp) (by omega)]
    simp only [UInt64.toNat_toUInt32, UInt64.toNat_ofNat']
    omega

/-- A number of any size is used up. -/
theorem strtoul_rest {text rest : Bytes} {n : Nat} (htext : Spells 10 text n)
    (hrest : PastDigits 10 rest) :
    (strtoul 10 (text ++ rest)).rest = some rest ∧
      ((strtoul 10 (text ++ rest)).erange ↔ 2 ^ 64 ≤ n) := by
  have hhead : ((text ++ rest).head?.bind (digitVal 10)).isNone = false := by
    rw [← Option.not_isSome, head_spells htext, Bool.not_true]
  by_cases hn : n < 2 ^ 64
  · rw [strtoul_spells (by decide) htext hrest (by simp) hn]
    simpa using hn
  · have hlarge : strtoul 10 (text ++ rest) = ⟨0xffffffffffffffff, true, some rest⟩ := by
      unfold strtoul
      rw [sign_spells (by decide) htext]
      dsimp only
      rw [if_neg (show ¬10 = 16 by decide), hhead, if_neg Bool.false_ne_true,
        digits_spells htext hrest, if_neg hn, (takeWhile_spells htext hrest).2]
    rw [hlarge]
    simpa using hn

/-- `%u` into eight bits. -/
theorem scanUnsigned_uint8_iff {text rest : Bytes} {n : Nat} (htext : Spells 10 text n)
    (hrest : PastDigits 10 rest) :
    ∃ stored, scanUnsigned (text ++ rest) = some (stored, rest) ∧
      (stored.toUInt8.toNat = n ↔ n < 2 ^ 8) := by
  refine ⟨(strtoul 10 (text ++ rest)).value.toUInt32, ?_, ?_⟩
  · unfold scanUnsigned
    dsimp only
    rw [(strtoul_rest htext hrest).1]
    rfl
  · constructor
    · intro h
      rw [← h]
      exact UInt8.toNat_lt _
    · intro hn
      rw [strtoul_spells (by decide) htext hrest (by simp) (by omega)]
      simp only [UInt32.toNat_toUInt8, UInt64.toNat_toUInt32, UInt64.toNat_ofNat']
      omega

/-! ## Numeric parameters -/

/-- Which parameters of a header are numeric: the field a key stands for, the
numbers its value spells, the bound of the field and what a record holds in it. -/
structure Numerics (σ φ : Type) where
  field : Bytes → Option φ
  numbers : φ → Bytes → Option (List Nat)
  bound : φ → Nat
  held : φ → σ → List Nat

section Runs

variable {σ φ : Type} (N : Numerics σ φ)

/-- Field and numbers of a numeric parameter that has a value. -/
def Numerics.written (param : Bytes) : Option (φ × Option (List Nat)) := do
  let field ← N.field (paramCut param).1
  let value ← nonEmpty (paramCut param).2
  some (field, N.numbers field value)

/-- The parameter is not a numeric one, or its value is made of decimal numbers. -/
def Numerics.Decimal (param : Bytes) : Prop :=
  ∀ written ∈ N.written param, written.2.isSome

/-- Every number of the parameter fits its field. -/
def Numerics.InRange (param : Bytes) : Prop :=
  ∀ written ∈ N.written param, ∀ numbers ∈ written.2, ∀ n ∈ numbers, n < N.bound written.1

/-- The record holds the numbers of the parameter. -/
def Numerics.Exact (param : Bytes) (s : σ) : Prop :=
  ∀ written ∈ N.written param, ∀ numbers ∈ written.2,
    (N.held written.1 s).take numbers.length = numbers

/-- Every parameter is stored exactly when its turn comes. -/
def Numerics.StoresExactly (step : σ → Bytes → Except Stop (ForInStep σ)) :
    List Bytes → σ → Prop
  | [], _ => True
  | param :: params, s =>
      ∀ s', step s param = .ok (.yield s') →
        N.Exact param s' ∧ StoresExactly step params s'

theorem storesExactly_iff {step : σ → Bytes → Except Stop (ForInStep σ)}
    (hstep : ∀ s param s', N.Decimal param → step s param = .ok (.yield s') →
      (N.Exact param s' ↔ N.InRange param))
    {params : List Bytes} (hdecimal : ∀ param ∈ params, N.Decimal param) {s s' : σ}
    (hvisit : visit step params s = .ok (.yield s')) :
    N.StoresExactly step params s ↔ ∀ param ∈ params, N.InRange param := by
  induction params generalizing s with
  | nil => simp [Numerics.StoresExactly]
  | cons param params ih =>
      rw [visit] at hvisit
      cases hnext : step s param with
      | error stop => simp [hnext] at hvisit
      | ok next =>
          rw [hnext] at hvisit
          cases next with
          | done stopped => simp at hvisit
          | yield next =>
              have hrest := ih (fun param h => hdecimal param (List.mem_cons_of_mem _ h)) hvisit
              have hparam := hstep s param next (hdecimal param List.mem_cons_self) hnext
              rw [Numerics.StoresExactly, List.forall_mem_cons, ← hrest, ← hparam]
              constructor
              · intro h
                exact h next hnext
              · intro h s' hs'
                rw [hnext, Except.ok.injEq, ForInStep.yield.injEq] at hs'
                exact hs' ▸ h

variable {N}

/-- It is enough to compare parameters that are numeric. -/
theorem Numerics.exact_inRange {param : Bytes} {s : σ} (hdecimal : N.Decimal param)
    (hwritten : ∀ field value numbers, N.field (paramCut param).1 = some field →
      nonEmpty (paramCut param).2 = some value → N.numbers field value = some numbers →
      ((N.held field s).take numbers.length = numbers ↔ ∀ n ∈ numbers, n < N.bound field)) :
    N.Exact param s ↔ N.InRange param := by
  unfold Numerics.Exact Numerics.InRange
  unfold Numerics.Decimal at hdecimal
  cases h : N.written param with
  | none => simp
  | some written =>
      obtain ⟨field, numbers⟩ := written
      obtain ⟨numbers, rfl⟩ := Option.isSome_iff_exists.mp (hdecimal (field, numbers) h)
      simp only [Numerics.written, Option.bind_eq_bind, Option.bind_eq_some_iff,
        Option.some.injEq, Prod.mk.injEq] at h
      obtain ⟨field', hfield, value, hvalue, rfl, hnumbers⟩ := h
      simpa using hwritten field' value numbers hfield hvalue hnumbers

end Runs

/-! ## Transport -/

inductive TransportField where
  | dstPorts
  | srcPorts
  | channels
  deriving DecidableEq, Repr

def transportNumerics : Numerics RtspTransportHeader TransportField where
  field key :=
    if key = ascii "port" ∨ key = ascii "client_port" then some .dstPorts
    else if key = ascii "server_port" then some .srcPorts
    else if key = ascii "interleaved" then some .channels
    else none
  numbers field value :=
    match field with
    | .dstPorts => portNumbers value
    | .srcPorts => portNumbers value
    | .channels => pairNumbers value
  bound
    | .dstPorts => 2 ^ 16
    | .srcPorts => 2 ^ 16
    | .channels => 2 ^ 8
  held field trsp :=
    match field with
    | .dstPorts => [trsp.dstStreamPort.toNat, trsp.dstControlPort.toNat]
    | .srcPorts => [trsp.srcStreamPort.toNat, trsp.srcControlPort.toNat]
    | .channels => trsp.interleaved.flatMap fun pair => [pair.rtp.toNat, pair.rtcp.toNat]

theorem pastDigits_dash (rest : Bytes) : PastDigits 10 (0x2d :: rest) :=
  pastDigits_cons.mpr (by decide)

theorem portsRead_exact_iff {value : Bytes} {numbers : List Nat}
    (h : portNumbers value = some numbers) :
    [(portsRead value).1.toNat, (portsRead value).2.toNat].take numbers.length = numbers ↔
      ∀ n ∈ numbers, n < 2 ^ 16 := by
  rcases portNumbers_cases h with ⟨hcut, n, hn, rfl⟩ | ⟨stream, control, n, m, hcut, hn, hm, rfl⟩
  · have hstream := atoi_uint16_iff hn pastDigits_nil
    rw [List.append_nil] at hstream
    unfold portsRead
    rw [hcut]
    simpa using hstream
  · obtain ⟨rfl, -⟩ := strchr_eq_some hcut
    have hstream := atoi_uint16_iff hn (pastDigits_dash control)
    have hcontrol := atoi_uint16_iff hm pastDigits_nil
    rw [List.append_nil] at hcontrol
    unfold portsRead
    rw [hcut]
    simp [hstream, hcontrol]

theorem interleavedRead_exact {trsp trsp' : RtspTransportHeader} {value : Bytes}
    {numbers : List Nat} (h : pairNumbers value = some numbers)
    (hread : interleavedRead trsp (some value) = .ok trsp') :
    (trsp'.interleaved.flatMap fun pair => [pair.rtp.toNat, pair.rtcp.toNat]).take
        numbers.length = numbers ↔ ∀ n ∈ numbers, n < 2 ^ 8 := by
  obtain ⟨rtp, rtcp, n, m, rfl, hn, hm, rfl⟩ := pairNumbers_cases h
  obtain ⟨first, hfirst, hfits⟩ := scanUnsigned_uint8_iff hn (pastDigits_dash rtcp)
  obtain ⟨second, hsecond, hfits'⟩ := scanUnsigned_uint8_iff hm pastDigits_nil
  rw [List.append_nil] at hsecond
  have hpair : scanPair (rtp ++ 0x2d :: rtcp) = some (first, second) := by
    unfold scanPair
    rw [hfirst]
    change (scanUnsigned rtcp).map _ = _
    rw [hsecond]
    rfl
  have htoken : IsToken comma (rtp ++ 0x2d :: rtcp) := by
    refine ⟨by simp, fun b hb => ?_⟩
    have hdash : ListText [0x2d] := by simp [ListText]
    have htext : ListText (rtp ++ ([0x2d] ++ rtcp)) :=
      (listText_digits (by decide) hn).append (hdash.append (listText_digits (by decide) hm))
    simpa [comma] using (htext b hb).1
  have hcut := firstToken_token htoken [] atDelimiter_nil
  rw [List.append_nil] at hcut
  unfold interleavedRead at hread
  rw [strtokR_some, hcut.1, hcut.2] at hread
  have hstored : channelPairsRead trsp 0 [rtp ++ 0x2d :: rtcp] = trsp' := Except.ok.inj hread
  rw [channelPairsRead, if_neg (by decide), hpair] at hstored
  subst hstored
  rw [UInt32.toNat_toUInt8] at hfits hfits'
  simp [channelPairsRead, hfits, hfits']

/-- A parameter that is stored in a field. -/
theorem transportParamRead_stored {trsp trsp' : RtspTransportHeader} {param key value : Bytes}
    (hread : transportParamRead trsp param = .ok (.yield trsp'))
    (hkey : (paramCut param).1 = key) (hne : key ≠ [])
    (hvalue : nonEmpty (paramCut param).2 = some value) :
    processTransportKeyVal trsp key (some value) = .ok trsp' := by
  rw [transportParamRead_eq, hkey, hvalue, if_neg hne] at hread
  cases hprocess : processTransportKeyVal trsp key (some value) with
  | error fault => simp [hprocess, Except.map] at hread
  | ok next =>
      rw [hprocess] at hread
      simpa [Except.map] using hread

theorem transportParamRead_exact {trsp trsp' : RtspTransportHeader} {param : Bytes}
    (hdecimal : transportNumerics.Decimal param)
    (hread : transportParamRead trsp param = .ok (.yield trsp')) :
    transportNumerics.Exact param trsp' ↔ transportNumerics.InRange param := by
  apply Numerics.exact_inRange hdecimal
  intro field value numbers hfield hvalue hnumbers
  unfold transportNumerics at hfield hnumbers ⊢
  dsimp only at hfield hnumbers ⊢
  split at hfield
  next hkey =>
    obtain rfl := Option.some.inj hfield
    have hstored : dstPortsRead trsp value = trsp' := by
      rcases hkey with hkey | hkey
      · exact Except.ok.inj (transportParamRead_stored hread hkey (by decide +kernel) hvalue)
      · exact Except.ok.inj (transportParamRead_stored hread hkey (by decide +kernel) hvalue)
    subst hstored
    exact portsRead_exact_iff hnumbers
  next =>
    split at hfield
    next hkey =>
      obtain rfl := Option.some.inj hfield
      have hstored : srcPortsRead trsp value = trsp' :=
        Except.ok.inj (transportParamRead_stored hread hkey (by decide +kernel) hvalue)
      subst hstored
      exact portsRead_exact_iff hnumbers
    next =>
      split at hfield
      next hkey =>
        obtain rfl := Option.some.inj hfield
        have hstored : interleavedRead trsp (some value) = .ok trsp' :=
          transportParamRead_stored hread hkey (by decide +kernel) hvalue
        exact interleavedRead_exact hnumbers hstored
      next => simp at hfield

/-! ## RTP-Info -/

inductive RtpInfoField where
  | seq
  | rtptime
  deriving DecidableEq, Repr

def rtpInfoNumerics : Numerics RtspRtpInfoHeader RtpInfoField where
  field key :=
    if key = ascii "seq" then some .seq
    else if key = ascii "rtptime" then some .rtptime
    else none
  numbers _ value := (decimalNat value).map fun n => [n]
  bound
    | .seq => 2 ^ 16
    | .rtptime => 2 ^ 32
  held field rtpi :=
    match field with
    | .seq => [rtpi.seq.toNat]
    | .rtptime => [rtpi.rtptime.toNat]

theorem rtpInfoParamRead_exact {rtpi rtpi' : RtspRtpInfoHeader} {param : Bytes}
    (hdecimal : rtpInfoNumerics.Decimal param)
    (hread : rtpInfoParamRead rtpi param = .ok (.yield rtpi')) :
    rtpInfoNumerics.Exact param rtpi' ↔ rtpInfoNumerics.InRange param := by
  apply Numerics.exact_inRange hdecimal
  intro field value numbers hfield hvalue hnumbers
  have hstored : storeParam rtpi param = rtpi' := by
    have hends := rtpInfoParamRead_endsAs rtpi param
    cases htrouble : paramTrouble param with
    | none =>
        rw [htrouble, hread] at hends
        exact (ForInStep.yield.inj (Except.ok.inj hends)).symm
    | some trouble =>
        rw [htrouble, hread] at hends
        cases trouble with
        | refused =>
            obtain ⟨e, he⟩ := hends
            simp at he
        | stops =>
            obtain ⟨stopped, heq, hdone⟩ := hends
            rw [← Except.ok.inj heq] at hdone
            simp [isDone] at hdone
  unfold storeParam at hstored
  rw [hvalue] at hstored
  unfold rtpInfoNumerics at hfield hnumbers ⊢
  dsimp only at hfield hnumbers hstored ⊢
  obtain ⟨n, hn, rfl⟩ := Option.map_eq_some_iff.mp hnumbers
  have hspells := decimalNat_spells hn
  split at hfield
  next hkey =>
    obtain rfl := Option.some.inj hfield
    rw [if_pos hkey] at hstored
    have hfits := atoi_uint16_iff hspells pastDigits_nil
    rw [List.append_nil] at hfits
    subst hstored
    simpa using hfits
  next hother =>
    rw [if_neg hother] at hstored
    split at hfield
    next hkey =>
      obtain rfl := Option.some.inj hfield
      rw [if_pos hkey] at hstored
      have hfits := strtoul_uint32_iff hspells pastDigits_nil
      rw [List.append_nil] at hfits
      subst hstored
      simpa using hfits
    next => simp at hfield

/-! ## Whole texts -/

/-- Holds of every parameter that is read of a list after the first of its entry. -/
def EveryParam (P : Bytes → Prop) (str : Bytes) (maxCount : Nat) : Prop :=
  ∀ entry ∈ reachedEntries str maxCount, ∀ param ∈ (tokens semicolon entry).tail, P param

def TransportStoresExactly (entry : Bytes) : Prop :=
  ∀ spec params trsp, tokens semicolon entry = spec :: params →
    transportSpecRead spec = .ok trsp →
      transportNumerics.StoresExactly transportParamRead params trsp

def RtpInfoStoresExactly (entry : Bytes) : Prop :=
  rtpInfoNumerics.StoresExactly rtpInfoParamRead (tokens semicolon entry).tail
    { url := entryUrl (tokens semicolon entry) }

theorem visit_transportParamRead_yields {params : List Bytes} {trsp : RtspTransportHeader}
    {result : ForInStep RtspTransportHeader}
    (h : visit transportParamRead params trsp = .ok result) : ∃ trsp', result = .yield trsp' := by
  induction params generalizing trsp with
  | nil => exact ⟨trsp, (Except.ok.inj h).symm⟩
  | cons param params ih =>
      rw [visit, transportParamRead_eq] at h
      split at h
      next stop hstop => simp at h
      next stopped hstopped =>
        split at hstopped
        next => simp at hstopped
        next =>
          obtain ⟨trsp', -, heq⟩ := except_map_ok.mp hstopped
          simp at heq
      next => exact ih h

/-- A decimal number does not stop the reader. -/
theorem paramTrouble_decimal {param : Bytes} (hdecimal : rtpInfoNumerics.Decimal param) :
    paramTrouble param ≠ some .stops := by
  intro h
  unfold paramTrouble at h
  split at h
  next => simp at h
  next =>
    split at h
    next hkey =>
      cases hvalue : nonEmpty (paramCut param).2 with
      | none => simp [hvalue] at h
      | some value =>
          have hother : ascii "rtptime" ≠ ascii "seq" := by decide +kernel
          have hwritten : rtpInfoNumerics.written param =
              some (.rtptime, (decimalNat value).map fun n => [n]) := by
            simp [Numerics.written, rtpInfoNumerics, hkey, hvalue, hother]
          have hsome := hdecimal _ hwritten
          obtain ⟨n, hn⟩ := Option.isSome_iff_exists.mp (by simpa using hsome)
          have hrest := (strtoul_rest (decimalNat_spells hn) pastDigits_nil).1
          rw [List.append_nil] at hrest
          rw [hvalue] at h
          dsimp only at h
          split at h
          next => simp at h
          next => simp [hrest] at h
    next => simp at h

theorem transportNumbers_stored_iff {str : Bytes} {maxCount : Nat}
    {transport : List RtspTransportHeader}
    (hdecimal : EveryParam transportNumerics.Decimal str maxCount)
    (hread : rtspTransportHeaderRead str maxCount = .ok transport) :
    (∀ entry ∈ reachedEntries str maxCount, TransportStoresExactly entry) ↔
      EveryParam transportNumerics.InRange str maxCount := by
  rw [rtspTransportHeaderRead_eq] at hread
  have hnone : ∀ entry ∈ reachedEntries str maxCount,
      transportOfParams (tokens semicolon entry) ≠ .ok none := by
    intro entry _ hnone
    unfold transportOfParams at hnone
    split at hnone
    next => simp at hnone
    next =>
      obtain ⟨trsp, -, hvisit⟩ := except_bind_ok.mp hnone
      obtain ⟨result, -, hresult⟩ := except_bind_ok.mp hvisit
      simp at hresult
  have hentries := readEntries_some transportOfParams hread hnone
  refine forall₂_congr fun entry hentry => ?_
  obtain ⟨item, hitem⟩ := hentries entry hentry
  have hdecimal' := hdecimal entry hentry
  cases hparams : tokens semicolon entry with
  | nil => simp [hparams, transportOfParams] at hitem
  | cons spec params =>
      rw [hparams] at hitem hdecimal'
      obtain ⟨trsp, hspec, hvisit⟩ := except_bind_ok.mp hitem
      obtain ⟨result, hresult, -⟩ := except_bind_ok.mp hvisit
      obtain ⟨trsp', rfl⟩ := visit_transportParamRead_yields hresult
      have hstores := storesExactly_iff transportNumerics
        (fun _ _ _ hdecimal hread => transportParamRead_exact hdecimal hread) hdecimal' hresult
      rw [List.tail_cons] at hstores
      rw [List.tail_cons, ← hstores]
      constructor
      · intro h
        exact h spec params trsp hparams hspec
      · intro h spec' params' first hcut hfirst
        rw [hparams, List.cons.injEq] at hcut
        obtain ⟨rfl, rfl⟩ := hcut
        rw [hspec] at hfirst
        exact Except.ok.inj hfirst ▸ h

theorem rtpInfoNumbers_stored_iff {str : Bytes} {maxCount : Nat}
    {rtpInfo : List RtspRtpInfoHeader}
    (hdecimal : EveryParam rtpInfoNumerics.Decimal str maxCount)
    (hread : rtspRtpInfoHeaderRead str maxCount = .ok rtpInfo) :
    (∀ entry ∈ reachedEntries str maxCount, RtpInfoStoresExactly entry) ↔
      EveryParam rtpInfoNumerics.InRange str maxCount := by
  rw [rtspRtpInfoHeaderRead_eq] at hread
  have hnone : ∀ entry ∈ reachedEntries str maxCount,
      rtpInfoOfParams (tokens semicolon entry) ≠ .ok none := by
    intro entry hentry hnone
    have hends := rtpInfoOfParams_endsAs (tokens semicolon entry)
    rw [hnone] at hends
    cases htrouble : entryTrouble (tokens semicolon entry) with
    | none =>
        rw [htrouble] at hends
        exact absurd (Except.ok.inj hends) (by simp)
    | some trouble =>
        rw [htrouble] at hends
        cases trouble with
        | refused =>
            obtain ⟨e, he⟩ := hends
            simp at he
        | stops =>
            unfold entryTrouble at htrouble
            split at htrouble
            next => simp at htrouble
            next =>
              obtain ⟨param, hparam, hstops⟩ := List.exists_of_findSome?_eq_some htrouble
              exact paramTrouble_decimal (hdecimal entry hentry param hparam) hstops
  have hentries := readEntries_some rtpInfoOfParams hread hnone
  refine forall₂_congr fun entry hentry => ?_
  obtain ⟨item, hitem⟩ := hentries entry hentry
  have hends := rtpInfoOfParams_endsAs (tokens semicolon entry)
  rw [hitem] at hends
  have huntroubled : entryTrouble (tokens semicolon entry) = none := by
    cases htrouble : entryTrouble (tokens semicolon entry) with
    | none => rfl
    | some trouble =>
        rw [htrouble] at hends
        cases trouble with
        | refused =>
            obtain ⟨e, he⟩ := hends
            simp at he
        | stops =>
            obtain ⟨stopped, heq, rfl⟩ := hends
            simp at heq
  have hvisit := visit_rtpInfoParamRead (tokens semicolon entry).tail
    { url := entryUrl (tokens semicolon entry) }
  unfold entryTrouble at huntroubled
  split at huntroubled
  next => simp at huntroubled
  next =>
    rw [huntroubled] at hvisit
    exact storesExactly_iff rtpInfoNumerics
      (fun _ _ _ hdecimal hread => rtpInfoParamRead_exact hdecimal hread)
      (hdecimal entry hentry) hvisit

/-- Among the texts with decimal numbers that the readers accept, those whose
numbers are all stored exactly are those whose numbers all fit their fields. -/
theorem numbers_stored_iff (str : Bytes) (maxCount : Nat) (transport : List RtspTransportHeader)
    (rtpInfo : List RtspRtpInfoHeader) :
    (EveryParam transportNumerics.Decimal str maxCount →
      rtspTransportHeaderRead str maxCount = .ok transport →
        ((∀ entry ∈ reachedEntries str maxCount, TransportStoresExactly entry) ↔
          EveryParam transportNumerics.InRange str maxCount)) ∧
      (EveryParam rtpInfoNumerics.Decimal str maxCount →
        rtspRtpInfoHeaderRead str maxCount = .ok rtpInfo →
          ((∀ entry ∈ reachedEntries str maxCount, RtpInfoStoresExactly entry) ↔
            EveryParam rtpInfoNumerics.InRange str maxCount)) :=
  ⟨transportNumbers_stored_iff, rtpInfoNumbers_stored_iff⟩

/-- A transport whose ports fit their fields. -/
theorem portsInRange_stored :
    ∀ entry ∈ reachedEntries (ascii "RTP/AVP;unicast;client_port=65534-65535") 1,
      TransportStoresExactly entry := by
  have hread : rtspTransportHeaderRead (ascii "RTP/AVP;unicast;client_port=65534-65535") 1 =
      .ok [{ transportProtocol := some (ascii "RTP"), transportProfile := some (ascii "AVP"),
             delivery := .unicast, dstStreamPort := 65534, dstControlPort := 65535 }] := by
    decide +kernel
  have hdecimal : EveryParam transportNumerics.Decimal
      (ascii "RTP/AVP;unicast;client_port=65534-65535") 1 := by
    unfold EveryParam Numerics.Decimal
    decide +kernel
  refine ((numbers_stored_iff _ _ _ []).1 hdecimal hread).mpr ?_
  unfold EveryParam Numerics.InRange
  decide +kernel

/-- A port of 70000 is accepted and stored as 4464. -/
theorem largePort_truncated :
    rtspTransportHeaderRead (ascii "RTP/AVP;unicast;client_port=70000-70001") 1 =
        .ok [{ transportProtocol := some (ascii "RTP"), transportProfile := some (ascii "AVP"),
               delivery := .unicast, dstStreamPort := 4464, dstControlPort := 4465 }] ∧
      ¬ ∀ entry ∈ reachedEntries (ascii "RTP/AVP;unicast;client_port=70000-70001") 1,
        TransportStoresExactly entry := by
  have hread : rtspTransportHeaderRead (ascii "RTP/AVP;unicast;client_port=70000-70001") 1 =
      .ok [{ transportProtocol := some (ascii "RTP"), transportProfile := some (ascii "AVP"),
             delivery := .unicast, dstStreamPort := 4464, dstControlPort := 4465 }] := by
    decide +kernel
  have hdecimal : EveryParam transportNumerics.Decimal
      (ascii "RTP/AVP;unicast;client_port=70000-70001") 1 := by
    unfold EveryParam Numerics.Decimal
    decide +kernel
  have hlarge : ¬ EveryParam transportNumerics.InRange
      (ascii "RTP/AVP;unicast;client_port=70000-70001") 1 := by
    unfold EveryParam Numerics.InRange
    decide +kernel
  refine ⟨hread, fun hstored => hlarge ?_⟩
  exact (transportNumbers_stored_iff hdecimal hread).mp hstored

end Librtsp
