import Librtsp.SlotLists

/-!
# The text of a `Transport` header

An array of transports that is written and read back.  The writer leaves out
what a transport of its kind has no use for, so the reader gives back a settled
form of each entry.
-/

namespace Librtsp

open CString

/-! ## Reading parameters -/

theorem transportParamRead_eq (trsp : RtspTransportHeader) (param : Bytes) :
    transportParamRead trsp param =
      if (paramCut param).1 = [] then .ok (.yield trsp)
      else
        (orFault (processTransportKeyVal trsp (paramCut param).1
          (nonEmpty (paramCut param).2))).map .yield := by
  obtain ⟨hkey, hvalue⟩ := paramCut_tokens param
  unfold transportParamRead
  simp only [strtokR_some, strtokR_none_some, orFault_ok, except_ok_bind, hkey, hvalue]
  by_cases hempty : (paramCut param).1 = []
  · rw [if_pos hempty, hempty]
    rfl
  · rw [if_neg hempty, nonEmpty_of_ne hempty]
    dsimp only
    cases processTransportKeyVal trsp (paramCut param).1 (nonEmpty (paramCut param).2) <;> rfl

/-- The parameters take one transport to another. -/
def TransportReads (params : List Bytes) (trsp trsp' : RtspTransportHeader) : Prop :=
  visit transportParamRead params trsp = .ok (.yield trsp')

/-- Without a parameter nothing changes. -/
theorem TransportReads.nil {trsp trsp' : RtspTransportHeader} (h : trsp = trsp') :
    TransportReads [] trsp trsp' := by
  subst h
  rfl

theorem TransportReads.append {params params' : List Bytes}
    {trsp trsp' trsp'' : RtspTransportHeader} (h : TransportReads params trsp trsp')
    (h' : TransportReads params' trsp' trsp'') :
    TransportReads (params ++ params') trsp trsp'' := by
  unfold TransportReads at h h' ⊢
  rw [visit_append h, h']

/-- A parameter that has a value. -/
theorem TransportReads.keyValue {before key value : Bytes} (hkey : key ≠ [] ∧ 0x3d ∉ key)
    (hbefore : before = key ++ [0x3d]) (hvalue : value ≠ [])
    {trsp trsp' : RtspTransportHeader}
    (h : processTransportKeyVal trsp key (some value) = .ok trsp') :
    TransportReads [before ++ value] trsp trsp' := by
  have hcut : before ++ value = key ++ 0x3d :: value := by
    rw [hbefore, List.append_assoc, List.singleton_append]
  unfold TransportReads
  rw [hcut, visit, transportParamRead_eq, paramCut_keyValue hkey.1 hkey.2, if_neg hkey.1,
    nonEmpty_of_ne hvalue, h]
  rfl

/-- A parameter without a value. -/
theorem TransportReads.key {key : Bytes} (hkey : key ≠ [] ∧ 0x3d ∉ key)
    {trsp trsp' : RtspTransportHeader} (h : processTransportKeyVal trsp key none = .ok trsp') :
    TransportReads [key] trsp trsp' := by
  unfold TransportReads
  rw [visit, transportParamRead_eq, paramCut_key hkey.2, if_neg hkey.1,
    show nonEmpty none = none from rfl, h]
  rfl

/-! ## Values -/

theorem portsRead_text (stream control : UInt16) :
    portsRead (formatNat stream.toNat ++ 0x2d :: formatNat control.toNat) = (stream, control) := by
  have hstream := stream.toNat_lt
  have hcontrol := control.toNat_lt
  have hspells := spells_formatNat stream.toNat
  have hdash : 0x2d ∉ formatNat stream.toNat := by
    intro hmem
    exact absurd (hspells.digits _ hmem) (by decide)
  have hfirst := atoi_spells hspells
    (show PastDigits 10 (0x2d :: formatNat control.toNat) by simp; decide) (by omega)
  have hsecond := atoi_spells (spells_formatNat control.toNat) pastDigits_nil (by omega)
  rw [List.append_nil] at hsecond
  unfold portsRead
  rw [strchr_append hdash, hfirst]
  dsimp only
  rw [hsecond, uint16_ofInt_int32, uint16_ofInt_int32, UInt16.ofNat_toNat, UInt16.ofNat_toNat]

theorem scanUnsigned_text (n : UInt8) {rest : Bytes} (hrest : PastDigits 10 rest) :
    scanUnsigned (formatNat n.toNat ++ rest) = some (n.toUInt32, rest) := by
  have hn := n.toNat_lt
  unfold scanUnsigned
  rw [strtoul_spells (by decide) (spells_formatNat n.toNat) hrest (by simp) (by omega)]
  simp

theorem scanPair_text (pair : RtspChannelPair) :
    scanPair (channelPairText pair) = some (pair.rtp.toUInt32, pair.rtcp.toUInt32) := by
  have htext : channelPairText pair =
      formatNat pair.rtp.toNat ++ 0x2d :: formatNat pair.rtcp.toNat := by
    simp [channelPairText, ascii]
  have hfirst := scanUnsigned_text pair.rtp
    (show PastDigits 10 (0x2d :: formatNat pair.rtcp.toNat) by simp; decide)
  have hsecond := scanUnsigned_text pair.rtcp pastDigits_nil
  rw [List.append_nil] at hsecond
  unfold scanPair
  rw [htext, hfirst]
  change (scanUnsigned (formatNat pair.rtcp.toNat)).map _ = _
  rw [hsecond]
  rfl

theorem channelPairText_listText (pair : RtspChannelPair) : ListText (channelPairText pair) :=
  ((listText_digits (by decide) (spells_formatNat _)).append (listText_ascii (by decide))).append
    (listText_digits (by decide) (spells_formatNat _))

theorem scanHex8_text (n : UInt32) : scanHex8 (formatHex 8 n.toNat) = some n := by
  have hspells := spells_formatHex 8 n.toNat
  have hbound : n.toNat < 16 ^ 8 := n.toNat_lt
  have hspace : (formatHex 8 n.toNat).dropWhile isSpace = formatHex 8 n.toNat := by
    obtain ⟨b, rest, heq⟩ := List.exists_cons_of_ne_nil hspells.nonempty
    have hb := (hspells.plain (by decide) (heq ▸ List.mem_cons_self : b ∈ formatHex 8 n.toNat)).1
    rw [heq]
    exact List.dropWhile_cons_of_neg (by simp [hb])
  have htake : (formatHex 8 n.toNat).take 8 = formatHex 8 n.toNat := by
    rw [List.take_of_length_le]
    rw [formatHex_length (by decide) hbound]
  have hread := strtoul_spells (by decide) hspells pastDigits_nil (by simp)
    (show n.toNat < 2 ^ 64 by omega)
  rw [List.append_nil] at hread
  unfold scanHex8
  rw [hspace, htake, hread]
  simp

/-! ## Parameters one by one -/

theorem reads_delivery (trsp : RtspTransportHeader) (delivery : RtspDelivery) :
    TransportReads [if delivery = .unicast then ascii "unicast" else ascii "multicast"] trsp
      { trsp with delivery } := by
  cases delivery with
  | unicast => exact .key (by decide +kernel) rfl
  | multicast => exact .key (by decide +kernel) rfl

/-- A text that may be missing. -/
theorem reads_text {before : Bytes} (key : Bytes) {trsp : RtspTransportHeader}
    (store : Option Bytes → RtspTransportHeader) (hkey : key ≠ [] ∧ 0x3d ∉ key)
    (hbefore : before = key ++ [0x3d])
    (hstore : ∀ val, processTransportKeyVal trsp key (some val) = .ok (store (some val)))
    (hunset : store none = trsp) {text : Option Bytes} (hne : text ≠ some []) :
    TransportReads (text.toList.map (before ++ ·)) trsp (store text) := by
  cases text with
  | none => exact .nil hunset.symm
  | some value => exact .keyValue hkey hbefore (fun h => hne (by rw [h])) (hstore value)

/-- A number that is left out when it is zero. -/
theorem reads_number {before : Bytes} (key : Bytes) {trsp : RtspTransportHeader}
    (store : UInt32 → RtspTransportHeader) (hkey : key ≠ [] ∧ 0x3d ∉ key)
    (hbefore : before = key ++ [0x3d])
    (hstore : ∀ val, processTransportKeyVal trsp key (some val) =
      .ok (store (UInt32.ofInt (atoi val).toInt)))
    (hunset : store 0 = trsp) (n : UInt32) :
    TransportReads (if n = 0 then [] else [before ++ formatSigned n]) trsp (store n) := by
  split
  next hzero =>
    rw [hzero]
    exact .nil hunset.symm
  next =>
    have hread := hstore (formatSigned n)
    rw [formatSigned_read] at hread
    exact .keyValue hkey hbefore (formatInt_ne_nil _) hread

/-- A port pair as it is read back. -/
def settledPorts (stream control : UInt16) : UInt16 × UInt16 :=
  if stream = 0 then (0, 0) else (stream, if control = 0 then stream + 1 else control)

theorem reads_ports (key : Bytes) {trsp : RtspTransportHeader}
    (store : UInt16 × UInt16 → RtspTransportHeader) (hkey : key ≠ [] ∧ 0x3d ∉ key)
    (hstore : ∀ val, processTransportKeyVal trsp key (some val) = .ok (store (portsRead val)))
    (hunset : store (0, 0) = trsp) (stream control : UInt16) :
    TransportReads (portsParams key stream control) trsp
      (store (settledPorts stream control)) := by
  unfold portsParams settledPorts
  split
  next => exact .nil hunset.symm
  next =>
    have htext : ∀ control : UInt16,
        key ++ ascii "=" ++ formatNat stream.toNat ++ ascii "-" ++ formatNat control.toNat =
          key ++ ascii "=" ++ (formatNat stream.toNat ++ 0x2d :: formatNat control.toNat) := by
      intro control
      simp [ascii]
    have hread := hstore (formatNat stream.toNat ++
      0x2d :: formatNat (if control = 0 then stream + 1 else control).toNat)
    rw [portsRead_text] at hread
    rw [htext]
    exact .keyValue hkey rfl (by simp) hread

/-- The ports of a transport; the server's are only written for unicast. -/
theorem reads_allPorts {trsp : RtspTransportHeader}
    (hunset : trsp = { trsp with
      dstStreamPort := 0, dstControlPort := 0, srcStreamPort := 0, srcControlPort := 0 })
    (delivery : RtspDelivery)
    (dstStream dstControl srcStream srcControl : UInt16) :
    TransportReads
      (if delivery = .unicast then
        portsParams (ascii "client_port") dstStream dstControl ++
          portsParams (ascii "server_port") srcStream srcControl
      else portsParams (ascii "port") dstStream dstControl) trsp
      { trsp with
        dstStreamPort := (settledPorts dstStream dstControl).1
        dstControlPort := (settledPorts dstStream dstControl).2
        srcStreamPort := if delivery = .unicast then (settledPorts srcStream srcControl).1 else 0
        srcControlPort :=
          if delivery = .unicast then (settledPorts srcStream srcControl).2 else 0 } := by
  rw [hunset]
  cases delivery with
  | unicast =>
      exact (reads_ports (ascii "client_port")
        (fun ports => { trsp with
          dstStreamPort := ports.1, dstControlPort := ports.2
          srcStreamPort := 0, srcControlPort := 0 })
        (by decide +kernel) (fun _ => rfl) rfl dstStream dstControl).append
        (reads_ports (ascii "server_port")
          (fun ports => { trsp with
            dstStreamPort := (settledPorts dstStream dstControl).1
            dstControlPort := (settledPorts dstStream dstControl).2
            srcStreamPort := ports.1
            srcControlPort := ports.2 })
          (by decide +kernel) (fun _ => rfl) rfl srcStream srcControl)
  | multicast =>
      exact reads_ports (ascii "port")
        (fun ports => { trsp with
          dstStreamPort := ports.1, dstControlPort := ports.2
          srcStreamPort := 0, srcControlPort := 0 })
        (by decide +kernel) (fun _ => rfl) rfl dstStream dstControl

theorem reads_append {trsp : RtspTransportHeader} (hunset : trsp.append = false)
    (append : Bool) :
    TransportReads (if append then [ascii "append"] else []) trsp { trsp with append } := by
  cases append with
  | false => exact .nil (by rw [← hunset])
  | true => exact .key (by decide +kernel) rfl

/-- At most one channel pair, and only over TCP. -/
theorem reads_interleaved {trsp : RtspTransportHeader} (hunset : trsp.interleaved = [])
    (lowerTransport : RtspLowerTransport) {pairs : List RtspChannelPair}
    (hpairs : pairs.length ≤ 1) :
    TransportReads (if lowerTransport = .tcp ∧ pairs ≠ [] then
        [ascii "interleaved=" ++ List.intercalate comma (pairs.map channelPairText)]
      else []) trsp
      { trsp with interleaved := if lowerTransport = .tcp then pairs else [] } := by
  cases pairs with
  | nil =>
      rw [if_neg (by simp), ite_self]
      exact .nil (by rw [← hunset])
  | cons pair rest =>
      obtain rfl : rest = [] := List.length_eq_zero_iff.mp (by simpa using hpairs)
      by_cases htcp : lowerTransport = .tcp
      · have htoken : IsToken comma (channelPairText pair) := by
          refine ⟨by simp [channelPairText, ascii], fun b hb => ?_⟩
          simpa [comma] using (channelPairText_listText pair b hb).1
        have hread : processTransportKeyVal trsp (ascii "interleaved")
            (some (channelPairText pair)) = .ok { trsp with interleaved := [pair] } := by
          have hcut := firstToken_token htoken [] atDelimiter_nil
          rw [List.append_nil] at hcut
          change interleavedRead trsp (some (channelPairText pair)) = _
          unfold interleavedRead
          rw [strtokR_some, hcut.1, hcut.2]
          change Except.ok (channelPairsRead trsp 0 [channelPairText pair]) = _
          rw [channelPairsRead, if_neg (by decide), scanPair_text]
          simp [channelPairsRead]
        rw [if_pos ⟨htcp, by simp⟩, if_pos htcp, List.map_singleton, List.intercalate_singleton]
        exact .keyValue (by decide +kernel) rfl htoken.nonempty hread
      · rw [if_neg (by simp [htcp]), if_neg htcp]
        exact .nil (by rw [← hunset])

theorem reads_ssrc {trsp : RtspTransportHeader}
    (hunset : trsp.ssrcValid = false ∧ trsp.ssrc = 0) (ssrcValid : Bool) (ssrc : UInt32) :
    TransportReads (if ssrcValid then [ascii "ssrc=" ++ formatHex 8 ssrc.toNat] else []) trsp
      { trsp with ssrcValid, ssrc := if ssrcValid then ssrc else 0 } := by
  cases ssrcValid with
  | false => exact .nil (by rw [if_neg Bool.false_ne_true, ← hunset.1, ← hunset.2])
  | true =>
      have hread : processTransportKeyVal trsp (ascii "ssrc") (some (formatHex 8 ssrc.toNat)) =
          .ok (ssrcRead trsp (formatHex 8 ssrc.toNat)) := rfl
      rw [ssrcRead, scanHex8_text] at hread
      exact .keyValue (by decide +kernel) rfl (spells_formatHex 8 _).nonempty hread

theorem reads_mode {trsp : RtspTransportHeader} (hunset : trsp.method = .unknown)
    (method : RtspTransportMethod) :
    TransportReads (modeParams method) trsp { trsp with method } := by
  have hkey : ascii "mode" ≠ [] ∧ 0x3d ∉ ascii "mode" := by decide +kernel
  cases method with
  | unknown => exact .nil (by rw [← hunset])
  | play =>
      have hread : processTransportKeyVal trsp (ascii "mode") (some (ascii "PLAY")) =
          .ok { trsp with method := .play } := rfl
      exact @TransportReads.keyValue (ascii "mode=") _ _ hkey rfl (by decide +kernel) _ _ hread
  | record =>
      have hread : processTransportKeyVal trsp (ascii "mode") (some (ascii "RECORD")) =
          .ok { trsp with method := .record } := rfl
      exact @TransportReads.keyValue (ascii "mode=") _ _ hkey rfl (by decide +kernel) _ _ hread

/-! ## Whole entries -/

/-- An entry as it is read back: the ports and the channels a transport of its
kind has no use for are gone, and so is an unset source. -/
def RtspTransportHeader.settled (trsp : RtspTransportHeader) : RtspTransportHeader :=
  { trsp with
    interleaved := if trsp.lowerTransport = .tcp then trsp.interleaved else []
    srcStreamPort :=
      if trsp.delivery = .unicast then (settledPorts trsp.srcStreamPort trsp.srcControlPort).1
      else 0
    srcControlPort :=
      if trsp.delivery = .unicast then (settledPorts trsp.srcStreamPort trsp.srcControlPort).2
      else 0
    dstStreamPort := (settledPorts trsp.dstStreamPort trsp.dstControlPort).1
    dstControlPort := (settledPorts trsp.dstStreamPort trsp.dstControlPort).2
    ssrc := if trsp.ssrcValid then trsp.ssrc else 0 }

/-- A transport over RTP that the reader takes back. -/
structure RtspTransportHeader.RtpAvp (trsp : RtspTransportHeader) : Prop where
  transportProtocol : trsp.transportProtocol = some (ascii "RTP")
  transportProfile : trsp.transportProfile = some (ascii "AVP")
  destination : ∀ value ∈ trsp.destination, value ≠ [] ∧ ListText value
  source : ∀ value ∈ trsp.source, value ≠ [] ∧ ListText value
  ttl : trsp.ttl.toNat < 2 ^ 31
  layers : trsp.layers.toNat < 2 ^ 31
  interleaved : trsp.interleaved.length ≤ 1

/-- A transport over RTP whose texts are not empty and have no other bytes than those with
the property. -/
structure RtspTransportHeader.OverRtp (Q : UInt8 → Prop) (trsp : RtspTransportHeader) :
    Prop where
  transportProtocol : trsp.transportProtocol = some (ascii "RTP")
  transportProfile : trsp.transportProfile = some (ascii "AVP")
  destination : ∀ value ∈ trsp.destination, value ≠ [] ∧ ∀ b ∈ value, Q b
  source : ∀ value ∈ trsp.source, value ≠ [] ∧ ∀ b ∈ value, Q b
  interleaved : trsp.interleaved.length ≤ 1

theorem RtspTransportHeader.RtpAvp.overRtp {trsp : RtspTransportHeader} (h : trsp.RtpAvp) :
    trsp.OverRtp ListByte where
  transportProtocol := h.transportProtocol
  transportProfile := h.transportProfile
  destination := h.destination
  source := h.source
  interleaved := h.interleaved

theorem transportSpecRead_text (lowerTransport : RtspLowerTransport) :
    transportSpecRead (ascii "RTP/AVP/" ++ rtspLowerTransportStr lowerTransport) =
      .ok { transportProtocol := some (ascii "RTP"), transportProfile := some (ascii "AVP"),
            lowerTransport } := by
  cases lowerTransport <;> decide +kernel

section Entries

variable {Q : UInt8 → Prop} {trsp : RtspTransportHeader}

theorem transportParams_read (h : trsp.OverRtp Q) :
    TransportReads (transportParams trsp)
      { transportProtocol := some (ascii "RTP"), transportProfile := some (ascii "AVP"),
        lowerTransport := trsp.lowerTransport } trsp.settled := by
  obtain ⟨transportProtocol, transportProfile, lowerTransport, interleaved, delivery, destination,
    source, layers, method, append, ttl, srcStreamPort, srcControlPort, dstStreamPort,
    dstControlPort, ssrcValid, ssrc⟩ := trsp
  obtain rfl : transportProtocol = some (ascii "RTP") := h.transportProtocol
  obtain rfl : transportProfile = some (ascii "AVP") := h.transportProfile
  have hdestination : destination ≠ some [] := by
    rintro rfl
    exact (h.destination [] rfl).1 rfl
  have hsource : source ≠ some [] := by
    rintro rfl
    exact (h.source [] rfl).1 rfl
  generalize hfirst : ({ transportProtocol := some (ascii "RTP"),
                         transportProfile := some (ascii "AVP"),
                         lowerTransport } : RtspTransportHeader) = first
  have hspec := reads_delivery first delivery
  have hplaces := (hspec.append
    (@reads_text (ascii "destination=") (ascii "destination") _
      (fun destination => { first with delivery, destination })
      (by decide +kernel) rfl (fun _ => rfl) (by rw [← hfirst]) _ hdestination)).append
    (@reads_text (ascii "source=") (ascii "source") _
      (fun source => { first with delivery, destination, source })
      (by decide +kernel) rfl (fun _ => rfl) (by rw [← hfirst]) _ hsource)
  have hnumbers := ((hplaces.append (reads_append (by rw [← hfirst]) append)).append
    (@reads_number (ascii "ttl=") (ascii "ttl") _
      (fun ttl => { first with delivery, destination, source, append, ttl })
      (by decide +kernel) rfl (fun _ => rfl) (by rw [← hfirst]) ttl)).append
    (@reads_number (ascii "layers=") (ascii "layers") _
      (fun layers => { first with delivery, destination, source, append, ttl, layers })
      (by decide +kernel) rfl (fun _ => rfl) (by rw [← hfirst]) layers)
  have hchannels := (hnumbers.append (reads_allPorts (by rw [← hfirst]) delivery
      dstStreamPort dstControlPort srcStreamPort srcControlPort)).append
    (reads_interleaved (by rw [← hfirst]) lowerTransport h.interleaved)
  have hall := (hchannels.append
    (reads_ssrc (by rw [← hfirst]; exact ⟨rfl, rfl⟩) ssrcValid ssrc)).append
    (reads_mode (by rw [← hfirst]) method)
  rw [← hfirst] at hall ⊢
  exact hall

variable (hQ : ∀ b, isTextByte b = true → Q b)

include hQ

theorem portsParams_textsOf {name : Bytes} (hname : name ≠ [] ∧ ∀ b ∈ name, Q b)
    (stream control : UInt16) : TextsOf Q (portsParams name stream control) := by
  unfold portsParams
  refine .ite (fun _ => .nil) fun _ => ?_
  have hequal := (ascii_textOf hQ (s := "=") (by decide +kernel)).2
  rw [List.append_assoc, List.append_assoc, List.append_assoc]
  refine .named hname fun b hb => ?_
  rcases List.mem_append.mp hb with hb | hb
  · exact hequal b hb
  · rw [← List.append_assoc] at hb
    exact dashed_textOf hQ _ _ b hb

theorem transportParams_textsOf (h : trsp.OverRtp Q) : TextsOf Q (transportParams trsp) := by
  have hoption : ∀ {name : Bytes} (value : Option Bytes), (name ≠ [] ∧ ∀ b ∈ name, Q b) →
      (∀ text ∈ value, text ≠ [] ∧ ∀ b ∈ text, Q b) →
      TextsOf Q (value.toList.map (name ++ ·)) := by
    intro name value hname hvalue
    cases value with
    | none => exact .nil
    | some text => exact .named hname (hvalue text rfl).2
  have hsingle : ∀ {name : Bytes}, (name ≠ [] ∧ ∀ b ∈ name, Q b) → TextsOf Q [name] :=
    fun hname => .one hname.1 hname.2
  have hsigned : ∀ n : UInt32, ∀ b ∈ formatSigned n, Q b :=
    fun n b hb => hQ b (formatInt_textByte hb)
  have hdelivery : TextsOf Q
      [if trsp.delivery = .unicast then ascii "unicast" else ascii "multicast"] := by
    split
    next => exact hsingle (ascii_textOf hQ (by decide +kernel))
    next => exact hsingle (ascii_textOf hQ (by decide +kernel))
  have hpairs : TextsOf Q (if trsp.lowerTransport = .tcp ∧ trsp.interleaved ≠ [] then
      [ascii "interleaved=" ++
        List.intercalate comma (trsp.interleaved.map channelPairText)] else []) := by
    refine .ite (fun hsome => ?_) fun _ => .nil
    obtain ⟨pair, rest, heq⟩ := List.exists_cons_of_ne_nil hsome.2
    have hshort := h.interleaved
    rw [heq] at hshort ⊢
    obtain rfl : rest = [] := List.length_eq_zero_iff.mp (by simpa using hshort)
    rw [List.map_singleton, List.intercalate_singleton]
    exact .named (ascii_textOf hQ (by decide +kernel)) (dashed_textOf hQ _ _)
  have hmode : TextsOf Q (modeParams trsp.method) := by
    cases trsp.method with
    | unknown => exact .nil
    | record => exact hsingle (ascii_textOf hQ (by decide +kernel))
    | play => exact hsingle (ascii_textOf hQ (by decide +kernel))
  unfold transportParams
  refine ((((((((hdelivery.append (hoption _ (ascii_textOf hQ (by decide +kernel))
    h.destination)).append (hoption _ (ascii_textOf hQ (by decide +kernel))
    h.source)).append ?_).append ?_).append ?_).append ?_).append hpairs).append ?_).append hmode
  · exact .ite (fun _ => hsingle (ascii_textOf hQ (by decide +kernel))) fun _ => .nil
  · exact .ite (fun _ => .nil) fun _ => .named (ascii_textOf hQ (by decide +kernel)) (hsigned _)
  · exact .ite (fun _ => .nil) fun _ => .named (ascii_textOf hQ (by decide +kernel)) (hsigned _)
  · refine .ite (fun _ => ?_) fun _ =>
      portsParams_textsOf hQ (ascii_textOf hQ (by decide +kernel)) _ _
    exact (portsParams_textsOf hQ (ascii_textOf hQ (by decide +kernel)) _ _).append
      (portsParams_textsOf hQ (ascii_textOf hQ (by decide +kernel)) _ _)
  · exact .ite (fun _ => .named (ascii_textOf hQ (by decide +kernel))
      (spells_textOf hQ (by decide) (spells_formatHex 8 _))) fun _ => .nil

/-- An entry that is written has such parameters, and they say what the entry says once it is
settled. -/
theorem transportEntry_read (h : trsp.OverRtp Q) {rendering : Bytes}
    (htext : transportText trsp = some rendering) :
    ∃ params, rendering = List.intercalate semicolon params ∧ params ≠ [] ∧
      TextsOf Q params ∧ transportOfParams params = .ok (some trsp.settled) := by
  have hprotocol : nonEmpty trsp.transportProtocol = some (ascii "RTP") := by
    rw [h.transportProtocol]
    decide +kernel
  have hprofile : nonEmpty trsp.transportProfile = some (ascii "AVP") := by
    rw [h.transportProfile]
    decide +kernel
  have hspec : ascii "RTP" ++ ascii "/" ++ ascii "AVP" ++ ascii "/" = ascii "RTP/AVP/" := by
    decide +kernel
  unfold transportText at htext
  rw [hprotocol, hprofile] at htext
  dsimp only at htext
  rw [hspec, Option.some.injEq] at htext
  refine ⟨_, htext.symm, by simp, ?_, ?_⟩
  · have hfirst : TextsOf Q [ascii "RTP/AVP/" ++ rtspLowerTransportStr trsp.lowerTransport] := by
      refine .named (ascii_textOf hQ (by decide +kernel)) ?_
      cases trsp.lowerTransport with
      | udp => exact (ascii_textOf hQ (by decide +kernel)).2
      | tcp => exact (ascii_textOf hQ (by decide +kernel)).2
      | mux => exact (ascii_textOf hQ (by decide +kernel)).2
    exact hfirst.append (transportParams_textsOf hQ h)
  · unfold transportOfParams
    dsimp only
    rw [transportSpecRead_text]
    have hparams := transportParams_read h
    unfold TransportReads at hparams
    rw [except_ok_bind, hparams]
    rfl

omit hQ in
theorem transportText_some (h : trsp.OverRtp Q) : (transportText trsp).isSome := by
  unfold transportText
  rw [h.transportProtocol, h.transportProfile]
  rfl

end Entries

/-! ## The round trip -/

/-- An array of RTP transports that is written is read back in order, each entry
settled. -/
theorem transport_roundTrip {slots : List (Option RtspTransportHeader)} {maxCount : Nat}
    {str str' : RtspString}
    (hvalid : ∀ trsp, some trsp ∈ slots → (transportText trsp).isSome → trsp.RtpAvp)
    (hmax : slots.length ≤ maxCount)
    (h : rtspPrint (rtspTransportHeaderWriteSlots slots) str = .ok str') :
    ∃ value, str'.str = str.str ++ (ascii "Transport: " ++ value ++ rtspCrlf) ∧
      rtspTransportHeaderRead value maxCount =
        .ok ((writtenEntries transportText slots).map RtspTransportHeader.settled) := by
  refine ⟨slotsText transportText slots, slotsHeader_written transportWrite_renders h, ?_⟩
  rw [rtspTransportHeaderRead_eq]
  refine readEntries_slots ?_ hmax
  intro trsp hslot rendering htext
  have hrtp := (hvalid trsp hslot (by simp [htext])).overRtp
  obtain ⟨params, hrendering, hne, htexts, hread⟩ :=
    transportEntry_read (fun _ => listByte_textByte) hrtp htext
  exact ⟨params, hrendering, htexts.listParams hne fun _ hb => hb, hread⟩

/-- An array with a null pointer and a transport without a profile; the control
port that was not set comes back as the port after the stream port. -/
theorem mixedTransports_roundTrip :
    ∃ str' value, rtspPrint (rtspTransportHeaderWriteSlots
        [none,
          some { transportProtocol := some (ascii "RTP"), transportProfile := some (ascii "AVP"),
                 lowerTransport := .tcp, delivery := .unicast, dstStreamPort := 65535,
                 interleaved := [⟨0, 1⟩], ssrc := 7 },
          some { transportProtocol := some (ascii "RTP") }])
        { maxLen := 128 } = .ok str' ∧
      str'.str = [] ++ (ascii "Transport: " ++ value ++ rtspCrlf) ∧
      rtspTransportHeaderRead value 5 =
        .ok [{ transportProtocol := some (ascii "RTP"), transportProfile := some (ascii "AVP"),
               lowerTransport := .tcp, delivery := .unicast, dstStreamPort := 65535,
               dstControlPort := 0, interleaved := [⟨0, 1⟩] }] := by
  have hprint : rtspPrint (rtspTransportHeaderWriteSlots
      [none,
        some { transportProtocol := some (ascii "RTP"), transportProfile := some (ascii "AVP"),
               lowerTransport := .tcp, delivery := .unicast, dstStreamPort := 65535,
               interleaved := [⟨0, 1⟩], ssrc := 7 },
        some { transportProtocol := some (ascii "RTP") }])
      { maxLen := 128 } =
        .ok ⟨ascii "Transport: RTP/AVP/TCP;unicast;client_port=65535-0;interleaved=0-1," ++
          rtspCrlf, 128⟩ := by
    decide +kernel
  have hvalid : ∀ trsp, some trsp ∈
      [none,
        some { transportProtocol := some (ascii "RTP"), transportProfile := some (ascii "AVP"),
               lowerTransport := .tcp, delivery := .unicast, dstStreamPort := 65535,
               interleaved := [⟨0, 1⟩], ssrc := 7 },
        some ({ transportProtocol := some (ascii "RTP") } : RtspTransportHeader)] →
      (transportText trsp).isSome → trsp.RtpAvp := by
    intro trsp hmem hsome
    simp only [List.mem_cons, reduceCtorEq, Option.some.injEq, List.not_mem_nil, or_false,
      false_or] at hmem
    rcases hmem with rfl | rfl
    · exact ⟨rfl, rfl, by simp, by simp, by decide, by decide, by decide⟩
    · exact absurd hsome (by decide +kernel)
  obtain ⟨value, hvalue, hread⟩ := transport_roundTrip hvalid (show 3 ≤ 5 by decide) hprint
  refine ⟨_, value, hprint, hvalue, hread.trans ?_⟩
  decide +kernel

end Librtsp
