import Librtsp.HeaderWrite
import Librtsp.ListEntries
import Librtsp.Numerals

/-!
# Arrays of list entries

The writers of the `RTP-Info` and `Transport` headers are given an array of
pointers.  They pass over a null pointer and over an entry without its mandatory
texts, but whether a comma follows an entry is decided by the place of its slot
in the array.
-/

namespace Librtsp

open CString

/-! ## Writing an array -/

section Slots

variable {α : Type}

/-- The entries of an array of pointers; each is told whether its slot is the last. -/
def slotsWrite (write : α → Bool → List Piece) : List (Option α) → List Piece
  | [] => []
  | none :: rest => slotsWrite write rest
  | some entry :: rest => write entry rest.isEmpty ++ slotsWrite write rest

/-- What an entry looks like in the header, and the entries that are passed over. -/
structure Renders (write : α → Bool → List Piece) (text : α → Option Bytes) : Prop where
  skips : ∀ entry last, text entry = none → printed (write entry last) = some []
  prints : ∀ entry last rendering, text entry = some rendering →
    printed (write entry last) = some (rendering ++ if last then [] else comma)

variable (text : α → Option Bytes)

/-- The renderings of the entries that are not passed over. -/
def renderings (slots : List (Option α)) : List Bytes :=
  slots.filterMap (·.bind text)

/-- What the writer prints for an array. -/
def slotsText : List (Option α) → Bytes
  | [] => []
  | slot :: rest =>
      match slot.bind text with
      | none => slotsText rest
      | some rendering => rendering ++ (if rest.isEmpty then [] else comma) ++ slotsText rest

/-- No slot is written, or the last one is. -/
def EndsWritten (slots : List (Option α)) : Prop :=
  renderings text slots = [] ∨ ∃ slot ∈ slots.getLast?, (slot.bind text).isSome

variable {text}

theorem printed_slotsWrite {write : α → Bool → List Piece} (hwrite : Renders write text)
    (slots : List (Option α)) :
    printed (slotsWrite write slots) = some (slotsText text slots) := by
  induction slots with
  | nil => rfl
  | cons slot rest ih =>
      cases slot with
      | none => exact ih
      | some entry =>
          rw [slotsWrite, slotsText, Option.bind_some]
          cases htext : text entry with
          | none =>
              rw [printed_append_some (hwrite.skips entry _ htext), ih]
              rfl
          | some rendering =>
              rw [printed_append_some (hwrite.prints entry _ rendering htext), ih]
              rfl

theorem renderings_cons (slot : Option α) (rest : List (Option α)) :
    renderings text (slot :: rest) = (slot.bind text).toList ++ renderings text rest := by
  unfold renderings
  cases h : slot.bind text <;> simp [h]

theorem slotsText_of_none {slots : List (Option α)} (h : renderings text slots = []) :
    slotsText text slots = [] := by
  induction slots with
  | nil => rfl
  | cons slot rest ih =>
      rw [renderings_cons, List.append_eq_nil_iff, Option.toList_eq_nil_iff] at h
      rw [slotsText, h.1]
      exact ih h.2

/-- The bytes of an array are those of its entries and the commas between them. -/
theorem mem_slotsText {slots : List (Option α)} {b : UInt8} (hb : b ∈ slotsText text slots) :
    b ∈ comma ∨ ∃ entry, some entry ∈ slots ∧ ∃ rendering ∈ text entry, b ∈ rendering := by
  induction slots with
  | nil => cases hb
  | cons slot rest ih =>
      have hlater : b ∈ slotsText text rest →
          b ∈ comma ∨ ∃ entry, some entry ∈ slot :: rest ∧
            ∃ rendering ∈ text entry, b ∈ rendering := by
        intro hb
        rcases ih hb with hcomma | ⟨entry, hentry, hrendering⟩
        · exact .inl hcomma
        · exact .inr ⟨entry, List.mem_cons_of_mem _ hentry, hrendering⟩
      rw [slotsText] at hb
      split at hb
      next => exact hlater hb
      next rendering hslot =>
        rcases List.mem_append.mp hb with hb | hb
        · rcases List.mem_append.mp hb with hb | hb
          · obtain ⟨entry, rfl, htext⟩ := Option.bind_eq_some_iff.mp hslot
            exact .inr ⟨entry, List.mem_cons_self, rendering, htext, hb⟩
          · split at hb
            next => cases hb
            next => exact .inl hb
        · exact hlater hb

/-- A comma is left behind exactly by slots passed over after the last written one. -/
theorem slotsText_eq {slots : List (Option α)} (h : renderings text slots ≠ []) :
    slotsText text slots = List.intercalate comma (renderings text slots) ++
      (if (slots.getLast?.bind (·.bind text)).isSome then [] else comma) := by
  induction slots with
  | nil => exact absurd rfl h
  | cons slot rest ih =>
      rw [renderings_cons] at h ⊢
      rw [slotsText]
      by_cases hrest : renderings text rest = []
      · cases hslot : slot.bind text with
        | none => simp [hslot, hrest] at h
        | some rendering =>
            dsimp only
            rw [slotsText_of_none hrest, hrest]
            cases rest with
            | nil => simp [hslot]
            | cons next rest =>
                -- nothing after this slot is written, so its comma stays
                have hlast : ((slot :: next :: rest).getLast?.bind (·.bind text)) = none := by
                  rw [List.getLast?_cons_cons]
                  cases hend : (next :: rest).getLast? with
                  | none => rfl
                  | some last =>
                      have hall := List.filterMap_eq_nil_iff.mp hrest
                      exact hall last (List.mem_of_getLast? hend)
                rw [hlast]
                simp
      · have hne : rest ≠ [] := by
          rintro rfl
          exact hrest rfl
        have hlast : (slot :: rest).getLast? = rest.getLast? := by
          obtain ⟨next, tail, rfl⟩ := List.exists_cons_of_ne_nil hne
          exact List.getLast?_cons_cons
        rw [hlast]
        cases hslot : slot.bind text with
        | none =>
            dsimp only
            rw [ih hrest]
            rfl
        | some rendering =>
            dsimp only
            rw [ih hrest, Option.toList_some, List.singleton_append,
              List.intercalate_cons_of_ne_nil hrest]
            simp [hne]

theorem slotsText_joined_iff (slots : List (Option α)) :
    slotsText text slots = List.intercalate comma (renderings text slots) ↔
      EndsWritten text slots := by
  by_cases hnone : renderings text slots = []
  · constructor
    · intro _
      exact .inl hnone
    · intro _
      rw [slotsText_of_none hnone, hnone]
      rfl
  · rw [slotsText_eq hnone]
    constructor
    · intro h
      cases hlast : slots.getLast?.bind (·.bind text) with
      | none => simp [hlast, comma] at h
      | some rendering =>
          obtain ⟨slot, hslot, hbind⟩ := Option.bind_eq_some_iff.mp hlast
          exact .inr ⟨slot, hslot, by simp [hbind]⟩
    · rintro (h | ⟨slot, hslot, hsome⟩)
      · exact absurd h hnone
      · rw [Option.mem_def.mp hslot, Option.bind_some, if_pos hsome, List.append_nil]

end Slots

/-! ## The two headers -/

/-- The same writer for an array in which pointers may be null. -/
def rtspRtpInfoHeaderWriteSlots (rtpInfo : List (Option RtspRtpInfoHeader)) : List Piece :=
  if rtpInfo = [] then [.error .einval]
  else [.ok (ascii "RTP-Info: ")] ++ slotsWrite rtpInfoWrite rtpInfo ++ [.ok rtspCrlf]

/-- The same writer for an array in which pointers may be null. -/
def rtspTransportHeaderWriteSlots (transport : List (Option RtspTransportHeader)) :
    List Piece :=
  if transport = [] then [.error .einval]
  else [.ok (ascii "Transport: ")] ++ slotsWrite transportWrite transport ++ [.ok rtspCrlf]

theorem rtspRtpInfoHeaderWriteSlots_some (rtpInfo : List RtspRtpInfoHeader) :
    rtspRtpInfoHeaderWriteSlots (rtpInfo.map some) = rtspRtpInfoHeaderWrite rtpInfo := by
  have hslots : ∀ rtpInfo : List RtspRtpInfoHeader,
      slotsWrite rtpInfoWrite (rtpInfo.map some) = rtpInfosWrite rtpInfo := by
    intro rtpInfo
    induction rtpInfo with
    | nil => rfl
    | cons rtpi rest ih =>
        rw [List.map_cons, slotsWrite, rtpInfosWrite, ih, List.isEmpty_map]
  unfold rtspRtpInfoHeaderWriteSlots rtspRtpInfoHeaderWrite
  simp only [List.map_eq_nil_iff, hslots]

theorem rtspTransportHeaderWriteSlots_some (transport : List RtspTransportHeader) :
    rtspTransportHeaderWriteSlots (transport.map some) = rtspTransportHeaderWrite transport := by
  have hslots : ∀ transport : List RtspTransportHeader,
      slotsWrite transportWrite (transport.map some) = transportsWrite transport := by
    intro transport
    induction transport with
    | nil => rfl
    | cons trsp rest ih =>
        rw [List.map_cons, slotsWrite, transportsWrite, ih, List.isEmpty_map]
  unfold rtspTransportHeaderWriteSlots rtspTransportHeaderWrite
  simp only [List.map_eq_nil_iff, hslots]

/-! ## Entries as lists of parameters -/

/-- Parameters after the first one, each with the semicolon before it. -/
def furtherParams (params : List Bytes) : Bytes :=
  (params.map (semicolon ++ ·)).flatten

theorem intercalate_cons_flatten (separator text : Bytes) (texts : List Bytes) :
    List.intercalate separator (text :: texts) = text ++ (texts.map (separator ++ ·)).flatten := by
  induction texts generalizing text with
  | nil => simp
  | cons next texts ih =>
      rw [List.intercalate_cons_cons, ih next]
      simp

/-- Pieces that print further parameters go after pieces that print the first ones. -/
theorem printed_params {ps qs : List Piece} {params params' : List Bytes}
    (hps : printed ps = some (List.intercalate semicolon params)) (hne : params ≠ [])
    (hqs : printed qs = some (furtherParams params')) :
    printed (ps ++ qs) = some (List.intercalate semicolon (params ++ params')) := by
  obtain ⟨param, rest, rfl⟩ := List.exists_cons_of_ne_nil hne
  rw [printed_append_some hps, hqs, List.cons_append]
  simp [intercalate_cons_flatten, furtherParams]

theorem named_value {before name : Bytes} (hbefore : before = semicolon ++ name)
    (value : Bytes) : before ++ value = semicolon ++ (name ++ value) := by
  rw [hbefore, List.append_assoc]

/-- A parameter that is there under a condition. -/
theorem printed_param (c : Prop) [Decidable c] {text : Bytes} (param : Bytes)
    (htext : text = semicolon ++ param) :
    printed (if c then [.ok text] else []) = some (furtherParams (if c then [param] else [])) := by
  subst htext
  split <;> simp [furtherParams]

theorem printed_unless (c : Prop) [Decidable c] {text : Bytes} (param : Bytes)
    (htext : text = semicolon ++ param) :
    printed (if c then [] else [.ok text]) = some (furtherParams (if c then [] else [param])) := by
  subst htext
  split <;> simp [furtherParams]

/-- A parameter whose value may be missing. -/
theorem printed_optional {before : Bytes} (name : Bytes) (value : Option Bytes)
    (hbefore : before = semicolon ++ name) :
    printed (value.toList.map fun value => .ok (before ++ value)) =
      some (furtherParams (value.toList.map (name ++ ·))) := by
  subst hbefore
  cases value <;> simp [furtherParams]

theorem printed_separator {ps : List Piece} {text : Bytes} (hps : printed ps = some text)
    (last : Bool) :
    printed (ps ++ if last then [] else [.ok (ascii ",")]) =
      some (text ++ if last then [] else comma) := by
  rw [printed_append_some hps]
  cases last <;> rfl

def rtpInfoParams (rtpi : RtspRtpInfoHeader) (url : Bytes) : List Bytes :=
  [ascii "url=" ++ url] ++
    (if rtpi.seqValid then [ascii "seq=" ++ formatNat rtpi.seq.toNat] else []) ++
    (if rtpi.rtptimeValid then [ascii "rtptime=" ++ formatNat rtpi.rtptime.toNat] else [])

/-- What an `RTP-Info` entry looks like; one without a URL is passed over. -/
def rtpInfoText (rtpi : RtspRtpInfoHeader) : Option Bytes :=
  (nonEmpty rtpi.url).map fun url => List.intercalate semicolon (rtpInfoParams rtpi url)

theorem rtpInfoWrite_renders : Renders rtpInfoWrite rtpInfoText := by
  constructor
  · intro rtpi last hnone
    unfold rtpInfoWrite
    rw [Option.map_eq_none_iff.mp hnone]
    rfl
  · intro rtpi last rendering hsome
    obtain ⟨url, hurl, rfl⟩ := Option.map_eq_some_iff.mp hsome
    have hfirst : printed [.ok (ascii "url=" ++ url)] =
        some (List.intercalate semicolon [ascii "url=" ++ url]) := by simp
    unfold rtpInfoWrite
    rw [hurl]
    apply printed_separator
    exact printed_params
      (printed_params hfirst (by simp)
        (printed_param _ (ascii "seq=" ++ formatNat rtpi.seq.toNat) (named_value rfl _))) (by simp)
      (printed_param _ (ascii "rtptime=" ++ formatNat rtpi.rtptime.toNat) (named_value rfl _))

/-- A port pair as a parameter; there is none without a stream port. -/
def portsParams (name : Bytes) (stream control : UInt16) : List Bytes :=
  if stream = 0 then []
  else
    [name ++ ascii "=" ++ formatNat stream.toNat ++ ascii "-" ++
      formatNat (if control = 0 then stream + 1 else control).toNat]

def channelPairText (pair : RtspChannelPair) : Bytes :=
  formatNat pair.rtp.toNat ++ ascii "-" ++ formatNat pair.rtcp.toNat

def modeParams : RtspTransportMethod → List Bytes
  | .unknown => []
  | .record => [ascii "mode=RECORD"]
  | .play => [ascii "mode=PLAY"]

/-- The parameters after the transport specifier. -/
def transportParams (trsp : RtspTransportHeader) : List Bytes :=
  [if trsp.delivery = .unicast then ascii "unicast" else ascii "multicast"] ++
    (trsp.destination.toList.map (ascii "destination=" ++ ·)) ++
    (trsp.source.toList.map (ascii "source=" ++ ·)) ++
    (if trsp.append then [ascii "append"] else []) ++
    (if trsp.ttl = 0 then [] else [ascii "ttl=" ++ formatSigned trsp.ttl]) ++
    (if trsp.layers = 0 then [] else [ascii "layers=" ++ formatSigned trsp.layers]) ++
    (if trsp.delivery = .unicast then
        portsParams (ascii "client_port") trsp.dstStreamPort trsp.dstControlPort ++
          portsParams (ascii "server_port") trsp.srcStreamPort trsp.srcControlPort
      else portsParams (ascii "port") trsp.dstStreamPort trsp.dstControlPort) ++
    (if trsp.lowerTransport = .tcp ∧ trsp.interleaved ≠ [] then
        [ascii "interleaved=" ++
          List.intercalate comma (trsp.interleaved.map channelPairText)]
      else []) ++
    (if trsp.ssrcValid then [ascii "ssrc=" ++ formatHex 8 trsp.ssrc.toNat] else []) ++
    modeParams trsp.method

/-- What a `Transport` entry looks like; one without a protocol or a profile is
passed over. -/
def transportText (trsp : RtspTransportHeader) : Option Bytes :=
  match nonEmpty trsp.transportProtocol, nonEmpty trsp.transportProfile with
  | some protocol, some profile =>
      some (List.intercalate semicolon
        ((protocol ++ ascii "/" ++ profile ++ ascii "/" ++
          rtspLowerTransportStr trsp.lowerTransport) :: transportParams trsp))
  | _, _ => none

theorem printed_portsWrite (name : Bytes) (stream control : UInt16) :
    printed (portsWrite name stream control) =
      some (furtherParams (portsParams name stream control)) := by
  unfold portsWrite portsParams
  split
  next => rfl
  next => simp [furtherParams, semicolon, ascii]

theorem printed_channelPairsWrite (pairs : List RtspChannelPair) :
    printed (channelPairsWrite false pairs) =
        some ((pairs.map channelPairText).map (comma ++ ·)).flatten ∧
      printed (channelPairsWrite true pairs) =
        some (List.intercalate comma (pairs.map channelPairText)) := by
  induction pairs with
  | nil => exact ⟨rfl, rfl⟩
  | cons pair pairs ih =>
      have hcomma : ascii "," = comma := rfl
      simp only [channelPairsWrite, Bool.false_eq_true, ↓reduceIte, List.cons_append,
        List.nil_append, printed_ok, ih.1, List.map_cons, intercalate_cons_flatten, hcomma]
      simp [channelPairText]

theorem printed_interleaved (trsp : RtspTransportHeader) :
    printed (if trsp.lowerTransport = .tcp ∧ trsp.interleaved ≠ [] then
        .ok (ascii ";interleaved=") :: channelPairsWrite true trsp.interleaved
      else []) =
    some (furtherParams (if trsp.lowerTransport = .tcp ∧ trsp.interleaved ≠ [] then
        [ascii "interleaved=" ++ List.intercalate comma (trsp.interleaved.map channelPairText)]
      else [])) := by
  split
  next =>
    rw [printed_ok, (printed_channelPairsWrite trsp.interleaved).2]
    simp [furtherParams, semicolon]
    rfl
  next => rfl

theorem printed_method (method : RtspTransportMethod) :
    printed (match method with
      | .unknown => []
      | .record => [.ok (ascii ";mode=RECORD")]
      | .play => [.ok (ascii ";mode=PLAY")]) =
    some (furtherParams (modeParams method)) := by
  cases method <;> rfl

theorem transportWrite_renders : Renders transportWrite transportText := by
  constructor
  · intro trsp last hnone
    unfold transportWrite
    unfold transportText at hnone
    split
    next protocol profile hprotocol hprofile => simp [hprotocol, hprofile] at hnone
    next => rfl
  · intro trsp last rendering hsome
    unfold transportText at hsome
    split at hsome
    next protocol profile hprotocol hprofile =>
      rw [Option.some.injEq] at hsome
      subst hsome
      unfold transportWrite
      rw [hprotocol, hprofile]
      dsimp only
      apply printed_separator
      have hfirst : printed [.ok (protocol ++ ascii "/" ++ profile ++ ascii "/" ++
            rtspLowerTransportStr trsp.lowerTransport ++ ascii ";" ++
            (if trsp.delivery = .unicast then ascii "unicast" else ascii "multicast"))] =
          some (List.intercalate semicolon
            [protocol ++ ascii "/" ++ profile ++ ascii "/" ++
                rtspLowerTransportStr trsp.lowerTransport,
              if trsp.delivery = .unicast then ascii "unicast" else ascii "multicast"]) := by
        have hsemicolon : ascii ";" = semicolon := rfl
        simp [List.intercalate_cons_cons, hsemicolon]
      have hports : printed (if trsp.delivery = .unicast then
            portsWrite (ascii "client_port") trsp.dstStreamPort trsp.dstControlPort ++
              portsWrite (ascii "server_port") trsp.srcStreamPort trsp.srcControlPort
          else portsWrite (ascii "port") trsp.dstStreamPort trsp.dstControlPort) =
        some (furtherParams (if trsp.delivery = .unicast then
            portsParams (ascii "client_port") trsp.dstStreamPort trsp.dstControlPort ++
              portsParams (ascii "server_port") trsp.srcStreamPort trsp.srcControlPort
          else portsParams (ascii "port") trsp.dstStreamPort trsp.dstControlPort)) := by
        split
        next =>
          rw [printed_append_some (printed_portsWrite _ _ _), printed_portsWrite]
          simp [furtherParams]
        next => exact printed_portsWrite _ _ _
      have hdestination := printed_params hfirst (by simp)
        (@printed_optional (ascii ";destination=") (ascii "destination=") trsp.destination rfl)
      have hsource := printed_params hdestination (by simp)
        (@printed_optional (ascii ";source=") (ascii "source=") trsp.source rfl)
      have happend := printed_params hsource (by simp)
        (@printed_param trsp.append _ (ascii ";append") (ascii "append") rfl)
      have httl := printed_params happend (by simp)
        (@printed_unless (trsp.ttl = 0) _ (ascii ";ttl=" ++ formatSigned trsp.ttl)
          (ascii "ttl=" ++ formatSigned trsp.ttl) (named_value rfl _))
      have hlayers := printed_params httl (by simp)
        (@printed_unless (trsp.layers = 0) _ (ascii ";layers=" ++ formatSigned trsp.layers)
          (ascii "layers=" ++ formatSigned trsp.layers) (named_value rfl _))
      have hpairs := printed_params (printed_params hlayers (by simp) hports) (by simp)
        (printed_interleaved trsp)
      have hssrc := printed_params hpairs (by simp)
        (@printed_param trsp.ssrcValid _ (ascii ";ssrc=" ++ formatHex 8 trsp.ssrc.toNat)
          (ascii "ssrc=" ++ formatHex 8 trsp.ssrc.toNat) (named_value rfl _))
      exact printed_params hssrc (by simp) (printed_method trsp.method)
    next => simp at hsome

/-! ## Separators -/

theorem printed_slotsHeader {α : Type} {write : α → Bool → List Piece}
    {text : α → Option Bytes} (hwrite : Renders write text) (name : Bytes)
    (slots : List (Option α)) :
    printed ([.ok name] ++ slotsWrite write slots ++ [.ok rtspCrlf]) =
      some (name ++ slotsText text slots ++ rtspCrlf) := by
  rw [List.append_assoc, List.singleton_append, printed_ok,
    printed_append_some (printed_slotsWrite hwrite slots)]
  simp

/-- What a list writer has printed when it succeeds. -/
theorem slotsHeader_written {α : Type} {write : α → Bool → List Piece}
    {text : α → Option Bytes} (hwrite : Renders write text) {name : Bytes}
    {slots : List (Option α)} {str str' : RtspString}
    (h : rtspPrint (if slots = [] then [.error .einval]
      else [.ok name] ++ slotsWrite write slots ++ [.ok rtspCrlf]) str = .ok str') :
    str'.str = str.str ++ (name ++ slotsText text slots ++ rtspCrlf) := by
  split at h
  next => simp [rtspPrint] at h
  next =>
    obtain ⟨written, hwritten, rfl⟩ := rtspPrint_ok h
    rw [printed_slotsHeader hwrite] at hwritten
    cases hwritten
    rfl

theorem slotsHeader_joined_iff {α : Type} {text : α → Option Bytes} {name : Bytes}
    {slots : List (Option α)} {str str' : RtspString}
    (hstr : str'.str = str.str ++ (name ++ slotsText text slots ++ rtspCrlf)) :
    str'.str = str.str ++
        (name ++ List.intercalate comma (renderings text slots) ++ rtspCrlf) ↔
      EndsWritten text slots := by
  rw [← slotsText_joined_iff, hstr, List.append_cancel_left_eq, List.append_cancel_right_eq,
    List.append_cancel_left_eq]

/-- A list header that is written holds the renderings of its entries, joined by
single commas, exactly when no slot is passed over after the last entry. -/
theorem listHeaders_joined_iff
    (infos : List (Option RtspRtpInfoHeader)) (transports : List (Option RtspTransportHeader))
    (str str' : RtspString) :
    (rtspPrint (rtspRtpInfoHeaderWriteSlots infos) str = .ok str' →
        (str'.str = str.str ++ (ascii "RTP-Info: " ++
            List.intercalate comma (renderings rtpInfoText infos) ++ rtspCrlf) ↔
          EndsWritten rtpInfoText infos)) ∧
      (rtspPrint (rtspTransportHeaderWriteSlots transports) str = .ok str' →
        (str'.str = str.str ++ (ascii "Transport: " ++
            List.intercalate comma (renderings transportText transports) ++ rtspCrlf) ↔
          EndsWritten transportText transports)) := by
  constructor
  · intro h
    exact slotsHeader_joined_iff (slotsHeader_written rtpInfoWrite_renders h)
  · intro h
    exact slotsHeader_joined_iff (slotsHeader_written transportWrite_renders h)

/-- A null pointer in front of an entry leaves nothing behind. -/
theorem firstSlotNull_joined :
    ∃ str', rtspPrint
        (rtspRtpInfoHeaderWriteSlots [none, some { url := some (ascii "trackID=2") }])
        { maxLen := 64 } = .ok str' ∧
      str'.str = [] ++ (ascii "RTP-Info: " ++ List.intercalate comma
        (renderings rtpInfoText [none, some { url := some (ascii "trackID=2") }]) ++
          rtspCrlf) := by
  have hprint : rtspPrint
      (rtspRtpInfoHeaderWriteSlots [none, some { url := some (ascii "trackID=2") }])
      { maxLen := 64 } = .ok ⟨ascii "RTP-Info: url=trackID=2" ++ rtspCrlf, 64⟩ := by
    decide +kernel
  exact ⟨_, hprint, ((listHeaders_joined_iff _ [] _ _).1 hprint).mpr
    (.inr ⟨_, rfl, by decide +kernel⟩)⟩

/-- A null pointer after the last entry leaves the comma of that entry. -/
theorem lastSlotNull_leavesComma :
    ∃ str', rtspPrint
        (rtspRtpInfoHeaderWriteSlots [some { url := some (ascii "trackID=1") }, none])
        { maxLen := 64 } = .ok str' ∧
      str'.str = ascii "RTP-Info: url=trackID=1," ++ rtspCrlf ∧
      str'.str ≠ ascii "RTP-Info: " ++ List.intercalate comma
        (renderings rtpInfoText [some { url := some (ascii "trackID=1") }, none]) ++
          rtspCrlf :=
  ⟨⟨ascii "RTP-Info: url=trackID=1," ++ rtspCrlf, 64⟩, by decide +kernel, rfl,
    by decide +kernel⟩

/-! ## Reading an array back -/

theorem tokens_joined {d : UInt8} {texts : List Bytes} (htexts : ∀ text ∈ texts, IsToken [d] text) :
    tokens [d] (List.intercalate [d] texts) = texts := by
  induction texts with
  | nil => rfl
  | cons text texts ih =>
      have htext := htexts text (by simp)
      have ih' := ih fun text h => htexts text (by simp [h])
      cases texts with
      | nil => rw [List.intercalate_singleton, tokens_single htext]
      | cons next texts =>
          rw [List.intercalate_cons_cons, List.append_assoc, List.singleton_append,
            tokens_append_cons _ (by simp), tokens_single htext, ih']
          rfl

/-- A text that neither of the list's separators cuts. -/
def ListText (text : Bytes) : Prop :=
  ∀ b ∈ text, b ≠ 0x2c ∧ b ≠ 0x3b

def listChar (c : Char) : Bool :=
  c.toNat != 0x2c && c.toNat != 0x3b && c.toNat < 256

theorem listText_ascii {s : String} (h : s.toList.all listChar = true) : ListText (ascii s) := by
  apply ascii_without
  intro c hc
  have hlist := List.all_eq_true.mp h c hc
  simp only [listChar, Bool.and_eq_true, bne_iff_ne, decide_eq_true_eq] at hlist
  exact ⟨hlist.1.1, hlist.1.2, hlist.2⟩

theorem ListText.append {text text' : Bytes} (h : ListText text) (h' : ListText text') :
    ListText (text ++ text') := by
  intro b hb
  rcases List.mem_append.mp hb with hb | hb
  · exact h b hb
  · exact h' b hb

theorem listText_digits {base n : Nat} {text : Bytes} (hbase : base ≤ 16)
    (htext : Spells base text n) : ListText text := by
  intro b hb
  have hdigit := digitVal_sixteen hbase (htext.digits b hb)
  constructor
  · rintro rfl
    exact absurd hdigit (by decide)
  · rintro rfl
    exact absurd hdigit (by decide)

/-- A byte that cuts no list. -/
def ListByte (b : UInt8) : Prop :=
  b ≠ 0x2c ∧ b ≠ 0x3b

/-- Parameters that are not empty, with bytes that have the property only. -/
def TextsOf (Q : UInt8 → Prop) (params : List Bytes) : Prop :=
  ∀ param ∈ params, param ≠ [] ∧ ∀ b ∈ param, Q b

section Texts

variable {Q : UInt8 → Prop}

theorem TextsOf.nil : TextsOf Q [] := by
  simp [TextsOf]

theorem TextsOf.append {params params' : List Bytes} (h : TextsOf Q params)
    (h' : TextsOf Q params') : TextsOf Q (params ++ params') := by
  intro param hparam
  rcases List.mem_append.mp hparam with hparam | hparam
  · exact h param hparam
  · exact h' param hparam

theorem TextsOf.one {param : Bytes} (hne : param ≠ []) (h : ∀ b ∈ param, Q b) :
    TextsOf Q [param] := by
  intro other hother
  rw [List.mem_singleton.mp hother]
  exact ⟨hne, h⟩

/-- A parameter that is put together from a name and a value. -/
theorem TextsOf.named {name value : Bytes} (hname : name ≠ [] ∧ ∀ b ∈ name, Q b)
    (hvalue : ∀ b ∈ value, Q b) : TextsOf Q [name ++ value] := by
  refine .one (by simp [hname.1]) fun b hb => ?_
  rcases List.mem_append.mp hb with hb | hb
  · exact hname.2 b hb
  · exact hvalue b hb

theorem TextsOf.ite {c : Prop} [Decidable c] {params params' : List Bytes}
    (h : c → TextsOf Q params) (h' : ¬c → TextsOf Q params') :
    TextsOf Q (if c then params else params') := by
  split
  next hc => exact h hc
  next hc => exact h' hc

variable (hQ : ∀ b, isTextByte b = true → Q b)

include hQ

/-- The fixed texts of an entry have text bytes only. -/
theorem ascii_textOf {s : String} (h : ascii s ≠ [] ∧ (ascii s).all isTextByte = true) :
    ascii s ≠ [] ∧ ∀ b ∈ ascii s, Q b :=
  ⟨h.1, fun b hb => hQ b (List.all_eq_true.mp h.2 b hb)⟩

theorem spells_textOf {base n : Nat} {text : Bytes} (hbase : base ≤ 16)
    (htext : Spells base text n) : ∀ b ∈ text, Q b :=
  fun b hb => hQ b (htext.textByte hbase hb)

/-- Two numbers with a dash between them. -/
theorem dashed_textOf (m n : Nat) : ∀ b ∈ formatNat m ++ ascii "-" ++ formatNat n, Q b := by
  intro b hb
  rcases List.mem_append.mp hb with hb | hb
  · rcases List.mem_append.mp hb with hb | hb
    · exact spells_textOf hQ (by decide) (spells_formatNat m) b hb
    · exact (ascii_textOf hQ (by decide +kernel)).2 b hb
  · exact spells_textOf hQ (by decide) (spells_formatNat n) b hb

end Texts

theorem listByte_textByte {b : UInt8} (hb : isTextByte b = true) : ListByte b := by
  simp only [isTextByte, Bool.and_eq_true, bne_iff_ne] at hb
  exact ⟨hb.1.2, hb.2⟩

/-- The parameters of an entry that a list reader takes apart again. -/
structure ListParams (params : List Bytes) : Prop where
  nonempty : params ≠ []
  texts : ∀ param ∈ params, param ≠ [] ∧ ListText param

theorem TextsOf.listParams {Q : UInt8 → Prop} {params : List Bytes} (h : TextsOf Q params)
    (hne : params ≠ []) (hlist : ∀ b, Q b → ListByte b) : ListParams params where
  nonempty := hne
  texts param hparam := ⟨(h param hparam).1, fun b hb => hlist b ((h param hparam).2 b hb)⟩

theorem ListParams.tokens_eq {params : List Bytes} (h : ListParams params) :
    tokens semicolon (List.intercalate semicolon params) = params := by
  apply tokens_joined
  intro param hparam
  obtain ⟨hne, htext⟩ := h.texts param hparam
  exact ⟨hne, fun b hb => by simpa [semicolon] using (htext b hb).2⟩

theorem ListParams.isToken {params : List Bytes} (h : ListParams params) :
    IsToken comma (List.intercalate semicolon params) := by
  obtain ⟨param, rest, rfl⟩ := List.exists_cons_of_ne_nil h.nonempty
  obtain ⟨hne, htext⟩ := h.texts param List.mem_cons_self
  rw [intercalate_cons_flatten]
  refine ⟨by simp [hne], fun b hb => ?_⟩
  rw [comma, List.mem_singleton]
  rcases List.mem_append.mp hb with hb | hb
  · exact (htext b hb).1
  · obtain ⟨text, htext', hb⟩ := List.mem_flatten.mp hb
    obtain ⟨next, hnext, rfl⟩ := List.mem_map.mp htext'
    rcases List.mem_append.mp hb with hb | hb
    · rw [List.mem_singleton.mp hb]
      decide
    · exact ((h.texts next (List.mem_cons_of_mem _ hnext)).2 b hb).1

/-- The reader does not see the commas that slots passed over have left behind. -/
theorem tokens_slotsText {α : Type} {text : α → Option Bytes} {slots : List (Option α)}
    (hslots : ∀ rendering ∈ renderings text slots, IsToken comma rendering) :
    tokens comma (slotsText text slots) = renderings text slots := by
  induction slots with
  | nil => rfl
  | cons slot rest ih =>
      rw [renderings_cons] at hslots ⊢
      have ih' := ih fun rendering h => hslots rendering (by simp [h])
      rw [slotsText]
      cases hslot : slot.bind text with
      | none => simpa using ih'
      | some rendering =>
          have htoken : IsToken comma rendering := hslots rendering (by simp [hslot])
          dsimp only
          rw [← ih']
          cases rest with
          | nil => simp [slotsText, tokens_single htoken]
          | cons next rest =>
              have hcomma : (if (next :: rest).isEmpty then [] else comma) = [0x2c] := rfl
              rw [hcomma, List.append_assoc, List.singleton_append,
                tokens_append_cons _ (by simp [comma]), tokens_single htoken]
              rfl

/-- The entries of an array that are written. -/
def writtenEntries {α : Type} (text : α → Option Bytes) (slots : List (Option α)) : List α :=
  slots.filterMap fun slot => slot.filter fun entry => (text entry).isSome

theorem writtenEntries_all {α : Type} {text : α → Option Bytes} {entries : List α}
    (h : ∀ entry ∈ entries, (text entry).isSome) :
    writtenEntries text (entries.map some) = entries := by
  induction entries with
  | nil => rfl
  | cons entry entries ih =>
      have hentry : (some entry).filter (fun entry => (text entry).isSome) = some entry := by
        rw [Option.filter_some, if_pos (h entry List.mem_cons_self)]
      have hrest := ih fun entry hmem => h entry (List.mem_cons_of_mem _ hmem)
      unfold writtenEntries at hrest ⊢
      rw [List.map_cons, List.filterMap_cons_some hentry, hrest]

theorem renderings_written {α : Type} (text : α → Option Bytes) (slots : List (Option α)) :
    List.Forall₂ (fun rendering entry => some entry ∈ slots ∧ text entry = some rendering)
      (renderings text slots) (writtenEntries text slots) := by
  induction slots with
  | nil => exact .nil
  | cons slot rest ih =>
      have hrest := ih.imp fun rendering entry h =>
        (⟨List.mem_cons_of_mem slot h.1, h.2⟩ :
          some entry ∈ slot :: rest ∧ text entry = some rendering)
      rw [renderings_cons]
      unfold writtenEntries at hrest ⊢
      cases slot with
      | none => exact hrest
      | some entry =>
          cases htext : text entry with
          | none =>
              rw [List.filterMap_cons_none (by simp [htext])]
              simpa [htext] using hrest
          | some rendering =>
              have hkept : (some entry).filter (fun entry => (text entry).isSome) = some entry := by
                simp [htext]
              rw [List.filterMap_cons_some hkept, Option.bind_some, htext]
              exact .cons ⟨List.mem_cons_self, htext⟩ hrest

/-- A list reader reads the entries of an array back as long as it has room. -/
theorem readEntries_slots_take {α : Type} {text : α → Option Bytes}
    {one : List Bytes → Except Stop (Option α)} {back : α → α} {slots : List (Option α)}
    (hone : ∀ entry, some entry ∈ slots → ∀ rendering, text entry = some rendering →
      ∃ params, rendering = List.intercalate semicolon params ∧ ListParams params ∧
        one params = .ok (some (back entry)))
    (maxCount : Nat) :
    readEntries one (reachedEntries (slotsText text slots) maxCount) =
      .ok (((writtenEntries text slots).map back).take maxCount) := by
  have htokens : ∀ rendering ∈ renderings text slots,
      IsToken comma rendering ∧ holdsEntry rendering := by
    intro rendering hrendering
    obtain ⟨slot, hslot, hbind⟩ := List.mem_filterMap.mp hrendering
    obtain ⟨entry, rfl, htext⟩ := Option.bind_eq_some_iff.mp hbind
    obtain ⟨params, rfl, hparams, -⟩ := hone entry hslot rendering htext
    refine ⟨hparams.isToken, ?_⟩
    rw [holdsEntry_iff, hparams.tokens_eq]
    exact hparams.nonempty
  have hentries : reachedEntries (slotsText text slots) maxCount =
      (renderings text slots).take maxCount := by
    rw [reachedEntries, listEntries, tokens_slotsText fun rendering h => (htokens rendering h).1,
      List.filter_eq_self.mpr fun rendering h => (htokens rendering h).2]
  rw [hentries]
  apply readEntries_all
  apply List.forall₂_take
  rw [List.forall₂_map_right_iff]
  refine (renderings_written text slots).imp ?_
  rintro rendering entry ⟨hslot, htext⟩
  obtain ⟨params, rfl, hparams, hread⟩ := hone entry hslot rendering htext
  rw [hparams.tokens_eq, hread]

/-- With enough room it reads all of them. -/
theorem readEntries_slots {α : Type} {text : α → Option Bytes}
    {one : List Bytes → Except Stop (Option α)} {back : α → α} {slots : List (Option α)}
    (hone : ∀ entry, some entry ∈ slots → ∀ rendering, text entry = some rendering →
      ∃ params, rendering = List.intercalate semicolon params ∧ ListParams params ∧
        one params = .ok (some (back entry)))
    {maxCount : Nat} (hmax : slots.length ≤ maxCount) :
    readEntries one (reachedEntries (slotsText text slots) maxCount) =
      .ok ((writtenEntries text slots).map back) := by
  have hlength : ((writtenEntries text slots).map back).length ≤ maxCount := by
    rw [List.length_map]
    exact (List.length_filterMap_le _ _).trans hmax
  rw [readEntries_slots_take hone, List.take_of_length_le hlength]

end Librtsp
