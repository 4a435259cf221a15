import Librtsp.Numerals
import Librtsp.FieldLines
import Librtsp.HeaderWrite
import Librtsp.Execution

/-!
# The lines of a written request

A request header is printed in pieces, of which several may make up one line.  Each writer
prints whole lines, one for each field that is set, or fails; only a Digest without a response
ends the Authorization field after its name and reports success.  The room that is left is
compared as a signed number of 32 bits, so that the size of the buffer counts as such.
-/

namespace Librtsp

open CString

/-! ## Plain texts -/

/-- A text without line ends. -/
def PlainText (text : Bytes) : Prop :=
  ∀ b ∈ text, b ≠ 0x0d ∧ b ≠ 0x0a

instance (text : Bytes) : Decidable (PlainText text) :=
  inferInstanceAs (Decidable (∀ b ∈ text, b ≠ 0x0d ∧ b ≠ 0x0a))

theorem PlainText.nil : PlainText [] := fun _ h => nomatch h

def plainChar (c : Char) : Bool :=
  c.toNat != 0x0d && c.toNat != 0x0a && c.toNat < 256

theorem plainText_ascii {s : String} (h : s.toList.all plainChar = true) :
    PlainText (ascii s) := by
  apply ascii_without
  intro c hc
  have hplain := List.all_eq_true.mp h c hc
  simp only [plainChar, Bool.and_eq_true, bne_iff_ne, decide_eq_true_eq] at hplain
  exact ⟨hplain.1.1, hplain.1.2, hplain.2⟩

theorem PlainText.cons {b : UInt8} {text : Bytes} (hb : b ≠ 0x0d ∧ b ≠ 0x0a)
    (h : PlainText text) : PlainText (b :: text) := by
  intro c hc
  rcases List.mem_cons.mp hc with rfl | hc
  · exact hb
  · exact h c hc

theorem PlainText.append {a b : Bytes} (ha : PlainText a) (hb : PlainText b) :
    PlainText (a ++ b) := by
  intro c hc
  rcases List.mem_append.mp hc with h | h
  · exact ha c h
  · exact hb c h

theorem PlainText.take {a : Bytes} (h : PlainText a) (n : Nat) : PlainText (a.take n) :=
  fun b hb => h b (List.mem_of_mem_take hb)

theorem PlainText.count {a : Bytes} (h : PlainText a) : a.count 0x0a = 0 :=
  List.count_eq_zero.mpr fun hmem => (h _ hmem).2 rfl

theorem plainText_spells {base n : Nat} {text : Bytes} (hbase : base ≤ 16)
    (h : Spells base text n) : PlainText text := by
  intro b hb
  have hspace := (h.plain hbase hb).1
  constructor
  · rintro rfl
    exact absurd hspace (by decide)
  · rintro rfl
    exact absurd hspace (by decide)

theorem plainText_formatNat (n : Nat) : PlainText (formatNat n) :=
  plainText_spells (by decide) (spells_formatNat n)

theorem plainText_formatInt (n : Int) : PlainText (formatInt n) := by
  cases n with
  | ofNat n => exact plainText_formatNat n
  | negSucc n => exact .cons (by decide) (plainText_formatNat (n + 1))

theorem plainText_format02 (n : Nat) : PlainText (format02 n) := by
  unfold format02
  split
  next => exact .cons (by decide) (plainText_formatNat n)
  next => exact plainText_formatNat n

/-! ## Plain pieces -/

/-- No piece ends a line. -/
def PlainPieces (pieces : List Piece) : Prop :=
  ∀ text, .ok text ∈ pieces → PlainText text

theorem PlainPieces.nil : PlainPieces [] := fun _ h => nomatch h

theorem PlainPieces.error (e : Errno) : PlainPieces [.error e] := by
  intro text h
  rw [List.mem_singleton] at h
  cases h

theorem PlainPieces.cons {text : Bytes} {pieces : List Piece} (htext : PlainText text)
    (h : PlainPieces pieces) : PlainPieces (.ok text :: pieces) := by
  intro other hother
  rcases List.mem_cons.mp hother with heq | hmem
  · cases heq
    exact htext
  · exact h other hmem

theorem PlainPieces.append {ps qs : List Piece} (hps : PlainPieces ps) (hqs : PlainPieces qs) :
    PlainPieces (ps ++ qs) := by
  intro text htext
  rcases List.mem_append.mp htext with h | h
  · exact hps text h
  · exact hqs text h

theorem PlainPieces.ite {c : Prop} [Decidable c] {ps qs : List Piece} (hps : c → PlainPieces ps)
    (hqs : ¬c → PlainPieces qs) : PlainPieces (if c then ps else qs) := by
  split
  next h => exact hps h
  next h => exact hqs h

theorem PlainPieces.printed {pieces : List Piece} (h : PlainPieces pieces) {text : Bytes}
    (htext : printed pieces = some text) : PlainText text := by
  induction pieces generalizing text with
  | nil =>
      cases htext
      exact .nil
  | cons piece pieces ih =>
      cases piece with
      | error e => cases htext
      | ok first =>
          obtain ⟨rest, hrest, rfl⟩ := Option.map_eq_some_iff.mp htext
          exact (h first List.mem_cons_self).append
            (ih (fun text hmem => h text (List.mem_cons_of_mem _ hmem)) hrest)

/-! ## Whole lines -/

/-- The lines of the fields, each with its end. -/
def fieldLines (fields : List (Bytes × Bytes)) : Bytes :=
  joinLines (fields.map fun f => fieldLine f.1 f.2)

/-- The fields have these names, and values that end no line. -/
structure FieldsNamed (names : List Bytes) (fields : List (Bytes × Bytes)) : Prop where
  names : fields.map Prod.fst = names
  plain : ∀ f ∈ fields, PlainText f.1 ∧ PlainText f.2

/-- What is printed, if it is, are lines of fields with these names. -/
def Lines (names : List Bytes) (pieces : List Piece) : Prop :=
  ∀ text, printed pieces = some text →
    ∃ fields, FieldsNamed names fields ∧ text = fieldLines fields

theorem Lines.nil : Lines [] [] := by
  intro text htext
  cases htext
  exact ⟨[], ⟨rfl, fun _ h => nomatch h⟩, rfl⟩

theorem Lines.append {names names' : List Bytes} {ps qs : List Piece} (hps : Lines names ps)
    (hqs : Lines names' qs) : Lines (names ++ names') (ps ++ qs) := by
  intro text htext
  obtain ⟨s, t, hs, ht, rfl⟩ := printed_append htext
  obtain ⟨fields, hnamed, rfl⟩ := hps s hs
  obtain ⟨fields', hnamed', rfl⟩ := hqs t ht
  refine ⟨fields ++ fields', ⟨?_, ?_⟩, ?_⟩
  · rw [List.map_append, hnamed.names, hnamed'.names]
  · intro f hf
    rcases List.mem_append.mp hf with h | h
    · exact hnamed.plain f h
    · exact hnamed'.plain f h
  · unfold fieldLines
    rw [List.map_append, joinLines_append]

theorem Lines.ite {c : Prop} [Decidable c] {names names' : List Bytes} {ps qs : List Piece}
    (hps : c → Lines names ps) (hqs : ¬c → Lines names' qs) :
    Lines (if c then names else names') (if c then ps else qs) := by
  split
  next h => exact hps h
  next h => exact hqs h

theorem Lines.error (names : List Bytes) (e : Errno) (pieces : List Piece) :
    Lines names (.error e :: pieces) := by
  intro text htext
  cases htext

/-- The name, pieces that end no line, and the end. -/
theorem Lines.field {name head text : Bytes} {body : List Piece}
    (hhead : head = name ++ ascii ": ") (hname : PlainText name) (htext : PlainText text)
    (hbody : PlainPieces body) : Lines [name] (.ok (head ++ text) :: (body ++ [.ok rtspCrlf])) := by
  intro line hline
  obtain ⟨rest, hrest, rfl⟩ := Option.map_eq_some_iff.mp hline
  obtain ⟨value, last, hvalue, hlast, rfl⟩ := printed_append hrest
  obtain rfl : rtspCrlf = last := Option.some.inj hlast
  refine ⟨[(name, text ++ value)], ⟨rfl, ?_⟩, ?_⟩
  · intro f hf
    rw [List.mem_singleton] at hf
    subst hf
    exact ⟨hname, htext.append (hbody.printed hvalue)⟩
  · simp [hhead, fieldLines, fieldLine, joinLines]

theorem Lines.opened {name head : Bytes} {body : List Piece} (hhead : head = name ++ ascii ": ")
    (hname : PlainText name) (hbody : PlainPieces body) :
    Lines [name] (.ok head :: (body ++ [.ok rtspCrlf])) := by
  have h := Lines.field hhead hname .nil hbody
  rw [List.append_nil] at h
  exact h

theorem Lines.enclosed {name head : Bytes} {body rest : List Piece}
    (hhead : head = name ++ ascii ": ") (hname : PlainText name) (hbody : PlainPieces body)
    (hrest : PlainPieces rest) : Lines [name] ([.ok head] ++ body ++ rest ++ [.ok rtspCrlf]) :=
  Lines.opened hhead hname (hbody.append hrest)

/-- A field printed in one piece. -/
theorem Lines.one {name head value : Bytes} (hhead : head = name ++ ascii ": ")
    (hname : PlainText name) (hvalue : PlainText value) :
    Lines [name] [.ok (head ++ value ++ rtspCrlf)] := by
  intro line hline
  refine ⟨[(name, value)], ⟨rfl, ?_⟩, ?_⟩
  · intro f hf
    rw [List.mem_singleton] at hf
    subst hf
    exact ⟨hname, hvalue⟩
  · obtain rfl : _ = line := Option.some.inj hline
    simp [hhead, fieldLines, fieldLine, joinLines]

theorem fieldLines_count {names : List Bytes} {fields : List (Bytes × Bytes)}
    (h : FieldsNamed names fields) : (fieldLines fields).count 0x0a = names.length := by
  rw [← h.names, List.length_map]
  have hplain := h.plain
  clear h
  induction fields with
  | nil => rfl
  | cons f fields ih =>
      obtain ⟨hname, hvalue⟩ := hplain f List.mem_cons_self
      have hcolon : PlainText (ascii ": ") := plainText_ascii (by decide)
      have hline : (fieldLine f.1 f.2).count 0x0a = 0 := ((hname.append hcolon).append hvalue).count
      have hrest := ih fun g hg => hplain g (List.mem_cons_of_mem _ hg)
      have hcr : (0x0d : UInt8) ≠ 0x0a := by decide
      unfold fieldLines at hrest ⊢
      rw [List.map_cons, joinLines_cons, List.count_append, hline, List.count_cons_of_ne hcr,
        List.count_cons_self, hrest, List.length_cons]
      omega

/-! ## Plain headers -/

def PlainString (str : Option Bytes) : Prop :=
  ∀ text ∈ str, PlainText text

structure RtspTransportHeader.Plain (trsp : RtspTransportHeader) : Prop where
  transportProtocol : PlainString trsp.transportProtocol
  transportProfile : PlainString trsp.transportProfile
  destination : PlainString trsp.destination
  source : PlainString trsp.source

structure RtspAuthorizationHeader.Plain (auth : RtspAuthorizationHeader) : Prop where
  username : PlainString auth.username
  uri : PlainString auth.uri
  response : PlainString auth.response
  cnonce : PlainString auth.cnonce
  credentials : PlainString auth.credentials
  realm : PlainString auth.realm
  nonce : PlainString auth.nonce
  opaqueData : PlainString auth.opaqueData

/-- No string of the header ends a line. -/
structure RtspRequestHeader.Plain (header : RtspRequestHeader) : Prop where
  uri : PlainString header.uri
  sessionId : PlainString header.sessionId
  transport : ∀ trsp ∈ header.transport, trsp.Plain
  authorization : ∀ auth ∈ header.authorization, auth.Plain
  contentType : PlainString header.contentType
  userAgent : PlainString header.userAgent
  server : PlainString header.server
  accept : PlainString header.accept
  ext : ∀ e ∈ header.ext, PlainText e.key ∧ PlainText e.value

/-- Dates and floating point numbers are written without line ends. -/
structure Platform.Plain (P : Platform) : Prop where
  fixed2 : ∀ x, PlainText (P.formatFixed2 x)
  millis : ∀ usec, PlainText (P.formatMillis usec)
  date : ∀ fmt date text, P.timeLocalFormat fmt date = .ok text → PlainText text

theorem PlainString.nonEmpty {str : Option Bytes} (h : PlainString str) {text : Bytes}
    (htext : nonEmpty str = some text) : PlainText text :=
  h text (nonEmpty_some htext)

/-! ## The writers -/

section Writers

variable {P : Platform}

/-- The field of an optional string. -/
def nameIf (set : Bool) (name : Bytes) : List Bytes :=
  if set then [name] else []

theorem fieldWrite_lines {name : Bytes} {value : Option Bytes} (hname : PlainText name)
    (hvalue : PlainString value) :
    Lines (nameIf (nonEmpty value).isSome name) (fieldWrite name value) := by
  unfold fieldWrite nameIf
  cases htext : nonEmpty value with
  | none => exact .nil
  | some text => exact .one rfl hname (hvalue.nonEmpty htext)

theorem cseqWrite_lines (cseq : Int32) :
    Lines (nameIf (0 ≤ cseq) (ascii "CSeq")) (cseqWrite cseq) := by
  unfold cseqWrite nameIf
  by_cases h : 0 ≤ cseq
  · rw [if_pos h, if_pos (decide_eq_true h)]
    exact .one rfl (plainText_ascii (by decide)) (plainText_formatInt _)
  · rw [if_neg h, if_neg (by simpa using h)]
    exact .nil

theorem dateWrite_lines (hP : P.Plain) (date : UInt64) :
    Lines (nameIf (0 < date) (ascii "Date")) (dateWrite P date) := by
  unfold dateWrite nameIf
  by_cases h : 0 < date
  · rw [if_pos h, if_pos (decide_eq_true h)]
    split
    next => exact .error _ _ _
    next text htext =>
      exact .one rfl (plainText_ascii (by decide)) (hP.date _ _ _ htext)
  · rw [if_neg h, if_neg (by simpa using h)]
    exact .nil

theorem scaleWrite_lines (hP : P.Plain) (scale : UInt32) :
    Lines (nameIf (scaleSet scale) (ascii "Scale")) (scaleWrite P scale) := by
  unfold scaleWrite nameIf
  split
  next h => exact .one rfl (plainText_ascii (by decide)) (hP.fixed2 _)
  next h => exact .nil

theorem extWrite_lines {ext : List RtspHeaderExt}
    (hext : ∀ e ∈ ext, PlainText e.key ∧ PlainText e.value) :
    Lines (ext.map RtspHeaderExt.key) (extWrite ext) := by
  induction ext with
  | nil => exact .nil
  | cons e ext ih =>
      obtain ⟨hkey, hvalue⟩ := hext e List.mem_cons_self
      have hrest := ih fun e he => hext e (List.mem_cons_of_mem _ he)
      exact Lines.append (Lines.one rfl hkey hvalue) hrest

theorem contentLengthWrite_lines (contentLength : Int32) :
    Lines (nameIf (0 < contentLength) (ascii "Content-Length"))
      (if 0 < contentLength then contentLengthWrite contentLength else []) := by
  unfold contentLengthWrite nameIf
  by_cases h : 0 < contentLength
  · rw [if_pos h, if_pos (decide_eq_true h)]
    exact .one rfl (plainText_ascii (by decide)) (plainText_formatInt _)
  · rw [if_neg h, if_neg (by simpa using h)]
    exact .nil

theorem sessionFieldWrite_lines {sessionId : Option Bytes} (hplain : PlainString sessionId)
    (sessionTimeout : UInt32) :
    Lines (nameIf (nonEmpty sessionId).isSome (ascii "Session"))
      (sessionFieldWrite sessionId sessionTimeout) := by
  have htimeout : PlainText (ascii ";timeout=") := plainText_ascii (by decide)
  unfold sessionFieldWrite nameIf
  split
  next hsome =>
    obtain ⟨id, hid⟩ := Option.isSome_iff_exists.mp hsome
    unfold rtspSessionHeaderWrite
    rw [hid]
    dsimp only
    rw [List.append_assoc]
    refine .field rfl (plainText_ascii (by decide)) (hplain.nonEmpty hid) (.ite ?_ ?_)
    · exact fun _ => .cons (htimeout.append (plainText_formatInt _)) .nil
    · exact fun _ => .nil
  next => exact .nil

/-! ### Transport -/

theorem portsWrite_plain {name : Bytes} (hname : PlainText name) (stream control : UInt16) :
    PlainPieces (portsWrite name stream control) := by
  have hports : ∀ control : UInt16, PlainText (ascii ";" ++ name ++ ascii "=" ++
      formatNat stream.toNat ++ ascii "-" ++ formatNat control.toNat) := by
    intro control
    have hsemicolon : PlainText (ascii ";") := plainText_ascii (by decide)
    have hequals : PlainText (ascii "=") := plainText_ascii (by decide)
    have hdash : PlainText (ascii "-") := plainText_ascii (by decide)
    exact ((((hsemicolon.append hname).append hequals).append (plainText_formatNat _)).append
      hdash).append (plainText_formatNat _)
  unfold portsWrite
  split
  next => exact .nil
  next => exact .cons (hports _) .nil

theorem channelPairsWrite_plain (first : Bool) (pairs : List RtspChannelPair) :
    PlainPieces (channelPairsWrite first pairs) := by
  have hdash : PlainText (ascii "-") := plainText_ascii (by decide)
  induction pairs generalizing first with
  | nil => exact .nil
  | cons pair pairs ih =>
      unfold channelPairsWrite
      have hcomma : PlainPieces [.ok (ascii ",")] := .cons (plainText_ascii (by decide)) .nil
      refine .append (.ite (fun _ => .nil) fun _ => hcomma) (.cons ?_ (ih _))
      exact ((plainText_formatNat _).append hdash).append (plainText_formatNat _)

theorem optionPieces_plain {name : Bytes} {value : Option Bytes} (hname : PlainText name)
    (hvalue : PlainString value) :
    PlainPieces (value.toList.map fun text => .ok (name ++ text)) := by
  cases value with
  | none => exact .nil
  | some text => exact .cons (hname.append (hvalue text rfl)) .nil

theorem numberPieces_plain {name : Bytes} (hname : PlainText name) (n : UInt32) :
    PlainPieces (if n = 0 then [] else [.ok (name ++ formatSigned n)]) :=
  .ite (fun _ => .nil) fun _ => .cons (hname.append (plainText_formatInt _)) .nil

theorem transportSpec_plain {trsp : RtspTransportHeader} {protocol profile : Bytes}
    (hprotocol : PlainText protocol) (hprofile : PlainText profile) :
    PlainText (protocol ++ ascii "/" ++ profile ++ ascii "/" ++
      rtspLowerTransportStr trsp.lowerTransport ++ ascii ";" ++
      (if trsp.delivery = .unicast then ascii "unicast" else ascii "multicast")) := by
  have hslash : PlainText (ascii "/") := plainText_ascii (by decide)
  have hsemicolon : PlainText (ascii ";") := plainText_ascii (by decide)
  have hlower : PlainText (rtspLowerTransportStr trsp.lowerTransport) := by
    cases trsp.lowerTransport <;> decide +kernel
  have hdelivery : PlainText
      (if trsp.delivery = .unicast then ascii "unicast" else ascii "multicast") := by
    split
    next => decide +kernel
    next => decide +kernel
  exact (((((hprotocol.append hslash).append hprofile).append hslash).append hlower).append
    hsemicolon).append hdelivery

theorem transportWrite_plain {trsp : RtspTransportHeader} (h : trsp.Plain) (last : Bool) :
    PlainPieces (transportWrite trsp last) := by
  unfold transportWrite
  split
  next protocol profile hprotocol hprofile =>
    have hspec := @transportSpec_plain trsp protocol profile
      (h.transportProtocol.nonEmpty hprotocol) (h.transportProfile.nonEmpty hprofile)
    have hssrc : PlainText (ascii ";ssrc=" ++ formatHex 8 trsp.ssrc.toNat) :=
      PlainText.append (plainText_ascii (by decide))
        (plainText_spells le_rfl (spells_formatHex _ _))
    refine .append (.append (.append (.append (.append (.append (.append (.append (.append (.append
      (.cons hspec .nil) ?_) ?_) ?_) ?_) ?_) ?_) ?_) ?_) ?_) ?_
    · exact optionPieces_plain (plainText_ascii (by decide)) h.destination
    · exact optionPieces_plain (plainText_ascii (by decide)) h.source
    · exact .ite (fun _ => .cons (plainText_ascii (by decide)) .nil) fun _ => .nil
    · exact numberPieces_plain (plainText_ascii (by decide)) _
    · exact numberPieces_plain (plainText_ascii (by decide)) _
    · refine .ite (fun _ => .append ?_ ?_) fun _ => ?_
      · exact portsWrite_plain (plainText_ascii (by decide)) _ _
      · exact portsWrite_plain (plainText_ascii (by decide)) _ _
      · exact portsWrite_plain (plainText_ascii (by decide)) _ _
    · refine .ite (fun _ => ?_) fun _ => .nil
      exact .cons (plainText_ascii (by decide)) (channelPairsWrite_plain _ _)
    · exact .ite (fun _ => .cons hssrc .nil) fun _ => .nil
    · cases trsp.method with
      | unknown => exact .nil
      | record => exact .cons (plainText_ascii (by decide)) .nil
      | play => exact .cons (plainText_ascii (by decide)) .nil
    · exact .ite (fun _ => .nil) fun _ => .cons (plainText_ascii (by decide)) .nil
  next => exact .nil

theorem transportsWrite_plain {transport : List RtspTransportHeader}
    (h : ∀ trsp ∈ transport, trsp.Plain) : PlainPieces (transportsWrite transport) := by
  induction transport with
  | nil => exact .nil
  | cons trsp rest ih =>
      exact .append (transportWrite_plain (h trsp List.mem_cons_self) _)
        (ih fun trsp htrsp => h trsp (List.mem_cons_of_mem _ htrsp))

theorem transportFieldWrite_lines {transport : List RtspTransportHeader}
    (h : ∀ trsp ∈ transport, trsp.Plain) :
    Lines (nameIf (transport ≠ []) (ascii "Transport"))
      (if transport = [] then [] else rtspTransportHeaderWrite transport) := by
  unfold rtspTransportHeaderWrite nameIf
  by_cases hnone : transport = []
  · rw [if_pos hnone, if_neg (by simpa using hnone)]
    exact .nil
  · rw [if_neg hnone, if_neg hnone, if_pos (by simpa using hnone)]
    exact .opened rfl (plainText_ascii (by decide)) (transportsWrite_plain h)

/-! ### Range -/

theorem rtspTimeWrite_plain (hP : P.Plain) (time : RtspTime) :
    PlainPieces (rtspTimeWrite P time) := by
  have hcolon : PlainText (ascii ":") := plainText_ascii (by decide)
  unfold rtspTimeWrite
  split
  next =>
    refine .ite (fun _ => .cons (plainText_ascii (by decide)) .nil) fun _ =>
      .ite (fun _ => .error _) fun _ => .ite (fun _ => .cons ?_ .nil) fun _ => .cons ?_ .nil
    · exact (((((plainText_formatNat _).append hcolon).append (plainText_format02 _)).append
        hcolon).append (plainText_format02 _)).append (hP.millis _)
    · exact (plainText_formatNat _).append (hP.millis _)
  next => exact .error _
  next => exact .error _
  next => exact .error _

theorem rtspRangeStopWrite_plain (hP : P.Plain) (start stop : RtspTime) :
    PlainPieces (rtspRangeStopWrite P start stop) := by
  unfold rtspRangeStopWrite
  refine .ite (fun _ => .ite (fun _ => .error _) fun _ => .ite (fun _ => .error _) fun _ => ?_)
    fun _ => .nil
  exact .append (.cons (plainText_ascii (by decide)) .nil)
    (.ite (fun _ => .nil) fun _ => rtspTimeWrite_plain hP stop)

theorem rangeFieldWrite_lines (hP : P.Plain) (range : RtspRange) :
    Lines (nameIf (range.start.format ≠ .unknown) (ascii "Range")) (rangeFieldWrite P range) := by
  unfold rangeFieldWrite nameIf
  by_cases hset : range.start.format ≠ .unknown
  · rw [if_pos hset, if_pos (decide_eq_true hset)]
    unfold rtspRangeHeaderWrite
    split
    next => exact .error _ _ _
    next =>
      refine .enclosed rfl (plainText_ascii (by decide)) ?_ (.ite (fun _ => ?_) fun _ => .nil)
      · split
        next =>
          refine .append (.append (.cons (plainText_ascii (by decide)) .nil) ?_) ?_
          · exact .ite (fun _ => .nil) fun _ => rtspTimeWrite_plain hP _
          · exact rtspRangeStopWrite_plain hP _ _
        next => exact .error _
        next => exact .error _
        next => exact .error _
      · split
        next => exact .error _
        next text htext =>
          have hname : PlainText (ascii ";time=") := plainText_ascii (by decide)
          have hzone : PlainText (ascii "Z") := plainText_ascii (by decide)
          exact .cons ((hname.append ((hP.date _ _ _ htext).take 15)).append hzone) .nil
  · rw [if_neg hset, if_neg (by simpa using hset)]
    exact .nil

/-! ### Authorization -/

theorem authFieldsWrite_plain {fields : List (Bytes × Option Bytes)}
    (h : ∀ f ∈ fields, PlainText f.1 ∧ PlainString f.2) (first : Bool) :
    PlainPieces (authFieldsWrite first fields) := by
  have hopen : PlainText (ascii "=\"") := plainText_ascii (by decide)
  have hclose : PlainText (ascii "\"") := plainText_ascii (by decide)
  have hcomma : PlainText (ascii ", ") := plainText_ascii (by decide)
  induction fields generalizing first with
  | nil => exact .nil
  | cons f fields ih =>
      have hrest := ih fun f hf => h f (List.mem_cons_of_mem _ hf)
      obtain ⟨hname, hvalue⟩ := h f List.mem_cons_self
      obtain ⟨name, value⟩ := f
      cases value with
      | none =>
          rw [authFieldsWrite]
          exact hrest first
      | some value =>
          have htext : PlainText (name ++ ascii "=\"" ++ value ++ ascii "\"") :=
            ((hname.append hopen).append (hvalue value rfl)).append hclose
          rw [authFieldsWrite]
          refine .append (.ite (fun _ => .nil) fun _ => .cons hcomma .nil) ?_
          exact .cons htext (hrest false)

/-- A Digest that has no response. -/
def LacksResponse (authorization : Option RtspAuthorizationHeader) : Prop :=
  ∃ auth ∈ authorization, auth.type = .digest ∧ nonEmpty auth.response = none

def authorizationPieces : Option RtspAuthorizationHeader → List Piece
  | none => []
  | some auth => rtspAuthorizationHeaderWrite auth

theorem authTypeStr_plain (type : RtspAuthType) : PlainText (rtspAuthTypeStr type) := by
  cases type with
  | unknown => exact .nil
  | basic => exact plainText_ascii (by decide)
  | digest => exact plainText_ascii (by decide)

theorem authAlgorithmStr_plain (algorithm : RtspAuthAlgorithm) :
    PlainString (rtspAuthAlgorithmStr algorithm) := by
  cases algorithm <;> intro text h <;> cases h <;> exact plainText_ascii (by decide)

theorem authQopStr_plain (qop : RtspAuthQop) : PlainString (rtspAuthQopStr qop) := by
  cases qop <;> intro text h <;> cases h <;> exact plainText_ascii (by decide)

theorem authNcStr_plain (nc : UInt32) : PlainText (rtspAuthNcStr nc) := by
  intro b hb
  obtain ⟨digit, hdigit, rfl⟩ := List.mem_map.mp hb
  have hplain := plainText_spells le_rfl (spells_formatHex 8 nc.toNat) digit hdigit
  unfold toLower
  split
  next hupper =>
    have hbounds : 0x41 ≤ digit.toNat ∧ digit.toNat ≤ 0x5a := by
      simpa [UInt8.le_iff_toNat_le] using hupper
    have hlower : (digit + 0x20).toNat = digit.toNat + 0x20 := by
      have hbit : (0x20 : UInt8).toNat = 0x20 := rfl
      rw [UInt8.toNat_add, hbit]
      exact Nat.mod_eq_of_lt (by omega)
    constructor
    · intro h
      rw [h] at hlower
      have hcr : (0x0d : UInt8).toNat = 13 := rfl
      omega
    · intro h
      rw [h] at hlower
      have hlf : (0x0a : UInt8).toNat = 10 := rfl
      omega
  next => exact hplain

theorem digestWrite_plain {auth : RtspAuthorizationHeader} (h : auth.Plain) {response : Bytes}
    (hresponse : PlainText response) :
    PlainPieces (authFieldsWrite true
      ([(ascii "username", auth.username), (ascii "realm", auth.realm),
        (ascii "nonce", auth.nonce), (ascii "uri", auth.uri),
        (ascii "response", some response),
        (ascii "algorithm", rtspAuthAlgorithmStr auth.algorithm),
        (ascii "opaque", nonEmpty auth.opaqueData)] ++
        (if (rtspAuthQopStr auth.qop).isSome then
          [(ascii "qop", rtspAuthQopStr auth.qop), (ascii "cnonce", auth.cnonce),
            (ascii "nc", some (rtspAuthNcStr auth.nc))]
          else []))) := by
  have hsome : ∀ {text : Bytes}, PlainText text → PlainString (some text) := by
    intro text htext other hother
    cases hother
    exact htext
  have hopaque : PlainString (nonEmpty auth.opaqueData) :=
    fun text htext => h.opaqueData.nonEmpty htext
  refine authFieldsWrite_plain ?_ true
  intro f hf
  rcases List.mem_append.mp hf with hbase | hqop
  · simp only [List.mem_cons, List.not_mem_nil, or_false] at hbase
    rcases hbase with rfl | rfl | rfl | rfl | rfl | rfl | rfl
    · exact ⟨plainText_ascii (by decide), h.username⟩
    · exact ⟨plainText_ascii (by decide), h.realm⟩
    · exact ⟨plainText_ascii (by decide), h.nonce⟩
    · exact ⟨plainText_ascii (by decide), h.uri⟩
    · exact ⟨plainText_ascii (by decide), hsome hresponse⟩
    · exact ⟨plainText_ascii (by decide), authAlgorithmStr_plain _⟩
    · exact ⟨plainText_ascii (by decide), hopaque⟩
  · split at hqop
    next =>
      simp only [List.mem_cons, List.not_mem_nil, or_false] at hqop
      rcases hqop with rfl | rfl | rfl
      · exact ⟨plainText_ascii (by decide), authQopStr_plain _⟩
      · exact ⟨plainText_ascii (by decide), h.cnonce⟩
      · exact ⟨plainText_ascii (by decide), hsome (authNcStr_plain _)⟩
    next => cases hqop

theorem authorizationPieces_lines {authorization : Option RtspAuthorizationHeader}
    (h : ∀ auth ∈ authorization, auth.Plain) (hresponse : ¬LacksResponse authorization) :
    Lines (nameIf authorization.isSome (ascii "Authorization"))
      (authorizationPieces authorization) := by
  have hname : PlainText (ascii "Authorization") := plainText_ascii (by decide)
  have hspace : PlainText (ascii " ") := plainText_ascii (by decide)
  cases authorization with
  | none => exact .nil
  | some auth =>
    have hplain := h auth rfl
    have htype := authTypeStr_plain auth.type
    rw [nameIf, Option.isSome_some, if_pos rfl, authorizationPieces]
    unfold rtspAuthorizationHeaderWrite
    split
    next =>
      split
      next =>
        intro text htext
        cases htext
      next credentials hcredentials =>
        have hcredentials := hplain.credentials.nonEmpty hcredentials
        exact .opened rfl hname (.cons ((htype.append hspace).append hcredentials) .nil)
    next hdigest =>
      split
      next hnone => exact absurd ⟨auth, rfl, hdigest, hnone⟩ hresponse
      next response hsome =>
        have hfields := digestWrite_plain hplain (hplain.response.nonEmpty hsome)
        exact .opened rfl hname (.cons (htype.append hspace) hfields)
    next =>
      intro text htext
      cases htext

/-- Without a response the name is printed and nothing after it. -/
theorem authorizationPieces_lacking {authorization : Option RtspAuthorizationHeader}
    (h : LacksResponse authorization) :
    authorization.isSome ∧ authorizationPieces authorization = [.ok (ascii "Authorization: ")] := by
  obtain ⟨auth, hauth, hdigest, hnone⟩ := h
  obtain rfl : authorization = some auth := hauth
  refine ⟨rfl, ?_⟩
  unfold authorizationPieces rtspAuthorizationHeaderWrite
  dsimp only
  rw [hdigest]
  dsimp only
  rw [hnone]

end Writers

/-! ## The header -/

def fieldsBefore (P : Platform) (header : RtspRequestHeader) : List Piece :=
  cseqWrite header.cseq ++ dateWrite P header.date ++
    sessionFieldWrite header.sessionId header.sessionTimeout ++
    (if header.transport = [] then [] else rtspTransportHeaderWrite header.transport)

def fieldsAfter (P : Platform) (header : RtspRequestHeader) : List Piece :=
  fieldWrite (ascii "Content-Type") header.contentType ++ scaleWrite P header.scale ++
    fieldWrite (ascii "User-Agent") header.userAgent ++
    fieldWrite (ascii "Server") header.server ++ fieldWrite (ascii "Accept") header.accept ++
    rangeFieldWrite P header.range ++
    (if 0 < header.contentLength then contentLengthWrite header.contentLength else []) ++
    extWrite header.ext

def namesBefore (header : RtspRequestHeader) : List Bytes :=
  nameIf (0 ≤ header.cseq) (ascii "CSeq") ++ nameIf (0 < header.date) (ascii "Date") ++
    nameIf (nonEmpty header.sessionId).isSome (ascii "Session") ++
    nameIf (header.transport ≠ []) (ascii "Transport")

def namesAfter (header : RtspRequestHeader) : List Bytes :=
  nameIf (nonEmpty header.contentType).isSome (ascii "Content-Type") ++
    nameIf (scaleSet header.scale) (ascii "Scale") ++
    nameIf (nonEmpty header.userAgent).isSome (ascii "User-Agent") ++
    nameIf (nonEmpty header.server).isSome (ascii "Server") ++
    nameIf (nonEmpty header.accept).isSome (ascii "Accept") ++
    nameIf (header.range.start.format ≠ .unknown) (ascii "Range") ++
    nameIf (0 < header.contentLength) (ascii "Content-Length") ++
    header.ext.map RtspHeaderExt.key

/-- The names of the fields that are set, in the order in which they are written. -/
def requestFieldNames (header : RtspRequestHeader) : List Bytes :=
  namesBefore header ++
    (nameIf header.authorization.isSome (ascii "Authorization") ++ namesAfter header)

def requestStartLine (header : RtspRequestHeader) (uri : Bytes) : Bytes :=
  rtspMethodTypeStr header.method ++ ascii " " ++ uri ++ ascii " " ++ rtspVersion

/-- One start line, one line for each field that is set, and one empty line. -/
def WritesFields (header : RtspRequestHeader) (text : Bytes) : Prop :=
  ∃ uri fields, nonEmpty header.uri = some uri ∧ PlainText (requestStartLine header uri) ∧
    FieldsNamed (requestFieldNames header) fields ∧
    text = requestStartLine header uri ++ rtspCrlf ++ fieldLines fields ++ rtspCrlf

section Header

variable {P : Platform} {header : RtspRequestHeader}

theorem fieldsBefore_lines (hP : P.Plain) (h : header.Plain) :
    Lines (namesBefore header) (fieldsBefore P header) :=
  (((cseqWrite_lines _).append (dateWrite_lines hP _)).append
    (sessionFieldWrite_lines h.sessionId _)).append (transportFieldWrite_lines h.transport)

theorem fieldsAfter_lines (hP : P.Plain) (h : header.Plain) :
    Lines (namesAfter header) (fieldsAfter P header) := by
  have htype := @fieldWrite_lines (ascii "Content-Type") _ (plainText_ascii (by decide))
    h.contentType
  have hagent := @fieldWrite_lines (ascii "User-Agent") _ (plainText_ascii (by decide))
    h.userAgent
  have hserver := @fieldWrite_lines (ascii "Server") _ (plainText_ascii (by decide)) h.server
  have haccept := @fieldWrite_lines (ascii "Accept") _ (plainText_ascii (by decide)) h.accept
  exact ((((((htype.append (scaleWrite_lines hP _)).append hagent).append hserver).append
    haccept).append (rangeFieldWrite_lines hP _)).append (contentLengthWrite_lines _)).append
    (extWrite_lines h.ext)

theorem requestPieces_parts {uri : Bytes} (huri : nonEmpty header.uri = some uri)
    (hmethod : header.method ≠ .unknown) :
    requestPieces P header = .ok (requestStartLine header uri ++ rtspCrlf) ::
      (fieldsBefore P header ++ (authorizationPieces header.authorization ++
        (fieldsAfter P header ++ [.ok rtspCrlf]))) := by
  unfold requestPieces authorizationPieces
  rw [huri]
  dsimp only
  rw [if_neg hmethod]
  cases header.authorization <;>
    simp only [fieldsBefore, fieldsAfter, requestStartLine, List.append_assoc, List.cons_append,
      List.nil_append]

/-- A header that is written has an address and a method. -/
theorem requestPieces_addressed {text : Bytes} (h : printed (requestPieces P header) = some text) :
    ∃ uri, nonEmpty header.uri = some uri ∧ header.method ≠ .unknown := by
  unfold requestPieces at h
  split at h
  next => cases h
  next uri huri =>
    split at h
    next => cases h
    next hmethod => exact ⟨uri, huri, hmethod⟩

theorem requestStartLine_plain (h : header.Plain) {uri : Bytes}
    (huri : nonEmpty header.uri = some uri) : PlainText (requestStartLine header uri) := by
  have hspace : PlainText (ascii " ") := plainText_ascii (by decide)
  have hversion : PlainText rtspVersion := plainText_ascii (by decide)
  have hmethod : PlainText (rtspMethodTypeStr header.method) := by
    cases header.method <;> exact plainText_ascii (by decide)
  exact (((hmethod.append hspace).append (h.uri.nonEmpty huri)).append hspace).append hversion

theorem rtspCrlf_count : rtspCrlf.count 0x0a = 1 := by decide

theorem requestPieces_whole (hP : P.Plain) (h : header.Plain)
    (hresponse : ¬LacksResponse header.authorization) {text : Bytes}
    (htext : printed (requestPieces P header) = some text) : WritesFields header text := by
  obtain ⟨uri, huri, hmethod⟩ := requestPieces_addressed htext
  have hlines : Lines (requestFieldNames header)
      (fieldsBefore P header ++ (authorizationPieces header.authorization ++
        fieldsAfter P header)) :=
    (fieldsBefore_lines hP h).append
      ((authorizationPieces_lines h.authorization hresponse).append (fieldsAfter_lines hP h))
  rw [requestPieces_parts huri hmethod, ← List.append_assoc (authorizationPieces _),
    ← List.append_assoc (fieldsBefore P header)] at htext
  obtain ⟨rest, hrest, rfl⟩ := Option.map_eq_some_iff.mp htext
  obtain ⟨lines, last, hlinesText, hlast, rfl⟩ := printed_append hrest
  obtain ⟨fields, hnamed, rfl⟩ := hlines lines hlinesText
  obtain rfl : rtspCrlf = last := Option.some.inj hlast
  refine ⟨uri, fields, huri, requestStartLine_plain h huri, hnamed, ?_⟩
  rw [List.append_assoc _ (fieldLines fields)]

/-- The line of the Authorization field has no end of its own. -/
theorem requestPieces_merged (hP : P.Plain) (h : header.Plain)
    (hresponse : LacksResponse header.authorization) {text : Bytes}
    (htext : printed (requestPieces P header) = some text) : ¬WritesFields header text := by
  obtain ⟨uri, huri, hmethod⟩ := requestPieces_addressed htext
  obtain ⟨hset, hauth⟩ := authorizationPieces_lacking hresponse
  have hstart := (requestStartLine_plain h huri).count
  have hhead : (ascii "Authorization: ").count 0x0a = 0 :=
    PlainText.count (plainText_ascii (by decide))
  rw [requestPieces_parts huri hmethod, hauth, List.singleton_append] at htext
  obtain ⟨body, hbody, rfl⟩ := Option.map_eq_some_iff.mp htext
  obtain ⟨before, rest, hbefore, hrest, rfl⟩ := printed_append hbody
  obtain ⟨tail, htail, rfl⟩ := Option.map_eq_some_iff.mp hrest
  obtain ⟨after, last, hafter, hlast, rfl⟩ := printed_append htail
  obtain ⟨fields, hnamed, rfl⟩ := fieldsBefore_lines hP h before hbefore
  obtain ⟨fields', hnamed', rfl⟩ := fieldsAfter_lines hP h after hafter
  obtain rfl : rtspCrlf = last := Option.some.inj hlast
  rintro ⟨uri', written, huri', hstart', hwritten, heq⟩
  have hcount := congrArg (List.count 0x0a) heq
  simp only [List.count_append, hstart, hstart'.count, hhead, rtspCrlf_count,
    fieldLines_count hnamed, fieldLines_count hnamed', fieldLines_count hwritten,
    requestFieldNames, nameIf, hset, if_true, List.length_append, List.length_singleton] at hcount
  omega

end Header

/-! ## The room -/

theorem bmod_le (n : Nat) : Int.bmod n (2 ^ 32) ≤ n := by
  rw [Int.bmod_def]
  split <;> omega

theorem rtspSprintf_iff {str str' : RtspString} {text : Bytes} :
    rtspSprintf str text = .ok str' ↔
      (text.length : Int) < Int.bmod (str.maxLen - str.str.length : Nat) (2 ^ 32) ∧
        str' = { str with str := str.str ++ text } := by
  have hsigned : Int.bmod (str.maxLen - str.str.length : Nat) (2 ^ 32) < 2 ^ 31 :=
    Int.bmod_lt (by decide)
  have hle := bmod_le (str.maxLen - str.str.length)
  unfold rtspSprintf
  split
  next hfull =>
    constructor
    · intro h
      cases h
    · rintro ⟨hroom, -⟩
      omega
  next =>
    split
    next hlong =>
      constructor
      · intro h
        cases h
      · rintro ⟨hroom, -⟩
        omega
    next =>
      split
      next hshort =>
        constructor
        · intro h
          cases h
        · rintro ⟨hroom, -⟩
          omega
      next hroom =>
        constructor
        · intro h
          exact ⟨by omega, (Except.ok.inj h).symm⟩
        · rintro ⟨-, rfl⟩
          rfl

theorem bmod_shrinks {room used : Nat} (h : (used : Int) < Int.bmod room (2 ^ 32)) :
    Int.bmod (room - used : Nat) (2 ^ 32) = Int.bmod room (2 ^ 32) - used := by
  rw [Int.bmod_def] at h
  rw [Int.bmod_def, Int.bmod_def]
  split at h
  next hlow =>
    rw [if_pos hlow, if_pos (by omega)]
    omega
  next => omega

/-- A print succeeds if and only if its text is shorter than the room that is left, as a signed
number of 32 bits. -/
theorem rtspPrint_iff {pieces : List Piece} (hpieces : pieces ≠ []) {str str' : RtspString} :
    rtspPrint pieces str = .ok str' ↔
      ∃ text, printed pieces = some text ∧
        (text.length : Int) < Int.bmod (str.maxLen - str.str.length : Nat) (2 ^ 32) ∧
        str' = { str with str := str.str ++ text } := by
  induction pieces generalizing str with
  | nil => exact absurd rfl hpieces
  | cons piece pieces ih =>
      cases piece with
      | error e =>
          constructor
          · intro h
            cases h
          · rintro ⟨text, htext, -⟩
            cases htext
      | ok first =>
          have hroom : str.maxLen - (str.str ++ first).length =
              str.maxLen - str.str.length - first.length := by
            rw [List.length_append, Nat.sub_add_eq]
          rw [rtspPrint]
          by_cases hlast : pieces = []
          · subst hlast
            constructor
            · intro h
              split at h
              next => cases h
              next next hfirst =>
                obtain ⟨hfits, rfl⟩ := rtspSprintf_iff.mp hfirst
                exact ⟨first, congrArg some (List.append_nil _), hfits, (Except.ok.inj h).symm⟩
            · rintro ⟨text, htext, hfits, rfl⟩
              obtain rfl : first ++ [] = text := Option.some.inj htext
              rw [List.append_nil] at hfits ⊢
              rw [rtspSprintf_iff.mpr ⟨hfits, rfl⟩]
              rfl
          · constructor
            · intro h
              split at h
              next => cases h
              next next hfirst =>
                obtain ⟨hfits, rfl⟩ := rtspSprintf_iff.mp hfirst
                obtain ⟨rest, hrest, hfits', rfl⟩ := (ih hlast).mp h
                dsimp only at hfits'
                rw [hroom, bmod_shrinks hfits] at hfits'
                refine ⟨first ++ rest, ?_, ?_, ?_⟩
                · rw [printed_ok, hrest]
                  rfl
                · rw [List.length_append]
                  omega
                · rw [List.append_assoc]
            · rintro ⟨text, htext, hfits, rfl⟩
              obtain ⟨rest, hrest, rfl⟩ := Option.map_eq_some_iff.mp htext
              rw [List.length_append] at hfits
              have hfits' : (first.length : Int) <
                  Int.bmod (str.maxLen - str.str.length : Nat) (2 ^ 32) := by omega
              rw [rtspSprintf_iff.mpr ⟨hfits', rfl⟩]
              refine (ih hlast).mpr ⟨rest, hrest, ?_, ?_⟩
              · dsimp only
                rw [hroom, bmod_shrinks hfits']
                omega
              · rw [List.append_assoc]

/-! ## Written whole -/

section Whole

variable (P : Platform) (header : RtspRequestHeader)

/-- The text of a header in a buffer without bounds, if the header can be written. -/
def requestText : Option Bytes :=
  printed (requestPieces P header)

/-- In `n` bytes the header is written well-formed or not at all, and it is written if and only
if its text is shorter than the buffer. -/
structure WrittenWhole (n : Nat) : Prop where
  formed : ∀ str, rtspRequestHeaderWrite P header { maxLen := n } = .ok str →
    WritesFields header str.str
  fits : ∀ text, rtspRequestHeaderWrite P header { maxLen := n } =
    .ok { str := text, maxLen := n } ↔ requestText P header = some text ∧ text.length < n

/-- Of a header that can be written, the text does not fit, or every field that is set has its
line and the size of the buffer counts as it is. -/
def FitsWhole (n : Nat) : Prop :=
  ∀ text, requestText P header = some text →
    n ≤ text.length ∨
      (¬LacksResponse header.authorization ∧ (text.length : Int) < Int.bmod n (2 ^ 32))

end Whole

theorem requestPieces_ne_nil (P : Platform) (header : RtspRequestHeader) :
    requestPieces P header ≠ [] := by
  unfold requestPieces
  split
  next => exact List.cons_ne_nil _ _
  next =>
    split
    next => exact List.cons_ne_nil _ _
    next => exact List.concat_ne_nil _ _

theorem requestHeaderWrite_iff {P : Platform} {header : RtspRequestHeader} {n : Nat}
    {str : RtspString} :
    rtspRequestHeaderWrite P header { maxLen := n } = .ok str ↔
      ∃ text, requestText P header = some text ∧ (text.length : Int) < Int.bmod n (2 ^ 32) ∧
        str = { str := text, maxLen := n } :=
  rtspPrint_iff (requestPieces_ne_nil P header)

/-- Exactly then is the header written well-formed or not at all. -/
theorem requestHeaderWrite_whole_iff {P : Platform} {header : RtspRequestHeader} (hP : P.Plain)
    (h : header.Plain) (n : Nat) : WrittenWhole P header n ↔ FitsWhole P header n := by
  have hle := bmod_le n
  constructor
  · intro hwhole text htext
    by_cases hfits : text.length < n
    · have hwritten := (hwhole.fits text).mpr ⟨htext, hfits⟩
      have hformed := hwhole.formed _ hwritten
      obtain ⟨other, hother, hroom, heq⟩ := requestHeaderWrite_iff.mp hwritten
      obtain rfl : text = other := congrArg RtspString.str heq
      exact .inr ⟨fun hlacks => requestPieces_merged hP h hlacks htext hformed, hroom⟩
    · exact .inl (by omega)
  · intro hwhole
    constructor
    · intro str hstr
      obtain ⟨text, htext, hroom, rfl⟩ := requestHeaderWrite_iff.mp hstr
      rcases hwhole text htext with hlong | ⟨hresponse, -⟩
      · omega
      · exact requestPieces_whole hP h hresponse htext
    · intro text
      constructor
      · intro hstr
        obtain ⟨other, htext, hroom, heq⟩ := requestHeaderWrite_iff.mp hstr
        obtain rfl : text = other := congrArg RtspString.str heq
        exact ⟨htext, by omega⟩
      · rintro ⟨htext, hfits⟩
        rcases hwhole text htext with hlong | ⟨-, hroom⟩
        · omega
        · exact requestHeaderWrite_iff.mpr ⟨text, htext, hroom, rfl⟩

theorem Platform.bare_plain : Platform.bare.Plain where
  fixed2 _ := .nil
  millis _ := .nil
  date _ _ _ h := by cases h

/-- A Digest with a realm and a nonce, and the response given. -/
def digestRequest (response : Option Bytes) : RtspRequestHeader :=
  { method := .describe, uri := some (ascii "rtsp://h/"), cseq := 1,
    authorization := some
      { type := .digest, realm := some (ascii "r"), nonce := some (ascii "n"), response } }

theorem plainString_none : PlainString none := fun _ h => nomatch h

theorem plainString_some {text : Bytes} (h : PlainText text) : PlainString (some text) := by
  intro other hother
  cases hother
  exact h

theorem digestRequest_plain {response : Option Bytes} (h : PlainString response) :
    (digestRequest response).Plain where
  uri := plainString_some (plainText_ascii (by decide))
  sessionId := plainString_none
  transport _ h := nomatch h
  authorization := by
    rintro auth ⟨⟩
    exact {
      username := plainString_none
      uri := plainString_none
      response := h
      cnonce := plainString_none
      credentials := plainString_none
      realm := plainString_some (plainText_ascii (by decide))
      nonce := plainString_some (plainText_ascii (by decide))
      opaqueData := plainString_none }
  contentType := plainString_none
  userAgent := plainString_none
  server := plainString_none
  accept := plainString_none
  ext _ h := nomatch h

theorem digestRequest_whole :
    WrittenWhole Platform.bare (digestRequest (some (ascii "0"))) 4096 := by
  apply (requestHeaderWrite_whole_iff Platform.bare_plain
    (digestRequest_plain (plainString_some (plainText_ascii (by decide)))) 4096).mpr
  intro text htext
  have hlength : ∀ text ∈ requestText Platform.bare (digestRequest (some (ascii "0"))),
      (text.length : Int) < Int.bmod 4096 (2 ^ 32) := by decide +kernel
  refine .inr ⟨?_, hlength text htext⟩
  rintro ⟨auth, hauth, -, hnone⟩
  cases hauth
  cases hnone

/-- Without a response the Authorization field runs into the empty line. -/
theorem digestRequest_merged :
    (digestRequest none).Plain ∧
      (∃ str ∈ (rtspRequestHeaderWrite Platform.bare (digestRequest none)
          { maxLen := 4096 }).toOption,
        str.str = ascii "DESCRIBE rtsp://h/ RTSP/1.0" ++ rtspCrlf ++ ascii "CSeq: 1" ++
          rtspCrlf ++ ascii "Authorization: " ++ rtspCrlf) ∧
      ¬WrittenWhole Platform.bare (digestRequest none) 4096 := by
  have hplain := digestRequest_plain plainString_none
  have hlacks : LacksResponse (digestRequest none).authorization := ⟨_, rfl, rfl, rfl⟩
  have hwritten : ∃ str ∈ (rtspRequestHeaderWrite Platform.bare (digestRequest none)
      { maxLen := 4096 }).toOption,
      str.str = ascii "DESCRIBE rtsp://h/ RTSP/1.0" ++ rtspCrlf ++ ascii "CSeq: 1" ++
        rtspCrlf ++ ascii "Authorization: " ++ rtspCrlf := by decide +kernel
  refine ⟨hplain, hwritten, fun hwhole => ?_⟩
  obtain ⟨str, hstr, -⟩ := hwritten
  have hok := Execution.ok_of_toOption hstr
  obtain ⟨text, htext, -, rfl⟩ := requestHeaderWrite_iff.mp hok
  exact requestPieces_merged Platform.bare_plain hplain hlacks htext (hwhole.formed _ hok)

end Librtsp
