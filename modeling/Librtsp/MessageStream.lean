import Librtsp.Reassembly
import Librtsp.RequestRoundTrip
import Librtsp.ResponseRoundTrip
import Librtsp.ServerStore

/-!
# The message channel

Headers with their bodies, and frames, are written one after the other into a stream.  At any
time, however the bytes that have arrived were cut, the receive loop has delivered exactly the
messages that have arrived whole, in their order, each as its writer had it.

A server has one receive buffer for all its connections.  What it delivers as coming from one
of them is what it would deliver if that were the only one, provided that the connection of
the bytes changes between messages only.
-/

namespace Librtsp

open CString

/-! ## Whole items -/

section Whole

variable {α : Type} (size : α → Nat)

/-- The items at the front of the list that fit in so many places. -/
def wholeIn : Nat → List α → List α
  | _, [] => []
  | n, x :: xs => if size x ≤ n then x :: wholeIn (n - size x) xs else []

variable {size}

theorem wholeIn_append {done rest : List α} {held : Nat}
    (hheld : ∀ x ∈ rest.head?, held < size x) :
    wholeIn size ((done.map size).sum + held) (done ++ rest) = done := by
  induction done with
  | nil =>
      cases rest with
      | nil => rfl
      | cons x rest =>
          have hshort := hheld x rfl
          rw [List.nil_append, wholeIn, if_neg (by simpa using hshort)]
  | cons x done ih =>
      rw [List.map_cons, List.sum_cons, List.cons_append, wholeIn, if_pos (by omega)]
      have hrest : size x + (done.map size).sum + held - size x = (done.map size).sum + held := by
        omega
      rw [hrest, ih]

end Whole

section Messages

variable (P : Platform)

/-! ## Messages as their writer has them -/

/-- A request header whose fields are kept, written in front of the body it announces. -/
structure SentRequest where
  header : RtspRequestHeader
  body : Bytes
  maxLen : Nat
  text : Bytes
  kept : header.FieldsKept P
  authorization : ∀ auth ∈ header.authorization, AuthKept auth
  written : rtspRequestHeaderWrite P header { maxLen } = .ok { str := text, maxLen }
  contentLength : header.contentLength.toInt = body.length
  size : text.length + body.length < 2 ^ 64

/-- A response header whose fields are kept, with one `RTP-Info` entry at most. -/
structure SentResponse where
  header : RtspResponseHeader
  body : Bytes
  maxLen : Nat
  text : Bytes
  kept : header.FieldsKept P
  rtpInfo : header.rtpInfo.length ≤ 1
  written : rtspResponseHeaderWrite P header { maxLen } = .ok { str := text, maxLen }
  contentLength : header.contentLength.toInt = body.length
  size : text.length + body.length < 2 ^ 64

inductive SentMessage where
  | request (m : SentRequest P)
  | response (m : SentResponse P)
  | frame (m : WireFrame)

variable {P}

/-- What the writer means: its own header and body, or its own frame. -/
def SentMessage.meant : SentMessage P → Delivery
  | .request m => .text (.request m.header) m.body
  | .response m => .text (.response m.header) m.body
  | .frame m => .interleaved m.channel m.data

def SentMessage.bytes : SentMessage P → Bytes
  | .request m => m.text ++ m.body
  | .response m => m.text ++ m.body
  | .frame m => m.wire

/-- The stream of some messages. -/
def streamOf (ms : List (SentMessage P)) : Bytes :=
  (ms.map SentMessage.bytes).flatten

/-- Some chunk ends right after the third byte of a frame that looks blank. -/
def CutInBlank (ms : List (SentMessage P)) (chunks : List Bytes) : Prop :=
  ∃ before after done frame rest, chunks = before ++ after ∧
    ms = done ++ .frame frame :: rest ∧ frame.LooksBlank ∧
    before.flatten = streamOf done ++ frame.wire.take 3

section Wires

variable (hP : P.ExactWhole)

theorem SentRequest.reads (hP : P.ExactWhole) (m : SentRequest P) :
    HeaderText m.text ∧ rtspRequestHeaderRead P m.text = .ok m.header := by
  obtain ⟨text, htext, hlines, hread⟩ := requestHeader_written hP m.kept
    (fun auth hmem => (m.authorization auth hmem).read) m.written
  obtain rfl : m.text = text := htext
  rw [Option.map_id'] at hread
  exact ⟨hlines, hread⟩

theorem SentResponse.reads (hP : P.ExactWhole) (m : SentResponse P) :
    HeaderText m.text ∧ rtspResponseHeaderRead P m.text = .ok m.header := by
  obtain ⟨text, htext, hlines, hread⟩ := responseHeader_written hP m.kept m.written
  obtain rfl : m.text = text := htext
  rw [List.take_of_length_le m.rtpInfo] at hread
  exact ⟨hlines, hread⟩

def SentRequest.wire (m : SentRequest P) : WireRequest P where
  source := m.header
  maxLen := m.maxLen
  text := m.text
  body := m.body
  header := m.header
  written := m.written
  headerText := (m.reads hP).1
  read := (m.reads hP).2
  contentLength := m.contentLength
  size := m.size

def SentResponse.wire (m : SentResponse P) : WireResponse P where
  source := m.header
  maxLen := m.maxLen
  text := m.text
  body := m.body
  header := m.header
  written := m.written
  headerText := (m.reads hP).1
  read := (m.reads hP).2
  contentLength := m.contentLength
  size := m.size

def SentMessage.wire : SentMessage P → WireMessage P
  | .request m => .request (m.wire hP)
  | .response m => .response (m.wire hP)
  | .frame m => .frame m

@[simp] theorem SentMessage.wire_wire (m : SentMessage P) : (m.wire hP).wire = m.bytes := by
  cases m <;> rfl

@[simp] theorem SentMessage.wire_delivery (m : SentMessage P) :
    (m.wire hP).delivery = m.meant := by
  cases m <;> rfl

theorem wires_sent (ms : List (SentMessage P)) :
    wires P (ms.map (SentMessage.wire hP)) = streamOf ms := by
  simp [wires, streamOf, Function.comp_def]

theorem deliveries_sent (ms : List (SentMessage P)) :
    deliveries (ms.map (SentMessage.wire hP)) = ms.map fun m => .deliver m.meant := by
  simp [deliveries, Function.comp_def]

theorem SentMessage.wire_frame {m : SentMessage P} {frame : WireFrame}
    (h : m.wire hP = .frame frame) : m = .frame frame := by
  cases m with
  | request m => cases h
  | response m => cases h
  | frame m =>
      cases h
      rfl

theorem cutFrom_sent {ms : List (SentMessage P)} {chunks : List Bytes}
    (h : CutFrom [] (ms.map (SentMessage.wire hP)) chunks) : CutInBlank ms chunks := by
  obtain ⟨before, after, done, frame, rest, hchunks, hms, hblank, hbytes⟩ := h
  obtain ⟨done', rest', rfl, hdone, hrest⟩ := List.map_eq_append_iff.mp hms
  obtain ⟨m, rest'', rfl, hm, -⟩ := List.map_eq_cons_iff.mp hrest
  obtain rfl := SentMessage.wire_frame hP hm
  refine ⟨before, after, done', frame, rest'', hchunks, rfl, hblank, ?_⟩
  rw [← wires_sent hP, hdone]
  exact hbytes

end Wires

end Messages

/-! ## What has arrived -/

section Arrival

variable {P : Platform} (E : HeaderEdit)

/-- At any time the complete messages have been delivered and the receiver holds the rest. -/
theorem receiveChunks_arrived {chunks : List Bytes} {r : Receiver} {held future : Bytes}
    {ms : List (WireMessage P)} (hholds : Holds E r held ms) (hunfinished : Partial held ms)
    (hstub : ¬ BlankStub held ms) (hstream : held ++ (chunks.flatten ++ future) = wires P ms)
    (hcut : ¬ CutFrom held ms chunks) :
    ∃ done rest held' r', ms = done ++ rest ∧ held ++ chunks.flatten = wires P done ++ held' ∧
      Partial held' rest ∧ ¬ BlankStub held' rest ∧
      receiveChunks E P r chunks = .ok (deliveries done, r') ∧ Holds E r' held' rest := by
  induction chunks generalizing r held ms with
  | nil => exact ⟨[], ms, held, r, rfl, List.append_nil held, hunfinished, hstub, rfl, hholds⟩
  | cons chunk chunks ih =>
      have hsplit : held ++ chunk ++ (chunks.flatten ++ future) = wires P ms := by
        rw [← hstream, List.flatten_cons, List.append_assoc, List.append_assoc]
      have hfuel : (held ++ chunk).length < receiveFuel (r.buf ++ chunk) := by
        unfold receiveFuel
        rw [List.length_append, List.length_append, hholds.length_eq]
        omega
      obtain ⟨done, rest, held', rfl, hheld, hunfinished', hcase⟩ :=
        receiveLoop_holds E (hholds.append E chunk) hsplit hfuel
      rw [cutFrom_cons_iff hunfinished hstub hheld] at hcut
      rcases hcase with ⟨hstub', r', hchunk, hholds'⟩ | ⟨hstub', -⟩
      · have hrest : held' ++ (chunks.flatten ++ future) = wires P rest := by
          rw [hheld, wires_append, List.append_assoc] at hsplit
          exact List.append_cancel_left hsplit
        obtain ⟨done', rest', held'', r'', rfl, hbytes, hunfinished'', hstub'', hchunks,
          hholds''⟩ := ih hholds' hunfinished' hstub' hrest hcut
        refine ⟨done ++ done', rest', held'', r'', (List.append_assoc _ _ _).symm, ?_,
          hunfinished'', hstub'', ?_, hholds''⟩
        · rw [List.flatten_cons, ← List.append_assoc, hheld, List.append_assoc, hbytes,
            wires_append, List.append_assoc]
        · have hfirst : receiveChunk E P r chunk = .ok (deliveries done, r') := hchunk
          simp only [receiveChunks, hfirst, hchunks, deliveries_append]
      · obtain ⟨frame, rest', hms, hblank, hheld'⟩ := hstub'
        exact absurd ⟨[], chunks, [], frame, rest', rfl, hms, hblank, by simpa using hheld'⟩ hcut

/-- The complete messages among those at the beginning of a stream. -/
theorem wholeIn_wires {ms done rest : List (WireMessage P)} {bytes held : Bytes}
    (hms : ms = done ++ rest) (hbytes : bytes = wires P done ++ held)
    (hunfinished : Partial held rest) :
    wholeIn (fun m => m.wire.length) bytes.length ms = done := by
  have hlength : (wires P done).length = (done.map fun m => m.wire.length).sum := by
    rw [wires, List.length_flatten, List.map_map]
    rfl
  subst hms
  rw [hbytes, List.length_append, hlength]
  refine wholeIn_append fun m hm => ?_
  cases rest with
  | nil => cases hm
  | cons m' rest =>
      cases hm
      exact hunfinished

end Arrival

section Stream

variable {P : Platform}

/-- The messages that are complete in so many bytes of their stream. -/
def wholeMessages (n : Nat) (ms : List (SentMessage P)) : List (SentMessage P) :=
  wholeIn (fun m => m.bytes.length) n ms

theorem wholeIn_map {α β : Type} {f : α → β} {size : β → Nat} (n : Nat) (xs : List α) :
    wholeIn size n (xs.map f) = (wholeIn (fun x => size (f x)) n xs).map f := by
  induction xs generalizing n with
  | nil => rfl
  | cons x xs ih =>
      rw [List.map_cons, wholeIn, wholeIn]
      split
      next => rw [ih, List.map_cons]
      next => rfl

/-- However the beginning of a stream that has arrived is cut, unless a chunk ends in a frame
that looks blank there, the receive loop has delivered the messages that are complete in it,
as their writers had them. -/
theorem stream_arrives (hP : P.ExactWhole) (E : HeaderEdit) (ms : List (SentMessage P))
    (chunks : List Bytes) (harrived : chunks.flatten <+: streamOf ms)
    (hcut : ¬ CutInBlank ms chunks) :
    ∃ r, receiveChunks E P {} chunks =
      .ok ((wholeMessages chunks.flatten.length ms).map fun m => .deliver m.meant, r) := by
  obtain ⟨future, hfuture⟩ := harrived
  obtain ⟨hholds, hunfinished, hstub⟩ := holds_init E (ms.map (SentMessage.wire hP))
  have hstream : [] ++ (chunks.flatten ++ future) = wires P (ms.map (SentMessage.wire hP)) := by
    rw [wires_sent hP, List.nil_append, hfuture]
  obtain ⟨done, rest, held, r, hms, hbytes, hunfinished', -, hresult, -⟩ :=
    receiveChunks_arrived E hholds hunfinished hstub hstream fun h => hcut (cutFrom_sent hP h)
  have hwhole := wholeIn_wires hms hbytes hunfinished'
  rw [List.nil_append, wholeIn_map] at hwhole
  simp only [SentMessage.wire_wire] at hwhole
  refine ⟨r, ?_⟩
  rw [hresult, ← hwhole, deliveries_sent hP]
  rfl

end Stream

/-- `OPTIONS *` with its number. -/
def optionsHeader : RtspRequestHeader :=
  { method := .options, uri := some (ascii "*"), cseq := 1 }

theorem optionsHeader_kept : optionsHeader.FieldsKept wholePlatform where
  method h := by cases h
  uri := ⟨_, rfl, by decide, fieldText_ascii (by decide), by decide⟩
  cseq := show (0 : Int32) ≤ 1 by decide
  date _ h := by cases h
  session := ⟨fieldString_none, fun _ h => absurd h (by simp [optionsHeader]), fun _ => rfl⟩
  transport _ h := absurd h List.not_mem_nil
  transportCount := Nat.zero_le _
  contentType := fieldString_none
  scale := rfl
  userAgent := fieldString_none
  server := fieldString_none
  accept := fieldString_none
  range := .inl rfl
  contentLength := Int32.le_refl 0
  ext _ h := absurd h List.not_mem_nil

def sentOptions : SentRequest wholePlatform where
  header := optionsHeader
  body := []
  maxLen := 1024
  text := ascii "OPTIONS * RTSP/1.0\r\nCSeq: 1\r\n\r\n"
  kept := optionsHeader_kept
  authorization _ h := by cases h
  written := by rfl
  contentLength := rfl
  size := by decide

/-- The text of the request, twice, cut in its first line and again after the second has begun. -/
theorem stream_arrives_options :
    ∃ r, receiveChunks .words wholePlatform {}
        [sentOptions.text.take 5, sentOptions.text.drop 5 ++ sentOptions.text.take 3] =
      .ok ([.deliver (.text (.request optionsHeader) [])], r) := by
  have hcut : ∀ chunks, ¬ CutInBlank [.request sentOptions, .request sentOptions] chunks := by
    rintro chunks ⟨before, after, done, frame, rest, -, hms, -⟩
    have hmem : SentMessage.frame frame ∈ [.request sentOptions, .request sentOptions] := by
      rw [hms]
      exact List.mem_append_right _ List.mem_cons_self
    simp at hmem
  exact stream_arrives wholePlatform_exact .words [.request sentOptions, .request sentOptions] _
    ⟨sentOptions.text.drop 3, rfl⟩ (hcut _)

/-! ## One receiver for all connections -/

/-- `rtsp_server_pomp_cb`: the chunk goes into the server's buffer, and the messages that are
then complete are processed as coming from the connection of the chunk. -/
def serverReceives (E : HeaderEdit) (P : Platform) : Receiver → List (Conn × Bytes) →
    Except Fault (List (Conn × ReceiveEvent) × Receiver)
  | r, [] => .ok ([], r)
  | r, (conn, chunk) :: arrivals =>
      match receiveChunk E P r chunk with
      | .error f => .error f
      | .ok (events, r') =>
          match serverReceives E P r' arrivals with
          | .error f => .error f
          | .ok (events', r'') => .ok (events.map (conn, ·) ++ events', r'')

/-- What belongs to the connection. -/
def ofConn {α : Type} (conn : Conn) (xs : List (Conn × α)) : List α :=
  xs.filterMap fun x => if x.1 = conn then some x.2 else none

section OfConn

variable {α : Type} {conn other : Conn}

@[simp] theorem ofConn_nil : ofConn conn ([] : List (Conn × α)) = [] := rfl

@[simp] theorem ofConn_cons_same (x : α) (xs : List (Conn × α)) :
    ofConn conn ((conn, x) :: xs) = x :: ofConn conn xs := by
  simp [ofConn]

theorem ofConn_cons_other (h : other ≠ conn) (x : α) (xs : List (Conn × α)) :
    ofConn conn ((other, x) :: xs) = ofConn conn xs := by
  simp [ofConn, h]

@[simp] theorem ofConn_append (xs ys : List (Conn × α)) :
    ofConn conn (xs ++ ys) = ofConn conn xs ++ ofConn conn ys :=
  List.filterMap_append

@[simp] theorem ofConn_map_same (xs : List α) : ofConn conn (xs.map (conn, ·)) = xs := by
  induction xs with
  | nil => rfl
  | cons x xs ih => rw [List.map_cons, ofConn_cons_same, ih]

theorem ofConn_map_other (h : other ≠ conn) (xs : List α) :
    ofConn conn (xs.map (other, ·)) = [] := by
  induction xs with
  | nil => rfl
  | cons x xs ih => rw [List.map_cons, ofConn_cons_other h, ih]

end OfConn

section Isolation

variable {P : Platform} (E : HeaderEdit) {ms : Conn → List (WireMessage P)}

/-- The receiver holds bytes of the current connection only; of the others whole messages
have arrived. -/
structure Shared (ms : Conn → List (WireMessage P)) (r : Receiver) (current : Conn)
    (arrived : List (Conn × Bytes)) : Prop where
  held : ∃ done rest held, ms current = done ++ rest ∧
    (ofConn current arrived).flatten = wires P done ++ held ∧ Holds E r held rest ∧
      Partial held rest ∧ ¬ BlankStub held rest
  others : ∀ conn, conn ≠ current →
    ∃ done rest, ms conn = done ++ rest ∧ (ofConn conn arrived).flatten = wires P done

/-- The messages of a connection that have arrived. -/
def arrivedWhole (ms : Conn → List (WireMessage P)) (arrived : List (Conn × Bytes))
    (conn : Conn) : List (WireMessage P) :=
  wholeIn (fun m => m.wire.length) (ofConn conn arrived).flatten.length (ms conn)

theorem partial_nil (rest : List (WireMessage P)) : Partial [] rest := by
  cases rest with
  | nil => rfl
  | cons m rest => exact m.wire_pos

/-- Whole messages have arrived, so nothing more is held. -/
theorem held_nil {done rest done' rest' : List (WireMessage P)} {held : Bytes}
    (hms : done ++ rest = done' ++ rest') (hbytes : wires P done ++ held = wires P done')
    (hunfinished : Partial held rest) : held = [] := by
  have hdone : done = done' := by
    rw [← wholeIn_wires hms.symm rfl hunfinished, hbytes]
    exact wholeIn_wires rfl (List.append_nil _).symm (partial_nil rest')
  rw [hdone] at hbytes
  exact List.append_right_eq_self.mp hbytes

theorem Holds.other {r : Receiver} {rest : List (WireMessage P)} (h : Holds E r [] rest)
    (rest' : List (WireMessage P)) : Holds E r [] rest' := by
  generalize hheld : ([] : Bytes) = held at h
  cases h with
  | fresh hctx => exact .fresh hctx
  | waiting t hwire hdelivery tail =>
      have hpos := t.text_pos
      rw [(List.append_eq_nil_iff.mp hheld.symm).1] at hpos
      exact absurd hpos (Nat.lt_irrefl 0)

theorem not_blankStub_nil (rest : List (WireMessage P)) : ¬ BlankStub [] rest := by
  rintro ⟨frame, rest', -, hblank, hnil⟩
  have hlength := hblank.length_take
  rw [← hnil] at hlength
  exact absurd hlength (by decide)

/-- The next bytes come from the current connection, or the receiver holds nothing. -/
theorem Shared.turn {r : Receiver} {current conn : Conn} {arrived : List (Conn × Bytes)}
    (h : Shared E ms r current arrived)
    (hturn : conn ≠ current → ∃ done rest, ms current = done ++ rest ∧
      (ofConn current arrived).flatten = wires P done) :
    Shared E ms r conn arrived := by
  by_cases hsame : conn = current
  · rw [hsame]
    exact h
  · obtain ⟨done, rest, held, hms, hbytes, hholds, hunfinished, -⟩ := h.held
    obtain ⟨done', rest', hms', hbytes'⟩ := hturn hsame
    have hheld : held = [] :=
      held_nil (hms.symm.trans hms') (hbytes.symm.trans hbytes') hunfinished
    subst hheld
    obtain ⟨whole, next, hconn, hwhole⟩ := h.others conn hsame
    refine ⟨⟨whole, next, [], hconn, ?_, hholds.other E next, partial_nil next,
      not_blankStub_nil next⟩, fun other hother => ?_⟩
    · rw [hwhole, List.append_nil]
    · by_cases hcurrent : other = current
      · rw [hcurrent]
        exact ⟨done', rest', hms', hbytes'⟩
      · exact h.others other hcurrent

/-- One chunk completes the next messages of its connection. -/
theorem Shared.receives {r : Receiver} {conn : Conn} {chunk future : Bytes}
    {arrived : List (Conn × Bytes)} (h : Shared E ms r conn arrived)
    (hstream : (ofConn conn (arrived ++ [(conn, chunk)])).flatten ++ future = wires P (ms conn))
    (hcut : ¬ CutFrom [] (ms conn) (ofConn conn (arrived ++ [(conn, chunk)]))) :
    ∃ done r', receiveChunk E P r chunk = .ok (deliveries done, r') ∧
      Shared E ms r' conn (arrived ++ [(conn, chunk)]) ∧
      arrivedWhole ms (arrived ++ [(conn, chunk)]) conn = arrivedWhole ms arrived conn ++ done := by
  obtain ⟨done, rest, held, hms, hbytes, hholds, hunfinished, hstub⟩ := h.held
  have hall : (ofConn conn (arrived ++ [(conn, chunk)])).flatten =
      wires P done ++ (held ++ chunk) := by
    rw [ofConn_append, List.flatten_append, hbytes]
    simp
  have hrest : held ++ chunk ++ future = wires P rest := by
    rw [hall, hms, wires_append, List.append_assoc] at hstream
    exact List.append_cancel_left hstream
  have hfuel : (held ++ chunk).length < receiveFuel (r.buf ++ chunk) := by
    unfold receiveFuel
    rw [List.length_append, List.length_append, hholds.length_eq]
    omega
  obtain ⟨done', rest', held', rfl, hheld, hunfinished', hcase⟩ :=
    receiveLoop_holds E (hholds.append E chunk) hrest hfuel
  have hsplit : ms conn = done ++ done' ++ rest' := by rw [hms, List.append_assoc]
  have hnow : (ofConn conn (arrived ++ [(conn, chunk)])).flatten =
      wires P (done ++ done') ++ held' := by
    rw [hall, hheld, wires_append, List.append_assoc]
  rcases hcase with ⟨hstub', r', hchunk, hholds'⟩ | ⟨⟨frame, rest'', hframe, hblank, hheld'⟩, -⟩
  · refine ⟨done', r', hchunk, ⟨⟨done ++ done', rest', held', hsplit, hnow, hholds',
      hunfinished', hstub'⟩, fun other hother => ?_⟩, ?_⟩
    · obtain ⟨whole, next, hother', hwhole⟩ := h.others other hother
      refine ⟨whole, next, hother', ?_⟩
      rw [ofConn_append, ofConn_cons_other hother.symm, ofConn_nil, List.append_nil, hwhole]
    · unfold arrivedWhole
      rw [wholeIn_wires hsplit hnow hunfinished', wholeIn_wires hms hbytes hunfinished]
  · refine absurd ⟨_, [], done ++ done', frame, rest'', (List.append_nil _).symm, ?_, hblank, ?_⟩
      hcut
    · rw [hsplit, hframe]
    · rw [List.nil_append, hnow, hheld']

theorem CutFrom.of_prefix {ms : List (WireMessage P)} {chunks more : List Bytes}
    (h : CutFrom [] ms chunks) : CutFrom [] ms (chunks ++ more) := by
  obtain ⟨before, after, done, frame, rest, rfl, hms, hblank, hbytes⟩ := h
  exact ⟨before, after ++ more, done, frame, rest, List.append_assoc _ _ _, hms, hblank, hbytes⟩

/-- Where the connection of the bytes changes, whole messages have arrived from the one
before. -/
def TurnsBetween (ms : Conn → List (WireMessage P)) (arrivals : List (Conn × Bytes)) : Prop :=
  ∀ before current chunk conn next after,
    arrivals = before ++ (current, chunk) :: (conn, next) :: after → conn ≠ current →
      ∃ done rest, ms current = done ++ rest ∧
        (ofConn current (before ++ [(current, chunk)])).flatten = wires P done

theorem serverReceives_shared {arrivals : List (Conn × Bytes)} {r : Receiver} {current : Conn}
    {arrived : List (Conn × Bytes)} (hshared : Shared E ms r current arrived)
    (hcurrent : arrived = [] ∨ ∃ before chunk, arrived = before ++ [(current, chunk)])
    (hstreams : ∀ conn, (ofConn conn (arrived ++ arrivals)).flatten <+: wires P (ms conn))
    (hcut : ∀ conn, ¬ CutFrom [] (ms conn) (ofConn conn (arrived ++ arrivals)))
    (hturns : TurnsBetween ms (arrived ++ arrivals)) :
    ∃ events r', serverReceives E P r arrivals = .ok (events, r') ∧
      ∀ conn, deliveries (arrivedWhole ms arrived conn) ++ ofConn conn events =
        deliveries (arrivedWhole ms (arrived ++ arrivals) conn) := by
  induction arrivals generalizing r current arrived with
  | nil => exact ⟨[], r, rfl, fun conn => by rw [ofConn_nil, List.append_nil, List.append_nil]⟩
  | cons arrival arrivals ih =>
      obtain ⟨conn, chunk⟩ := arrival
      have hnext : arrived ++ (conn, chunk) :: arrivals =
          (arrived ++ [(conn, chunk)]) ++ arrivals := by
        rw [List.append_assoc, List.singleton_append]
      have hturned : Shared E ms r conn arrived := by
        refine hshared.turn E fun hother => ?_
        rcases hcurrent with rfl | ⟨before, last, rfl⟩
        · exact ⟨[], ms current, rfl, rfl⟩
        · exact hturns before current last conn chunk arrivals
            (by rw [List.append_assoc, List.singleton_append]) hother
      rw [hnext] at hstreams hcut hturns
      obtain ⟨future, hfuture⟩ := hstreams conn
      rw [ofConn_append, List.flatten_append, List.append_assoc] at hfuture
      obtain ⟨done, r', hchunk, hshared', hwhole⟩ := hturned.receives E hfuture fun h =>
        hcut conn (by rw [ofConn_append]; exact h.of_prefix)
      obtain ⟨events, r'', hrest, hevents⟩ := ih hshared' (.inr ⟨arrived, chunk, rfl⟩) hstreams
        hcut hturns
      refine ⟨(deliveries done).map (conn, ·) ++ events, r'', ?_, fun other => ?_⟩
      · rw [serverReceives, hchunk]
        dsimp only
        rw [hrest]
      · rw [hnext, ← hevents other, ofConn_append]
        by_cases hsame : other = conn
        · rw [hsame, ofConn_map_same, hwhole, deliveries_append, List.append_assoc]
        · have hunchanged : arrivedWhole ms (arrived ++ [(conn, chunk)]) other =
              arrivedWhole ms arrived other := by
            unfold arrivedWhole
            rw [ofConn_append, ofConn_cons_other (Ne.symm hsame), ofConn_nil, List.append_nil]
          rw [hunchanged, ofConn_map_other (Ne.symm hsame), List.nil_append]

/-- If the connection of the bytes changes between messages only, the server processes for
each connection what it would if that were the only one. -/
theorem connections_isolated (arrivals : List (Conn × Bytes))
    (hstreams : ∀ conn, (ofConn conn arrivals).flatten <+: wires P (ms conn))
    (hcut : ∀ conn, ¬ CutFrom [] (ms conn) (ofConn conn arrivals))
    (hturns : TurnsBetween ms arrivals) :
    ∃ events r, serverReceives E P {} arrivals = .ok (events, r) ∧
      ∀ conn, ofConn conn events = deliveries (arrivedWhole ms arrivals conn) ∧
        ∃ alone, receiveChunks E P {} (ofConn conn arrivals) =
          .ok (ofConn conn events, alone) := by
  have hstart : Shared E ms {} 0 [] := by
    obtain ⟨hholds, hunfinished, hstub⟩ := holds_init E (ms 0)
    exact ⟨⟨[], ms 0, [], rfl, rfl, hholds, hunfinished, hstub⟩,
      fun conn _ => ⟨[], ms conn, rfl, rfl⟩⟩
  obtain ⟨events, r, hresult, hevents⟩ :=
    serverReceives_shared E hstart (.inl rfl) hstreams hcut hturns
  refine ⟨events, r, hresult, fun conn => ?_⟩
  obtain ⟨future, hfuture⟩ := hstreams conn
  obtain ⟨hholds, hunfinished, hstub⟩ := holds_init E (ms conn)
  obtain ⟨done, rest, held, alone, hms, hbytes, hunfinished', -, halone, -⟩ :=
    receiveChunks_arrived E hholds hunfinished hstub hfuture (hcut conn)
  have hnone : arrivedWhole ms [] conn = [] :=
    wholeIn_wires rfl rfl (partial_nil (ms conn))
  have hwhole : arrivedWhole ms arrivals conn = done :=
    wholeIn_wires hms hbytes hunfinished'
  have hall : ofConn conn events = deliveries (arrivedWhole ms arrivals conn) := by
    have hgrown := hevents conn
    rw [hnone, List.nil_append] at hgrown
    exact hgrown
  refine ⟨hall, alone, ?_⟩
  rw [hall, hwhole]
  exact halone

end Isolation

theorem connections_isolated_two :
    ∃ events r, serverReceives .words .bare {}
        [(0, optionsRequest.take 5), (0, optionsRequest.drop 5), (1, optionsRequest.take 7)] =
          .ok (events, r) ∧
      ∀ conn, ofConn conn events = deliveries (arrivedWhole (fun _ => [.request optionsWire])
          [(0, optionsRequest.take 5), (0, optionsRequest.drop 5), (1, optionsRequest.take 7)]
          conn) ∧
        ∃ alone, receiveChunks .words .bare {} (ofConn conn
            [(0, optionsRequest.take 5), (0, optionsRequest.drop 5), (1, optionsRequest.take 7)]) =
          .ok (ofConn conn events, alone) := by
  refine connections_isolated .words _ (fun conn => ?_) (fun conn hcut => ?_) ?_
  · rcases conn with - | - | n
    · exact ⟨[], rfl⟩
    · exact ⟨optionsRequest.drop 7, rfl⟩
    · exact ⟨optionsRequest, rfl⟩
  · obtain ⟨before, after, done, frame, rest, -, hms, -⟩ := hcut
    have hmem : WireMessage.frame frame ∈ [WireMessage.request optionsWire] := by
      rw [hms]
      exact List.mem_append_right _ List.mem_cons_self
    simp at hmem
  · intro before current chunk conn next after harrivals hother
    match before with
    | [] =>
        cases harrivals
        exact absurd rfl hother
    | [first] =>
        cases harrivals
        exact ⟨[.request optionsWire], [], rfl, rfl⟩
    | first :: second :: before =>
        have hlength := congrArg List.length harrivals
        simp at hlength
        omega

end Librtsp
