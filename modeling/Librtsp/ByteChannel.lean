import Librtsp.ClientReconnect
import Librtsp.MessageStream

/-!
# A channel of bytes

One side writes messages, one after the other; their bytes arrive at the other side in order,
cut into chunks anyhow.  While more is being written, the receive loop has taken exactly the
messages that have arrived whole.  The loop may also take bytes of other channels where it has
nothing of this one.
-/

namespace Librtsp

open CString

/-- What has been written, message by message, and what has arrived, chunk by chunk. -/
structure ByteChannel where
  written : List Bytes := []
  arrived : List Bytes := []
  deriving DecidableEq, Repr

namespace ByteChannel

def write (c : ByteChannel) (messages : List Bytes) : ByteChannel :=
  { c with written := c.written ++ messages }

def arrive (c : ByteChannel) (chunks : List Bytes) : ByteChannel :=
  { c with arrived := c.arrived ++ chunks }

/-- These bytes end in a message that looks blank there, after its third byte. -/
def EndsInBlank (written : List Bytes) (bytes : Bytes) : Prop :=
  ∃ k < written.length,
    (written.getD k []).take 3 ∈ ([[0x24, 0x0a, 0x0a], [0x24, 0x0d, 0x0d]] : List Bytes) ∧
      bytes = (written.take k).flatten ++ (written.getD k []).take 3

instance (written : List Bytes) (bytes : Bytes) : Decidable (EndsInBlank written bytes) :=
  inferInstanceAs (Decidable (∃ k < written.length, _ ∧ _))

/-- The chunk is the next part of what has been written, and does not end in a frame that looks
blank there. -/
structure Carries (c : ByteChannel) (chunk : Bytes) : Prop where
  order : (c.arrived ++ [chunk]).flatten <+: c.written.flatten
  uncut : ¬ EndsInBlank c.written (c.arrived ++ [chunk]).flatten

instance (c : ByteChannel) (chunk : Bytes) : Decidable (c.Carries chunk) :=
  decidable_of_iff
    ((c.arrived ++ [chunk]).flatten <+: c.written.flatten ∧
      ¬ EndsInBlank c.written (c.arrived ++ [chunk]).flatten)
    ⟨fun h => ⟨h.1, h.2⟩, fun h => ⟨h.1, h.2⟩⟩

end ByteChannel

/-! ## The loop over one chunk -/

section Loop

variable {E : HeaderEdit} {P : Platform}

/-- A loop that has delivered less often than its fuel allows has ended. -/
theorem receiveLoop_drains {fuel : Nat} {r r' : Receiver} {ds : List Delivery}
    (h : receiveLoop E P fuel r = .ok (ds.map .deliver, r')) (hfuel : ds.length < fuel) :
    Drains E P r ds r' := by
  induction fuel generalizing r ds with
  | zero => omega
  | succ fuel ih =>
      unfold receiveLoop at h
      split at h
      next => cases h
      next next hnext =>
        dsimp only at h
        split at h
        next e hresult =>
          obtain ⟨hevents, hrest⟩ := Prod.mk.inj (Except.ok.inj h)
          cases ds with
          | nil =>
              rw [← hrest]
              exact .ends hnext hresult
          | cons d ds =>
              split at hevents
              next => cases hevents
              next => cases hevents
        next message hresult =>
          split at h
          next => cases h
          next events r'' hloop =>
            obtain ⟨hevents, rfl⟩ := Prod.mk.inj (Except.ok.inj h)
            cases ds with
            | nil => cases hevents
            | cons d ds =>
                obtain ⟨hd, rfl⟩ := List.cons.inj hevents
                cases hd
                rw [List.length_cons] at hfuel
                exact .delivers hnext hresult (ih hloop (by omega))

theorem deliveries_eq (ms : List (WireMessage P)) :
    deliveries ms = (ms.map WireMessage.delivery).map .deliver := by
  rw [deliveries, List.map_map]
  rfl

theorem length_le_wires (ms : List (WireMessage P)) : ms.length ≤ (wires P ms).length := by
  induction ms with
  | nil => exact Nat.le_refl 0
  | cons m ms ih =>
      have hpos := m.wire_pos
      rw [wires_cons, List.length_cons, List.length_append]
      omega

end Loop

/-! ## What has been taken -/

section Taking

variable (E : HeaderEdit) {P : Platform}

/-- Of the messages of the channel the receive loop has taken these, and it holds the bytes that
have arrived of the next one. -/
structure ByteChannel.Taken (c : ByteChannel) (ms done : List (WireMessage P)) (r : Receiver) :
    Prop where
  written : c.written = ms.map WireMessage.wire
  held : ∃ rest held, ms = done ++ rest ∧ c.arrived.flatten = wires P done ++ held ∧
    Holds E r held rest ∧ Partial held rest ∧ ¬ BlankStub held rest

/-- Nothing is in the buffer, and no header waits for its body. -/
def Receiver.BetweenMessages (r : Receiver) : Prop :=
  r.buf = [] ∧ r.ctx.header = none

instance (r : Receiver) : Decidable r.BetweenMessages :=
  inferInstanceAs (Decidable (_ ∧ _))

variable {E} {c : ByteChannel} {ms done : List (WireMessage P)} {r : Receiver}

theorem ByteChannel.taken_init : ByteChannel.Taken E {} ([] : List (WireMessage P)) [] {} := by
  obtain ⟨hholds, hunfinished, hstub⟩ := holds_init E ([] : List (WireMessage P))
  exact ⟨rfl, [], [], rfl, rfl, hholds, hunfinished, hstub⟩

/-- Other bytes that come and go between two messages change nothing. -/
theorem ByteChannel.Taken.others (h : c.Taken E ms done r) {r' : Receiver}
    (hbefore : r.BetweenMessages) (hafter : r'.BetweenMessages) : c.Taken E ms done r' := by
  obtain ⟨rest, held, hms, hbytes, hholds, hunfinished, hstub⟩ := h.held
  refine ⟨h.written, rest, held, hms, hbytes, ?_, hunfinished, hstub⟩
  cases hholds with
  | fresh =>
      have hempty : held = [] := hbefore.1
      obtain ⟨buf, ctx⟩ := r'
      obtain ⟨rfl, hctx⟩ := hafter
      rw [hempty]
      exact .fresh hctx
  | waiting t => cases hbefore.2

/-- More is written behind what is there. -/
theorem ByteChannel.Taken.write (h : c.Taken E ms done r) (new : List (WireMessage P)) :
    (c.write (new.map WireMessage.wire)).Taken E (ms ++ new) done r := by
  obtain ⟨rest, held, hms, hbytes, hholds, hunfinished, hstub⟩ := h.held
  refine ⟨?_, rest ++ new, held, ?_, hbytes, ?_⟩
  · rw [ByteChannel.write, h.written, List.map_append]
  · rw [hms, List.append_assoc]
  · cases rest with
    | nil =>
        obtain rfl : held = [] := hunfinished
        exact ⟨hholds.other E _, partial_nil _, not_blankStub_nil _⟩
    | cons m rest =>
        refine ⟨?_, hunfinished, ?_⟩
        · cases hholds with
          | fresh hctx => exact .fresh hctx
          | waiting t hwire hdelivery tail => exact .waiting t hwire hdelivery tail
        · rintro ⟨frame, rest', heq, hblank, hheld⟩
          exact hstub ⟨frame, rest, congrArg (· :: rest) (List.cons.inj heq).1, hblank, hheld⟩

/-- The next chunk completes the next messages. -/
theorem ByteChannel.Taken.arrive (h : c.Taken E ms done r) {chunk : Bytes}
    (hcarries : c.Carries chunk) :
    ∃ more r', receiveChunk E P r chunk = .ok (deliveries more, r') ∧
      Drains E P (r.append chunk) (more.map WireMessage.delivery) r' ∧
        (c.arrive [chunk]).Taken E ms (done ++ more) r' := by
  obtain ⟨rest, held, hms, hbytes, hholds, hunfinished, -⟩ := h.held
  obtain ⟨future, hfuture⟩ := hcarries.order
  have hall : (c.arrived ++ [chunk]).flatten = wires P done ++ (held ++ chunk) := by
    rw [List.flatten_append, hbytes]
    simp
  have hrest : held ++ chunk ++ future = wires P rest := by
    have hwritten : c.written.flatten = wires P done ++ wires P rest := by
      rw [h.written, hms, ← wires_append]
      rfl
    rw [hall, hwritten, List.append_assoc] at hfuture
    exact List.append_cancel_left hfuture
  have hlength : (held ++ chunk).length = (r.buf ++ chunk).length := by
    rw [List.length_append, List.length_append, hholds.length_eq]
  have hfuel : (held ++ chunk).length < receiveFuel (r.buf ++ chunk) := by
    unfold receiveFuel
    omega
  obtain ⟨more, rest', held', rfl, hheld, hunfinished', hcase⟩ :=
    receiveLoop_holds E (hholds.append E chunk) hrest hfuel
  have hnow : (c.arrived ++ [chunk]).flatten = wires P (done ++ more) ++ held' := by
    rw [hall, hheld, wires_append, List.append_assoc]
  rcases hcase with ⟨hstub, r', hchunk, hholds'⟩ | ⟨⟨frame, rest'', rfl, hblank, rfl⟩, -⟩
  · refine ⟨more, r', hchunk, ?_, h.written, rest', held', ?_, hnow, hholds', hunfinished', hstub⟩
    · have hmore : more.length < receiveFuel (r.buf ++ chunk) := by
        have hwires := length_le_wires more
        have hsplit := congrArg List.length hheld
        rw [@List.length_append _ (wires P more)] at hsplit
        omega
      rw [deliveries_eq] at hchunk
      exact receiveLoop_drains hchunk (by rwa [List.length_map])
    · rw [hms, List.append_assoc]
  · have hwritten : c.written =
        (done ++ more).map WireMessage.wire ++ frame.wire :: rest''.map WireMessage.wire := by
      rw [h.written, hms, ← List.append_assoc, List.map_append, List.map_cons]
      rfl
    have hk : (done ++ more).length = ((done ++ more).map (WireMessage.wire (P := P))).length :=
      (List.length_map _).symm
    have hget : c.written.getD (done ++ more).length [] = frame.wire := by
      rw [hwritten, hk, List.getD_append_right _ _ _ _ (Nat.le_refl _), Nat.sub_self]
      rfl
    have htake : (c.written.take (done ++ more).length).flatten = wires P (done ++ more) := by
      rw [hwritten, hk, List.take_left]
      rfl
    refine absurd ⟨(done ++ more).length, ?_, ?_, ?_⟩ hcarries.uncut
    · rw [hwritten, hk, List.length_append, List.length_cons]
      omega
    · rw [hget]
      rcases hblank with hblank | hblank
      · simp [hblank]
      · simp [hblank]
    · rw [hget, htake, hnow]

/-- When all that was written has arrived, all of it has been taken. -/
theorem ByteChannel.Taken.all (h : c.Taken E ms done r)
    (harrived : c.arrived.flatten = c.written.flatten) : done = ms := by
  obtain ⟨rest, held, hms, hbytes, -, hunfinished, -⟩ := h.held
  have hheld : held = wires P rest := by
    rw [h.written, hbytes, hms, List.map_append, List.flatten_append] at harrived
    exact List.append_cancel_left harrived
  cases rest with
  | nil => rw [hms, List.append_nil]
  | cons m rest =>
      have hshort : held.length < m.wire.length := hunfinished
      rw [hheld, wires_cons, List.length_append] at hshort
      omega

/-- The loop takes bytes of no other channel. -/
structure ByteChannel.TakenAlone (E : HeaderEdit) (c : ByteChannel) (ms done : List (WireMessage P))
    (r : Receiver) : Prop where
  taken : c.Taken E ms done r
  receives : ReceivesAll E P {} c.arrived (done.map WireMessage.delivery) r

theorem ByteChannel.takenAlone_init :
    ByteChannel.TakenAlone E {} ([] : List (WireMessage P)) [] {} :=
  ⟨taken_init, .nothing⟩

theorem ByteChannel.TakenAlone.write (h : c.TakenAlone E ms done r)
    (new : List (WireMessage P)) :
    (c.write (new.map WireMessage.wire)).TakenAlone E (ms ++ new) done r :=
  ⟨h.taken.write new, h.receives⟩

theorem ByteChannel.TakenAlone.arrive (h : c.TakenAlone E ms done r) {chunk : Bytes}
    (hcarries : c.Carries chunk) :
    ∃ more r', (c.arrive [chunk]).TakenAlone E ms (done ++ more) r' := by
  obtain ⟨more, r', -, hdrains, htaken⟩ := h.taken.arrive hcarries
  refine ⟨more, r', htaken, ?_⟩
  rw [List.map_append]
  exact .chunk h.receives hdrains

end Taking

end Librtsp
