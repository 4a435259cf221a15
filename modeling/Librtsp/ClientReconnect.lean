import Librtsp.ClientTasks

/-!
# Reconnection

The receive buffer and the parser context outlive a connection.  What a connection delivers
is what its own bytes deliver to a clean receiver, in every run whose connections start with
a clean one: no byte in the buffer and no header read.

`Drains` is the receive loop run to its end, `ReceivesAll` the loop run for every chunk.
-/

namespace Librtsp

open CString RecordList

/-! ## The receive loop -/

/-- The receiver after a call that has asked to remove bytes. -/
def NextMessage.rest (next : NextMessage) : Receiver where
  buf := rtspBufferRemoveFirstBytes next.data next.totalLen
  ctx := next.ctx

/-- Bytes arrive. -/
def Receiver.append (r : Receiver) (chunk : Bytes) : Receiver :=
  { r with buf := r.buf ++ chunk }

/-- Nothing is left of what was received before. -/
def Receiver.Clean (r : Receiver) : Prop :=
  r.buf = [] ∧ r.ctx.header = none

instance (r : Receiver) : Decidable r.Clean :=
  inferInstanceAs (Decidable (_ ∧ _))

section Loop

variable (E : HeaderEdit) (P : Platform)

/-- The loop takes messages until a call fails. -/
inductive Drains : Receiver → List Delivery → Receiver → Prop where
  | ends {r : Receiver} {next : NextMessage} {e : Errno}
      (hnext : rtspGetNextMessage E P r.buf r.ctx = .ok next)
      (hresult : next.result = .error e) : Drains r [] next.rest
  | delivers {r r' : Receiver} {next : NextMessage} {message : RtspMessage}
      {deliveries : List Delivery} (hnext : rtspGetNextMessage E P r.buf r.ctx = .ok next)
      (hresult : next.result = .ok message) (hrest : Drains next.rest deliveries r') :
      Drains r (message.delivery next.data :: deliveries) r'

/-- The loop has not ended yet. -/
inductive Draining (start : Receiver) : List Delivery → Receiver → Prop where
  | starts : Draining start [] start
  | delivers {r : Receiver} {next : NextMessage} {message : RtspMessage}
      {deliveries : List Delivery} (hbefore : Draining start deliveries r)
      (hnext : rtspGetNextMessage E P r.buf r.ctx = .ok next)
      (hresult : next.result = .ok message) :
      Draining start (deliveries ++ [message.delivery next.data]) next.rest

/-- The loop has run for every chunk. -/
inductive ReceivesAll (start : Receiver) : List Bytes → List Delivery → Receiver → Prop where
  | nothing : ReceivesAll start [] [] start
  | chunk {r r' : Receiver} {chunks : List Bytes} {chunk : Bytes}
      {before deliveries : List Delivery} (hbefore : ReceivesAll start chunks before r)
      (hdrains : Drains E P (r.append chunk) deliveries r') :
      ReceivesAll start (chunks ++ [chunk]) (before ++ deliveries) r'

variable {E P}

theorem Drains.unique {r r₁ r₂ : Receiver} {ds₁ ds₂ : List Delivery} (h₁ : Drains E P r ds₁ r₁)
    (h₂ : Drains E P r ds₂ r₂) : ds₁ = ds₂ ∧ r₁ = r₂ := by
  induction h₁ generalizing ds₂ with
  | ends hnext hresult =>
      cases h₂ with
      | ends hnext' hresult' =>
          cases hnext.symm.trans hnext'
          exact ⟨rfl, rfl⟩
      | delivers hnext' hresult' hrest =>
          cases hnext.symm.trans hnext'
          cases hresult.symm.trans hresult'
  | delivers hnext hresult hrest ih =>
      cases h₂ with
      | ends hnext' hresult' =>
          cases hnext.symm.trans hnext'
          cases hresult.symm.trans hresult'
      | delivers hnext' hresult' hrest' =>
          cases hnext.symm.trans hnext'
          cases hresult.symm.trans hresult'
          obtain ⟨rfl, rfl⟩ := ih hrest'
          exact ⟨rfl, rfl⟩

theorem ReceivesAll.unique {start r₁ r₂ : Receiver} {chunks : List Bytes}
    {ds₁ ds₂ : List Delivery} (h₁ : ReceivesAll E P start chunks ds₁ r₁)
    (h₂ : ReceivesAll E P start chunks ds₂ r₂) : ds₁ = ds₂ ∧ r₁ = r₂ := by
  induction h₁ generalizing ds₂ r₂ with
  | nothing =>
      generalize hchunks : ([] : List Bytes) = chunks at h₂
      cases h₂ with
      | nothing => exact ⟨rfl, rfl⟩
      | chunk hbefore hdrains => exact absurd hchunks.symm (by simp)
  | @chunk r r' chunks chunk before deliveries hbefore hdrains ih =>
      generalize hchunks : chunks ++ [chunk] = all at h₂
      cases h₂ with
      | nothing => exact absurd hchunks (by simp)
      | chunk hbefore' hdrains' =>
          obtain ⟨rfl, hlast⟩ := List.append_inj' hchunks rfl
          cases hlast
          obtain ⟨rfl, rfl⟩ := ih hbefore'
          obtain ⟨rfl, rfl⟩ := hdrains.unique hdrains'
          exact ⟨rfl, rfl⟩

/-- A loop that has begun ends as the whole loop does. -/
theorem Draining.ends {start r r' : Receiver} {ds ds' : List Delivery}
    (h : Draining E P start ds r) (hrest : Drains E P r ds' r') :
    Drains E P start (ds ++ ds') r' := by
  induction h generalizing ds' with
  | starts => exact hrest
  | delivers hbefore hnext hresult ih =>
      rw [List.append_assoc]
      exact ih (.delivers hnext hresult hrest)

theorem Draining.splits {start r r' : Receiver} {ds all : List Delivery}
    (h : Draining E P start ds r) (hall : Drains E P start all r') :
    ∃ rest, all = ds ++ rest ∧ Drains E P r rest r' := by
  induction h with
  | starts => exact ⟨all, rfl, hall⟩
  | delivers hbefore hnext hresult ih =>
      obtain ⟨rest, rfl, hrest⟩ := ih
      cases hrest with
      | ends hnext' hresult' =>
          cases hnext.symm.trans hnext'
          cases hresult.symm.trans hresult'
      | @delivers _ _ next' message' deliveries hnext' hresult' hrest' =>
          cases hnext.symm.trans hnext'
          cases hresult.symm.trans hresult'
          exact ⟨deliveries, by rw [List.append_assoc]; rfl, hrest'⟩

/-! ## Clean receivers -/

/-- The same bytes, and the same header or none. -/
def Receiver.Same (r r' : Receiver) : Prop :=
  r.buf = r'.buf ∧ (r.ctx = r'.ctx ∨ r.ctx.header = none ∧ r'.ctx.header = none)

theorem Receiver.Clean.same {r : Receiver} (h : r.Clean) : r.Same {} :=
  ⟨h.1, .inr ⟨h.2, rfl⟩⟩

theorem Receiver.Same.symm {r r' : Receiver} (h : r.Same r') : r'.Same r := by
  obtain ⟨hbuf, hctx | ⟨hnone, hnone'⟩⟩ := h
  · exact ⟨hbuf.symm, .inl hctx.symm⟩
  · exact ⟨hbuf.symm, .inr ⟨hnone', hnone⟩⟩

/-- Without a header the rest of the context has no effect. -/
theorem rtspGetNextMessage_same {r r' : Receiver} (hsame : r.Same r') {next : NextMessage}
    (h : rtspGetNextMessage E P r.buf r.ctx = .ok next) :
    ∃ next', rtspGetNextMessage E P r'.buf r'.ctx = .ok next' ∧ next'.result = next.result ∧
      next'.data = next.data ∧ next.rest.Same next'.rest := by
  obtain ⟨hbuf, hctx | ⟨hnone, hnone'⟩⟩ := hsame
  · rw [hbuf, hctx] at h
    exact ⟨next, h, rfl, rfl, rfl, .inl rfl⟩
  · rw [hbuf] at h
    unfold rtspGetNextMessage at h ⊢
    rw [hnone] at h
    rw [hnone']
    split at h
    next =>
      cases h
      exact ⟨_, rfl, rfl, rfl, rfl, .inr ⟨hnone, hnone'⟩⟩
    next =>
      cases h
      exact ⟨_, rfl, rfl, rfl, rfl, .inr ⟨hnone, hnone'⟩⟩
    next =>
      dsimp only at h ⊢
      split at h
      next =>
        cases h
        exact ⟨_, rfl, rfl, rfl, rfl, .inr ⟨hnone, hnone'⟩⟩
      next => exact ⟨next, h, rfl, rfl, rfl, .inl rfl⟩

theorem Drains.same {r r' r₁ : Receiver} {ds : List Delivery} (h : Drains E P r ds r₁)
    (hsame : r.Same r') : ∃ r₁', Drains E P r' ds r₁' ∧ r₁.Same r₁' := by
  induction h generalizing r' with
  | ends hnext hresult =>
      obtain ⟨next', hnext', hresult', -, hrest⟩ := rtspGetNextMessage_same hsame hnext
      exact ⟨_, .ends hnext' (hresult'.trans hresult), hrest⟩
  | delivers hnext hresult hrest ih =>
      obtain ⟨next', hnext', hresult', hdata, hrest'⟩ := rtspGetNextMessage_same hsame hnext
      obtain ⟨r₁', hdrains, hsame'⟩ := ih hrest'
      rw [← hdata]
      exact ⟨r₁', .delivers hnext' (hresult'.trans hresult) hdrains, hsame'⟩

theorem ReceivesAll.same {start start' r : Receiver} {chunks : List Bytes} {ds : List Delivery}
    (h : ReceivesAll E P start chunks ds r) (hsame : start.Same start') :
    ∃ r', ReceivesAll E P start' chunks ds r' ∧ r.Same r' := by
  induction h with
  | nothing => exact ⟨start', .nothing, hsame⟩
  | @chunk r₁ r₂ chunks chunk before deliveries hbefore hdrains ih =>
      obtain ⟨r', hbefore', hbuf, hctx⟩ := ih
      have happend : (r₁.append chunk).Same (r'.append chunk) :=
        ⟨congrArg (· ++ chunk) hbuf, hctx⟩
      obtain ⟨r₁', hdrains', hsame'⟩ := hdrains.same happend
      exact ⟨r₁', .chunk hbefore' hdrains', hsame'⟩

end Loop

/-! ## Steps of the client -/

/-- The messages delivered among these events. -/
def deliveredIn (events : List ClientEvent) : List Delivery :=
  events.filterMap fun
    | .delivered delivery => some delivery
    | _ => none

@[simp] theorem deliveredIn_nil : deliveredIn [] = [] := rfl

@[simp] theorem deliveredIn_append (events events' : List ClientEvent) :
    deliveredIn (events ++ events') = deliveredIn events ++ deliveredIn events' :=
  List.filterMap_append

@[simp] theorem deliveredIn_delivered (delivery : Delivery) (events : List ClientEvent) :
    deliveredIn (.delivered delivery :: events) = delivery :: deliveredIn events := rfl

theorem accept_delivered (called : Called) (method : RtspMethodType) (userdata : Nat) :
    deliveredIn (called.accept method userdata).events = deliveredIn called.events := by
  unfold Called.accept
  split
  next => rfl
  next => simp [deliveredIn]

theorem CallOutcome.quiet {env : ClientEnv} {client : RtspClient} {method : RtspMethodType}
    {userdata : Nat} {timeoutMs : UInt32} {internal : Bool} {stages : CallStages}
    {marked : Option RtspClientSession} {called : Called}
    (h : CallOutcome env client method userdata timeoutMs internal stages marked called) :
    called.client.receiver = client.receiver ∧ deliveredIn called.events = [] := by
  have hbuilt : ∀ {built}, Filled env (Librtsp.claimed client) built method userdata →
      built.receiver = client.receiver := by
    intro built hfilled
    rw [hfilled.same]
    rfl
  cases h with
  | refused e hclaims => exact ⟨rfl, rfl⟩
  | claimed e hclaim hclaims hlookups => exact ⟨rfl, rfl⟩
  | unnumbered e hclaim hclaims hlookups hreserves hunset => exact ⟨rfl, rfl⟩
  | unsent e hclaim hclaims hlookups hreserves hfilled => exact ⟨hbuilt hfilled, rfl⟩
  | sent message hclaim hmethod hfilled hagent hsock hsend =>
      have hsame := hbuilt hfilled
      exact ⟨hsame, rfl⟩
  | tearsDown message hclaim hmethod hteardown hfilled hagent hsock hsend hfind =>
      have hsame := hbuilt hfilled
      exact ⟨hsame, rfl⟩

theorem CompletedMethod.quiet {client : RtspClient} {session : Option RtspClientSession}
    {ended : EndedRequest} {resp : RtspResponseHeader} {completion : Completion} {p : Progress}
    (h : CompletedMethod client session ended resp completion p) : deliveredIn p.events = [] := by
  cases h with
  | keepAlive hmethod =>
      unfold keepAliveComplete
      split
      next => rfl
      next =>
        split
        next =>
          dsimp only
          split
          next => rfl
          next => rfl
        next => rfl
  | _ => rfl

/-- Only the receive loop changes the receiver and delivers. -/
theorem ClientChange.quiet {env : ClientEnv} {kinds : List ChangeKind}
    {client client' : RtspClient} {events : List ClientEvent}
    (h : ClientChange env kinds client events client') (hreception : .reception ∉ kinds) :
    client'.receiver = client.receiver ∧ deliveredIn events = [] := by
  induction h with
  | refl => exact ⟨rfl, rfl⟩
  | trans hab hbc ihab ihbc =>
      rw [deliveredIn_append, ihab.2, ihbc.2]
      exact ⟨ihbc.1.trans ihab.1, rfl⟩
  | told client callback hcallback => exact ⟨rfl, rfl⟩
  | delivered hkind => exact absurd hkind hreception
  | received hkind => exact absurd hkind hreception
  | linked haddr h =>
      rw [h]
      exact ⟨rfl, rfl⟩
  | called hkind call houtcome =>
      rw [accept_delivered]
      exact houtcome.quiet
  | tearsDown hkind houtcome => exact houtcome.quiet
  | completed hkind resp status hpending h =>
      rw [completed_frame h]
      exact ⟨rfl, h.quiet⟩
  | keptAlive hkind hfind hpending hstate hheader hsession hagent hevents =>
      rcases hevents with rfl | ⟨message, rfl⟩
      · exact ⟨rfl, rfl⟩
      · exact ⟨rfl, rfl⟩
  | mediaAdded hkind hfind hadd =>
      unfold rtspClientSessionMediaAdd at hadd
      split at hadd
      next =>
        cases hadd
        exact ⟨rfl, rfl⟩
      next => cases hadd
  | _ => exact ⟨rfl, rfl⟩

/-- A message is delivered by a turn of the receive loop, which reads it and processes it. -/
theorem clientStep_delivery {E : HeaderEdit} {P : Platform} {env : ClientEnv}
    {s s' : ClientState} {input : ClientInput} {events : List ClientEvent} {delivery : Delivery}
    (hwf : s.client.WellFormed) (h : clientStep E P env s input = .ok s')
    (hevents : s'.events = s.events ++ events) (hdelivered : delivery ∈ deliveredIn events) :
    ∃ rest receiver totalLen p, s.tasks = .receive :: rest ∧ input = .resume ∧
      processDelivery { s.client with receiver } delivery = .ok p ∧
        s' = s.after rest
          { p.andThen [.consume totalLen, .receive] with
            events := .delivered delivery :: p.events } := by
  have hnone : ∀ {kinds : List ChangeKind} {client' : RtspClient},
      ClientChange env kinds s.client events client' → .reception ∉ kinds → False := by
    intro kinds client' hchange hreception
    rw [(hchange.quiet hreception).2] at hdelivered
    cases hdelivered
  cases clientStep_cases h with
  | @loop p htasks hp =>
      obtain rfl : p.events = events := List.append_cancel_left hevents
      by_cases hreception : .reception ∈ input.kinds
      · cases input with
        | data chunk =>
            unfold loopProgress at hp
            dsimp only at hp
            split at hp
            next =>
              cases hp
              cases hdelivered
            next => cases hp
        | _ => simp [ClientInput.kinds] at hreception
      · exact (hnone (loopProgress_changes hwf hp) hreception).elim
  | returns htasks hinput =>
      obtain rfl : [] = events := List.append_cancel_left ((List.append_nil _).trans hevents)
      cases hdelivered
  | @inCallback rest p htasks hp =>
      obtain rfl : p.events = events := List.append_cancel_left hevents
      refine (hnone (callProgress_changes hwf hp) ?_).elim
      cases input with
      | data chunk => cases hp
      | _ => simp [ClientInput.kinds]
  | @task task rest p htasks hcallback hinput hp =>
      obtain rfl : p.events = events := List.append_cancel_left hevents
      cases task with
      | receive =>
          change receiveMessage E P s.client = .ok p at hp
          unfold receiveMessage at hp
          split at hp
          next => cases hp
          next next hnext =>
            dsimp only at hp
            split at hp
            next =>
              cases hp
              cases hdelivered
            next message hresult =>
              obtain ⟨p', hprocessed, rfl⟩ := except_map_ok.mp hp
              have hwf' : ({ s.client with
                  receiver := { buf := next.data, ctx := next.ctx } } : RtspClient).WellFormed :=
                hwf.of_sessions rfl le_rfl
              have hchange : p'.Changes env [.completion] _ :=
                processDelivery_changes (.head _) hwf' hprocessed
              rw [deliveredIn_delivered, (ClientChange.quiet hchange (by decide)).2,
                List.mem_singleton] at hdelivered
              subst hdelivered
              exact ⟨rest, _, _, p', htasks, hinput, hprocessed, rfl⟩
      | consume totalLen =>
          cases hp
          cases hdelivered
      | _ => exact (hnone (runTask_changes hwf hp) (by simp [ClientTask.kinds])).elim

section Segment

variable {E : HeaderEdit} {P : Platform}

variable (E P) in
/-- Where the receive loop stands: between two chunks; before a message of the last chunk;
or before its bytes are removed. -/
inductive LoopState (start : Receiver) (chunks : List Bytes) (ds : List Delivery)
    (r : Receiver) : List ClientTask → Prop where
  | between (h : ReceivesAll E P start chunks ds r) : LoopState start chunks ds r []
  | next {before : List Bytes} {chunk : Bytes} {ds₁ ds₂ : List Delivery} {r₁ : Receiver}
      (hchunks : chunks = before ++ [chunk]) (hds : ds = ds₁ ++ ds₂)
      (hbefore : ReceivesAll E P start before ds₁ r₁)
      (hdraining : Draining E P (r₁.append chunk) ds₂ r) : LoopState start chunks ds r [.receive]
  | delivered {totalLen : Nat} {before : List Bytes} {chunk : Bytes} {ds₁ ds₂ : List Delivery}
      {r₁ : Receiver} (hchunks : chunks = before ++ [chunk]) (hds : ds = ds₁ ++ ds₂)
      (hbefore : ReceivesAll E P start before ds₁ r₁)
      (hdraining : Draining E P (r₁.append chunk) ds₂
        { r with buf := rtspBufferRemoveFirstBytes r.buf totalLen }) :
      LoopState start chunks ds r [.consume totalLen, .receive]

variable (E P) in
/-- The loop stands below the tasks of functions. -/
def LoopBelow (start : Receiver) (chunks : List Bytes) (ds : List Delivery)
    (client : RtspClient) (tasks : List ClientTask) : Prop :=
  ∃ above below, tasks = above ++ below ∧ PlainOrTeardown client above ∧
    LoopState E P start chunks ds client.receiver below

theorem LoopState.rest {start r : Receiver} {chunks : List Bytes} {ds : List Delivery}
    {below : List ClientTask} (h : LoopState E P start chunks ds r below) : LoopRest below := by
  cases h with
  | between => exact .inl rfl
  | next => exact .inr (.inl rfl)
  | delivered => exact .inr (.inr ⟨_, rfl⟩)

/-- Between two chunks, and in between a prefix of what the chunks deliver. -/
theorem LoopBelow.delivers {start : Receiver} {chunks : List Bytes} {ds : List Delivery}
    {client : RtspClient} {tasks : List ClientTask}
    (h : LoopBelow E P start chunks ds client tasks) {all : List Delivery} {r : Receiver}
    (hall : ReceivesAll E P start chunks all r) : ds <+: all := by
  obtain ⟨above, below, -, -, hloop⟩ := h
  have hlast : ∀ {before chunk ds₁ ds₂ r₁ r₂}, chunks = before ++ [chunk] → ds = ds₁ ++ ds₂ →
      ReceivesAll E P start before ds₁ r₁ → Draining E P (r₁.append chunk) ds₂ r₂ →
      ds <+: all := by
    intro before chunk ds₁ ds₂ r₁ r₂ hchunks hds hbefore hdraining
    subst hds
    generalize hsome : chunks = some at hall
    cases hall with
    | nothing =>
        subst hsome
        exact absurd hchunks.symm (by simp)
    | chunk hbefore' hdrains =>
        subst hsome
        obtain ⟨rfl, hchunk⟩ := List.append_inj' hchunks rfl
        cases hchunk
        obtain ⟨rfl, rfl⟩ := hbefore.unique hbefore'
        obtain ⟨rest, rfl, -⟩ := hdraining.splits hdrains
        rw [← List.append_assoc]
        exact List.prefix_append _ _
  cases hloop with
  | between h => exact (h.unique hall).1 ▸ List.prefix_rfl
  | next hchunks hds hbefore hdraining => exact hlast hchunks hds hbefore hdraining
  | delivered hchunks hds hbefore hdraining => exact hlast hchunks hds hbefore hdraining

/-- The chunk of an input. -/
def ClientInput.chunk : ClientInput → List Bytes
  | .data chunk => [chunk]
  | _ => []

theorem data_of_reception {input : ClientInput} (h : .reception ∈ input.kinds) :
    ∃ chunk, input = .data chunk := by
  cases input with
  | data chunk => exact ⟨chunk, rfl⟩
  | _ => simp [ClientInput.kinds] at h

theorem chunk_of_quiet {input : ClientInput} (h : .reception ∉ input.kinds) :
    input.chunk = [] := by
  cases input with
  | data chunk => exact absurd (.head _) h
  | _ => rfl

/-- The loop stays where it is when the tasks above it change. -/
theorem LoopState.below {start : Receiver} {chunks : List Bytes} {ds : List Delivery}
    {client client' : RtspClient} {below above tasks : List ClientTask}
    (h : LoopState E P start chunks ds client.receiver below)
    (hreceiver : client'.receiver = client.receiver) (habove : AllPlain above)
    (htasks : PlainOrTeardown client' tasks) :
    LoopBelow E P start chunks ds client' (tasks ++ (above ++ below)) := by
  refine ⟨tasks ++ above, below, (List.append_assoc _ _ _).symm, htasks.append habove, ?_⟩
  rw [hreceiver]
  exact h

/-- One turn of the loop. -/
theorem receiveMessage_loopBelow {start : Receiver} {chunks : List Bytes}
    {ds : List Delivery} {client : RtspClient} {p : Progress} (hwf : client.WellFormed)
    (h : LoopState E P start chunks ds client.receiver [.receive])
    (hp : receiveMessage E P client = .ok p) :
    LoopBelow E P start chunks (ds ++ deliveredIn p.events) p.client p.tasks := by
  cases h with
  | @next before chunk ds₁ ds₂ r₁ hchunks hds hbefore hdraining =>
      subst hchunks hds
      unfold receiveMessage at hp
      split at hp
      next => cases hp
      next next hnext =>
        dsimp only at hp
        split at hp
        next e hresult =>
          cases hp
          have hdrains := hdraining.ends (.ends hnext hresult)
          rw [List.append_nil] at hdrains
          refine ⟨[], [], rfl, .inl .nil, ?_⟩
          rw [deliveredIn_nil, List.append_nil]
          exact .between (.chunk hbefore hdrains)
        next message hresult =>
          obtain ⟨p', hprocessed, rfl⟩ := except_map_ok.mp hp
          have hwf' : ({ client with
              receiver := { buf := next.data, ctx := next.ctx } } : RtspClient).WellFormed :=
            hwf.of_sessions rfl le_rfl
          have hchange : p'.Changes ({} : ClientEnv) [.completion] _ :=
            processDelivery_changes (.head _) hwf' hprocessed
          obtain ⟨hreceiver, hquiet⟩ := ClientChange.quiet hchange (by decide)
          refine ⟨p'.tasks, _, rfl, processDelivery_orderly hprocessed hwf', ?_⟩
          rw [deliveredIn_delivered, hquiet, List.append_assoc]
          refine .delivered rfl rfl hbefore ?_
          change Draining E P _ _ { p'.client.receiver with
            buf := rtspBufferRemoveFirstBytes p'.client.receiver.buf next.totalLen }
          rw [hreceiver]
          exact .delivers hdraining hnext hresult

theorem clientStep_loopBelow {env : ClientEnv} {start : Receiver} {chunks : List Bytes}
    {ds : List Delivery} {s s' : ClientState} {input : ClientInput} (hwf : s.client.WellFormed)
    (hbelow : LoopBelow E P start chunks ds s.client s.tasks)
    (h : clientStep E P env s input = .ok s') :
    ∃ events, s'.events = s.events ++ events ∧
      LoopBelow E P start (chunks ++ input.chunk) (ds ++ deliveredIn events) s'.client
        s'.tasks := by
  obtain ⟨above, below, htasks', habove, hloop⟩ := hbelow
  cases clientStep_cases h with
  | @loop p htasks hp =>
      rw [htasks] at htasks'
      obtain ⟨rfl, rfl⟩ := List.append_eq_nil_iff.mp htasks'.symm
      refine ⟨p.events, rfl, ?_⟩
      by_cases hreception : .reception ∈ input.kinds
      · obtain ⟨chunk, rfl⟩ := data_of_reception hreception
        unfold loopProgress at hp
        dsimp only at hp
        split at hp
        next =>
          cases hp
          rw [deliveredIn_nil, List.append_nil]
          cases hloop with
          | between hreceives =>
              refine ⟨[], [.receive], rfl, .inl .nil, ?_⟩
              exact .next rfl (List.append_nil _).symm hreceives .starts
        next => cases hp
      · obtain ⟨hreceiver, hquiet⟩ :=
          ClientChange.quiet (loopProgress_changes hwf hp) hreception
        have hordered := loopProgress_orderly hwf (fun chunk hinput => by
          rw [hinput] at hreception
          exact hreception (.head _)) hp
        rw [hquiet, chunk_of_quiet hreception, List.append_nil, List.append_nil]
        have hafter := hloop.below hreceiver AllPlain.nil hordered
        exact hafter
  | @returns rest htasks hinput =>
      have hchunk : input.chunk = [] := by rw [hinput]; rfl
      rw [htasks'] at htasks
      refine ⟨[], (List.append_nil _).symm, ?_⟩
      rw [deliveredIn_nil, List.append_nil, hchunk, List.append_nil]
      cases above with
      | nil => exact absurd htasks hloop.rest.not_inCallback
      | cons task above =>
          cases htasks
          exact ⟨above, below, rfl, .inl habove.head.1, hloop⟩
  | @inCallback rest p htasks hp =>
      have hreception : .reception ∉ input.kinds := by
        intro hreception
        obtain ⟨chunk, rfl⟩ := data_of_reception hreception
        cases hp
      obtain ⟨hreceiver, hquiet⟩ := ClientChange.quiet (callProgress_changes hwf hp) hreception
      refine ⟨p.events, rfl, ?_⟩
      rw [hquiet, chunk_of_quiet hreception, List.append_nil, List.append_nil]
      rw [htasks'] at htasks
      cases above with
      | nil => exact absurd htasks hloop.rest.not_inCallback
      | cons task above =>
          cases htasks
          have hcallback : AllPlain (.inCallback :: above) := .cons trivial habove.head.1
          have hafter := hloop.below hreceiver hcallback (callProgress_orderly hwf hp)
          rw [← List.append_assoc] at hafter
          change LoopBelow E P start chunks ds p.client (p.tasks ++ s.tasks)
          rw [htasks', ← List.append_assoc]
          exact hafter
  | @task task rest p htasks hne hinput hp =>
      have hchunk : input.chunk = [] := by rw [hinput]; rfl
      refine ⟨p.events, rfl, ?_⟩
      rw [hchunk, List.append_nil]
      rw [htasks'] at htasks
      cases above with
      | nil =>
          rw [List.nil_append] at htasks
          subst htasks
          rcases hloop.rest with hhead | hhead | ⟨totalLen, hhead⟩
          · cases hhead
          · cases hhead
            have hafter := receiveMessage_loopBelow hwf hloop hp
            change LoopBelow E P start chunks _ p.client (p.tasks ++ [])
            rw [List.append_nil]
            exact hafter
          · cases hhead
            cases hp
            rw [deliveredIn_nil, List.append_nil]
            cases hloop with
            | delivered hchunks hds hbefore hdraining =>
                exact ⟨[], [.receive], rfl, .inl .nil, .next hchunks hds hbefore hdraining⟩
      | cons task above =>
          cases htasks
          have hreception : .reception ∉ task.kinds := by
            rcases habove.head.2 with hplain | ⟨completion, rfl, -⟩
            · cases task with
              | receive => exact absurd hplain id
              | consume totalLen => exact absurd hplain id
              | _ => simp [ClientTask.kinds]
            · simp [ClientTask.kinds]
          obtain ⟨hreceiver, hquiet⟩ := ClientChange.quiet (runTask_changes hwf hp) hreception
          rw [hquiet, List.append_nil]
          exact hloop.below hreceiver habove.head.1 (runTask_orderly hwf habove.head.2 hp)

/-! ## Runs -/

/-- The chunks that arrive in a run. -/
def chunksOf (inputs : List (ClientEnv × ClientInput)) : List Bytes :=
  inputs.flatMap fun input => input.2.chunk

theorem run_loopBelow {start : Receiver} {chunks : List Bytes} {ds : List Delivery}
    {s s' : ClientState} {inputs : List (ClientEnv × ClientInput)} (hwf : s.client.WellFormed)
    (hbelow : LoopBelow E P start chunks ds s.client s.tasks)
    (h : Execution.run (clientEnvStep E P) s inputs = .ok s') :
    ∃ events, s'.events = s.events ++ events ∧
      LoopBelow E P start (chunks ++ chunksOf inputs) (ds ++ deliveredIn events) s'.client
        s'.tasks := by
  induction inputs generalizing s chunks ds with
  | nil =>
      cases h
      refine ⟨[], (List.append_nil _).symm, ?_⟩
      rw [deliveredIn_nil, List.append_nil]
      exact (List.append_nil chunks).symm ▸ hbelow
  | cons input inputs ih =>
      obtain ⟨t, hstep, hrest⟩ := Execution.run_cons_ok h
      obtain ⟨events, hevents, ht⟩ := clientStep_loopBelow hwf hbelow hstep
      obtain ⟨events', hevents', hs'⟩ := ih (clientEnvStep_wellFormed hwf hstep) ht hrest
      refine ⟨events ++ events', ?_, ?_⟩
      · rw [hevents', hevents, List.append_assoc]
      · rw [List.append_assoc, List.append_assoc, ← deliveredIn_append] at hs'
        exact hs'

/-- The messages delivered from one state of a run to a later one. -/
def deliveredSince (connected s : ClientState) : List Delivery :=
  deliveredIn (s.events.drop connected.events.length)

variable (E P) in
/-- The messages are those a clean receiver takes from the chunks: all of them when nothing
is left to do, and a first part of them at any time. -/
structure StartsClean (connected s : ClientState) (chunks : List Bytes) : Prop where
  all : s.tasks = [] → ∃ r, ReceivesAll E P {} chunks (deliveredSince connected s) r
  part : ∀ all r, ReceivesAll E P {} chunks all r → deliveredSince connected s <+: all

/-- A connection is made when nothing is left of what was received before. -/
def ConnectsClean (s : ClientState) (input : ClientEnv × ClientInput) : Prop :=
  input.2 = .connected → s.client.receiver.Clean

instance (s : ClientState) (input : ClientEnv × ClientInput) : Decidable (ConnectsClean s input) :=
  inferInstanceAs (Decidable (_ → _))

/-- A connection starts with the loop between two chunks. -/
theorem clientStep_connected {env : ClientEnv} {s connected : ClientState}
    (hwf : s.client.WellFormed) (h : clientStep E P env s .connected = .ok connected) :
    LoopBelow E P s.client.receiver [] [] connected.client connected.tasks := by
  cases clientStep_cases h with
  | @loop p htasks hp =>
      have hordered := loopProgress_orderly hwf (fun chunk hinput => (by cases hinput)) hp
      obtain ⟨hreceiver, -⟩ :=
        ClientChange.quiet (loopProgress_changes hwf hp) (by simp [ClientInput.kinds])
      refine ⟨p.tasks, [], rfl, hordered, ?_⟩
      change LoopState E P _ _ _ p.client.receiver _
      rw [hreceiver]
      exact .between .nothing
  | returns htasks hinput => cases hinput
  | inCallback htasks hp => cases hp
  | task htasks hne hinput hp => cases hinput

/-- In every run whose connections are made with a clean receiver, what the client delivers
after a connection depends on the bytes received since then only. -/
theorem reconnection_startsClean (softwareName : Option Bytes) (cbs : RtspClientCbs)
    (before after : List (ClientEnv × ClientInput)) (env : ClientEnv)
    (connected s : ClientState)
    (hconnected : Execution.run (clientEnvStep E P) (clientStart softwareName cbs)
      (before ++ [(env, .connected)]) = .ok connected)
    (hrun : Execution.run (clientEnvStep E P) connected after = .ok s)
    (hclean : Execution.Guarded (clientEnvStep E P) ConnectsClean (clientStart softwareName cbs)
      (before ++ (env, .connected) :: after)) :
    StartsClean E P connected s (chunksOf after) := by
  obtain ⟨t, ht⟩ : ∃ t, Execution.run (clientEnvStep E P) (clientStart softwareName cbs) before =
      .ok t := Execution.run_append_ok hconnected
  rw [Execution.run_append ht] at hconnected
  obtain ⟨connected', hstep, hnil⟩ := Execution.run_cons_ok hconnected
  cases hnil
  have hwf := run_wellFormed ht
  obtain ⟨-, hreceiver, -⟩ := Execution.guarded_append hclean ht
  have hsame := (hreceiver rfl).same
  obtain ⟨events, hevents, hbelow⟩ :=
    run_loopBelow (clientEnvStep_wellFormed hwf hstep) (clientStep_connected hwf hstep) hrun
  have hsince : deliveredSince connected s = deliveredIn events := by
    unfold deliveredSince
    rw [hevents, List.drop_left]
  rw [List.nil_append, List.nil_append] at hbelow
  constructor
  · intro htasks
    obtain ⟨above, below, hnone, -, hloop⟩ := hbelow
    rw [htasks] at hnone
    obtain ⟨rfl, rfl⟩ := List.append_eq_nil_iff.mp hnone.symm
    cases hloop with
    | between hreceives =>
        obtain ⟨r, hall, -⟩ := hreceives.same hsame
        exact ⟨r, hsince ▸ hall⟩
  · intro all r hall
    obtain ⟨r', hall', -⟩ := hall.same hsame.symm
    rw [hsince]
    exact hbelow.delivers hall'

end Segment

/-- An interleaved frame with one byte of data. -/
def oneByteFrame : Bytes := [0x24, 0, 0, 1, 0xff]

theorem oneByteFrame_delivers :
    ReceivesAll .words .bare {} [oneByteFrame] [.interleaved 0 [0xff]] {} := by
  have hframe : rtspGetNextMessage .words .bare oneByteFrame {} =
      .ok
        { result := .ok (.interleaved 0 [0xff]), totalLen := 5, ctx := {}, data := oneByteFrame } :=
    rfl
  have hempty : rtspGetNextMessage .words .bare [] {} =
      .ok { result := .error .eagain, ctx := {}, data := [] } := rfl
  have hrest := @Drains.ends .words .bare {} _ _ hempty rfl
  exact .chunk .nothing
    (@Drains.delivers .words .bare { buf := oneByteFrame } _ _ _ _ hframe rfl hrest)

/-- The first connection ends after one complete frame. -/
def frameInputs : List (ClientEnv × ClientInput) :=
  connectInputs ++
    undisturbed
      [.data oneByteFrame, .resume, .callbackReturns, .resume, .resume, .disconnected, .resume,
        .callbackReturns]

/-- A frame arrives on the new connection. -/
def secondFrameInputs : List (ClientEnv × ClientInput) :=
  undisturbed
    [.callbackReturns, .resume, .data oneByteFrame, .resume, .callbackReturns, .resume, .resume]

theorem secondFrame_delivered :
    ∃ connected s, Execution.run (clientEnvStep .words .bare) (clientStart none {})
        (frameInputs ++ undisturbed [.connected]) = .ok connected ∧
      Execution.run (clientEnvStep .words .bare) connected secondFrameInputs = .ok s ∧
        StartsClean .words .bare connected s (chunksOf secondFrameInputs) := by
  have hrun : Execution.Reaches (clientEnvStep .words .bare)
      (fun connected => Execution.Reaches (clientEnvStep .words .bare) (fun s => s.tasks = [])
        connected secondFrameInputs)
      (clientStart none {}) (frameInputs ++ undisturbed [.connected]) := by decide +kernel
  obtain ⟨connected, hconnected, s, hs, -⟩ := hrun
  exact ⟨connected, s, hconnected, hs, reconnection_startsClean none {} frameInputs
    secondFrameInputs {} connected s hconnected hs (by decide +kernel)⟩

/-- The first connection ends after the first byte of a message. -/
def cutInputs : List (ClientEnv × ClientInput) :=
  connectInputs ++
    undisturbed [.data (ascii "R"), .resume, .disconnected, .resume, .callbackReturns]

/-- The byte of the old connection hides the frame on the new one. -/
theorem oldByte_hides_frame :
    ∃ connected s, Execution.run (clientEnvStep .words .bare) (clientStart none {})
        (cutInputs ++ undisturbed [.connected]) = .ok connected ∧
      Execution.run (clientEnvStep .words .bare) connected
          (undisturbed [.callbackReturns, .resume, .data oneByteFrame, .resume]) = .ok s ∧
        ¬ StartsClean .words .bare connected s [oneByteFrame] := by
  have hrun : Execution.Reaches (clientEnvStep .words .bare)
      (fun connected => Execution.Reaches (clientEnvStep .words .bare)
        (fun s => s.tasks = [] ∧ deliveredSince connected s = []) connected
        (undisturbed [.callbackReturns, .resume, .data oneByteFrame, .resume]))
      (clientStart none {}) (cutInputs ++ undisturbed [.connected]) := by decide +kernel
  obtain ⟨connected, hconnected, s, hs, htasks, hnone⟩ := hrun
  refine ⟨connected, s, hconnected, hs, fun hclean => ?_⟩
  obtain ⟨r, hall⟩ := hclean.all htasks
  rw [hnone] at hall
  cases (hall.unique oneByteFrame_delivers).1

end Librtsp
