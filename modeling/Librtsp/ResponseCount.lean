import Librtsp.ResponseOrigin

/-!
# How many responses a request gets

If nobody replies for a request that has been replied to or has expired, no request gets a
second response.  If moreover connections stay open and responses can be written and sent, a
request that has been received gets none while it waits, and exactly one when it leaves.
-/

namespace Librtsp

open CString RecordList

/-! ## One response at most -/

/-- Nobody replies for a request that has been replied to or has expired. -/
def RepliesOnce (σ : ServerState) (input : ServerInput) : Prop :=
  ∀ a ∈ σ.repliesFor input,
    (∀ request ∈ σ.server.pendingRequests, request.addr = a → request.replied = false) ∧
      σ.activity.swept ≠ some a

instance (σ : ServerState) (input : ServerInput) : Decidable (RepliesOnce σ input) :=
  inferInstanceAs (Decidable (∀ a ∈ σ.repliesFor input, _))

/-- No request has two responses; none has any that has not been received yet, or that is
pending and neither replied to nor expired. -/
structure AtMostOnce (σ : ServerState) : Prop where
  consistent : σ.Consistent
  once : ∀ a, Trace.count responseAddr a σ.events ≤ 1
  fresh : ∀ a, σ.server.table.next ≤ a → Trace.count responseAddr a σ.events = 0
  waiting : ∀ r ∈ σ.server.table.requests, r.replied = false →
    σ.activity.swept ≠ some r.addr → Trace.count responseAddr r.addr σ.events = 0

section Once

variable {P : Platform} {env : Env} {σ σ' : ServerState} {input : ServerInput} {t : Table}
  {activity : Activity} {events : List ServerEvent}

theorem AnswerTo.count {request : RequestEntry} (h : AnswerTo request events) (a : Addr) :
    Trace.count responseAddr a events ≤ if a = request.addr then 1 else 0 := by
  rcases h with rfl | ⟨event, rfl, conn, status, message, rfl, -⟩
  · exact Nat.zero_le _
  · rw [Trace.count_cons, Trace.count_nil, Nat.zero_add]
    refine Nat.le_of_eq (if_congr ?_ rfl rfl)
    exact ⟨fun h => (Option.some.inj h).symm, fun h => congrArg some h.symm⟩

/-- A request that stays pending while its timeout callback runs stays the expired one. -/
theorem Change.keepsSwept (h : Change P env σ input t activity events) {a : Addr}
    (hswept : σ.activity.swept = some a) (hkept : ∃ r ∈ t.requests, r.addr = a) :
    activity.swept = some a := by
  have hidle : ∀ {request : RtspServerPendingRequest}, arriving env σ input = some request →
      activity.swept = some a := fun harriving => by
    cases hswept.symm.trans (arriving_idle harriving).2
  have hcallback : ∀ {l : Leaving}, σ.activity.anchor = some l → activity.swept = some a :=
    fun hanchor => by cases hanchor.symm.trans (anchor_of_swept hswept)
  have hremoved : ∀ {b : Addr}, σ.activity.swept = some b →
      (∃ r ∈ (σ.server.table.removeRequest b).requests, r.addr = a) →
        activity.swept = some a := by
    rintro b hb ⟨r, hr, haddr⟩
    cases hb.symm.trans hswept
    exact absurd haddr (Table.mem_removeRequest.mp hr).2
  cases h with
  | moves _ hsame => exact hsame.trans hswept
  | admits harriving => exact hidle harriving
  | refuses harriving => exact hidle harriving
  | mismatches harriving => exact hidle harriving
  | answers harriving => exact hidle harriving
  | asks harriving => exact hidle harriving
  | starts harriving => exact hidle harriving
  | joins harriving => exact hidle harriving
  | opens harriving => exact hidle harriving
  | answered _ _ _ _ hsame => exact hsame.trans hswept
  | leaves _ _ _ _ _ _ hsame => exact hsame.trans hswept
  | finishes _ _ _ _ hbefore => exact hcallback hbefore
  | finishesSelf _ _ _ _ _ hbefore => exact hcallback hbefore
  | returns _ _ _ hbefore => exact hcallback hbefore
  | drops _ _ hsame => exact hsame.trans hswept
  | dropsMedia _ _ _ hsame => exact hsame.trans hswept
  | expires hidle' => cases hswept.symm.trans hidle'.2
  | sweeps hbefore => exact hremoved hbefore hkept
  | sweepsOn hbefore => exact hremoved hbefore hkept
  | disconnects => exact hswept

/-- A pending request that waits after a step was waiting before it. -/
theorem AtMostOnce.stillWaiting (h : AtMostOnce σ)
    (hchange : Change P env σ input t activity events) {r r' : RequestEntry}
    (hr : r ∈ σ.server.table.requests) (horigin : SameOrigin r r') (hr' : r' ∈ t.requests)
    (hwaiting : r'.replied = false) (hswept : activity.swept ≠ some r'.addr) :
    Trace.count responseAddr r'.addr σ.events = 0 := by
  rw [horigin.addr] at hswept ⊢
  apply h.waiting r hr
  · by_contra hreplied
    rw [horigin.replied (by simpa using hreplied)] at hwaiting
    cases hwaiting
  · intro hbefore
    exact hswept (hchange.keepsSwept hbefore ⟨r', hr', horigin.addr⟩)

theorem serverStep_answersOnce (h : AtMostOnce σ) (hguard : RepliesOnce σ input)
    (hstep : serverStep P env σ input = .ok σ') : AtMostOnce σ' := by
  obtain ⟨events, hevents, hchange⟩ := serverStep_changes h.consistent hstep
  have hconsistent := hchange.consistent h.consistent
  have hnext := hchange.next_le
  have hcount : ∀ a, Trace.count responseAddr a σ'.events =
      Trace.count responseAddr a σ.events + Trace.count responseAddr a events := fun a => by
    rw [hevents, Trace.count_append]
  cases hchange.sends h.consistent with
  | broadcast hkept hbroadcast =>
      have hsame : ∀ a, Trace.count responseAddr a σ'.events =
          Trace.count responseAddr a σ.events := by
        intro a
        have hnone : Trace.count responseAddr a events = 0 := by
          refine Trace.count_eq_zero.mpr fun event hevent => ?_
          obtain ⟨message, rfl⟩ := hbroadcast event hevent
          exact (Option.some_ne_none a).symm
        rw [hcount, hnone, Nat.add_zero]
      refine ⟨hconsistent, fun a => hsame a ▸ h.once a, ?_, ?_⟩
      · exact fun a ha => hsame a ▸ h.fresh a (hnext.trans ha)
      · intro r' hr' hwaiting hswept
        obtain ⟨r, hr, horigin⟩ := hkept r' hr'
        rw [hsame]
        exact h.stillWaiting hchange hr horigin hr' hwaiting hswept
  | @answers request _ hkept hpending hcause hsettled hanswer =>
      have hopen : Trace.count responseAddr request.addr σ.events = 0 := by
        rcases hcause with hreplies | ⟨hwaiting, hswept⟩
        · obtain ⟨hwaiting, hswept⟩ := hguard request.addr hreplies
          obtain ⟨r, hr, rfl⟩ := List.mem_map.mp hpending
          exact h.waiting _ hpending (hwaiting r hr rfl) hswept
        · exact h.waiting request hpending hwaiting hswept
      have hother : ∀ a, a ≠ request.addr → Trace.count responseAddr a σ'.events =
          Trace.count responseAddr a σ.events := by
        intro a ha
        have hzero := hanswer.count a
        rw [if_neg ha] at hzero
        rw [hcount, Nat.le_zero.mp hzero, Nat.add_zero]
      refine ⟨hconsistent, ?_, ?_, ?_⟩
      · intro a
        by_cases ha : a = request.addr
        · have hone := hanswer.count a
          rw [if_pos ha] at hone
          rw [hcount, ha, hopen, Nat.zero_add]
          exact ha ▸ hone
        · exact hother a ha ▸ h.once a
      · intro a ha
        have hbelow := h.consistent.wellFormed.requestBelow request hpending
        rw [hother a (Nat.ne_of_gt (Nat.lt_of_lt_of_le hbelow (hnext.trans ha)))]
        exact h.fresh a (hnext.trans ha)
      · intro r' hr' hwaiting hswept
        obtain ⟨r, hr, horigin⟩ := hkept r' hr'
        by_cases haddr : r'.addr = request.addr
        · rcases hsettled r' hr' haddr with hreplied | hexpired
          · cases hwaiting.symm.trans hreplied
          · exact absurd (hexpired.trans (congrArg some haddr.symm)) hswept
        · rw [hother _ haddr]
          exact h.stillWaiting hchange hr horigin hr' hwaiting hswept
  | @receives request event answer harriving hreceived hfresh hkept hsettled hanswer =>
      obtain ⟨conn, rfl, -⟩ := hreceived
      have haddr : request.entry.addr = σ.server.table.next := (arriving_entry harriving).1
      have hanswered : ∀ a, Trace.count responseAddr a σ'.events =
          Trace.count responseAddr a σ.events + Trace.count responseAddr a answer := by
        intro a
        rw [hcount, Trace.count_cons]
        rfl
      have hother : ∀ a, a ≠ request.entry.addr → Trace.count responseAddr a σ'.events =
          Trace.count responseAddr a σ.events := by
        intro a ha
        have hzero := hanswer.count a
        rw [if_neg ha] at hzero
        rw [hanswered, Nat.le_zero.mp hzero, Nat.add_zero]
      refine ⟨hconsistent, ?_, ?_, ?_⟩
      · intro a
        by_cases ha : a = request.entry.addr
        · have hone := hanswer.count a
          rw [if_pos ha] at hone
          rw [hanswered, h.fresh a (ha.trans haddr).ge, Nat.zero_add]
          exact hone
        · exact hother a ha ▸ h.once a
      · intro a ha
        have hlater := Nat.lt_of_lt_of_le hfresh ha
        rw [hother a (haddr ▸ Nat.ne_of_gt hlater)]
        exact h.fresh a hlater.le
      · intro r' hr' hwaiting hswept
        rcases hkept r' hr' with ⟨r, hr, horigin⟩ | horigin
        · have hbelow := h.consistent.wellFormed.requestBelow r hr
          rw [hother _ (haddr ▸ horigin.addr ▸ Nat.ne_of_lt hbelow)]
          exact h.stillWaiting hchange hr horigin hr' hwaiting hswept
        · have hsame : r'.addr = σ.server.table.next := horigin.addr.trans haddr
          rcases hsettled with rfl | hold
          · rw [hanswered, h.fresh _ hsame.ge, Trace.count_nil]
          · obtain ⟨r, hr, horigin'⟩ := hold r' hr'
            have hbelow := h.consistent.wellFormed.requestBelow r hr
            exact absurd (horigin'.addr.symm.trans hsame) (Nat.ne_of_lt hbelow)

theorem serverStart_answersOnce (softwareName : Option Bytes)
    (replyTimeoutMs sessionTimeoutMs : Int32) (cbs : RtspServerCbs) :
    AtMostOnce (serverStart softwareName replyTimeoutMs sessionTimeoutMs cbs) := by
  refine ⟨serverStart_consistent .., fun _ => Nat.zero_le 1, fun _ _ => rfl, ?_⟩
  exact fun r hr => absurd hr List.not_mem_nil

/-- In every run in which nobody replies for a request that has been replied to or has
expired, no request gets a second response. -/
theorem request_answeredOnce (softwareName : Option Bytes)
    (replyTimeoutMs sessionTimeoutMs : Int32) (cbs : RtspServerCbs)
    {inputs : List (Env × ServerInput)}
    (hguard : Execution.Guarded (envStep P) (fun σ input => RepliesOnce σ input.2)
      (serverStart softwareName replyTimeoutMs sessionTimeoutMs cbs) inputs)
    (hrun : Execution.run (envStep P)
      (serverStart softwareName replyTimeoutMs sessionTimeoutMs cbs) inputs = .ok σ) (a : Addr) :
    Trace.count responseAddr a σ.events ≤ 1 := by
  have hanswered : AtMostOnce σ := by
    apply Execution.invariant AtMostOnce _ _ hguard hrun
    · intro σ input σ' h hreplies hstep
      exact serverStep_answersOnce h hreplies hstep
    · exact serverStart_answersOnce ..
  exact hanswered.once a

end Once

theorem request_answeredOnce_expiringPlay :
    Execution.Reaches (envStep .bare)
      (fun σ => σ.events.filterMap responseAddr = [0, 3] ∧
        ∀ a, Trace.count responseAddr a σ.events ≤ 1)
      (serverStart none 1 0 {}) expiringPlay := by
  have hguard : Execution.Guarded (envStep .bare) (fun σ input => RepliesOnce σ input.2)
      (serverStart none 1 0 {}) expiringPlay := by
    decide +kernel
  obtain ⟨σ, hrun, hresponses⟩ := expiringPlay_responses
  exact ⟨σ, hrun, hresponses, request_answeredOnce none 1 0 {} hguard hrun⟩

/-! ## One response exactly -/

/-- What a step attempts to answer. -/
def attemptsAt (P : Platform) (env : Env) (σ : ServerState) : ServerInput → List Attempt
  | .call (.replyToDescribe a status ext sessionDescription) =>
      (σ.server.findRequest a).toList.map fun request =>
        describeAttempt P env σ.server request status ext sessionDescription
  | .call (.replyToAnnounce a status ext) =>
      (σ.server.findRequest a).toList.map fun request =>
        announceAttempt P env σ.server request status ext
  | .call (.replyToSetup a media reply) =>
      match σ.server.mediaSession media, σ.server.findRequest a with
      | some session, some request => [(setupAttempt P env σ.server session request reply).1]
      | _, _ => []
  | .call call =>
      match call.mediaReply with
      | none => []
      | some (K, a, media, reply) => mediaAttempts K a media reply
  | .resume => selfAttempts ++ failedAttempts ++ sweptAttempts
  | .timer => expiredAttempts env.now σ.server.pendingRequests
  | _ => []
where
  mediaAttempts (K : MediaReplyKind) (a media : Addr) (reply : MediaReply) : List Attempt :=
    match σ.server.mediaSession media, σ.server.findRequest a with
    | some session, some request =>
        (replyAttempt P env σ.server K session request media reply).toList.map Prod.snd
    | _, _ => []
  /-- The library's own reply in place of a missing callback. -/
  selfAttempts : List Attempt :=
    match σ.activity with
    | .calling _ _ (.announce a) =>
        (σ.server.findRequest a).toList.map fun request =>
          announceAttempt P env σ.server request Errno.enosys.ret []
    | .calling _ _ (.media .record a _ current _) =>
        (σ.server.findRequest a).toList.flatMap fun request =>
          mediaAttempts recordKind a current
            { status := Errno.enosys.ret, range := some request.requestHeader.range }
    | _ => []
  failedAttempts : List Attempt :=
    match arriving env σ .resume with
    | none => []
    | some request =>
        match handleRequest P env (σ.server.enqueue request) request with
        | .ok (.failed e status request' _) =>
            [{ errorStatus := if statusIsFailure status then status else e.ret
               request := request' }]
        | _ => []
  /-- The requests whose time has run out. -/
  expiredAttempts (now : UInt64) (requests : List RtspServerPendingRequest) : List Attempt :=
    (requests.filter fun request => 0 < request.timeout ∧ request.timeout < now).map
      fun request => { errorStatus := internalServerError, request }
  sweptAttempts : List Attempt :=
    match σ.activity with
    | .sweeping now a _ =>
        expiredAttempts now (σ.server.pendingRequests.filter (·.addr ≠ a))
    | _ => []

instance (P : Platform) (env : Env) (server : RtspServer) (request : RtspServerPendingRequest)
    (status : Int) : Decidable (ErrorWritable P env server request status) :=
  match h : writeResponse P server (fillAnswer env server status request).responseHeader none with
  | .ok message => isTrue ⟨message, h⟩
  | .error _ => isFalse fun ⟨_, h'⟩ => by rw [h] at h'; cases h'

def ServerInput.isDisconnection : ServerInput → Bool
  | .disconnected _ => true
  | _ => false

/-- The connections stay open, sends succeed, the error responses that are needed can be
written, and nobody replies twice. -/
structure AnswersEach (P : Platform) (env : Env) (σ : ServerState) (input : ServerInput) :
    Prop where
  once : RepliesOnce σ input
  stays : input.isDisconnection = false
  send : env.send = .ok ()
  sendError : env.sendError = .ok ()
  writable : ∀ attempt ∈ attemptsAt P env σ input, attempt.errorStatus ≠ 0 →
    ErrorWritable P env σ.server attempt.request attempt.errorStatus

instance (P : Platform) (env : Env) (σ : ServerState) (input : ServerInput) :
    Decidable (AnswersEach P env σ input) :=
  decidable_of_iff
    (RepliesOnce σ input ∧ input.isDisconnection = false ∧ env.send = .ok () ∧
      env.sendError = .ok () ∧ ∀ attempt ∈ attemptsAt P env σ input, attempt.errorStatus ≠ 0 →
        ErrorWritable P env σ.server attempt.request attempt.errorStatus)
    ⟨fun h => ⟨h.1, h.2.1, h.2.2.1, h.2.2.2.1, h.2.2.2.2⟩, fun h => ⟨h.1, h.2, h.3, h.4, h.5⟩⟩

/-- The event is a response to the request. -/
def Responds (a : Addr) (events : List ServerEvent) : Prop :=
  ∃ event ∈ events, responseAddr event = some a

section Each

variable {P : Platform} {env : Env} {σ σ' : ServerState} {input : ServerInput} {t : Table}
  {activity : Activity} {events : List ServerEvent} {request : RtspServerPendingRequest}
  {attempt : Attempt}

theorem Attempts.mem_attemptsAt (h : Attempts P env σ input request attempt) :
    attempt ∈ attemptsAt P env σ input := by
  have hmedia : ∀ {K : MediaReplyKind} {a media : Addr} {reply : MediaReply}
      {session session' : RtspServerSession},
      σ.server.mediaSession media = some session → σ.server.findRequest a = some request →
        replyAttempt P env σ.server K session request media reply = some (session', attempt) →
          attempt ∈ attemptsAt.mediaAttempts P env σ K a media reply := by
    intro K a media reply session session' hsession hfind hattempt
    simp only [attemptsAt.mediaAttempts, hsession, hfind, hattempt]
    exact List.mem_singleton_self _
  cases h with
  | describe hfind =>
      simp only [attemptsAt, hfind]
      exact List.mem_singleton_self _
  | announce hfind =>
      simp only [attemptsAt, hfind]
      exact List.mem_singleton_self _
  | setup hsession hfind =>
      simp only [attemptsAt, hsession, hfind]
      exact List.mem_singleton_self _
  | @media call _ _ _ _ _ _ _ _ hcall hsession hfind hattempt =>
      cases call <;> cases hcall <;> exact hmedia hsession hfind hattempt
  | noAnnounce hactivity hcbs hfind =>
      refine List.mem_append_left _ (List.mem_append_left _ ?_)
      simp only [attemptsAt.selfAttempts, hactivity, hfind]
      exact List.mem_singleton_self _
  | noRecord hactivity hcbs hsession hfind hattempt =>
      refine List.mem_append_left _ (List.mem_append_left _ ?_)
      simp only [attemptsAt.selfAttempts, hactivity]
      refine List.mem_flatMap.mpr ⟨request, by rw [hfind]; exact List.mem_singleton_self _, ?_⟩
      exact hmedia hsession hfind hattempt
  | failed harriving hhandle =>
      refine List.mem_append_left _ (List.mem_append_right _ ?_)
      simp only [attemptsAt.failedAttempts, harriving, hhandle]
      exact List.mem_singleton_self _
  | @expired _ _ now hnow hanchor hpending htimeout =>
      have hexpired : ∀ requests : List RtspServerPendingRequest, request ∈ requests →
          ({ errorStatus := internalServerError, request } : Attempt) ∈
            attemptsAt.expiredAttempts now requests := by
        intro requests hmem
        exact List.mem_map.mpr ⟨request, List.mem_filter.mpr ⟨hmem, by simpa using htimeout⟩, rfl⟩
      rcases hnow with ⟨rfl, rfl⟩ | ⟨a, next, rfl, hactivity, hother⟩
      · exact hexpired _ hpending
      · refine List.mem_append_right _ ?_
        simp only [attemptsAt.sweptAttempts, hactivity]
        exact hexpired _ (List.mem_filter.mpr ⟨hpending, by simpa using hother⟩)

/-- A request whose connection is open is answered when the step attempts it. -/
theorem AnswersEach.responds (hguard : AnswersEach P env σ input)
    (hconn : request.conn.isSome) (h : Attempts P env σ input request attempt) :
    Responds request.addr (outcome P env σ.server attempt) := by
  obtain ⟨event, hevent, conn, status, message, rfl, -⟩ := h.sound.outcome_sends hconn
    hguard.send hguard.sendError (hguard.writable attempt h.mem_attemptsAt)
  exact ⟨_, hevent ▸ List.mem_singleton_self _, rfl⟩

/-- What becomes of the pending requests and of the one received: who leaves the list or is
marked as replied to or expired has had a response, now or before. -/
structure StepSettles (σ : ServerState) (t : Table) (activity : Activity)
    (events : List ServerEvent) : Prop where
  left : ∀ r ∈ σ.server.table.requests, (∀ r' ∈ t.requests, r'.addr ≠ r.addr) →
    r.replied = true ∨ σ.activity.swept = some r.addr ∨ Responds r.addr events
  marked : ∀ r' ∈ t.requests, r'.replied = true ∨ activity.swept = some r'.addr →
    (∃ r ∈ σ.server.table.requests, r.addr = r'.addr ∧
      (r.replied = true ∨ σ.activity.swept = some r.addr)) ∨ Responds r'.addr events
  received : ∀ event ∈ events, ∀ a ∈ receivedAddr event,
    (∃ r' ∈ t.requests, r'.addr = a) ∨ Responds a events
  connected : ∀ r' ∈ t.requests, r'.conn.isSome

/-- The requests stay as they are, and none is received. -/
theorem StepSettles.same (hopen : ∀ r ∈ σ.server.table.requests, r.conn.isSome)
    (hrequests : t.requests = σ.server.table.requests) (hswept : activity.swept = σ.activity.swept)
    (hevents : ∀ event ∈ events, receivedAddr event = none) : StepSettles σ t activity events where
  left := by
    intro r hr hleft
    exact absurd rfl (hleft r (hrequests ▸ hr))
  marked := by
    intro r hr hmarked
    exact .inl ⟨r, hrequests ▸ hr, rfl, hswept ▸ hmarked⟩
  received := by
    intro event hevent a ha
    rw [hevents event hevent] at ha
    cases ha
  connected r hr := hopen r (hrequests ▸ hr)

/-- A request arrives and is kept. -/
theorem StepSettles.kept {r : RequestEntry} {event : ServerEvent}
    (hopen : ∀ r ∈ σ.server.table.requests, r.conn.isSome) (hreceived : IsReceived request event)
    (hactivity : activity.swept = none)
    (hrequests : t.requests = σ.server.table.requests ++ [r])
    (horigin : SameOrigin request.entry r) (hreplied : r.replied = false)
    (hconn : r.conn = request.conn) : StepSettles σ t activity [event] where
  left := by
    intro r' hr' hleft
    exact absurd rfl (hleft r' (hrequests ▸ List.mem_append_left _ hr'))
  marked := by
    intro r' hr' hmarked
    rw [hactivity] at hmarked
    rcases hmarked with hmarked | hmarked
    · rw [hrequests] at hr'
      rcases List.mem_append.mp hr' with hr' | hr'
      · exact .inl ⟨r', hr', rfl, .inl hmarked⟩
      · rw [List.mem_singleton.mp hr', hreplied] at hmarked
        cases hmarked
    · cases hmarked
  received := by
    intro event' hevent a ha
    obtain ⟨conn, rfl, -⟩ := hreceived
    cases List.mem_singleton.mp hevent
    refine .inl ⟨r, hrequests ▸ List.mem_append_right _ (List.mem_singleton_self r), ?_⟩
    exact horigin.addr.trans (Option.some.inj ha)
  connected := by
    intro r' hr'
    rw [hrequests] at hr'
    rcases List.mem_append.mp hr' with hr' | hr'
    · exact hopen r' hr'
    · obtain ⟨conn, -, hsome⟩ := hreceived
      rw [List.mem_singleton.mp hr', hconn, hsome]
      rfl

/-- A request arrives and is answered at once. -/
theorem StepSettles.refused {event : ServerEvent}
    (hopen : ∀ r ∈ σ.server.table.requests, r.conn.isSome) (hreceived : IsReceived request event)
    (hactivity : activity.swept = none) (hrequests : t.requests = σ.server.table.requests)
    (hquiet : ∀ event ∈ events, receivedAddr event = none)
    (hresponds : Responds request.addr events) : StepSettles σ t activity (event :: events) where
  left := by
    intro r hr hleft
    exact absurd rfl (hleft r (hrequests ▸ hr))
  marked := by
    intro r hr hmarked
    rw [hactivity] at hmarked
    rcases hmarked with hmarked | hmarked
    · exact .inl ⟨r, hrequests ▸ hr, rfl, .inl hmarked⟩
    · cases hmarked
  received := by
    intro event' hevent a ha
    obtain ⟨conn, rfl, -⟩ := hreceived
    rcases List.mem_cons.mp hevent with rfl | hevent
    · obtain ⟨response, hmem, haddr⟩ := hresponds
      cases ha
      exact .inr ⟨response, List.mem_cons_of_mem _ hmem, haddr⟩
    · rw [hquiet event' hevent] at ha
      cases ha
  connected r hr := hopen r (hrequests ▸ hr)

/-- A request leaves that has had a response. -/
theorem StepSettles.removed {a : Addr} (hopen : ∀ r ∈ σ.server.table.requests, r.conn.isSome)
    (hrequests : t.requests = (σ.server.table.removeRequest a).requests)
    (hquiet : ∀ event ∈ events, receivedAddr event = none)
    (hanswered : ∀ r ∈ σ.server.table.requests, r.addr = a →
      r.replied = true ∨ σ.activity.swept = some r.addr ∨ Responds r.addr events)
    (hswept : ∀ r ∈ t.requests, activity.swept = some r.addr →
      σ.activity.swept = some r.addr ∨ Responds r.addr events) :
    StepSettles σ t activity events where
  left := by
    intro r hr hleft
    by_cases haddr : r.addr = a
    · exact hanswered r hr haddr
    · exact absurd rfl (hleft r (hrequests ▸ Table.mem_removeRequest.mpr ⟨hr, haddr⟩))
  marked := by
    intro r hr hmarked
    have hold : r ∈ σ.server.table.requests := (Table.mem_removeRequest.mp (hrequests ▸ hr)).1
    rcases hmarked with hmarked | hmarked
    · exact .inl ⟨r, hold, rfl, .inl hmarked⟩
    · exact (hswept r hr hmarked).imp_left fun hbefore => ⟨r, hold, rfl, .inr hbefore⟩
  received := by
    intro event hevent a ha
    rw [hquiet event hevent] at ha
    cases ha
  connected r hr := hopen r (Table.mem_removeRequest.mp (hrequests ▸ hr)).1

/-- A request in its callback is marked as replied to, or stays as it is. -/
theorem StepSettles.set {r r' : RequestEntry}
    (hopen : ∀ r ∈ σ.server.table.requests, r.conn.isSome) (hr : r ∈ σ.server.table.requests)
    (haddr : r'.addr = r.addr) (hconn : r'.conn = r.conn)
    (hquiet : ∀ event ∈ events, receivedAddr event = none)
    (hreplied : r'.replied = true → r.replied = true ∨ Responds r.addr events)
    (hswept : ∀ a, activity.swept = some a → σ.activity.swept = some a) :
    StepSettles σ (σ.server.table.setRequest r') activity events where
  left := by
    intro r₁ hr₁ hleft
    by_cases hsame : r₁.addr = r'.addr
    · exact absurd hsame.symm (hleft r' (Table.mem_setRequest.mpr (.inr ⟨rfl, r, hr, haddr.symm⟩)))
    · exact absurd rfl (hleft r₁ (Table.mem_setRequest.mpr (.inl ⟨hr₁, hsame⟩)))
  marked := by
    intro r₁ hr₁ hmarked
    rcases Table.mem_setRequest.mp hr₁ with ⟨hr₁, -⟩ | ⟨rfl, -⟩
    · exact .inl ⟨r₁, hr₁, rfl, hmarked.imp_right (hswept _)⟩
    · rw [haddr] at hmarked ⊢
      rcases hmarked with hmarked | hmarked
      · exact (hreplied hmarked).imp_left fun hbefore => ⟨r, hr, rfl, .inl hbefore⟩
      · exact .inl ⟨r, hr, rfl, .inr (hswept _ hmarked)⟩
  received := by
    intro event hevent a ha
    rw [hquiet event hevent] at ha
    cases ha
  connected := by
    intro r₁ hr₁
    rcases Table.mem_setRequest.mp hr₁ with ⟨hr₁, -⟩ | ⟨rfl, -⟩
    · exact hopen r₁ hr₁
    · rw [hconn]
      exact hopen r hr

theorem AnswerTo.unreceived {request : RequestEntry} (h : AnswerTo request events) :
    ∀ event ∈ events, receivedAddr event = none := by
  rcases h with rfl | ⟨event, rfl, conn, status, message, rfl, -⟩
  · exact fun _ hevent => absurd hevent List.not_mem_nil
  · intro event hevent
    rw [List.mem_singleton.mp hevent]
    rfl

theorem broadcast_unreceived (h : ∀ event ∈ events, IsBroadcast event) :
    ∀ event ∈ events, receivedAddr event = none := by
  intro event hevent
  obtain ⟨message, rfl⟩ := h event hevent
  rfl

theorem Change.settles (hold : σ.Consistent)
    (hopen : ∀ r ∈ σ.server.table.requests, r.conn.isSome)
    (hguard : AnswersEach P env σ input) (h : Change P env σ input t activity events) :
    StepSettles σ t activity events := by
  have hconn : ∀ {request : RtspServerPendingRequest}, request ∈ σ.server.pendingRequests →
      request.conn.isSome := fun hmem => hopen _ (RtspServer.entry_mem_requests hmem)
  have harrived : ∀ {request : RtspServerPendingRequest} {event : ServerEvent},
      IsReceived request event → request.conn.isSome := by
    rintro request event ⟨conn, -, hsome⟩
    rw [hsome]
    rfl
  have hnone : ∀ event ∈ ([] : List ServerEvent), receivedAddr event = none :=
    fun _ hevent => absurd hevent List.not_mem_nil
  -- the request of an attempt leaves
  have hleaves : ∀ {l : Leaving} {request : RtspServerPendingRequest} {attempt : Attempt},
      request ∈ σ.server.pendingRequests → request.addr = l.request →
        Attempts P env σ input request attempt →
          (∀ a, activity.swept = some a → σ.activity.swept = some a) →
            StepSettles σ (σ.server.table.leave l) activity (outcome P env σ.server attempt) := by
    intro l request attempt hmem haddr hattempt hswept
    refine .removed hopen Table.leave_requests hattempt.answerTo.unreceived ?_
      fun r _ hafter => .inl (hswept _ hafter)
    intro r _ hr
    rw [hr, ← haddr]
    exact .inr (.inr (hguard.responds (hconn hmem) hattempt))
  cases h with
  | moves _ hswept hevents => exact .same hopen rfl hswept (broadcast_unreceived hevents)
  | admits harriving hreceived hactivity =>
      exact .kept hopen hreceived hactivity.2 rfl (.refl _)
        (arriving_entry harriving).2.2.2.2 rfl
  | refuses harriving hreceived hattempt hactivity =>
      exact .refused hopen hreceived hactivity.2 rfl hattempt.answerTo.unreceived
        (hguard.responds (harrived hreceived) hattempt)
  | mismatches harriving hreceived hattempt hactivity =>
      exact .refused hopen hreceived hactivity.2 rfl hattempt.answerTo.unreceived
        (hguard.responds (harrived hreceived) hattempt)
  | answers harriving hreceived hresponse hactivity =>
      refine .refused hopen hreceived hactivity.2 rfl
        (AnswerTo.unreceived (.inr ⟨_, rfl, hresponse⟩)) ?_
      obtain ⟨conn, status, message, rfl, -⟩ := hresponse
      exact ⟨_, List.mem_singleton_self _, rfl⟩
  | asks harriving hreceived _ hswept =>
      exact .kept hopen hreceived hswept rfl ⟨rfl, rfl, .inl rfl, id⟩
        (arriving_entry harriving).2.2.2.2 rfl
  | starts harriving hreceived _ _ _ _ _ _ hswept =>
      exact .kept hopen hreceived hswept rfl ⟨rfl, rfl, .inl rfl, id⟩
        (arriving_entry harriving).2.2.2.2 rfl
  | joins harriving hreceived _ _ _ hswept =>
      exact .kept hopen hreceived hswept rfl ⟨rfl, rfl, .inl rfl, id⟩
        (arriving_entry harriving).2.2.2.2 rfl
  | opens harriving hreceived _ _ hswept =>
      exact .kept hopen hreceived hswept rfl ⟨rfl, rfl, .inl rfl, id⟩
        (arriving_entry harriving).2.2.2.2 rfl
  | answered hpending _ hattempt _ hswept =>
      exact .set hopen (RtspServer.entry_mem_requests hpending) rfl rfl
        hattempt.answerTo.unreceived
        (fun _ => .inr (hguard.responds (hconn hpending) hattempt)) fun a ha => hswept ▸ ha
  | leaves hpending hrequest _ _ hattempt _ hswept =>
      exact hleaves hpending hrequest hattempt fun a ha => hswept ▸ ha
  | finishes hpending hrequest hreplied _ _ hactivity =>
      refine .removed hopen Table.leave_requests hnone ?_ fun r _ hafter => ?_
      · intro r hr haddr
        have hmem := RtspServer.entry_mem_requests hpending
        rw [hold.wellFormed.request_unique hr hmem (haddr.trans hrequest.symm)]
        exact .inl hreplied
      · rw [hactivity.2] at hafter
        cases hafter
  | finishesSelf hpending hrequest _ _ hattempt _ hactivity =>
      refine hleaves hpending hrequest hattempt fun a ha => ?_
      rw [hactivity.2] at ha
      cases ha
  | returns hpending _ _ _ hactivity =>
      refine .set hopen (RtspServer.entry_mem_requests hpending) rfl rfl hnone .inl fun a ha => ?_
      rw [hactivity.2] at ha
      cases ha
  | drops _ _ hswept hevents => exact .same hopen rfl hswept (broadcast_unreceived hevents)
  | dropsMedia _ _ _ hswept hevents =>
      exact .same hopen rfl hswept (broadcast_unreceived hevents)
  | @expires request _ _ _ hpending hattempt hactivity =>
      have hresponds := hguard.responds (hconn hpending) hattempt
      refine ⟨fun r hr hleft => absurd rfl (hleft r hr), ?_, ?_, hopen⟩
      · intro r hr hmarked
        rcases hmarked with hmarked | hmarked
        · exact .inl ⟨r, hr, rfl, .inl hmarked⟩
        · rw [← Option.some.inj (hactivity.2.symm.trans hmarked)]
          exact .inr hresponds
      · intro event hevent a ha
        rw [hattempt.answerTo.unreceived event hevent] at ha
        cases ha
  | sweeps hbefore _ hactivity =>
      refine .removed hopen rfl hnone (fun r _ haddr => .inr (.inl (haddr ▸ hbefore))) ?_
      intro r _ hafter
      rw [hactivity.2] at hafter
      cases hafter
  | sweepsOn hbefore _ hpending _ hattempt hactivity =>
      refine .removed hopen rfl hattempt.answerTo.unreceived
        (fun r _ haddr => .inr (.inl (haddr ▸ hbefore))) ?_
      intro r _ hafter
      rw [← Option.some.inj (hactivity.2.symm.trans hafter)]
      exact .inr (hguard.responds (hconn hpending) hattempt)
  | disconnects conn hinput =>
      have hstays := hguard.stays
      rw [hinput] at hstays
      cases hstays

/-- A received request that waits has no response, any other one has one. -/
structure AnsweredEach (σ : ServerState) : Prop where
  recorded : Recorded σ
  most : AtMostOnce σ
  connected : ∀ r ∈ σ.server.table.requests, r.conn.isSome
  marked : ∀ r ∈ σ.server.table.requests, r.replied = true ∨ σ.activity.swept = some r.addr →
    Responds r.addr σ.events
  left : ∀ a ∈ σ.events.filterMap receivedAddr, (∀ r ∈ σ.server.table.requests, r.addr ≠ a) →
    Responds a σ.events

theorem Responds.append {a : Addr} (h : Responds a events) (more : List ServerEvent) :
    Responds a (events ++ more) := by
  obtain ⟨event, hmem, haddr⟩ := h
  exact ⟨event, List.mem_append_left _ hmem, haddr⟩

theorem Responds.after {a : Addr} (before : List ServerEvent) (h : Responds a events) :
    Responds a (before ++ events) := by
  obtain ⟨event, hmem, haddr⟩ := h
  exact ⟨event, List.mem_append_right _ hmem, haddr⟩

theorem serverStep_answersEach (h : AnsweredEach σ) (hguard : AnswersEach P env σ input)
    (hstep : serverStep P env σ input = .ok σ') : AnsweredEach σ' := by
  obtain ⟨events, hevents, hchange⟩ := serverStep_changes h.recorded.consistent hstep
  have hsettles := hchange.settles h.recorded.consistent h.connected hguard
  refine ⟨serverStep_recorded h.recorded hstep,
    serverStep_answersOnce h.most hguard.once hstep, hsettles.connected, ?_, ?_⟩
  · intro r' hr' hmarked
    rw [hevents]
    rcases hsettles.marked r' hr' hmarked with ⟨r, hr, haddr, hbefore⟩ | hnow
    · rw [← haddr]
      exact (h.marked r hr hbefore).append events
    · exact hnow.after σ.events
  · intro a ha hleft
    rw [hevents] at ha ⊢
    rw [List.filterMap_append] at ha
    rcases List.mem_append.mp ha with ha | ha
    · by_cases hpending : ∃ r ∈ σ.server.table.requests, r.addr = a
      · obtain ⟨r, hr, rfl⟩ := hpending
        rcases hsettles.left r hr hleft with hreplied | hswept | hnow
        · exact (h.marked r hr (.inl hreplied)).append events
        · exact (h.marked r hr (.inr hswept)).append events
        · exact hnow.after σ.events
      · exact (h.left a ha fun r hr haddr => hpending ⟨r, hr, haddr⟩).append events
    · obtain ⟨event, hevent, haddr⟩ := List.mem_filterMap.mp ha
      rcases hsettles.received event hevent a haddr with ⟨r', hr', rfl⟩ | hnow
      · exact absurd rfl (hleft r' hr')
      · exact hnow.after σ.events

/-- In every run in which connections stay open, responses can be written and sent, and nobody
replies twice: a request that has been received has no response while it is pending and
neither replied to nor expired, and exactly one from then on. -/
theorem request_answeredExactlyOnce (softwareName : Option Bytes)
    (replyTimeoutMs sessionTimeoutMs : Int32) (cbs : RtspServerCbs)
    {inputs : List (Env × ServerInput)}
    (hguard : Execution.Guarded (envStep P) (fun σ input => AnswersEach P input.1 σ input.2)
      (serverStart softwareName replyTimeoutMs sessionTimeoutMs cbs) inputs)
    (hrun : Execution.run (envStep P)
      (serverStart softwareName replyTimeoutMs sessionTimeoutMs cbs) inputs = .ok σ) :
    ∀ a ∈ σ.events.filterMap receivedAddr,
      Trace.count responseAddr a σ.events =
        if ∃ request ∈ σ.server.pendingRequests, request.addr = a ∧
          request.replied = false ∧ σ.activity.swept ≠ some a then 0 else 1 := by
  have heach : AnsweredEach σ := by
    apply Execution.invariant AnsweredEach _ _ hguard hrun
    · intro σ input σ' h hanswers hstep
      exact serverStep_answersEach h hanswers hstep
    · refine ⟨serverStart_recorded .., serverStart_answersOnce .., ?_, ?_, ?_⟩
      · exact fun r hr => absurd hr List.not_mem_nil
      · exact fun r hr => absurd hr List.not_mem_nil
      · exact fun a ha => absurd ha List.not_mem_nil
  intro a ha
  split
  next hwaiting =>
    obtain ⟨request, hmem, rfl, hreplied, hswept⟩ := hwaiting
    exact heach.most.waiting _ (RtspServer.entry_mem_requests hmem) hreplied hswept
  next hsettled =>
    have hresponds : Responds a σ.events := by
      by_cases hpending : ∃ r ∈ σ.server.table.requests, r.addr = a
      · obtain ⟨r, hr, rfl⟩ := hpending
        obtain ⟨request, hmem, rfl⟩ := List.mem_map.mp hr
        refine heach.marked _ hr (or_iff_not_imp_left.mpr fun hwaiting => ?_)
        by_contra hswept
        exact hsettled ⟨request, hmem, rfl, eq_false_of_ne_true hwaiting, hswept⟩
      · exact heach.left a ha fun r hr haddr => hpending ⟨r, hr, haddr⟩
    obtain ⟨event, hevent, haddr⟩ := hresponds
    have hpos : Trace.count responseAddr a σ.events ≠ 0 := fun hzero =>
      Trace.count_eq_zero.mp hzero event hevent haddr
    have hmost := heach.most.once a
    omega

end Each

theorem request_answeredExactlyOnce_expiringPlay :
    Execution.Reaches (envStep .bare)
      (fun σ => ∀ a ∈ σ.events.filterMap receivedAddr,
        Trace.count responseAddr a σ.events =
          if ∃ request ∈ σ.server.pendingRequests, request.addr = a ∧
            request.replied = false ∧ σ.activity.swept ≠ some a then 0 else 1)
      (serverStart none 1 0 {}) expiringPlay := by
  have hguard : Execution.Guarded (envStep .bare)
      (fun σ input => AnswersEach .bare input.1 σ input.2) (serverStart none 1 0 {})
      expiringPlay := by
    decide +kernel
  obtain ⟨σ, hrun, -⟩ := expiringPlay_responses
  exact ⟨σ, hrun, request_answeredExactlyOnce none 1 0 {} hguard hrun⟩

end Librtsp
