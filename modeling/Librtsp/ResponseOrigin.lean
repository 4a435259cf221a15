import Librtsp.BusyFlag
import Librtsp.TeardownAtomicity
import Librtsp.Trace

/-!
# Where the responses of the server come from

Every response the server sends answers a request it has received before, on the connection
the request came from and with its number; and the requests are told apart by their
addresses.
-/

namespace Librtsp

open CString RecordList

/-! ## Answers -/

/-- One response to the request at most. -/
def AnswerTo (request : RequestEntry) (events : List ServerEvent) : Prop :=
  events = [] ∨ ∃ event, events = [event] ∧ IsResponseTo request event

/-- The request the application replies to, or the library in place of a missing callback. -/
def ServerState.repliesFor (σ : ServerState) : ServerInput → Option Addr
  | .call call => call.request
  | .resume =>
      match σ.activity with
      | .calling _ _ (.announce request) => if σ.server.cbs.announce then none else some request
      | .calling _ _ (.media .record request _ _ _) =>
          if σ.server.cbs.record then none else some request
      | _ => none
  | _ => none

/-! ## Attempts are about their request -/

section Attempts

variable {P : Platform} {env : Env} {σ : ServerState} {input : ServerInput}
  {server : RtspServer} {request request' : RtspServerPendingRequest} {attempt : Attempt}

/-- A handler that fails hands on the request it was given. -/
def Processed.KeepsEntry (request : RtspServerPendingRequest) : Processed → Prop
  | .failed _ _ request' _ => request'.entry = request.entry
  | _ => True

theorem answerDirectly_keepsEntry (hentry : request'.entry = request.entry) :
    (answerDirectly P env server request').KeepsEntry request := by
  unfold answerDirectly
  split
  next => exact hentry
  next =>
    split
    next => exact hentry
    next => exact hentry
    next => trivial

theorem sessionRequest_keepsEntry (method : RtspMethodType) :
    (sessionRequest method server request).KeepsEntry request := by
  unfold sessionRequest
  split
  next => rfl
  next =>
    split
    next => rfl
    next =>
      split
      next => rfl
      next => trivial

theorem rtspServerTeardown_keepsEntry :
    (rtspServerTeardown server request).KeepsEntry request := by
  unfold rtspServerTeardown
  split
  next => rfl
  next =>
    split
    next => rfl
    next =>
      split
      next => rfl
      next =>
        dsimp only
        split
        next => rfl
        next => trivial

theorem rtspServerGetParameter_keepsEntry :
    (rtspServerGetParameter P env server request).KeepsEntry request := by
  unfold rtspServerGetParameter
  split
  next => rfl
  next =>
    split
    next => rfl
    next =>
      split
      next => rfl
      next => exact answerDirectly_keepsEntry rfl

theorem rtspServerSetup_keepsEntry {processed : Processed}
    (h : rtspServerSetup env server request = .ok processed) : processed.KeepsEntry request := by
  unfold rtspServerSetup at h
  split at h
  next =>
    cases h
    rfl
  next =>
    split at h
    next =>
      cases h
      rfl
    next =>
      split at h
      next =>
        cases h
        rfl
      next =>
        split at h
        next => cases h
        next =>
          cases h
          rfl
        next =>
          split at h
          next =>
            cases h
            rfl
          next =>
            cases h
            trivial

theorem handleRequest_keepsEntry {processed : Processed}
    (h : handleRequest P env server request = .ok processed) : processed.KeepsEntry request := by
  have hlookup : ∀ server : RtspServer,
      (rtspServerDescribe server request).KeepsEntry request ∧
        (rtspServerAnnounceReq server request).KeepsEntry request := by
    intro server
    unfold rtspServerDescribe rtspServerAnnounceReq
    constructor
    · split
      next => rfl
      next => trivial
    · split
      next => rfl
      next => trivial
  unfold handleRequest at h
  split at h
  case h_5 => exact rtspServerSetup_keepsEntry h
  all_goals cases h
  case h_2 => exact answerDirectly_keepsEntry rfl
  case h_3 => exact (hlookup server).1
  case h_4 => exact (hlookup server).2
  case h_8 => exact rtspServerTeardown_keepsEntry
  case h_9 => exact rtspServerGetParameter_keepsEntry
  case h_6 => exact sessionRequest_keepsEntry .play
  case h_7 => exact sessionRequest_keepsEntry .pause
  case h_12 => exact sessionRequest_keepsEntry .record
  all_goals trivial

theorem mediaReply_lawful {call : ApiCall} {K : MediaReplyKind} {a media : Addr}
    {reply : MediaReply} (h : call.mediaReply = some (K, a, media, reply)) : K.Lawful := by
  cases call with
  | replyToPlay =>
      cases h
      exact playKind_lawful
  | replyToPause =>
      cases h
      exact pauseKind_lawful
  | replyToRecord =>
      cases h
      exact recordKind_lawful
  | replyToTeardown =>
      cases h
      exact teardownKind_lawful
  | _ => cases h

/-- What an attempt sends is a response to its request. -/
theorem Attempts.sound (h : Attempts P env σ input request attempt) :
    attempt.Sound env request := by
  cases h with
  | describe => exact describeAttempt_sound P env _ _ _ _ _
  | announce => exact announceAttempt_sound P env _ _ _ _
  | setup => exact setupAttempt_sound P env _ _ _ _
  | media hcall hmedia hfind hattempt =>
      exact (replyAttempt_sound (mediaReply_lawful hcall) hattempt).2
  | noAnnounce => exact announceAttempt_sound P env _ _ _ _
  | noRecord hactivity hcbs hmedia hfind hattempt =>
      exact (replyAttempt_sound recordKind_lawful hattempt).2
  | @failed _ _ e status _ harriving hhandle =>
      refine .failed (handleRequest_keepsEntry hhandle) fun _ => ?_
      split
      next hfailure => exact statusIsFailure_zero (.inr hfailure)
      next => exact (Errno.ret_neg e).ne
  | expired => exact .failed rfl fun _ => by decide

theorem Attempts.answerTo (h : Attempts P env σ input request attempt) :
    AnswerTo request.entry (outcome P env σ.server attempt) :=
  h.sound.outcome_events P σ.server

/-- A pending request is answered because the input replies for it, or because it has
expired. -/
theorem Attempts.cause (hold : σ.Consistent) (hpending : request ∈ σ.server.pendingRequests)
    (h : Attempts P env σ input request attempt) :
    σ.repliesFor input = some request.addr ∨
      (σ.activity.anchor = none ∧ request.replied = false ∧
        (input = .timer ∨ ∃ a, input = .resume ∧ σ.activity.swept = some a ∧
          request.addr ≠ a)) := by
  have hfound : ∀ {a : Addr}, σ.server.findRequest a = some request → request.addr = a :=
    fun hfind => (RtspServer.findRequest_some hfind).2
  cases h with
  | describe hfind => exact .inl (congrArg some (hfound hfind).symm)
  | announce hfind => exact .inl (congrArg some (hfound hfind).symm)
  | setup _ hfind => exact .inl (congrArg some (hfound hfind).symm)
  | @media call K a _ _ _ _ _ _ hcall _ hfind =>
      have hrequest : call.request = some a := by
        cases call <;> cases hcall <;> rfl
      exact .inl (hrequest.trans (congrArg some (hfound hfind).symm))
  | noAnnounce hactivity hcbs hfind =>
      refine .inl ?_
      simp only [ServerState.repliesFor, hactivity, hcbs, hfound hfind]
      rfl
  | noRecord hactivity hcbs _ hfind =>
      refine .inl ?_
      simp only [ServerState.repliesFor, hactivity, hcbs, hfound hfind]
      rfl
  | failed harriving =>
      have hbelow := hold.wellFormed.requestBelow _ (RtspServer.entry_mem_requests hpending)
      exact absurd (arriving_entry harriving).1 (Nat.ne_of_lt hbelow)
  | expired hnow hanchor =>
      have hidle := hold.idle hanchor _ (RtspServer.entry_mem_requests hpending)
      refine .inr ⟨hanchor, hidle.2, ?_⟩
      rcases hnow with ⟨rfl, -⟩ | ⟨a, next, rfl, hactivity, hother⟩
      · exact .inl rfl
      · exact .inr ⟨a, rfl, by rw [hactivity]; rfl, hother⟩

end Attempts

/-! ## What a step sends and whom it keeps -/

/-- The request as it was, perhaps replied to or without its connection. -/
structure SameOrigin (request request' : RequestEntry) : Prop where
  addr : request'.addr = request.addr
  cseq : request'.cseq = request.cseq
  conn : request'.conn = request.conn ∨ request'.conn = none
  replied : request.replied = true → request'.replied = true

theorem SameOrigin.refl (request : RequestEntry) : SameOrigin request request :=
  ⟨rfl, rfl, .inl rfl, id⟩

/-- The requests after a step are requests from before it. -/
def KeepsOrigins (σ : ServerState) (t : Table) : Prop :=
  ∀ request' ∈ t.requests, ∃ request ∈ σ.server.table.requests, SameOrigin request request'

section Steps

variable {P : Platform} {env : Env} {σ : ServerState} {input : ServerInput} {t : Table}
  {activity : Activity} {events : List ServerEvent}

/-- A step tells nobody in particular, answers a pending request, or receives a request and
may answer it.  A request that is answered leaves, or is marked as replied to or expired. -/
inductive StepSends (env : Env) (σ : ServerState) (input : ServerInput) (t : Table)
    (activity : Activity) : List ServerEvent → Prop where
  | broadcast {events : List ServerEvent} (hkept : KeepsOrigins σ t)
      (h : ∀ event ∈ events, IsBroadcast event) : StepSends env σ input t activity events
  | answers {request : RequestEntry} {events : List ServerEvent} (hkept : KeepsOrigins σ t)
      (hpending : request ∈ σ.server.table.requests)
      (hcause : σ.repliesFor input = some request.addr ∨
        (request.replied = false ∧ σ.activity.swept ≠ some request.addr))
      (hsettled : ∀ request' ∈ t.requests, request'.addr = request.addr →
        request'.replied = true ∨ activity.swept = some request.addr)
      (h : AnswerTo request events) : StepSends env σ input t activity events
  | receives {request : RtspServerPendingRequest} {event : ServerEvent}
      {events : List ServerEvent} (harriving : arriving env σ input = some request)
      (hreceived : IsReceived request event) (hnext : σ.server.table.next < t.next)
      (hkept : ∀ request' ∈ t.requests,
        (∃ request ∈ σ.server.table.requests, SameOrigin request request') ∨
          SameOrigin request.entry request')
      (hsettled : events = [] ∨ KeepsOrigins σ t)
      (h : AnswerTo request.entry events) : StepSends env σ input t activity (event :: events)

/-- While the timeout callback of a request runs, no other request leaves on return. -/
theorem leaving_swept {a : Addr} {l : Leaving} (hswept : σ.activity.swept = some a)
    (h : leaving P env σ .resume = some l) : l.request = a := by
  unfold leaving at h
  split at h
  next h' => cases h'
  next =>
    split at h
    next hactivity =>
      rw [hactivity] at hswept
      cases hswept
    next hactivity =>
      rw [hactivity] at hswept
      cases hswept
      cases h
      rfl
    next => cases h
  next hother => exact absurd rfl hother

theorem keepsOrigins_of_subset
    (h : ∀ request ∈ t.requests, request ∈ σ.server.table.requests) : KeepsOrigins σ t :=
  fun request hmem => ⟨request, h request hmem, .refl request⟩

theorem keepsOrigins_leave (l : Leaving) : KeepsOrigins σ (σ.server.table.leave l) := by
  refine keepsOrigins_of_subset fun request hmem => ?_
  rw [Table.leave_requests] at hmem
  exact (Table.mem_removeRequest.mp hmem).1

theorem keepsOrigins_removeRequest (a : Addr) :
    KeepsOrigins σ (σ.server.table.removeRequest a) :=
  keepsOrigins_of_subset fun _ hmem => (Table.mem_removeRequest.mp hmem).1

theorem keepsOrigins_setRequest {r r' : RequestEntry} (hr : r ∈ σ.server.table.requests)
    (horigin : SameOrigin r r') : KeepsOrigins σ (σ.server.table.setRequest r') := by
  intro request' hmem
  rcases Table.mem_setRequest.mp hmem with ⟨hmem, -⟩ | ⟨rfl, -⟩
  · exact ⟨request', hmem, .refl request'⟩
  · exact ⟨r, hr, horigin⟩

/-- A request that arrives is kept at the end of the list. -/
theorem StepSends.kept {request : RtspServerPendingRequest} {r : RequestEntry} {event : ServerEvent}
    (harriving : arriving env σ input = some request) (hreceived : IsReceived request event)
    (hnext : σ.server.table.next < t.next)
    (hrequests : t.requests = σ.server.table.requests ++ [r])
    (horigin : SameOrigin request.entry r) : StepSends env σ input t activity [event] := by
  refine .receives harriving hreceived hnext ?_ (.inl rfl) (.inl rfl)
  intro request' hmem
  rw [hrequests] at hmem
  rcases List.mem_append.mp hmem with hmem | hmem
  · exact .inl ⟨request', hmem, .refl request'⟩
  · rw [List.mem_singleton.mp hmem]
    exact .inr horigin

/-- A request that arrives is answered at once. -/
theorem StepSends.notKept {request : RtspServerPendingRequest} {event : ServerEvent}
    (harriving : arriving env σ input = some request) (hreceived : IsReceived request event)
    (hnext : σ.server.table.next < t.next) (hrequests : t.requests = σ.server.table.requests)
    (h : AnswerTo request.entry events) : StepSends env σ input t activity (event :: events) := by
  have hkept : KeepsOrigins σ t := keepsOrigins_of_subset fun _ hmem => hrequests ▸ hmem
  exact .receives harriving hreceived hnext (fun r hr => .inl (hkept r hr)) (.inr hkept) h

theorem Change.sends (hold : σ.Consistent) (h : Change P env σ input t activity events) :
    StepSends env σ input t activity events := by
  have hself : ∀ {t' : Table}, t'.requests = σ.server.table.requests → KeepsOrigins σ t' :=
    fun hsame => keepsOrigins_of_subset fun _ hmem => hsame ▸ hmem
  have hone : σ.server.table.next < σ.server.table.next + 1 := Nat.lt_succ_self _
  have hmore : ∀ n, σ.server.table.next < σ.server.table.next + (n + 1) := fun n =>
    Nat.lt_add_of_pos_right (Nat.succ_pos n)
  cases h with
  | moves _ _ hevents => exact .broadcast (hself rfl) hevents
  | admits harriving hreceived => exact .kept harriving hreceived hone rfl (.refl _)
  | refuses harriving hreceived hattempt _ hnext =>
      exact .notKept harriving hreceived hnext rfl hattempt.answerTo
  | mismatches harriving hreceived hattempt =>
      exact .notKept harriving hreceived hone rfl hattempt.answerTo
  | answers harriving hreceived hresponse =>
      exact .notKept harriving hreceived hone rfl (.inr ⟨_, rfl, hresponse⟩)
  | asks harriving hreceived =>
      exact .kept harriving hreceived hone rfl ⟨rfl, rfl, .inl rfl, id⟩
  | starts harriving hreceived =>
      exact .kept harriving hreceived hone rfl ⟨rfl, rfl, .inl rfl, id⟩
  | joins harriving hreceived =>
      exact .kept harriving hreceived (hmore 1) rfl ⟨rfl, rfl, .inl rfl, id⟩
  | opens harriving hreceived =>
      exact .kept harriving hreceived (hmore 2) rfl ⟨rfl, rfl, .inl rfl, id⟩
  | @answered request _ attempt hpending hcallback hattempt =>
      have hmem := RtspServer.entry_mem_requests hpending
      refine .answers (keepsOrigins_setRequest hmem ⟨rfl, rfl, .inl rfl, fun _ => rfl⟩) hmem ?_ ?_
        hattempt.answerTo
      · rcases hattempt.cause hold hpending with hreplies | ⟨hanchor, -, -⟩
        · exact .inl hreplies
        · exact absurd (hold.none_running hanchor _ hmem) (ne_true_of_eq_false.mt (by simpa))
      · intro request' hmem' haddr
        rcases Table.mem_setRequest.mp hmem' with ⟨-, hother⟩ | ⟨rfl, -⟩
        · exact absurd haddr hother
        · exact .inl rfl
  | @leaves request l _ attempt hpending hrequest hcallback hleaving hattempt =>
      refine .answers (keepsOrigins_leave l) (RtspServer.entry_mem_requests hpending) ?_ ?_
        hattempt.answerTo
      · rcases hattempt.cause hold hpending with hreplies | ⟨-, -, rfl | ⟨a, rfl, hswept, hother⟩⟩
        · exact .inl hreplies
        · cases hleaving
        · exact absurd (hrequest.trans (leaving_swept hswept hleaving)) hother
      · intro request' hmem' haddr
        rw [Table.leave_requests] at hmem'
        exact absurd (haddr.trans hrequest) (Table.mem_removeRequest.mp hmem').2
  | finishes => exact .broadcast (keepsOrigins_leave _) (by simp)
  | @finishesSelf request l _ attempt hpending hrequest _ _ hattempt hbefore =>
      refine .answers (keepsOrigins_leave l) (RtspServer.entry_mem_requests hpending) ?_ ?_
        hattempt.answerTo
      · rcases hattempt.cause hold hpending with hreplies | ⟨hanchor, -, -⟩
        · exact .inl hreplies
        · cases hbefore.symm.trans hanchor
      · intro request' hmem' haddr
        rw [Table.leave_requests] at hmem'
        exact absurd (haddr.trans hrequest) (Table.mem_removeRequest.mp hmem').2
  | returns hpending =>
      have hmem := RtspServer.entry_mem_requests hpending
      exact .broadcast (keepsOrigins_setRequest hmem ⟨rfl, rfl, .inl rfl, id⟩) (by simp)
  | drops _ _ _ hevents => exact .broadcast (hself rfl) hevents
  | dropsMedia _ _ _ _ hevents => exact .broadcast (hself rfl) hevents
  | expires hidle hpending hattempt hactivity =>
      have hmem := RtspServer.entry_mem_requests hpending
      refine .answers (hself rfl) hmem (.inr ⟨(hold.idle hidle.1 _ hmem).2, ?_⟩)
        (fun _ _ _ => .inr hactivity.2) hattempt.answerTo
      rw [hidle.2]
      exact Option.some_ne_none _ |>.symm
  | sweeps => exact .broadcast (keepsOrigins_removeRequest _) (by simp)
  | @sweepsOn a request _ _ hbefore _ hpending hother hattempt hactivity =>
      have hmem := RtspServer.entry_mem_requests hpending
      refine .answers (keepsOrigins_removeRequest a) hmem
        (.inr ⟨(hold.idle (anchor_of_swept hbefore) _ hmem).2, ?_⟩)
        (fun _ _ _ => .inr hactivity.2) hattempt.answerTo
      rw [hbefore]
      exact fun heq => hother (Option.some.inj heq).symm
  | disconnects conn =>
      refine .broadcast ?_ (by simp)
      intro request' hmem
      obtain ⟨request, hrequest, heq, hconn⟩ := Table.mem_disconnect hmem
      refine ⟨request, hrequest, ?_⟩
      exact ⟨by rw [heq], by rw [heq], hconn, by rw [heq]; exact id⟩

theorem Change.next_le (h : Change P env σ input t activity events) :
    σ.server.table.next ≤ t.next := by
  have hone : σ.server.table.next ≤ σ.server.table.next + 1 := Nat.le_succ _
  have hleave : ∀ l, σ.server.table.next ≤ (σ.server.table.leave l).next := fun l =>
    Nat.le_of_eq Table.leave_next.symm
  cases h with
  | refuses _ _ _ _ hnext => exact hnext.le
  | joins => exact Nat.le_add_right _ 2
  | opens => exact Nat.le_add_right _ 3
  | leaves => exact hleave _
  | finishes => exact hleave _
  | finishesSelf => exact hleave _
  | admits => exact hone
  | mismatches => exact hone
  | answers => exact hone
  | asks => exact hone
  | starts => exact hone
  | _ => exact Nat.le_refl _

end Steps

/-! ## The record of a run -/

/-- A response answers a request received before it, on its connection and with its number. -/
def AnswersReceived (before : List ServerEvent) : ServerEvent → Prop
  | .response a conn _ message =>
      ∃ header body, .received conn a header body ∈ before ∧
        (0 ≤ header.cseq → NumberedLine message header.cseq)
  | _ => True

def receivedAddr : ServerEvent → Option Addr
  | .received _ a _ _ => some a
  | _ => none

def responseAddr : ServerEvent → Option Addr
  | .response a _ _ _ => some a
  | _ => none

/-- Every pending request has been received; no two requests have been received under one
address; and every response answers a request received before it. -/
structure Recorded (σ : ServerState) : Prop where
  consistent : σ.Consistent
  pending : ∀ r ∈ σ.server.table.requests, ∃ conn header body,
    .received conn r.addr header body ∈ σ.events ∧ r.cseq = header.cseq ∧
      (r.conn = some conn ∨ r.conn = none)
  below : ∀ a ∈ σ.events.filterMap receivedAddr, a < σ.server.table.next
  distinct : (σ.events.filterMap receivedAddr).Nodup
  answers : Trace.Justified AnswersReceived [] σ.events

section Records

variable {P : Platform} {env : Env} {σ σ' : ServerState} {input : ServerInput}

theorem broadcast_records {events : List ServerEvent} (h : ∀ event ∈ events, IsBroadcast event)
    (before : List ServerEvent) :
    events.filterMap receivedAddr = [] ∧ Trace.Justified AnswersReceived before events := by
  constructor
  · refine List.filterMap_eq_nil_iff.mpr fun event hevent => ?_
    obtain ⟨message, rfl⟩ := h event hevent
    rfl
  · refine Trace.justified_of_forall fun _ event hevent => ?_
    obtain ⟨message, rfl⟩ := h event hevent
    trivial

/-- A response to a request that has been received is in order. -/
theorem AnswerTo.records {request : RequestEntry} {events before : List ServerEvent}
    (h : AnswerTo request events) {conn : Conn} {header : RtspRequestHeader} {body : Bytes}
    (hreceived : .received conn request.addr header body ∈ before)
    (hcseq : request.cseq = header.cseq) (hconn : request.conn = some conn ∨ request.conn = none) :
    events.filterMap receivedAddr = [] ∧ Trace.Justified AnswersReceived before events := by
  rcases h with rfl | ⟨event, rfl, conn', status, message, rfl, hconn', hcarries⟩
  · exact ⟨rfl, Trace.justified_nil⟩
  · refine ⟨rfl, Trace.justified_cons_iff.mpr ⟨?_, Trace.justified_nil⟩⟩
    have hsame : conn = conn' := by
      rcases hconn with hconn | hconn
      · exact Option.some.inj (hconn.symm.trans hconn')
      · cases hconn.symm.trans hconn'
    rw [hcseq] at hcarries
    exact ⟨header, body, hsame ▸ hreceived, hcarries⟩

/-- What was received for a request is still there for what the step makes of it. -/
theorem Recorded.received (h : Recorded σ) {request request' : RequestEntry}
    {events : List ServerEvent} (hmem : request ∈ σ.server.table.requests)
    (horigin : SameOrigin request request') : ∃ conn header body,
      .received conn request'.addr header body ∈ σ.events ++ events ∧
        request'.cseq = header.cseq ∧ (request'.conn = some conn ∨ request'.conn = none) := by
  obtain ⟨conn, header, body, hreceived, hcseq, hconn⟩ := h.pending request hmem
  refine ⟨conn, header, body, ?_, horigin.cseq.trans hcseq, ?_⟩
  · rw [horigin.addr]
    exact List.mem_append_left _ hreceived
  · rcases horigin.conn with hsame | hnone
    · rwa [hsame]
    · exact .inr hnone

theorem serverStep_recorded (h : Recorded σ) (hstep : serverStep P env σ input = .ok σ') :
    Recorded σ' := by
  obtain ⟨events, hevents, hchange⟩ := serverStep_changes h.consistent hstep
  have hconsistent := hchange.consistent h.consistent
  have hnext := hchange.next_le
  -- nothing is received, and only requests of before are answered
  have hquiet : KeepsOrigins σ σ'.server.table → events.filterMap receivedAddr = [] ∧
      Trace.Justified AnswersReceived σ.events events → Recorded σ' := by
    rintro hkept ⟨hnone, hanswers⟩
    have hsame : σ'.events.filterMap receivedAddr = σ.events.filterMap receivedAddr := by
      rw [hevents, List.filterMap_append, hnone, List.append_nil]
    refine ⟨hconsistent, ?_, ?_, ?_, ?_⟩
    · intro request' hmem'
      obtain ⟨request, hmem, horigin⟩ := hkept request' hmem'
      exact hevents ▸ h.received hmem horigin
    · rw [hsame]
      exact fun a ha => Nat.lt_of_lt_of_le (h.below a ha) hnext
    · exact hsame ▸ h.distinct
    · rw [hevents]
      exact Trace.justified_append_iff.mpr ⟨h.answers, hanswers⟩
  cases hchange.sends h.consistent with
  | broadcast hkept hbroadcast => exact hquiet hkept (broadcast_records hbroadcast _)
  | answers hkept hpending _ _ hanswer =>
      obtain ⟨conn, header, body, hreceived, hcseq, hconn⟩ := h.pending _ hpending
      exact hquiet hkept (hanswer.records hreceived hcseq hconn)
  | @receives request event answer harriving hreceived hfresh hkept _ hanswer =>
      obtain ⟨conn, rfl, hconn⟩ := hreceived
      have haddr : request.addr = σ.server.table.next := (arriving_entry harriving).1
      have hreceived : .received conn request.addr request.requestHeader request.body ∈
          σ.events ++ [.received conn request.addr request.requestHeader request.body] :=
        List.mem_append_right _ List.mem_cons_self
      have hrecords := hanswer.records hreceived rfl (.inl hconn)
      have hgrows : σ'.events.filterMap receivedAddr =
          σ.events.filterMap receivedAddr ++ [σ.server.table.next] := by
        rw [hevents, List.filterMap_append, ← haddr]
        exact congrArg _ (congrArg (List.cons request.addr) hrecords.1)
      refine ⟨hconsistent, ?_, ?_, ?_, ?_⟩
      · intro request' hmem'
        rcases hkept request' hmem' with ⟨request₀, hmem, horigin⟩ | horigin
        · exact hevents ▸ h.received hmem horigin
        · refine ⟨conn, request.requestHeader, request.body, ?_, horigin.cseq, ?_⟩
          · rw [hevents, horigin.addr]
            exact List.mem_append_right _ List.mem_cons_self
          · exact horigin.conn.imp_left fun hsame => hsame.trans hconn
      · rw [hgrows]
        intro a ha
        rcases List.mem_append.mp ha with ha | ha
        · exact Nat.lt_of_lt_of_le (h.below a ha) hnext
        · exact List.mem_singleton.mp ha ▸ hfresh
      · rw [hgrows]
        refine List.nodup_append.mpr ⟨h.distinct, List.nodup_singleton _, fun a ha b hb => ?_⟩
        rw [List.mem_singleton.mp hb]
        exact Nat.ne_of_lt (h.below a ha)
      · rw [hevents]
        refine Trace.justified_append_iff.mpr ⟨h.answers, ?_⟩
        exact Trace.justified_cons_iff.mpr ⟨trivial, hrecords.2⟩

theorem serverStart_recorded (softwareName : Option Bytes)
    (replyTimeoutMs sessionTimeoutMs : Int32) (cbs : RtspServerCbs) :
    Recorded (serverStart softwareName replyTimeoutMs sessionTimeoutMs cbs) := by
  refine ⟨serverStart_consistent .., ?_, ?_, List.nodup_nil, Trace.justified_nil⟩
  · exact fun r hr => absurd hr List.not_mem_nil
  · exact fun a ha => absurd ha List.not_mem_nil

/-- In every run, each response answers a request received before it, on the connection the
request came from and with its number; and the requests are told apart by their addresses. -/
theorem responses_originate (softwareName : Option Bytes) (replyTimeoutMs sessionTimeoutMs : Int32)
    (cbs : RtspServerCbs) {inputs : List (Env × ServerInput)}
    (hrun : Execution.run (envStep P)
      (serverStart softwareName replyTimeoutMs sessionTimeoutMs cbs) inputs = .ok σ) :
    (σ.events.filterMap receivedAddr).Nodup ∧
      ∀ before after a conn status message,
        σ.events = before ++ .response a conn status message :: after →
          ∃ header body, .received conn a header body ∈ before ∧
            (0 ≤ header.cseq → NumberedLine message header.cseq) := by
  have hany : Execution.Guarded (envStep P) (fun _ _ => True)
      (serverStart softwareName replyTimeoutMs sessionTimeoutMs cbs) inputs :=
    Execution.guarded_of_forall (fun _ _ => trivial) _ _
  have hrecorded : Recorded σ := by
    apply Execution.invariant Recorded _ _ hany hrun
    · intro σ input σ' h _ hstep
      exact serverStep_recorded h hstep
    · exact serverStart_recorded ..
  refine ⟨hrecorded.distinct, ?_⟩
  intro before after a conn status message hevents
  exact hrecorded.answers before _ after hevents

end Records

/-- A SETUP request that is replied to, then a PLAY request that expires. -/
def expiringPlay : List (Env × ServerInput) :=
  pendingPlay ++ [(({ now := 2000 } : Env), .timer), ({}, .resume)]

theorem expiringPlay_responses :
    Execution.Reaches (envStep .bare) (fun σ => σ.events.filterMap responseAddr = [0, 3])
      (serverStart none 1 0 {}) expiringPlay := by
  decide +kernel

theorem responses_originate_expiringPlay :
    Execution.Reaches (envStep .bare)
      (fun σ => σ.events.filterMap responseAddr = [0, 3] ∧
        (σ.events.filterMap receivedAddr).Nodup ∧
          ∀ before after a conn status message,
            σ.events = before ++ .response a conn status message :: after →
              ∃ header body, .received conn a header body ∈ before ∧
                (0 ≤ header.cseq → NumberedLine message header.cseq))
      (serverStart none 1 0 {}) expiringPlay := by
  obtain ⟨σ, hrun, hresponses⟩ := expiringPlay_responses
  exact ⟨σ, hrun, hresponses, responses_originate none 1 0 {} hrun⟩

end Librtsp
