import Librtsp.PendingReferences
import Librtsp.TeardownAtomicity

/-!
# Replies to requests that are not pending

A reply function looks the request up before it reads anything of it.  When the request is
not in the list the function drops its pointer and goes to its end, with no error to answer.
The end decides whether the request is concluded, by the pointer and for some functions also
by the number of replies; the function for RECORD reads the number before it tests the
pointer.  A request that has left the list does not come back, so that every later reply
takes this way.
-/

namespace Librtsp

open CString

/-! ## The end of a reply function -/

/-- The test at the end of each reply function. -/
def ApiCall.exitTest : ApiCall → Option ExitTest
  | .replyToDescribe _ _ _ _ => some .pointer
  | .replyToAnnounce _ _ _ => some .pointer
  | .replyToSetup _ _ _ => some .pointer
  | .replyToPlay _ _ _ => some playKind.exitTest
  | .replyToPause _ _ _ => some pauseKind.exitTest
  | .replyToTeardown _ _ _ => some teardownKind.exitTest
  | .replyToRecord _ _ _ => some recordKind.exitTest
  | .forceTeardown _ _ _ => none

section Late

variable {P : Platform} {env : Env} {server : RtspServer}

/-- The reply a call makes. -/
def ApiCall.reply (P : Platform) (env : Env) (server : RtspServer) :
    ApiCall → Option (Except Halt Reply)
  | .replyToDescribe request status ext sessionDescription =>
      some (.ok (rtspServerReplyToDescribe P env server request status ext sessionDescription))
  | .replyToAnnounce request status ext =>
      some (.ok (rtspServerReplyToAnnounce P env server request status ext))
  | .replyToSetup request media reply =>
      some (rtspServerReplyToSetup P env server request media reply)
  | .replyToPlay request media reply =>
      some (rtspServerReplyToPlay P env server request media reply)
  | .replyToPause request media reply =>
      some (rtspServerReplyToPause P env server request media reply)
  | .replyToRecord request media reply =>
      some (rtspServerReplyToRecord P env server request media reply)
  | .replyToTeardown request media reply =>
      some (rtspServerReplyToTeardown P env server request media reply)
  | .forceTeardown _ _ _ => none

theorem replyToMedia_absent {K : MediaReplyKind} {request media : Addr} {reply : MediaReply}
    (habsent : server.findRequest request = none) (hmedia : (server.mediaSession media).isSome) :
    replyToMedia P env server K request media reply =
      lookupFailed server K.exitTest := by
  obtain ⟨session, hsession⟩ := Option.isSome_iff_exists.mp hmedia
  unfold replyToMedia
  rw [hsession]
  dsimp only
  rw [habsent]

theorem rtspServerReplyToSetup_absent {request media : Addr} {reply : SetupReply}
    (habsent : server.findRequest request = none) (hmedia : (server.mediaSession media).isSome) :
    rtspServerReplyToSetup P env server request media reply =
      .ok (Errno.enoent.ret, server, []) := by
  obtain ⟨session, hsession⟩ := Option.isSome_iff_exists.mp hmedia
  unfold rtspServerReplyToSetup
  rw [hsession]
  dsimp only
  rw [habsent]

/-- A reply to a request that is not pending is what the end of its function makes of it. -/
theorem reply_lookupFailed (P : Platform) (env : Env) {call : ApiCall} {request : Addr}
    (hrequest : call.request = some request) (habsent : server.findRequest request = none)
    (hmedia : ∀ media ∈ call.media, (server.mediaSession media).isSome) :
    ∃ test, call.exitTest = some test ∧
      call.reply P env server = some (lookupFailed server test) := by
  cases call with
  | replyToDescribe a status ext description =>
      obtain rfl : a = request := Option.some.inj hrequest
      refine ⟨.pointer, rfl, congrArg some ?_⟩
      unfold rtspServerReplyToDescribe
      rw [habsent]
      rfl
  | replyToAnnounce a status ext =>
      obtain rfl : a = request := Option.some.inj hrequest
      refine ⟨.pointer, rfl, congrArg some ?_⟩
      unfold rtspServerReplyToAnnounce
      rw [habsent]
      rfl
  | replyToSetup a media reply =>
      obtain rfl : a = request := Option.some.inj hrequest
      exact ⟨.pointer, rfl,
        congrArg some (rtspServerReplyToSetup_absent habsent (hmedia media rfl))⟩
  | replyToPlay a media reply =>
      obtain rfl : a = request := Option.some.inj hrequest
      exact ⟨.pointerAndCount, rfl, congrArg some (replyToMedia_absent habsent (hmedia media rfl))⟩
  | replyToPause a media reply =>
      obtain rfl : a = request := Option.some.inj hrequest
      exact ⟨.pointerAndCount, rfl, congrArg some (replyToMedia_absent habsent (hmedia media rfl))⟩
  | replyToTeardown a media reply =>
      obtain rfl : a = request := Option.some.inj hrequest
      exact ⟨.pointerAndCount, rfl, congrArg some (replyToMedia_absent habsent (hmedia media rfl))⟩
  | replyToRecord a media reply =>
      obtain rfl : a = request := Option.some.inj hrequest
      exact ⟨.countAndPointer, rfl, congrArg some (replyToMedia_absent habsent (hmedia media rfl))⟩
  | forceTeardown => cases hrequest

/-! ## Harmless replies -/

/-- The call reports that there is no such request; nothing is sent, nothing changes, and
nothing of the request is read. -/
def ReplyHarmless (P : Platform) (env : Env) (server : RtspServer) (call : ApiCall) : Prop :=
  call.reply P env server = some (.ok (Errno.enoent.ret, server, []))

/-- The call replies to a RECORD request. -/
def ApiCall.isRecordReply : ApiCall → Bool
  | .replyToRecord _ _ _ => true
  | _ => false

theorem lookupFailed_harmless_iff (test : ExitTest) :
    lookupFailed server test = .ok (Errno.enoent.ret, server, []) ↔ test ≠ .countAndPointer := by
  rw [lookupFailed_eq]
  split
  next hcount => simp [hcount]
  next hcount => simp [hcount]

/-- A reply to a request that is not pending is harmless exactly when it is not a reply to
RECORD. -/
theorem lateReply_harmless_iff {call : ApiCall} {request : Addr}
    (hrequest : call.request = some request) (habsent : server.findRequest request = none)
    (hmedia : ∀ media ∈ call.media, (server.mediaSession media).isSome) :
    ReplyHarmless P env server call ↔ call.isRecordReply = false := by
  obtain ⟨test, htest, hreply⟩ := reply_lookupFailed P env hrequest habsent hmedia
  unfold ReplyHarmless
  rw [hreply, Option.some.injEq, lookupFailed_harmless_iff]
  cases call with
  | replyToRecord =>
      obtain rfl := Option.some.inj htest
      simp [ApiCall.isRecordReply, recordKind]
  | forceTeardown => cases hrequest
  | _ =>
      obtain rfl := Option.some.inj htest
      simp [ApiCall.isRecordReply, playKind, pauseKind, teardownKind]

end Late

/-! ## Requests that have left the list -/

/-- The address was given out, and no pending request has it. -/
def Table.Gone (t : Table) (request : Addr) : Prop :=
  request < t.next ∧ t.Left request

section Gone

variable {P : Platform} {env : Env} {σ : ServerState} {input : ServerInput} {t : Table}
  {activity : Activity} {events : List ServerEvent}

/-- Nothing comes in its place when the requests keep their addresses. -/
theorem Table.Gone.of_requests {t t' : Table} {request : Addr} (hgone : t.Gone request)
    (hnext : t.next ≤ t'.next)
    (hrequests : ∀ r' ∈ t'.requests, ∃ r ∈ t.requests, r'.addr = r.addr) : t'.Gone request := by
  refine ⟨Nat.lt_of_lt_of_le hgone.1 hnext, fun r' hr' => ?_⟩
  obtain ⟨r, hr, haddr⟩ := hrequests r' hr'
  rw [haddr]
  exact hgone.2 r hr

/-- A request that arrives has an address of its own. -/
theorem gone_arrives {request : Addr} (hgone : σ.server.table.Gone request)
    {arrived : RtspServerPendingRequest} (harriving : arriving env σ input = some arrived)
    (hnext : σ.server.table.next ≤ t.next) {r : RequestEntry}
    (hrequests : t.requests = σ.server.table.requests ++ [r]) (haddr : r.addr = arrived.addr) :
    t.Gone request := by
  refine ⟨Nat.lt_of_lt_of_le hgone.1 hnext, fun r' hr' => ?_⟩
  rw [hrequests] at hr'
  rcases List.mem_append.mp hr' with hr' | hr'
  · exact hgone.2 r' hr'
  · have hfresh : arrived.addr = σ.server.table.next := (arriving_entry harriving).1
    rw [List.mem_singleton.mp hr', haddr, hfresh]
    exact (Nat.ne_of_lt hgone.1).symm

theorem Change.gone {request : Addr} (hgone : σ.server.table.Gone request)
    (h : Change P env σ input t activity events) : t.Gone request := by
  have hset : ∀ r' : RequestEntry, ∀ r ∈ σ.server.table.requests, r'.addr = r.addr →
      (σ.server.table.setRequest r').Gone request := by
    intro r' r hr haddr
    have hnext : σ.server.table.next ≤ (σ.server.table.setRequest r').next := Nat.le_refl _
    apply hgone.of_requests hnext
    intro r₁ hr₁
    rcases Table.mem_setRequest.mp hr₁ with ⟨hr₁, -⟩ | ⟨rfl, -⟩
    · exact ⟨r₁, hr₁, rfl⟩
    · exact ⟨r, hr, haddr⟩
  have hremove : ∀ a, (σ.server.table.removeRequest a).Gone request := fun a =>
    hgone.of_requests (Nat.le_refl _) fun r hr => ⟨r, (Table.mem_removeRequest.mp hr).1, rfl⟩
  have hleave : ∀ l, (σ.server.table.leave l).Gone request := by
    intro l
    apply hgone.of_requests (Nat.le_of_eq Table.leave_next.symm)
    intro r hr
    rw [Table.leave_requests] at hr
    exact ⟨r, (Table.mem_removeRequest.mp hr).1, rfl⟩
  have hself : ∀ {t' : Table}, σ.server.table.next ≤ t'.next →
      t'.requests = σ.server.table.requests → t'.Gone request := by
    intro t' hnext hrequests
    exact hgone.of_requests hnext fun r hr => ⟨r, hrequests ▸ hr, rfl⟩
  cases h with
  | moves => exact hgone
  | admits harriving => exact gone_arrives hgone harriving (Nat.le_succ _) rfl rfl
  | refuses _ _ _ _ hnext => exact hself hnext.le rfl
  | mismatches => exact hself (Nat.le_succ _) rfl
  | answers => exact hself (Nat.le_succ _) rfl
  | asks harriving => exact gone_arrives hgone harriving (Nat.le_succ _) rfl rfl
  | starts harriving => exact gone_arrives hgone harriving (Nat.le_succ _) rfl rfl
  | joins harriving => exact gone_arrives hgone harriving (Nat.le_add_right _ 2) rfl rfl
  | opens harriving => exact gone_arrives hgone harriving (Nat.le_add_right _ 3) rfl rfl
  | answered hpending => exact hset _ _ (RtspServer.entry_mem_requests hpending) rfl
  | leaves => exact hleave _
  | finishes => exact hleave _
  | finishesSelf => exact hleave _
  | returns hpending => exact hset _ _ (RtspServer.entry_mem_requests hpending) rfl
  | drops => exact hself (Nat.le_refl _) rfl
  | dropsMedia => exact hself (Nat.le_refl _) rfl
  | expires => exact hgone
  | sweeps => exact hremove _
  | sweepsOn => exact hremove _
  | disconnects conn =>
      have hnext : σ.server.table.next ≤ (σ.server.table.disconnect conn).next := Nat.le_refl _
      apply hgone.of_requests hnext
      intro r' hr'
      obtain ⟨r, hr, heq, -⟩ := Table.mem_disconnect hr'
      exact ⟨r, hr, by rw [heq]⟩

theorem gone_findRequest {server : RtspServer} {request : Addr}
    (hgone : server.table.Gone request) : server.findRequest request = none := by
  cases hfind : server.findRequest request with
  | none => rfl
  | some r =>
      obtain ⟨hmem, haddr⟩ := RtspServer.findRequest_some hfind
      exact absurd haddr (hgone.2 r.entry (RtspServer.entry_mem_requests hmem))

/-- A request that is not pending any more is not pending at any later time. -/
theorem gone_run {request : Addr} {inputs : List (Env × ServerInput)} {σ σ' : ServerState}
    (hconsistent : σ.Consistent) (hgone : σ.server.table.Gone request)
    (hrun : Execution.run (envStep P) σ inputs = .ok σ') :
    σ'.server.table.Gone request := by
  have hguard : Execution.Guarded (envStep P) (fun _ _ => True) σ inputs :=
    Execution.guarded_of_forall (fun _ _ => trivial) σ inputs
  have hinvariant : σ'.Consistent ∧ σ'.server.table.Gone request := by
    apply Execution.invariant (fun σ => σ.Consistent ∧ σ.server.table.Gone request) _
      ⟨hconsistent, hgone⟩ hguard hrun
    intro σ input σ₁ ⟨hconsistent, hgone⟩ _ hstep
    obtain ⟨events, -, hchange⟩ := serverStep_changes hconsistent hstep
    exact ⟨hchange.consistent hconsistent, hchange.gone hgone⟩
  exact hinvariant.2

theorem callStep_reply {call : ApiCall} {outcome : Except Halt Reply}
    (h : call.reply P env σ.server = some outcome) :
    callStep P env σ call = outcome.map σ.replied := by
  cases call with
  | forceTeardown => cases h
  | _ =>
      cases h
      rfl

/-- Once a request has left the list, every reply to it other than to RECORD leaves the
server as it is, at any time. -/
theorem goneReplies_harmless {request : Addr} {inputs : List (Env × ServerInput)}
    {σ σ' : ServerState} (hconsistent : σ.Consistent) (hgone : σ.server.table.Gone request)
    (hrun : Execution.run (envStep P) σ inputs = .ok σ') {call : ApiCall}
    (hrequest : call.request = some request)
    (hmedia : ∀ media ∈ call.media, (σ'.server.mediaSession media).isSome)
    (hrecord : call.isRecordReply = false) : callStep P env σ' call = .ok σ' := by
  have habsent := gone_findRequest (gone_run hconsistent hgone hrun)
  obtain ⟨test, htest, hreply⟩ := reply_lookupFailed P env hrequest habsent hmedia
  have hnot : test ≠ .countAndPointer := by
    rintro rfl
    cases call with
    | replyToRecord => cases hrecord
    | forceTeardown => cases hrequest
    | _ => cases htest
  rw [callStep_reply hreply, (lookupFailed_harmless_iff test).mpr hnot]
  change Except.ok (σ'.replied (Errno.enoent.ret, σ'.server, [])) = _
  unfold ServerState.replied
  rw [List.append_nil]

end Gone

/-! ## A late reply to RECORD -/

instance (P : Platform) (env : Env) (server : RtspServer) (call : ApiCall) :
    Decidable (ReplyHarmless P env server call) :=
  inferInstanceAs (Decidable (_ = _))

/-- A SETUP request, which is answered. -/
def repliedSetup : List (Env × ServerInput) :=
  let setup : RtspRequestHeader :=
    { method := .setup, uri := some (ascii "rtsp://h/p/a"), cseq := 1, transport := [{}] }
  [({ ids := [1] }, .receive 0 [.text (.request setup) []]), ({ ids := [1] }, .resume),
    ({}, .call (.replyToSetup 0 2 { status := 200, srcStreamPort := 1, srcControlPort := 2 })),
    ({}, .resume), ({}, .resume)]

/-- The request is not pending any more, and a reply to it as to a RECORD request reads a
field of it. -/
theorem lateRecordReply_nullPointer :
    Execution.Reaches (envStep .bare)
      (fun σ => σ.server.findRequest 0 = none ∧ (σ.server.mediaSession 2).isSome ∧
        ¬ReplyHarmless .bare {} σ.server (.replyToRecord 0 2 { status := 200 }) ∧
        serverStep .bare {} σ (.call (.replyToRecord 0 2 { status := 200 })) =
          .error .nullPointer)
      (serverStart none 0 0 {}) repliedSetup := by
  decide +kernel

/-- The same reply as to a PLAY request is harmless. -/
theorem latePlayReply_harmless :
    Execution.Reaches (envStep .bare)
      (fun σ => ReplyHarmless .bare {} σ.server (.replyToPlay 0 2 { status := 200 }))
      (serverStart none 0 0 {}) repliedSetup := by
  have hreaches : Execution.Reaches (envStep .bare)
      (fun σ => σ.server.findRequest 0 = none ∧ (σ.server.mediaSession 2).isSome)
      (serverStart none 0 0 {}) repliedSetup := by
    decide +kernel
  obtain ⟨σ, hrun, habsent, hmedia⟩ := hreaches
  refine ⟨σ, hrun, (lateReply_harmless_iff rfl habsent fun media hmem => ?_).mpr rfl⟩
  obtain rfl : 2 = media := Option.some.inj hmem
  exact hmedia

end Librtsp
