import Librtsp.ClientTasks

/-!
# Calls that fail

A call of a request function that fails should leave the client as it was.  It does when it
is refused by its first checks.  Later it may have taken away the response timer of a pending
keep-alive, written over the header of its request, or reserved channels.

The header of a pending request that was sent differs from every header a failing call
writes: that makes the condition exact, in every run whose failing calls meet it.
-/

namespace Librtsp

open CString RecordList

/-! ## What a failure should keep -/

/-- The pending request, as it was sent. -/
def RtspClient.pendingRequest (client : RtspClient) : Option (RtspRequestHeader × Nat) :=
  if client.request.isPending then some (client.request.header, client.request.userdata)
  else none

structure CallUnchanged (before after : RtspClient) : Prop where
  pending : after.pendingRequest = before.pendingRequest
  timer : after.request.timer = before.request.timer
  sessions : after.sessions = before.sessions
  channels : after.channelUsed = before.channelUsed

/-- The response timer of a keep-alive is running, so that a call would stop it. -/
def RtspClient.keepAliveTimed (client : RtspClient) : Prop :=
  client.sessions.any RtspClientSession.keepAliveInProgress = true ∧
    client.request.timer.isSome = true

/-- The call is refused by its first checks; or it stops no timer, and then it does not find
what it names, or no request is pending and it reserves no channels. -/
def ClientCall.FailsCleanly (env : ClientEnv) (client : RtspClient) (call : ClientCall) : Prop :=
  ¬ (call.stages env client).claims ∨
    ¬ client.keepAliveTimed ∧
      (¬ (call.stages env client).lookups ∨
        client.request.isPending = false ∧ ¬ (call.stages env client).reserves)

/-- The pending request is the last one that was numbered, with the client's name. -/
def RtspClient.PendingSent (client : RtspClient) : Prop :=
  client.request.isPending = true →
    client.request.header.cseq = (client.cseq - 1).toInt32 ∧
      client.request.header.userAgent.isSome = true

section Failure

variable {env : ClientEnv} {client : RtspClient}

theorem claimed_timer (client : RtspClient) :
    (claimed client).request.timer = client.request.timer ↔ ¬ client.keepAliveTimed := by
  unfold claimed RtspClient.keepAliveTimed
  cases htimer : client.request.timer with
  | none => simp
  | some ms => simp

theorem setChannelPairUsed_eq {channelUsed : UInt8 → Bool} {pair : RtspChannelPair}
    (hfree : pair.isValid = true → channelUsed pair.rtp = false) :
    setChannelPairUsed channelUsed pair true = channelUsed ↔ pair.isValid = false := by
  unfold setChannelPairUsed
  cases hvalid : pair.isValid with
  | false => simp
  | true =>
      rw [if_pos rfl]
      refine ⟨fun h => ?_, fun h => (by cases h)⟩
      have hrtp := congrFun h pair.rtp
      rw [if_pos (.inl rfl), hfree hvalid] at hrtp
      cases hrtp

theorem sub_one_toInt32_ne (number : UInt32) : (number - 1).toInt32 ≠ number.toInt32 := by
  intro h
  have hnumber := congrArg Int32.toUInt32 h
  rw [UInt32.toUInt32_toInt32, UInt32.toUInt32_toInt32] at hnumber
  have hnat := congrArg UInt32.toNat hnumber
  have hlt := number.toNat_lt
  rw [UInt32.toNat_sub] at hnat
  change (2 ^ 32 - 1 + number.toNat) % 2 ^ 32 = number.toNat at hnat
  omega

/-- A request written over a pending one shows, unless no request is pending. -/
theorem pendingRequest_eq {built : RtspClient}
    (hpending : built.request.isPending = client.request.isPending)
    (hdiffers : client.request.isPending = true →
      built.request.header ≠ client.request.header) :
    built.pendingRequest = client.pendingRequest ↔ client.request.isPending = false := by
  unfold RtspClient.pendingRequest
  rw [hpending]
  cases h : client.request.isPending with
  | false => simp
  | true =>
      rw [if_pos rfl, if_pos rfl, Option.some_inj, Prod.mk.injEq]
      exact ⟨fun hsame => absurd hsame.1 (hdiffers h), fun hfalse => (by cases hfalse)⟩

/-- What is left of a call that fails after it has filled the request. -/
theorem filled_unchanged_iff {built : RtspClient} {method : RtspMethodType} {userdata : Nat}
    (hsent : client.PendingSent) (hfilled : Filled env (claimed client) built method userdata) :
    CallUnchanged client built ↔
      ¬ client.keepAliveTimed ∧ client.request.isPending = false ∧
        (requestedChannels built.request.header).isValid = false := by
  have htimer : built.request.timer = (claimed client).request.timer := by
    rw [hfilled.same]
  have hpending : built.pendingRequest = client.pendingRequest ↔
      client.request.isPending = false := by
    apply pendingRequest_eq
    · rw [hfilled.same]
      rfl
    · intro hpending hsame
      have hnumber := hfilled.number
      rw [hsame, (hsent hpending).1] at hnumber
      exact sub_one_toInt32_ne _ hnumber
  have hchannels : built.channelUsed = client.channelUsed ↔
      (requestedChannels built.request.header).isValid = false := by
    rw [hfilled.channels]
    exact setChannelPairUsed_eq fun hvalid => (hfilled.free hvalid).1
  rw [← claimed_timer, ← htimer, ← hpending, ← hchannels]
  constructor
  · exact fun h => ⟨h.timer, h.pending, h.channels⟩
  · rintro ⟨htimer, hpending, hchannels⟩
    exact ⟨hpending, htimer, hfilled.sessions, hchannels⟩

theorem failed_unchanged_iff {method : RtspMethodType} {userdata : Nat} {timeoutMs : UInt32}
    {call : ClientCall} {marked : Option RtspClientSession} {called : Called} {e : Errno}
    (hsent : client.PendingSent)
    (houtcome : CallOutcome env client method userdata timeoutMs false (call.stages env client)
      marked called) (herror : called.ret = .error e) :
    CallUnchanged client called.client ↔ call.FailsCleanly env client := by
  unfold ClientCall.FailsCleanly
  cases houtcome with
  | refused e hclaims => exact ⟨fun _ => .inl hclaims, fun _ => ⟨rfl, rfl, rfl, rfl⟩⟩
  | claimed e hclaim hclaims hlookups =>
      constructor
      · exact fun h => .inr ⟨(claimed_timer client).mp h.timer, .inl hlookups⟩
      · rintro (h | ⟨htimed, -⟩)
        · exact absurd hclaims h
        · exact ⟨rfl, (claimed_timer client).mpr htimed, rfl, rfl⟩
  | unnumbered e hclaim hclaims hlookups hreserves hunset =>
      have hpending : (newRequest (claimed client) method userdata).pendingRequest =
          client.pendingRequest ↔ client.request.isPending = false := by
        refine pendingRequest_eq ?_ ?_
        · rfl
        · intro hpending hsame
          have hagent := (hsent hpending).2
          rw [← hsame] at hagent
          cases hagent
      constructor
      · exact fun h =>
          .inr ⟨(claimed_timer client).mp h.timer, .inr ⟨hpending.mp h.pending, hreserves⟩⟩
      · rintro (h | ⟨htimed, h | ⟨hidle, -⟩⟩)
        · exact absurd hclaims h
        · exact absurd hlookups h
        · exact ⟨hpending.mpr hidle, (claimed_timer client).mpr htimed, rfl, rfl⟩
  | unsent e hclaim hclaims hlookups hreserves hfilled =>
      have hnone : (requestedChannels _).isValid = false ↔ ¬ _ :=
        Bool.not_eq_true _ ▸ not_congr hreserves
      rw [Called.failed, filled_unchanged_iff hsent hfilled, hnone]
      constructor
      · rintro ⟨htimed, hidle, hkept⟩
        exact .inr ⟨htimed, .inr ⟨hidle, hkept⟩⟩
      · rintro (h | ⟨htimed, h | ⟨hidle, hkept⟩⟩)
        · exact absurd hclaims h
        · exact absurd hlookups h
        · exact ⟨htimed, hidle, hkept⟩
  | sent message hclaim hmethod hfilled hagent hsock hsend => cases herror
  | tearsDown message hclaim hmethod hteardown hfilled hagent hsock hsend hfind => cases herror

/-! ## The pending request was sent -/

theorem CallUnchanged.pendingSent {after : RtspClient} (h : CallUnchanged client after)
    (hcseq : after.cseq = client.cseq) (hsent : client.PendingSent) : after.PendingSent := by
  intro hpending
  have hsame := h.pending
  unfold RtspClient.pendingRequest at hsame
  rw [if_pos hpending] at hsame
  split at hsame
  next hbefore =>
    rw [Option.some_inj, Prod.mk.injEq] at hsame
    rw [hsame.1, hcseq]
    exact hsent hbefore
  next => cases hsame

theorem pendingSent_of_idle (h : client.request.isPending = false) : client.PendingSent := by
  intro hpending
  rw [h] at hpending
  cases hpending

theorem pendingSent_of_request {after : RtspClient} (hrequest : after.request = client.request)
    (hcseq : after.cseq = client.cseq) (hsent : client.PendingSent) : after.PendingSent := by
  unfold RtspClient.PendingSent
  rw [hrequest, hcseq]
  exact hsent

theorem Filled.cseq {slot built : RtspClient} {method : RtspMethodType} {userdata : Nat}
    (h : Filled env slot built method userdata) : built.cseq = slot.cseq := by
  rw [h.same]

theorem Filled.pending {slot built : RtspClient} {method : RtspMethodType} {userdata : Nat}
    (h : Filled env slot built method userdata) :
    built.request.isPending = slot.request.isPending := by
  rw [h.same]

theorem CallOutcome.pendingSent {method : RtspMethodType} {userdata : Nat} {timeoutMs : UInt32}
    {internal : Bool} {stages : CallStages} {marked : Option RtspClientSession} {called : Called}
    (h : CallOutcome env client method userdata timeoutMs internal stages marked called)
    (hsent : client.PendingSent)
    (hfailed : ∀ e, called.ret = .error e →
      CallUnchanged client called.client ∨ client.request.isPending = false) :
    called.client.PendingSent := by
  have hnumbered : ∀ {built}, Filled env (Librtsp.claimed client) built method userdata →
      built.request.header.userAgent = some client.softwareName →
      (sentClient built timeoutMs).PendingSent := by
    intro built hfilled hagent hpending
    refine ⟨?_, ?_⟩
    · change built.request.header.cseq = (built.cseq + 1 - 1).toInt32
      rw [hfilled.number, hfilled.cseq, UInt32.add_sub_cancel]
    · change built.request.header.userAgent.isSome = true
      rw [hagent]
      rfl
  cases h with
  | refused e hclaims => exact hsent
  | claimed e hclaim hclaims hlookups => exact hsent
  | unnumbered e hclaim hclaims hlookups hreserves hunset =>
      rcases hfailed e rfl with hsame | hidle
      · exact hsame.pendingSent rfl hsent
      · exact pendingSent_of_idle hidle
  | unsent e hclaim hclaims hlookups hreserves hfilled =>
      rcases hfailed e rfl with hsame | hidle
      · exact hsame.pendingSent hfilled.cseq hsent
      · exact pendingSent_of_idle (hfilled.pending.trans hidle)
  | sent message hclaim hmethod hfilled hagent hsock hsend => exact hnumbered hfilled hagent
  | tearsDown message hclaim hmethod hteardown hfilled hagent hsock hsend hfind =>
      exact hnumbered hfilled hagent

theorem keepAliveComplete_request (session : Option RtspClientSession)
    (completion : Completion) :
    (keepAliveComplete client session completion).client.request = client.request := by
  unfold keepAliveComplete
  split
  next => rfl
  next =>
    split
    next =>
      dsimp only
      split
      next => rfl
      next => rfl
    next => rfl

/-- The end of a request leaves the slot as it is. -/
theorem CompletedMethod.request {session : Option RtspClientSession} {ended : EndedRequest}
    {resp : RtspResponseHeader} {completion : Completion} {p : Progress}
    (h : CompletedMethod client session ended resp completion p) :
    p.client.request = client.request := by
  cases h with
  | keepAlive hmethod => exact keepAliveComplete_request session completion
  | _ => rfl

theorem ClientChange.pendingSent {kinds : List ChangeKind} {client' : RtspClient}
    {events : List ClientEvent} (h : ClientChange env kinds client events client')
    (hcall : .call ∉ kinds) (hteardown : .teardown ∉ kinds) (hwf : client.WellFormed)
    (hsent : client.PendingSent) : client'.PendingSent := by
  induction h with
  | refl => exact hsent
  | trans hab hbc ihab ihbc => exact ihbc (hab.wellFormed hwf) (ihab hwf hsent)
  | linked haddr h =>
      apply pendingSent_of_request _ _ hsent
      · rw [h]
      · rw [h]
  | called hkind => exact absurd hkind hcall
  | tearsDown hkind => exact absurd hkind hteardown
  | completed hkind resp status hpending h =>
      apply pendingSent_of_idle
      rw [h.request]
      exact sessionOf_idle _ resp hwf
  | drafted hkind hpending => exact pendingSent_of_idle hpending
  | @keptAlive hkind client session header auth events hfind hpending hstate hheader hsession
      hagent hevents =>
      intro _
      refine ⟨?_, ?_⟩
      · change header.cseq = (client.cseq + 1 - 1).toInt32
        rw [hheader.number, UInt32.add_sub_cancel]
      · change header.userAgent.isSome = true
        rw [hagent]
        rfl
  | mediaAdded hkind hfind hadd =>
      apply pendingSent_of_request _ _ hsent
      · unfold rtspClientSessionMediaAdd at hadd
        split at hadd
        next =>
          cases hadd
          rfl
        next => cases hadd
      · unfold rtspClientSessionMediaAdd at hadd
        split at hadd
        next =>
          cases hadd
          rfl
        next => cases hadd
  | _ => exact hsent

end Failure

/-! ## Runs -/

section Runs

variable {E : HeaderEdit} {P : Platform}

variable (P) in
/-- The step is no call that fails, or one that fails cleanly. -/
def FailsCleanly (s : ClientState) (input : ClientEnv × ClientInput) : Prop :=
  ∀ call called e, input.2 = .call call →
    callRequest P input.1 s.client call = .ok called → called.ret = .error e →
      call.FailsCleanly input.1 s.client

/-- What holds in every state of such a run. -/
structure CallsClean (s : ClientState) : Prop where
  wellFormed : s.client.WellFormed
  orderly : Orderly s.client s.tasks
  sent : s.client.PendingSent

theorem callRequest_unchanged_iff {env : ClientEnv} {client : RtspClient} {call : ClientCall}
    {called : Called} {e : Errno} (hwf : client.WellFormed) (hsent : client.PendingSent)
    (h : callRequest P env client call = .ok called) (herror : called.ret = .error e) :
    CallUnchanged client called.client ↔ call.FailsCleanly env client := by
  obtain ⟨marked, called', houtcome, rfl⟩ := callRequest_outcome hwf.keys h
  rw [accept_client]
  apply failed_unchanged_iff hsent houtcome
  rw [accept_ret] at herror
  exact herror

theorem clientEnvStep_callsClean {s s' : ClientState} {input : ClientEnv × ClientInput}
    (hclean : CallsClean s) (hguard : FailsCleanly P s input)
    (h : clientEnvStep E P s input = .ok s') : CallsClean s' := by
  refine ⟨clientEnvStep_wellFormed hclean.wellFormed h,
    clientStep_orderly hclean.wellFormed hclean.orderly h, ?_⟩
  by_cases hcall : .call ∈ s.kinds input.2
  · obtain ⟨call, hinput⟩ := call_of_kinds hcall
    unfold clientEnvStep at h
    rw [hinput] at h
    obtain ⟨called, hcalled, hclient, -⟩ := clientStep_call h
    obtain ⟨marked, called', houtcome, rfl⟩ := callRequest_outcome hclean.wellFormed.keys hcalled
    rw [hclient, accept_client]
    refine houtcome.pendingSent hclean.sent fun e herror => .inl ?_
    rw [failed_unchanged_iff hclean.sent houtcome herror]
    exact hguard call _ e hinput hcalled ((accept_ret _ _ _).trans herror)
  · by_cases hteardown : .teardown ∈ s.kinds input.2
    · -- the client's own teardown starts when no request is pending
      obtain ⟨completion, rest, htasks⟩ := teardown_of_kinds hteardown
      obtain ⟨p, hp, rfl⟩ := clientStep_conclude htasks h
      obtain ⟨called, removed, hcalled, -, hchange, -⟩ :=
        @concludeRequestComplete_cases input.1 [] s.client P completion p hclean.wellFormed hp
      have hcalled : called.client.PendingSent ∧ called.client.WellFormed := by
        rcases hcalled with ⟨-, rfl⟩ | ⟨hinternal, marked, houtcome⟩
        · exact ⟨hclean.sent, hclean.wellFormed⟩
        · exact ⟨houtcome.pendingSent hclean.sent fun _ _ =>
              .inr (hclean.orderly.idle_of_teardown htasks hinternal),
            houtcome.wellFormed hclean.wellFormed⟩
      exact hchange.pendingSent List.not_mem_nil List.not_mem_nil hcalled.2 hcalled.1
    · obtain ⟨events, -, hchange⟩ := clientStep_changes hclean.wellFormed h
      exact hchange.pendingSent hcall hteardown hclean.wellFormed hclean.sent

/-- In a run whose failing calls fail cleanly, the next call that fails changes nothing
exactly when it fails cleanly. -/
theorem failedCall_unchanged_iff (softwareName : Option Bytes) (cbs : RtspClientCbs)
    (inputs : List (ClientEnv × ClientInput)) (s : ClientState) (env : ClientEnv)
    (call : ClientCall) (called : Called) (e : Errno)
    (hrun : Execution.run (clientEnvStep E P) (clientStart softwareName cbs) inputs = .ok s)
    (hclean : Execution.Guarded (clientEnvStep E P) (FailsCleanly P)
      (clientStart softwareName cbs) inputs)
    (hcall : callRequest P env s.client call = .ok called) (herror : called.ret = .error e) :
    CallUnchanged s.client called.client ↔ call.FailsCleanly env s.client := by
  have hstart : CallsClean (clientStart softwareName cbs) :=
    ⟨RtspClient.WellFormed.new softwareName cbs, .nil _, pendingSent_of_idle rfl⟩
  have hs := Execution.invariant CallsClean
    (fun _ _ _ hs hguard hstep => clientEnvStep_callsClean hs hguard hstep) hstart hclean hrun
  exact callRequest_unchanged_iff hs.wellFormed hs.sent hcall herror

/-- A run without calls. -/
theorem failsCleanly_of_noCall {s : ClientState} {inputs : List (ClientEnv × ClientInput)}
    (h : Execution.Guarded (clientEnvStep E P) (fun _ input => .call ∉ input.2.kinds) s inputs) :
    Execution.Guarded (clientEnvStep E P) (FailsCleanly P) s inputs := by
  refine Execution.Guarded.mono (fun s input hnone call called e hinput => ?_) h
  rw [hinput] at hnone
  exact absurd (.head _) hnone

end Runs

/-- A PLAY of a session the client does not know. -/
def unknownPlay : ClientCall :=
  .play (some (ascii "12345678")) (some {}) 0 {}

theorem unknownPlay_unchanged :
    ∃ s called, Execution.run (clientEnvStep .words .bare) (clientStart none {}) connectInputs =
        .ok s ∧
      callRequest .bare {} s.client unknownPlay = .ok called ∧ called.ret = .error .enoent ∧
        CallUnchanged s.client called.client := by
  have hrun : Execution.Reaches (clientEnvStep .words .bare)
      (fun s => (callRequest .bare {} s.client unknownPlay).map Called.ret =
          .ok (.error .enoent) ∧ s.client.sessions = [])
      (clientStart none {}) connectInputs := by decide +kernel
  obtain ⟨s, hs, hcall, hsessions⟩ := hrun
  obtain ⟨called, hcalled, hret⟩ := except_map_ok.mp hcall
  refine ⟨s, called, hs, hcalled, hret, ?_⟩
  refine (failedCall_unchanged_iff none {} connectInputs s {} unknownPlay called .enoent hs
    (failsCleanly_of_noCall (by decide +kernel)) hcalled hret).mpr (.inr ⟨?_, .inl ?_⟩)
  · unfold RtspClient.keepAliveTimed
    rw [hsessions]
    simp
  · change ¬ (rtspClientSessionFind s.client (some (ascii "12345678"))).isSome = true
    unfold rtspClientSessionFind
    rw [hsessions]
    simp

/-- A SETUP over TCP. -/
def tcpSetup : SetupArgs where
  contentBase := some (ascii "rtsp://a/s")
  resourceUrl := some (ascii "t")
  lowerTransport := .tcp

/-- A SETUP that cannot be sent keeps its channels. -/
theorem unsentSetup_keeps_channels :
    ∃ s called, Execution.run (clientEnvStep .words .bare) (clientStart none {}) connectInputs =
        .ok s ∧
      callRequest .bare { send := .error .eproto } s.client (.setup tcpSetup {}) = .ok called ∧
        called.ret = .error .eproto ∧ ¬ CallUnchanged s.client called.client := by
  have hrun : Execution.Reaches (clientEnvStep .words .bare)
      (fun s => (callRequest .bare { send := .error .eproto } s.client (.setup tcpSetup {})).map
          (fun called => (called.ret, called.client.channelUsed 0)) =
            .ok (.error .eproto, true) ∧ s.client.channelUsed 0 = false)
      (clientStart none {}) connectInputs := by decide +kernel
  obtain ⟨s, hs, hcall, hfree⟩ := hrun
  obtain ⟨called, hcalled, hret⟩ := except_map_ok.mp hcall
  rw [Prod.mk.injEq] at hret
  refine ⟨s, called, hs, hcalled, hret.1, fun hsame => ?_⟩
  rw [hsame.channels, hfree] at hret
  cases hret.2

end Librtsp
