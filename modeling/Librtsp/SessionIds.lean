import Librtsp.ServerKeys
import Librtsp.ClientSteps

/-!
# Looking a session up by its id

Server and client compare no more than the first `RTSP_SERVER_SESSION_ID_LENGTH`
characters of two ids, and add a session only when this comparison finds none.  In every
run the stored ids therefore differ in these characters, and a lookup finds the session
with this id and no other exactly when no stored id shares them with a different string.
-/

namespace Librtsp

open CString RecordList

/-! ## Comparing the first characters -/

section Lookup

variable {α : Type*} {id : α → Bytes} {n : Nat} {l : List α} {x : α}

/-- The lookup finds a record exactly when the name is its id. -/
def FindsNamed (id : α → Bytes) (l : List α) (name : Option Bytes) (found : Option α) : Prop :=
  ∀ x ∈ l, found = some x ↔ name = some (id x)

/-- A record that shares its first `n` characters with the name has this name. -/
def NamedByBeginning (id : α → Bytes) (n : Nat) (l : List α) (name : Option Bytes) : Prop :=
  ∀ x ∈ l, ∀ text, name = some text → strncmpEq (id x) text n = true → id x = text

instance decidableFindsNamed [DecidableEq α] (name : Option Bytes) (found : Option α) :
    Decidable (FindsNamed id l name found) :=
  inferInstanceAs (Decidable (∀ x ∈ l, found = some x ↔ name = some (id x)))

/-- The ids differ in their first `n` characters. -/
def BeginningsDistinct (id : α → Bytes) (n : Nat) (l : List α) : Prop :=
  (l.map fun x => (id x).take n).Nodup

theorem strncmpEq_iff {a b : Bytes} : strncmpEq a b n = true ↔ a.take n = b.take n := by
  simp [strncmpEq]

theorem BeginningsDistinct.find (hdistinct : BeginningsDistinct id n l) {text : Bytes} :
    l.find? (fun y => strncmpEq (id y) text n) = some x ↔
      x ∈ l ∧ strncmpEq (id x) text n = true := by
  constructor
  · intro h
    exact ⟨List.mem_of_find?_eq_some h, by simpa using List.find?_some h⟩
  · intro ⟨hmem, hsame⟩
    cases hfound : l.find? fun y => strncmpEq (id y) text n with
    | none => exact absurd hsame (List.find?_eq_none.mp hfound x hmem)
    | some y =>
        have hy := List.find?_some hfound
        rw [strncmpEq_iff] at hy hsame
        rw [List.inj_on_of_nodup_map hdistinct (List.mem_of_find?_eq_some hfound) hmem
          (hy.trans hsame.symm)]

/-- Among ids with distinct beginnings the lookup by the beginning is the lookup by the id
exactly when the name is the id of each record that begins like it. -/
theorem BeginningsDistinct.findsNamed_iff (hdistinct : BeginningsDistinct id n l)
    (name : Option Bytes) :
    FindsNamed id l name
        (name.bind fun text => l.find? fun y => strncmpEq (id y) text n) ↔
      NamedByBeginning id n l name := by
  cases name with
  | none => simp [FindsNamed, NamedByBeginning]
  | some text =>
      have hfind : ∀ x ∈ l, (l.find? (fun y => strncmpEq (id y) text n) = some x ↔
          strncmpEq (id x) text n = true) := fun x hx =>
        hdistinct.find.trans (and_iff_right hx)
      constructor
      · intro h x hx text' htext hsame
        cases htext
        have hname := (h x hx).mp ((hfind x hx).mpr hsame)
        cases hname
        rfl
      · intro h x hx
        refine (hfind x hx).trans ⟨fun hsame => ?_, fun hname => ?_⟩
        · rw [h x hx text rfl hsame]
        · cases hname
          exact strncmpEq_iff.mpr rfl

theorem BeginningsDistinct.of_ids {l' : List α} (hdistinct : BeginningsDistinct id n l)
    (h : (l'.map id).Sublist (l.map id)) : BeginningsDistinct id n l' := by
  have hbeginnings : ∀ l : List α,
      (l.map fun x => (id x).take n) = (l.map id).map (List.take n) := fun l => by
    rw [List.map_map]
    rfl
  unfold BeginningsDistinct at hdistinct ⊢
  rw [hbeginnings] at hdistinct ⊢
  exact hdistinct.sublist (h.map _)

/-- A record added when the lookup finds none begins like no other. -/
theorem BeginningsDistinct.append (hdistinct : BeginningsDistinct id n l)
    (hnew : l.find? (fun y => strncmpEq (id y) (id x) n) = none) :
    BeginningsDistinct id n (l ++ [x]) := by
  unfold BeginningsDistinct
  rw [List.map_append, List.nodup_append]
  refine ⟨hdistinct, by simp, ?_⟩
  intro a ha b hb heq
  obtain ⟨y, hy, rfl⟩ := List.mem_map.mp ha
  rw [List.map_singleton, List.mem_singleton] at hb
  exact List.find?_eq_none.mp hnew y hy (strncmpEq_iff.mpr (heq.trans hb))

end Lookup

/-! ## The server -/

/-- The ids of the server's sessions differ where they are compared. -/
def RtspServer.IdsDistinct (server : RtspServer) : Prop :=
  BeginningsDistinct RtspServerSession.sessionId rtspServerSessionIdLength server.sessions

theorem RtspServer.idsDistinct_iff_keys {server : RtspServer} :
    server.IdsDistinct ↔
      BeginningsDistinct Prod.snd rtspServerSessionIdLength server.keys := by
  unfold IdsDistinct BeginningsDistinct keys
  rw [List.map_map]
  rfl

theorem KeysChange.idsDistinct {server server' : RtspServer} (h : KeysChange server server')
    (hdistinct : server.IdsDistinct) : server'.IdsDistinct := by
  rw [RtspServer.idsDistinct_iff_keys] at hdistinct ⊢
  cases h with
  | fewer h => exact hdistinct.sublist (h.map _)
  | added session hnew h =>
      rw [h]
      apply hdistinct.append
      rw [RtspServer.keys, List.find?_map]
      exact Option.map_eq_none_iff.mpr hnew

theorem serverRun_idsDistinct {P : Platform} {softwareName : Option Bytes}
    {replyTimeoutMs sessionTimeoutMs : Int32} {cbs : RtspServerCbs}
    {inputs : List (Env × ServerInput)} {σ : ServerState}
    (h : Execution.run (envStep P)
      (serverStart softwareName replyTimeoutMs sessionTimeoutMs cbs) inputs = .ok σ) :
    σ.server.IdsDistinct := by
  refine (Execution.invariant (fun σ => σ.Consistent ∧ σ.server.IdsDistinct) ?_
    ⟨serverStart_consistent .., List.nodup_nil⟩
    (Execution.guarded_of_forall (fun _ _ => trivial) _ _) h).2
  intro σ input σ' hσ _ hstep
  exact ⟨serverStep_consistent hσ.1 hstep,
    (serverStep_keys hσ.1.wellFormed hstep).idsDistinct hσ.2⟩

/-! ## The client -/

namespace RtspClient

variable {client client' : RtspClient} {session : RtspClientSession}

/-- The ids of the client's sessions differ where they are compared. -/
def IdsDistinct (client : RtspClient) : Prop :=
  BeginningsDistinct RtspClientSession.id rtspClientSessionIdLength client.sessions

theorem IdsDistinct.same (hdistinct : client.IdsDistinct)
    (h : client'.sessions = client.sessions) : client'.IdsDistinct := by
  unfold IdsDistinct
  rwa [h]

/-- A session is replaced by itself. -/
theorem IdsDistinct.replaced (hdistinct : client.IdsDistinct) (hwf : client.WellFormed)
    {old : RtspClientSession} (hold : old ∈ client.sessions)
    (h : client'.sessions = replace RtspClientSession.addr session client.sessions)
    (haddr : session.addr = old.addr) (hid : session.id = old.id) : client'.IdsDistinct := by
  apply hdistinct.of_ids
  rw [h, map_replace_same _ hwf.keys hold haddr hid]

theorem IdsDistinct.appended (hdistinct : client.IdsDistinct)
    (hnew : rtspClientSessionFind client (some session.id) = none)
    (h : client'.sessions = client.sessions ++ [session]) : client'.IdsDistinct := by
  unfold IdsDistinct
  rw [h]
  exact hdistinct.append hnew

end RtspClient

section Changes

variable {env : ClientEnv} {kinds : List ChangeKind} {client client' : RtspClient}
  {events : List ClientEvent}

theorem CallOutcome.idsDistinct {method : RtspMethodType} {userdata : Nat}
    {timeoutMs : UInt32} {internal : Bool} {stages : CallStages}
    {marked : Option RtspClientSession} {called : Called}
    (h : CallOutcome env client method userdata timeoutMs internal stages marked called)
    (hwf : client.WellFormed) (hdistinct : client.IdsDistinct) : called.client.IdsDistinct := by
  obtain ⟨-, hsame | ⟨session, -, hfind, hsessions⟩⟩ := h.sessions
  · exact hdistinct.same hsame
  · exact hdistinct.replaced hwf (RtspClient.findSession_some hfind).1 hsessions rfl rfl

theorem sessionOf_idsDistinct (hwf : client.WellFormed) (hdistinct : client.IdsDistinct)
    (resp : RtspResponseHeader) : (sessionOf client resp).2.IdsDistinct := by
  have hreleased : (releasedClient client resp).IdsDistinct := by
    rw [releasedClient_eq]
    exact hdistinct
  have hwf' := releasedClient_wellFormed hwf resp
  have hcases := completeSession_cases hwf' client.request.header.method
    (responseSessionId client resp) resp.sessionTimeout
  change CompletedSession _ _ _ _ (sessionOf client resp) at hcases
  generalize sessionOf client resp = found at hcases
  cases hcases with
  | unknown hfind hadd => exact hreleased
  | known hfind =>
      exact hreleased.replaced hwf' (rtspClientSessionFind_mem hfind) rfl
        (answeredSession_addr ..) (answeredSession_id ..)
  | @added id hfind hmethod hid =>
      refine hreleased.appended ?_ rfl
      rwa [answeredSession_id, ← hid]

theorem keepAliveComplete_idsDistinct {session : Option RtspClientSession}
    {completion : Completion} (hwf : client.WellFormed) (hdistinct : client.IdsDistinct)
    (hfind : ∀ s, session = some s → client.findSession s.addr = some s) :
    (keepAliveComplete client session completion).client.IdsDistinct := by
  unfold keepAliveComplete
  split
  next => exact hdistinct
  next session =>
    have hmem := (RtspClient.findSession_some (hfind session rfl)).1
    split
    next =>
      dsimp only
      split
      next => exact hdistinct.replaced hwf hmem rfl rfl rfl
      next => exact hdistinct.replaced hwf hmem rfl rfl rfl
    next => exact hdistinct.replaced hwf hmem rfl rfl rfl

theorem CompletedMethod.idsDistinct {session : Option RtspClientSession}
    {ended : EndedRequest} {resp : RtspResponseHeader} {completion : Completion} {p : Progress}
    (h : CompletedMethod client session ended resp completion p) (hwf : client.WellFormed)
    (hdistinct : client.IdsDistinct)
    (hfind : ∀ s, session = some s → client.findSession s.addr = some s) :
    p.client.IdsDistinct := by
  cases h with
  | keepAlive hmethod => exact keepAliveComplete_idsDistinct hwf hdistinct hfind
  | _ => exact hdistinct.same rfl

theorem rtspClientSessionMediaAdd_idsDistinct {session : RtspClientSession}
    {path : Option Bytes} {pair : Option RtspChannelPair} (hwf : client.WellFormed)
    (hdistinct : client.IdsDistinct) (hmem : session ∈ client.sessions)
    (h : rtspClientSessionMediaAdd client session path pair = some client') :
    client'.IdsDistinct := by
  unfold rtspClientSessionMediaAdd at h
  split at h
  next =>
    cases h
    exact hdistinct.replaced hwf hmem rfl rfl rfl
  next => cases h

theorem ClientChange.idsDistinct (h : ClientChange env kinds client events client')
    (hwf : client.WellFormed) (hdistinct : client.IdsDistinct) : client'.IdsDistinct := by
  induction h with
  | refl => exact hdistinct
  | trans hab _ ihab ihbc => exact ihbc (hab.wellFormed hwf) (ihab hwf hdistinct)
  | told => exact hdistinct
  | answered => exact hdistinct
  | connecting => exact hdistinct
  | delivered => exact hdistinct
  | received => exact hdistinct
  | linked haddr h =>
      apply hdistinct.same
      rw [h]
  | forgotten => exact hdistinct
  | called _ call houtcome => exact houtcome.idsDistinct hwf hdistinct
  | tearsDown _ houtcome => exact houtcome.idsDistinct hwf hdistinct
  | completed _ resp status hpending h =>
      obtain ⟨hwf', hfind⟩ := sessionOf_wellFormed hwf resp
      exact h.idsDistinct hwf' (sessionOf_idsDistinct hwf hdistinct resp) hfind
  | expired => exact hdistinct
  | fired _ hfind =>
      exact hdistinct.replaced hwf (RtspClient.findSession_some hfind).1 rfl rfl rfl
  | rearmed _ hfind failed timerMsec =>
      exact hdistinct.replaced hwf (RtspClient.findSession_some hfind).1 rfl
        (RtspClient.resetKeepAliveTimer_addr _ _) (RtspClient.resetKeepAliveTimer_id _ _)
  | drafted => exact hdistinct
  | keptAlive _ hfind =>
      exact hdistinct.replaced hwf (RtspClient.findSession_some hfind).1 rfl rfl rfl
  | resumed _ hfind =>
      exact hdistinct.replaced hwf (RtspClient.findSession_some hfind).1 rfl
        (RtspClient.resetKeepAliveTimer_addr _ _) (RtspClient.resetKeepAliveTimer_id _ _)
  | unmarked hfind =>
      exact hdistinct.replaced hwf (RtspClient.findSession_some hfind).1 rfl rfl rfl
  | external => exact hdistinct
  | mediaAdded _ hfind hadd =>
      exact rtspClientSessionMediaAdd_idsDistinct hwf hdistinct
        (RtspClient.findSession_some hfind).1 hadd
  | mediaDropped hfind =>
      exact hdistinct.replaced hwf (RtspClient.findSession_some hfind).1 rfl rfl rfl
  | mediasDropped hfind =>
      exact hdistinct.replaced hwf (RtspClient.findSession_some hfind).1 rfl rfl rfl
  | unlinked => exact hdistinct.of_ids (List.filter_sublist.map _)

end Changes

theorem clientRun_idsDistinct {E : HeaderEdit} {P : Platform} {softwareName : Option Bytes}
    {cbs : RtspClientCbs} {s : ClientState} {inputs : List (ClientEnv × ClientInput)}
    (h : Execution.run (clientEnvStep E P) (clientStart softwareName cbs) inputs = .ok s) :
    s.client.WellFormed ∧ s.client.IdsDistinct := by
  refine Execution.invariant (fun s => s.client.WellFormed ∧ s.client.IdsDistinct) ?_
    ⟨RtspClient.WellFormed.new softwareName cbs, List.nodup_nil⟩
    (Execution.guarded_of_forall (fun _ _ => trivial) _ _) h
  intro s input s' hs _ hstep
  obtain ⟨events, -, hchange⟩ := clientStep_changes hs.1 hstep
  exact ⟨hchange.wellFormed hs.1, hchange.idsDistinct hs.1 hs.2⟩

/-- A session that `rtsp_client_get_session` has just added is not one of the stored. -/
theorem rtspClientGetSession_stored {client : RtspClient} (hwf : client.WellFormed)
    (sessionId : Option Bytes) (add : Bool) {session : RtspClientSession}
    (hmem : session ∈ client.sessions) :
    (rtspClientGetSession client sessionId add).map Prod.fst = some session ↔
      rtspClientSessionFind client sessionId = some session := by
  unfold rtspClientGetSession
  split
  next h => simp [h]
  next h => simp [h]
  next text h =>
    split
    next =>
      apply iff_of_false
      · intro hnew
        cases hnew
        exact (hwf.bounded _ hmem).ne rfl
      · simp [h]
    next => simp [h]

/-- In every run, on either side, a lookup is the lookup of the full id exactly when the
string is the id of each session it shares the first characters with. -/
theorem sessionLookup_exact_iff {E : HeaderEdit} {P : Platform}
    {softwareName clientName : Option Bytes} {replyTimeoutMs sessionTimeoutMs : Int32}
    {cbs : RtspServerCbs} {clientCbs : RtspClientCbs} {inputs : List (Env × ServerInput)}
    {clientInputs : List (ClientEnv × ClientInput)} {σ : ServerState} {s : ClientState}
    (hserver : Execution.run (envStep P)
      (serverStart softwareName replyTimeoutMs sessionTimeoutMs cbs) inputs = .ok σ)
    (hclient : Execution.run (clientEnvStep E P) (clientStart clientName clientCbs)
      clientInputs = .ok s) (sessionId : Bytes) (add : Bool) :
    (FindsNamed RtspServerSession.sessionId σ.server.sessions (some sessionId)
        (rtspServerSessionFind σ.server sessionId) ↔
      NamedByBeginning RtspServerSession.sessionId rtspServerSessionIdLength σ.server.sessions
        (some sessionId)) ∧
    (FindsNamed RtspClientSession.id s.client.sessions (some sessionId)
        (rtspClientSessionFind s.client (some sessionId)) ↔
      NamedByBeginning RtspClientSession.id rtspClientSessionIdLength s.client.sessions
        (some sessionId)) ∧
    (FindsNamed RtspClientSession.id s.client.sessions (some sessionId)
        ((rtspClientGetSession s.client (some sessionId) add).map Prod.fst) ↔
      NamedByBeginning RtspClientSession.id rtspClientSessionIdLength s.client.sessions
        (some sessionId)) := by
  obtain ⟨hwf, hdistinct⟩ := clientRun_idsDistinct hclient
  have hfind := hdistinct.findsNamed_iff (some sessionId)
  refine ⟨(serverRun_idsDistinct hserver).findsNamed_iff (some sessionId), hfind, ?_⟩
  refine Iff.trans (forall₂_congr fun session hmem => ?_) hfind
  exact iff_congr (rtspClientGetSession_stored hwf (some sessionId) add hmem) Iff.rfl

/-- The server draws 1 for the id of a session. -/
def firstSession : List (Env × ServerInput) :=
  let setup : RtspRequestHeader :=
    { method := .setup, uri := some (ascii "rtsp://h/p/a"), cseq := 1, transport := [{}] }
  [({ ids := [1] }, .receive 0 [.text (.request setup) []]), ({ ids := [1] }, .resume)]

/-- A client sets up a session that the server has named. -/
def gameSession : List (ClientEnv × ClientInput) :=
  let asked : SetupArgs :=
    { contentBase := some (ascii "rtsp://a/s"), resourceUrl := some (ascii "t")
      clientStreamPort := 1, clientControlPort := 2 }
  let response := ascii ("RTSP/1.0 200 OK\r\nCSeq: 1\r\nSession: gameroom-1\r\n" ++
    "Transport: RTP/AVP;unicast;client_port=1-2;server_port=3-4\r\n\r\n")
  connectInputs ++ undisturbed [.call (.setup asked {}), .data response, .resume]

theorem sessionLookup_exact_named :
    ∃ σ s,
      Execution.run (envStep .bare) (serverStart none 0 0 {}) firstSession = .ok σ ∧
      Execution.run (clientEnvStep .words .bare) (clientStart none {}) gameSession = .ok s ∧
      FindsNamed RtspServerSession.sessionId σ.server.sessions (some (ascii "gameroom-1"))
        (rtspServerSessionFind σ.server (ascii "gameroom-1")) ∧
      FindsNamed RtspClientSession.id s.client.sessions (some (ascii "gameroom-1"))
        (rtspClientSessionFind s.client (some (ascii "gameroom-1"))) := by
  have hserver : Execution.Reaches (envStep .bare)
      (fun σ => σ.server.sessions.map RtspServerSession.sessionId = [ascii "0000000000000001"])
      (serverStart none 0 0 {}) firstSession := by decide +kernel
  have hclient : Execution.Reaches (clientEnvStep .words .bare)
      (fun s => s.client.sessions.map RtspClientSession.id = [ascii "gameroom-1"])
      (clientStart none {}) gameSession := by decide +kernel
  obtain ⟨σ, hσ, hids⟩ := hserver
  obtain ⟨s, hs, hnames⟩ := hclient
  obtain ⟨hfind, hfind', -⟩ := sessionLookup_exact_iff hσ hs (ascii "gameroom-1") false
  refine ⟨σ, s, hσ, hs, hfind.mpr ?_, hfind'.mpr ?_⟩
  · intro session hmem text htext hsame
    have hid := List.mem_map_of_mem (f := RtspServerSession.sessionId) hmem
    rw [hids, List.mem_singleton] at hid
    cases htext
    rw [hid] at hsame
    exact absurd hsame (by decide)
  · intro session hmem text htext hsame
    have hid := List.mem_map_of_mem (f := RtspClientSession.id) hmem
    rw [hnames, List.mem_singleton] at hid
    cases htext
    exact hid

/-- A string that shares eight characters with an id finds the session. -/
theorem sessionLookup_byBeginning :
    Execution.Reaches (envStep .bare)
        (fun σ =>
          (rtspServerSessionFind σ.server (ascii "00000000")).map RtspServerSession.sessionId =
              some (ascii "0000000000000001") ∧
            ¬ FindsNamed RtspServerSession.sessionId σ.server.sessions (some (ascii "00000000"))
              (rtspServerSessionFind σ.server (ascii "00000000")))
        (serverStart none 0 0 {}) firstSession ∧
      Execution.Reaches (clientEnvStep .words .bare)
        (fun s =>
          (rtspClientSessionFind s.client (some (ascii "gameroom-2"))).map RtspClientSession.id =
              some (ascii "gameroom-1") ∧
            ¬ FindsNamed RtspClientSession.id s.client.sessions (some (ascii "gameroom-2"))
              (rtspClientSessionFind s.client (some (ascii "gameroom-2"))))
        (clientStart none {}) gameSession := by
  constructor
  · decide +kernel
  · decide +kernel

end Librtsp
