import Librtsp.ServerConsistency

/-!
# The medias of pending requests

A pending request keeps the addresses of medias: those its callbacks were made
for, and the one its SETUP callback was given.  A session or media is removed
when a TEARDOWN request ends, from the timer of the session, from the idle
callback after a failed SETUP, and by a forced teardown.  None of these looks at
the other pending requests.  `KeepsReferences` says that nothing another request
refers to is removed; then the medias of pending requests are there in every
state.
-/

namespace Librtsp

open CString RecordList

/-! ## The property -/

/-- The medias of the pending requests are medias of sessions of the server. -/
def RtspServer.MediasLive (server : RtspServer) : Prop :=
  ∀ request ∈ server.pendingRequests, ∀ media ∈ request.references,
    ∃ session ∈ server.sessions, ∃ m ∈ session.medias, m.addr = media

instance (server : RtspServer) : Decidable server.MediasLive :=
  inferInstanceAs (Decidable (∀ request ∈ server.pendingRequests, ∀ media ∈ request.references,
    ∃ session ∈ server.sessions, ∃ m ∈ session.medias, m.addr = media))

namespace Table

def HasMedia (t : Table) (media : Addr) : Prop :=
  ∃ e ∈ t.sessions, media ∈ e.medias.map Prod.fst

def MediasLive (t : Table) : Prop :=
  ∀ r ∈ t.requests, ∀ media ∈ r.references, t.HasMedia media

end Table

theorem RtspServer.table_mediasLive (server : RtspServer) :
    server.table.MediasLive ↔ server.MediasLive := by
  have hmedias : ∀ media, server.table.HasMedia media ↔
      ∃ session ∈ server.sessions, ∃ m ∈ session.medias, m.addr = media := by
    intro media
    constructor
    · intro ⟨e, he, hmem⟩
      obtain ⟨session, hsession, rfl⟩ := List.mem_map.mp he
      rw [RtspServerSession.entry_medias_fst] at hmem
      exact ⟨session, hsession, List.mem_map.mp hmem⟩
    · intro ⟨session, hsession, hmem⟩
      refine ⟨session.entry, RtspServer.entry_mem_sessions hsession, ?_⟩
      rw [RtspServerSession.entry_medias_fst]
      exact List.mem_map.mpr hmem
  have hrequests : server.table.MediasLive ↔
      ∀ request ∈ server.pendingRequests, ∀ media ∈ request.references,
        server.table.HasMedia media := by
    unfold Table.MediasLive
    exact List.forall_mem_map
  rw [hrequests]
  simp only [hmedias, RtspServer.MediasLive]

/-! ## The condition on a step -/

/-- A TEARDOWN request that ends takes no media along, and nothing is removed
from a session, that another pending request refers to. -/
structure KeepsReferences (P : Platform) (env : Env) (σ : ServerState) (input : ServerInput) :
    Prop where
  tornDown : ∀ l ∈ leaving P env σ input, l.tearsDown = true →
    ∀ e ∈ σ.server.table.sessions, l.clears = some e.addr →
      ∀ r ∈ σ.server.table.requests, r.addr ≠ l.request →
        ∀ media ∈ r.references, (media, true) ∉ e.medias
  removed : ∀ d ∈ dropped σ input, ∀ e ∈ σ.server.table.sessions, e.addr = d.1 →
    ∀ r ∈ σ.server.table.requests, ∀ media ∈ r.references, media ∈ e.medias.map Prod.fst →
      d.2 ≠ none ∧ d.2 ≠ some media

instance (P : Platform) (env : Env) (σ : ServerState) (input : ServerInput) :
    Decidable (KeepsReferences P env σ input) :=
  decidable_of_iff
    ((∀ l ∈ leaving P env σ input, l.tearsDown = true →
        ∀ e ∈ σ.server.table.sessions, l.clears = some e.addr →
          ∀ r ∈ σ.server.table.requests, r.addr ≠ l.request →
            ∀ media ∈ r.references, (media, true) ∉ e.medias) ∧
      ∀ d ∈ dropped σ input, ∀ e ∈ σ.server.table.sessions, e.addr = d.1 →
        ∀ r ∈ σ.server.table.requests, ∀ media ∈ r.references, media ∈ e.medias.map Prod.fst →
          d.2 ≠ none ∧ d.2 ≠ some media)
    ⟨fun h => ⟨h.1, h.2⟩, fun h => ⟨h.1, h.2⟩⟩

/-! ## Steps -/

section Steps

variable {P : Platform} {env : Env} {σ : ServerState} {input : ServerInput} {t : Table}
  {activity : Activity} {events : List ServerEvent}

/-- A session that keeps its medias leaves every media in place. -/
theorem hasMedia_setSession
    (hwf : t.WellFormed) {e e' : SessionEntry} {t' : Table} (he : e ∈ t.sessions)
    {media : Addr} (hmedia : t.HasMedia media)
    (hsessions : t'.sessions = (t.setSession e').sessions) (haddr : e'.addr = e.addr)
    (hkeeps : media ∈ e.medias.map Prod.fst → media ∈ e'.medias.map Prod.fst) :
    t'.HasMedia media := by
  obtain ⟨e₁, he₁, hmem⟩ := hmedia
  unfold Table.HasMedia
  rw [hsessions]
  by_cases hsame : e₁.addr = e.addr
  · have heq := hwf.session_unique he₁ he hsame
    subst heq
    exact ⟨e', (Table.mem_setSession_self he haddr).mpr (.inr rfl), hkeeps hmem⟩
  · exact ⟨e₁, (Table.mem_setSession_self he haddr).mpr (.inl ⟨he₁, hsame⟩), hmem⟩

/-- A request that leaves takes only the medias along that are torn down. -/
theorem hasMedia_leave
    (hwf : t.WellFormed) {l : Leaving} {media : Addr} (hmedia : t.HasMedia media)
    (hkeeps : l.tearsDown = true → ∀ e ∈ t.sessions, l.clears = some e.addr →
      (media, true) ∉ e.medias) :
    (t.leave l).HasMedia media := by
  obtain ⟨e, he, hmem⟩ := hmedia
  by_cases hclears : l.clears = some e.addr
  · obtain ⟨⟨m, mark⟩, hm, rfl⟩ := List.mem_map.mp hmem
    have hends : ∃ e', l.ends e = some e' ∧ m ∈ e'.medias.map Prod.fst := by
      unfold Leaving.ends
      split
      next htears =>
        have hmark : (m, mark) ∈ e.medias.filter (!·.2) := by
          cases mark with
          | false => exact List.mem_filter.mpr ⟨hm, rfl⟩
          | true => exact absurd hm (hkeeps htears e he hclears)
        have hsome : e.medias.all Prod.snd = false := by
          rw [List.all_eq_false]
          exact ⟨(m, mark), hm, by simpa using (List.mem_filter.mp hmark).2⟩
        rw [if_neg (by simp [hsome])]
        exact ⟨_, rfl, List.mem_map_of_mem hmark⟩
      next => exact ⟨_, rfl, hmem⟩
    obtain ⟨e', hend, hmem'⟩ := hends
    exact ⟨e', (Table.mem_leave hwf).mpr (.inr ⟨e, he, hclears, hend⟩), hmem'⟩
  · exact ⟨e, (Table.mem_leave hwf).mpr (.inl ⟨he, hclears⟩), hmem⟩

theorem Change.mediasLive
    (hwf : σ.server.table.WellFormed) (hlive : σ.server.table.MediasLive)
    (hguard : KeepsReferences P env σ input) (h : Change P env σ input t activity events) :
    t.MediasLive := by
  have hleave : ∀ l, leaving P env σ input = some l → (σ.server.table.leave l).MediasLive := by
    intro l hleaving r hr media hmedia
    rw [Table.leave_requests] at hr
    obtain ⟨hr, hother⟩ := Table.mem_removeRequest.mp hr
    apply hasMedia_leave hwf (hlive r hr media hmedia)
    intro htears e he hclears
    exact hguard.tornDown l hleaving htears e he hclears r hr hother media hmedia
  have hset : ∀ r' : RequestEntry, ∀ r ∈ σ.server.table.requests, r'.references = r.references →
      (σ.server.table.setRequest r').MediasLive := by
    intro r' r hr hreferences r₁ hr₁ media hmedia
    rcases Table.mem_setRequest.mp hr₁ with ⟨hr₁, -⟩ | ⟨rfl, -⟩
    · exact hlive r₁ hr₁ media hmedia
    · exact hlive r hr media (hreferences ▸ hmedia)
  cases h with
  | moves => exact hlive
  | admits harriving =>
      obtain ⟨-, -, hreferences, -⟩ := arriving_entry harriving
      intro r hr media hmedia
      rcases Table.mem_addRequest.mp hr with hr | rfl
      · exact hlive r hr media hmedia
      · simp [hreferences] at hmedia
  | refuses => exact hlive
  | mismatches _ _ _ _ he =>
      intro r hr media hmedia
      apply hasMedia_setSession hwf he (hlive r hr media hmedia)
      · rfl
      · rfl
      · exact id
  | answers => exact hlive
  | asks harriving =>
      obtain ⟨-, -, hreferences, -⟩ := arriving_entry harriving
      intro r hr media hmedia
      rcases Table.mem_addRequest.mp hr with hr | rfl
      · exact hlive r hr media hmedia
      · simp [hreferences] at hmedia
  | @starts request activity event e medias harriving hreceived hmethod he _ hmedias =>
      intro r hr media hmedia
      have hold : σ.server.table.HasMedia media := by
        rcases Table.mem_addRequest.mp hr with hr | rfl
        · exact hlive r hr media hmedia
        · exact ⟨e, he, hmedias.subset hmedia⟩
      apply hasMedia_setSession hwf he hold
      · rfl
      · rfl
      · rw [markMedias_fst]
        exact id
  | @joins request activity event e harriving hreceived hmethod he =>
      intro r hr media hmedia
      rcases Table.mem_addRequest.mp hr with hr | rfl
      · apply hasMedia_setSession hwf he (hlive r hr media hmedia)
        · rfl
        · rfl
        · intro hmem
          rw [List.map_append]
          exact List.mem_append_left _ hmem
      · have hjoined : { e with
            op := .setup
            medias := e.medias ++ [(σ.server.table.next + 1, false)] } ∈
            (σ.server.table.setSession { e with
              op := .setup
              medias := e.medias ++ [(σ.server.table.next + 1, false)] }).sessions :=
          Table.mem_setSession.mpr (.inr ⟨rfl, e, he, rfl⟩)
        refine ⟨_, hjoined, ?_⟩
        have hnew : media = σ.server.table.next + 1 := by simpa using hmedia
        rw [List.map_append, hnew]
        exact List.mem_append_right _ (by simp)
  | opens harriving =>
      intro r hr media hmedia
      rcases Table.mem_addRequest.mp hr with hr | rfl
      · obtain ⟨e, he, hmem⟩ := hlive r hr media hmedia
        exact ⟨e, Table.mem_addSession.mpr (.inl he), hmem⟩
      · refine ⟨_, Table.mem_addSession.mpr (.inr rfl), ?_⟩
        simpa using hmedia
  | answered hpending => exact hset _ _ (RtspServer.entry_mem_requests hpending) rfl
  | leaves _ _ _ hleaving => exact hleave _ hleaving
  | finishes _ _ _ hleaving => exact hleave _ hleaving
  | finishesSelf _ _ _ hleaving => exact hleave _ hleaving
  | returns hpending => exact hset _ _ (RtspServer.entry_mem_requests hpending) rfl
  | @drops session activity events hdropped =>
      intro r hr media hmedia
      obtain ⟨e, he, hmem⟩ := hlive r hr media hmedia
      refine ⟨e, Table.mem_removeSession.mpr ⟨he, ?_⟩, hmem⟩
      intro haddr
      exact (hguard.removed _ hdropped e he haddr r hr media hmedia hmem).1 rfl
  | @dropsMedia e media' activity events hdropped he =>
      intro r hr media hmedia
      apply hasMedia_setSession hwf he (hlive r hr media hmedia)
      · rfl
      · rfl
      · intro hmem
        have hother := (hguard.removed _ hdropped e he rfl r hr media hmedia hmem).2
        obtain ⟨entry, hentry, rfl⟩ := List.mem_map.mp hmem
        apply List.mem_map_of_mem (List.mem_filter.mpr ⟨hentry, _⟩)
        have hne : entry.1 ≠ media' := fun h => hother (congrArg some h.symm)
        simpa using hne
  | expires => exact hlive
  | sweeps =>
      intro r hr media hmedia
      exact hlive r (Table.mem_removeRequest.mp hr).1 media hmedia
  | sweepsOn =>
      intro r hr media hmedia
      exact hlive r (Table.mem_removeRequest.mp hr).1 media hmedia
  | disconnects conn =>
      intro r' hr' media hmedia
      obtain ⟨r, hr, heq, -⟩ := Table.mem_disconnect hr'
      rw [heq] at hmedia
      exact hlive r hr media hmedia

end Steps

/-! ## Runs -/

/-- The media a call of the interface replies for. -/
def ApiCall.media : ApiCall → Option Addr
  | .replyToSetup _ media _ => some media
  | call => call.mediaReply.map fun reply => reply.2.2.1

section Runs

variable {P : Platform} {env : Env} {σ : ServerState}

theorem replyToMedia_live
    {K : MediaReplyKind} {request media : Addr} {reply : MediaReply}
    (hmedia : (σ.server.mediaSession media).isSome) :
    replyToMedia P env σ.server K request media reply ≠ .error .useAfterFree := by
  obtain ⟨session, hsession⟩ := Option.isSome_iff_exists.mp hmedia
  unfold replyToMedia
  simp only [hsession]
  split
  next =>
    rw [lookupFailed_eq]
    split
    next => simp
    next => simp
  next =>
    split
    next => simp
    next => simp

theorem except_map_ne
    {ε α β : Type} {x : Except ε α} {e : ε} (f : α → β) (h : x ≠ .error e) :
    x.map f ≠ .error e := by
  cases x with
  | error e' => simpa [Except.map] using h
  | ok a => simp [Except.map]

/-- A reply for a media that is there does not work on a removed one. -/
theorem call_live
    {call : ApiCall} {media : Addr} (hcall : call.media = some media)
    (hmedia : (σ.server.mediaSession media).isSome) :
    serverStep P env σ (.call call) ≠ .error .useAfterFree := by
  unfold serverStep
  dsimp only
  split
  next =>
    cases call with
    | replyToDescribe => simp [callStep]
    | replyToAnnounce => simp [callStep]
    | replyToSetup request m reply =>
        cases hcall
        apply except_map_ne
        obtain ⟨session, hsession⟩ := Option.isSome_iff_exists.mp hmedia
        unfold rtspServerReplyToSetup
        simp only [hsession]
        split
        next => simp
        next => simp
    | replyToPlay =>
        cases hcall
        exact except_map_ne _ (replyToMedia_live hmedia)
    | replyToPause =>
        cases hcall
        exact except_map_ne _ (replyToMedia_live hmedia)
    | replyToRecord =>
        cases hcall
        exact except_map_ne _ (replyToMedia_live hmedia)
    | replyToTeardown =>
        cases hcall
        exact except_map_ne _ (replyToMedia_live hmedia)
    | forceTeardown => simp [callStep]
  next => simp

/-- In every run whose steps keep the references, the medias of pending requests
are there, and no reply for one of them works on a removed media or session. -/
theorem pendingReferences_live
    (softwareName : Option Bytes) (replyTimeoutMs sessionTimeoutMs : Int32)
    (cbs : RtspServerCbs) {inputs : List (Env × ServerInput)} {σ' : ServerState}
    (hguard : Execution.Guarded (envStep P) (fun σ input => KeepsReferences P input.1 σ input.2)
      (serverStart softwareName replyTimeoutMs sessionTimeoutMs cbs) inputs)
    (hrun : Execution.run (envStep P)
      (serverStart softwareName replyTimeoutMs sessionTimeoutMs cbs) inputs = .ok σ') :
    σ'.server.MediasLive ∧
      ∀ request ∈ σ'.server.pendingRequests, ∀ media ∈ request.references,
        ∀ env call, call.media = some media →
          serverStep P env σ' (.call call) ≠ .error .useAfterFree := by
  have hinvariant : σ'.Consistent ∧ σ'.server.MediasLive := by
    apply Execution.invariant (fun σ => σ.Consistent ∧ σ.server.MediasLive) _ _ hguard hrun
    · intro σ input σ₁ ⟨hconsistent, hlive⟩ hkeeps hstep
      obtain ⟨events, -, hchange⟩ := serverStep_changes hconsistent hstep
      refine ⟨hchange.consistent hconsistent, ?_⟩
      rw [← RtspServer.table_mediasLive] at hlive ⊢
      exact hchange.mediasLive hconsistent.wellFormed hlive hkeeps
    · refine ⟨serverStart_consistent .., ?_⟩
      simp [RtspServer.MediasLive, serverStart, rtspServerNew]
  refine ⟨hinvariant.2, ?_⟩
  intro request hrequest media hmedia env call hcall
  apply call_live hcall
  unfold RtspServer.mediaSession
  rw [List.find?_isSome]
  simpa using hinvariant.2 request hrequest media hmedia

end Runs

/-- A SETUP of one media, then a PLAY and a TEARDOWN request in a row. -/
def pipelinedTeardown : List (Env × ServerInput) :=
  let setup : RtspRequestHeader :=
    { method := .setup, uri := some (ascii "rtsp://h/p/a"), cseq := 1, transport := [{}] }
  let play : RtspRequestHeader :=
    { method := .play, uri := some (ascii "rtsp://h/p"), cseq := 2
      sessionId := some (ascii "0000000000000001") }
  let teardown : RtspRequestHeader := { play with method := .teardown, cseq := 3 }
  [({ ids := [1] }, .receive 0 [.text (.request setup) []]), ({ ids := [1] }, .resume),
    ({}, .call (.replyToSetup 0 2 { status := 200, srcStreamPort := 1, srcControlPort := 2 })),
    ({}, .resume), ({}, .resume),
    ({}, .receive 0 [.text (.request play) [], .text (.request teardown) []]), ({}, .resume),
    ({}, .resume), ({}, .resume), ({}, .resume), ({}, .resume)]

theorem pendingReferences_live_pipelined :
    Execution.Reaches (envStep .bare) (fun σ => σ.server.MediasLive) (serverStart none 0 0 {})
      pipelinedTeardown := by
  have hrun : Execution.Reaches (envStep .bare) (fun σ => σ.server.pendingRequests.length = 2)
      (serverStart none 0 0 {}) pipelinedTeardown := by
    decide +kernel
  obtain ⟨σ', hrun, -⟩ := hrun
  exact ⟨σ', hrun, (pendingReferences_live none 0 0 {} (by decide +kernel) hrun).1⟩

/-- The TEARDOWN request is answered first: the session goes, and the PLAY request
still refers to its media. -/
theorem pipelinedTeardown_dangles :
    Execution.Reaches (envStep .bare)
      (fun σ => ¬ σ.server.MediasLive ∧
        serverStep .bare {} σ (.call (.replyToPlay 3 2 { status := 200 })) =
          .error .useAfterFree)
      (serverStart none 0 0 {})
      (pipelinedTeardown ++ [(({} : Env), .call (.replyToTeardown 4 2 { status := 200 }))]) := by
  decide +kernel

end Librtsp
