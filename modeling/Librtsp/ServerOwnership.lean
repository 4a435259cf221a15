import Librtsp.ServerConsistency

/-!
# Who a media belongs to

A media is in the list of one session at most, and the medias a pending request
refers to are, as far as they still exist, medias of the session the request took
hold of.  Both hold along every run, whatever the application does.
-/

namespace Librtsp

open CString RecordList

/-- No two sessions share a media, and a request refers to medias of its own
session only. -/
structure Table.Owned (t : Table) : Prop where
  medias : ∀ e ∈ t.sessions, ∀ e' ∈ t.sessions, ∀ media ∈ e.medias.map Prod.fst,
    media ∈ e'.medias.map Prod.fst → e.addr = e'.addr
  references : ∀ r ∈ t.requests, ∀ media ∈ r.references, ∀ e ∈ t.sessions,
    media ∈ e.medias.map Prod.fst → r.target = some e.addr

namespace Table.Owned

variable {t t' : Table}

/-! ## Tables with fewer medias -/

/-- Every session and request was there before, a session with these medias at
least. -/
theorem of_fewer
    (hold : t.Owned)
    (hsessions : ∀ e' ∈ t'.sessions, ∃ e ∈ t.sessions, e'.addr = e.addr ∧
      ∀ media ∈ e'.medias.map Prod.fst, media ∈ e.medias.map Prod.fst)
    (hrequests : ∀ r' ∈ t'.requests, ∃ r ∈ t.requests, r'.target = r.target ∧
      r'.references = r.references) : t'.Owned where
  medias := by
    intro e₁ he₁ e₂ he₂ media hmem₁ hmem₂
    obtain ⟨e₁', he₁', haddr₁, hsub₁⟩ := hsessions e₁ he₁
    obtain ⟨e₂', he₂', haddr₂, hsub₂⟩ := hsessions e₂ he₂
    rw [haddr₁, haddr₂]
    exact hold.medias e₁' he₁' e₂' he₂' media (hsub₁ media hmem₁) (hsub₂ media hmem₂)
  references := by
    intro r' hr' media hmem e' he' hmedia
    obtain ⟨r, hr, htarget, hreferences⟩ := hrequests r' hr'
    obtain ⟨e, he, haddr, hsub⟩ := hsessions e' he'
    rw [htarget, haddr]
    exact hold.references r hr media (hreferences ▸ hmem) e he (hsub media hmedia)

theorem sessionsSelf (t : Table) : ∀ e' ∈ t.sessions, ∃ e ∈ t.sessions, e'.addr = e.addr ∧
    ∀ media ∈ e'.medias.map Prod.fst, media ∈ e.medias.map Prod.fst := by
  intro e he
  exact ⟨e, he, rfl, fun _ => id⟩

theorem requestsSelf (t : Table) : ∀ r' ∈ t.requests, ∃ r ∈ t.requests,
    r'.target = r.target ∧ r'.references = r.references := by
  intro r hr
  exact ⟨r, hr, rfl, rfl⟩

theorem setSession
    (hold : t.Owned) {e e' : SessionEntry} (he : e ∈ t.sessions) (haddr : e'.addr = e.addr)
    (hsub : ∀ media ∈ e'.medias.map Prod.fst, media ∈ e.medias.map Prod.fst) :
    (t.setSession e').Owned := by
  refine hold.of_fewer ?_ (requestsSelf t)
  intro e₁ he₁
  rcases mem_setSession.mp he₁ with ⟨he₁, -⟩ | ⟨rfl, -⟩
  · exact sessionsSelf t e₁ he₁
  · exact ⟨e, he, haddr, hsub⟩

theorem removeSession (hold : t.Owned) (session : Addr) : (t.removeSession session).Owned := by
  refine hold.of_fewer ?_ (requestsSelf t)
  intro e he
  exact sessionsSelf t e (mem_removeSession.mp he).1

theorem setRequest
    (hold : t.Owned) {r r' : RequestEntry} (hr : r ∈ t.requests) (htarget : r'.target = r.target)
    (hreferences : r'.references = r.references) : (t.setRequest r').Owned := by
  refine hold.of_fewer (sessionsSelf t) ?_
  intro r₁ hr₁
  rcases mem_setRequest.mp hr₁ with ⟨hr₁, -⟩ | ⟨rfl, -⟩
  · exact requestsSelf t r₁ hr₁
  · exact ⟨r, hr, htarget, hreferences⟩

theorem removeRequest (hold : t.Owned) (request : Addr) : (t.removeRequest request).Owned := by
  refine hold.of_fewer (sessionsSelf t) ?_
  intro r hr
  exact requestsSelf t r (mem_removeRequest.mp hr).1

theorem disconnect (hold : t.Owned) (conn : Conn) : (t.disconnect conn).Owned := by
  refine hold.of_fewer (sessionsSelf t) ?_
  intro r' hr'
  obtain ⟨r, hr, heq, -⟩ := mem_disconnect hr'
  rw [heq]
  exact ⟨r, hr, rfl, rfl⟩

theorem allocate (hold : t.Owned) (next : Addr) : (t.allocate next).Owned :=
  hold.of_fewer (sessionsSelf t) (requestsSelf t)

theorem leave (hold : t.Owned) (hwf : t.WellFormed) (l : Leaving) : (t.leave l).Owned := by
  apply hold.of_fewer
  · intro e' he'
    rcases (mem_leave hwf).mp he' with ⟨he', -⟩ | ⟨e, he, -, hends⟩
    · exact sessionsSelf t e' he'
    · refine ⟨e, he, ?_⟩
      unfold Leaving.ends at hends
      split at hends
      next =>
        split at hends
        next => cases hends
        next =>
          cases hends
          exact ⟨rfl, fun media hmem => (List.filter_sublist.map Prod.fst).subset hmem⟩
      next =>
        cases hends
        exact ⟨rfl, fun _ => id⟩
  · intro r hr
    rw [leave_requests] at hr
    exact requestsSelf t r (mem_removeRequest.mp hr).1

/-! ## Tables with a new request -/

/-- A request that refers to nothing. -/
theorem addRequest
    (hold : t.Owned) {r : RequestEntry}
    (hreferences : ∀ media ∈ r.references, ∀ e ∈ t.sessions, media ∈ e.medias.map Prod.fst →
      r.target = some e.addr) : (t.addRequest r).Owned where
  medias := hold.medias
  references := by
    intro r' hr'
    rcases mem_addRequest.mp hr' with hr' | rfl
    · exact hold.references r' hr'
    · exact hreferences

/-- A session whose medias are old ones of its own or new ones. -/
theorem growSession
    (hold : t.Owned) (hwf : t.WellFormed) {e : SessionEntry}
    (hmedias : ∀ media ∈ e.medias.map Prod.fst, t.next ≤ media ∨
      ∃ e₀ ∈ t.sessions, e₀.addr = e.addr ∧ media ∈ e₀.medias.map Prod.fst)
    (hsessions : ∀ e' ∈ t'.sessions, e' = e ∨ (e' ∈ t.sessions ∧ e'.addr ≠ e.addr))
    (hrequests : t'.requests = t.requests) : t'.Owned := by
  have hfresh : ∀ e' ∈ t.sessions, ∀ media ∈ e'.medias.map Prod.fst, media < t.next := by
    intro e' he' media hmem
    obtain ⟨m, hm, rfl⟩ := List.mem_map.mp hmem
    exact hwf.mediaBelow e' he' m hm
  have hold' : ∀ e' ∈ t.sessions, ∀ media ∈ e'.medias.map Prod.fst,
      media ∈ e.medias.map Prod.fst → e'.addr = e.addr := by
    intro e' he' media hmem hmem'
    rcases hmedias media hmem' with hnew | ⟨e₀, he₀, haddr, hmem₀⟩
    · exact absurd (hfresh e' he' media hmem) (Nat.not_lt.mpr hnew)
    · exact (hold.medias e' he' e₀ he₀ media hmem hmem₀).trans haddr
  constructor
  · intro e₁ he₁ e₂ he₂ media hmem₁ hmem₂
    rcases hsessions e₁ he₁ with rfl | ⟨he₁, -⟩
    · rcases hsessions e₂ he₂ with rfl | ⟨he₂, -⟩
      · rfl
      · exact (hold' e₂ he₂ media hmem₂ hmem₁).symm
    · rcases hsessions e₂ he₂ with rfl | ⟨he₂, -⟩
      · exact hold' e₁ he₁ media hmem₁ hmem₂
      · exact hold.medias e₁ he₁ e₂ he₂ media hmem₁ hmem₂
  · intro r hr media hreference e' he' hmem
    rw [hrequests] at hr
    rcases hsessions e' he' with rfl | ⟨he', -⟩
    · rcases hmedias media hmem with hnew | ⟨e₀, he₀, haddr, hmem₀⟩
      · exact absurd (hwf.referenceBelow r hr media hreference) (Nat.not_lt.mpr hnew)
      · rw [← haddr]
        exact hold.references r hr media hreference e₀ he₀ hmem₀
    · exact hold.references r hr media hreference e' he' hmem

end Table.Owned

/-! ## Steps -/

section Steps

variable {P : Platform} {env : Env} {σ : ServerState} {input : ServerInput} {t : Table}
  {activity : Activity} {events : List ServerEvent}

theorem Change.owned
    (hwf : σ.server.table.WellFormed) (hold : σ.server.table.Owned)
    (h : Change P env σ input t activity events) : t.Owned := by
  have hset : ∀ request ∈ σ.server.pendingRequests, ∀ r' : RequestEntry,
      r'.target = request.entry.target → r'.references = request.entry.references →
        (σ.server.table.setRequest r').Owned := by
    intro request hpending r' htarget hreferences
    exact hold.setRequest (RtspServer.entry_mem_requests hpending) htarget hreferences
  have hbare : ∀ request, arriving env σ input = some request → ∀ r : RequestEntry,
      r.references = request.entry.references → (σ.server.table.addRequest r).Owned := by
    intro request harriving r hreferences
    apply hold.addRequest
    intro media hmem
    rw [hreferences, (arriving_entry harriving).2.2.1] at hmem
    cases hmem
  cases h with
  | moves => exact hold
  | admits harriving => exact (hbare _ harriving _ rfl).allocate _
  | refuses => exact hold.allocate _
  | mismatches _ _ _ _ he =>
      apply Table.Owned.allocate
      exact hold.setSession he rfl fun _ => id
  | answers => exact hold.allocate _
  | asks harriving =>
      apply Table.Owned.allocate
      exact hbare _ harriving _ rfl
  | @starts request activity event e medias harriving hreceived hmethod he _ hmedias =>
      apply Table.Owned.allocate
      have hset' : (σ.server.table.setSession
          { e with
            op := request.requestHeader.method
            medias := markMedias request.requestHeader.method medias e.medias }).Owned :=
        hold.setSession he rfl fun media hmem => by simpa using hmem
      apply hset'.addRequest
      intro media hmem e' he' hmedia
      rcases Table.mem_setSession.mp he' with ⟨he', -⟩ | ⟨rfl, -⟩
      · rw [hold.medias e he e' he' media (hmedias.subset hmem) hmedia]
      · rfl
  | @joins request activity event e harriving hreceived hmethod he =>
      apply Table.Owned.allocate
      have haddr : ({ e with
          op := .setup
          medias := e.medias ++ [(σ.server.table.next + 1, false)] } : SessionEntry).addr =
          e.addr := rfl
      have hgrow : (σ.server.table.setSession
          { e with
            op := .setup
            medias := e.medias ++ [(σ.server.table.next + 1, false)] }).Owned := by
        apply @Table.Owned.growSession _ _ hold hwf
          { e with
            op := .setup
            medias := e.medias ++ [(σ.server.table.next + 1, false)] }
        · intro media hmem
          rw [List.map_append, List.mem_append] at hmem
          rcases hmem with hmem | hmem
          · exact .inr ⟨e, he, rfl, hmem⟩
          · rw [List.map_singleton, List.mem_singleton] at hmem
            exact .inl (hmem ▸ Nat.le_succ _)
        · intro e' he'
          rcases (Table.mem_setSession_self he haddr).mp he' with he' | rfl
          · exact .inr he'
          · exact .inl rfl
        · rfl
      apply hgrow.addRequest
      intro media hmem e' he' hmedia
      rw [List.mem_singleton] at hmem
      subst hmem
      rcases (Table.mem_setSession_self he haddr).mp he' with ⟨he', -⟩ | rfl
      · obtain ⟨m, hm, heq⟩ := List.mem_map.mp hmedia
        exact absurd (hwf.mediaBelow e' he' m hm) (heq ▸ Nat.not_lt.mpr (Nat.le_add_right _ _))
      · rfl
  | @opens request activity event harriving =>
      apply Table.Owned.allocate
      have hgrow : (σ.server.table.addSession
          { addr := σ.server.table.next + 1
            op := .setup
            medias := [(σ.server.table.next + 2, false)] }).Owned := by
        apply @Table.Owned.growSession _ _ hold hwf
          { addr := σ.server.table.next + 1
            op := .setup
            medias := [(σ.server.table.next + 2, false)] }
        · intro media hmem
          rw [List.map_singleton, List.mem_singleton] at hmem
          exact .inl (hmem ▸ Nat.le_add_right _ _)
        · intro e' he'
          rcases Table.mem_addSession.mp he' with he' | rfl
          · exact .inr ⟨he', ((hwf.sessionBelow e' he').trans (Nat.lt_succ_self _)).ne⟩
          · exact .inl rfl
        · rfl
      apply hgrow.addRequest
      intro media hmem e' he' hmedia
      rw [List.mem_singleton] at hmem
      subst hmem
      rcases Table.mem_addSession.mp he' with he' | rfl
      · obtain ⟨m, hm, heq⟩ := List.mem_map.mp hmedia
        exact absurd (hwf.mediaBelow e' he' m hm) (heq ▸ Nat.not_lt.mpr (Nat.le_add_right _ _))
      · rfl
  | answered hpending => exact hset _ hpending _ rfl rfl
  | leaves => exact hold.leave hwf _
  | finishes => exact hold.leave hwf _
  | finishesSelf => exact hold.leave hwf _
  | returns hpending => exact hset _ hpending _ rfl rfl
  | drops => exact hold.removeSession _
  | dropsMedia _ he =>
      exact hold.setSession he rfl fun media hmem =>
        (List.filter_sublist.map Prod.fst).subset hmem
  | expires => exact hold
  | sweeps => exact hold.removeRequest _
  | sweepsOn => exact hold.removeRequest _
  | disconnects conn => exact hold.disconnect conn

end Steps

/-! ## Runs -/

/-- What holds of the table in every reachable state. -/
theorem run_owned
    {P : Platform} {softwareName : Option Bytes} {replyTimeoutMs sessionTimeoutMs : Int32}
    {cbs : RtspServerCbs} {inputs : List (Env × ServerInput)} {σ : ServerState}
    (hrun : Execution.run (envStep P)
      (serverStart softwareName replyTimeoutMs sessionTimeoutMs cbs) inputs = .ok σ) :
    σ.Consistent ∧ σ.server.table.Owned := by
  apply Execution.invariant (fun σ => σ.Consistent ∧ σ.server.table.Owned) _ _
    (Execution.guarded_of_forall (fun _ _ => trivial) _ _) hrun
  · intro σ input σ' hσ _ hstep
    obtain ⟨events, -, hchange⟩ := serverStep_changes hσ.1 hstep
    exact ⟨hchange.consistent hσ.1, hchange.owned hσ.1.wellFormed hσ.2⟩
  · refine ⟨serverStart_consistent .., ?_, ?_⟩
    · simp [serverStart, rtspServerNew, RtspServer.table]
    · simp [serverStart, rtspServerNew, RtspServer.table]

end Librtsp
