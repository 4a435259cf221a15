import Librtsp.ServerConsistency

/-!
# What a TEARDOWN request takes away

A TEARDOWN request marks the medias it selects, and when it ends all marked
medias of its session are removed, whatever the answer was.  When it expires the
marks stay.  `TeardownAtomic` says what should become of the medias, and
`KeepsTeardown` under which conditions on the steps it does: a TEARDOWN request
that selects medias has its session for itself and is answered with success.
-/

namespace Librtsp

open CString RecordList

/-! ## The property -/

def statusIsSuccess (status : Int) : Bool :=
  200 ≤ status && status < 300

/-- The request has been answered with success. -/
def Succeeded (events : List ServerEvent) (request : Addr) : Prop :=
  ∃ event ∈ events, match event with
    | .response a _ status _ => a = request ∧ statusIsSuccess status = true
    | _ => False

instance (events : List ServerEvent) (request : Addr) : Decidable (Succeeded events request) :=
  have (event : ServerEvent) : Decidable (match event with
      | .response a _ status _ => a = request ∧ statusIsSuccess status = true
      | _ => False) := by
    cases event <;> infer_instance
  inferInstanceAs (Decidable (∃ event ∈ events, match event with
    | .response a _ status _ => a = request ∧ statusIsSuccess status = true
    | _ => False))

namespace Table

/-- The request is a TEARDOWN request that has selected medias of the session. -/
def IsTeardownOn (r : RequestEntry) (session : Addr) : Prop :=
  r.method = .teardown ∧ r.target = some session

instance (r : RequestEntry) (session : Addr) : Decidable (IsTeardownOn r session) :=
  inferInstanceAs (Decidable (_ ∧ _))

/-- The request has left the list. -/
def Left (t : Table) (request : Addr) : Prop :=
  ∀ r ∈ t.requests, r.addr ≠ request

instance (t : Table) (request : Addr) : Decidable (t.Left request) :=
  inferInstanceAs (Decidable (∀ r ∈ t.requests, r.addr ≠ request))

/-- The session loses exactly these medias, and is removed when none remains. -/
def Loses (t' : Table) (e : SessionEntry) (medias : List Addr) : Prop :=
  (∀ e' ∈ t'.sessions, e'.addr = e.addr →
    e'.medias = e.medias.filter fun m => m.1 ∉ medias) ∧
  ((∃ e' ∈ t'.sessions, e'.addr = e.addr) ↔ ∃ m ∈ e.medias, m.1 ∉ medias)

/-- The session keeps its medias, and these are not marked any more. -/
def GivesBack (t' : Table) (e : SessionEntry) (medias : List Addr) : Prop :=
  ∃ e' ∈ t'.sessions, e'.addr = e.addr ∧
    e'.medias = e.medias.map fun m => (m.1, m.2 && !medias.contains m.1)

instance (t' : Table) (e : SessionEntry) (medias : List Addr) :
    Decidable (t'.Loses e medias) :=
  inferInstanceAs (Decidable (_ ∧ _))

instance (t' : Table) (e : SessionEntry) (medias : List Addr) :
    Decidable (t'.GivesBack e medias) :=
  inferInstanceAs (Decidable (∃ e' ∈ t'.sessions, _))

end Table

/-- What a step, to the table `t'` and the events `events'`, does to the medias of a
session that a TEARDOWN request is on.  When the request leaves the list after an
answer with success, the session loses exactly the medias that request selected;
when it leaves otherwise the medias stay and are marked as before the request.  A
TEARDOWN request that is refused at once changes nothing.  No media goes without
such an answer, unless the step drops the session or the media itself (a timeout
or a forced teardown). -/
structure TeardownAtomic (env : Env) (σ : ServerState) (input : ServerInput) (t' : Table)
    (events' : List ServerEvent) : Prop where
  ended : ∀ r ∈ σ.server.table.requests, ∀ e ∈ σ.server.table.sessions,
    Table.IsTeardownOn r e.addr → t'.Left r.addr →
      if Succeeded events' r.addr then t'.Loses e r.references else t'.GivesBack e r.references
  refused : ∀ request ∈ arriving env σ input, request.requestHeader.method = .teardown →
    t'.Left request.addr →
      t'.sessions.map (fun e => (e.addr, e.medias)) =
        σ.server.table.sessions.map fun e => (e.addr, e.medias)
  onlyBy : ∀ e ∈ σ.server.table.sessions, ∀ m ∈ e.medias,
    (∀ e' ∈ t'.sessions, e'.addr = e.addr → m.1 ∉ e'.medias.map Prod.fst) →
      (∃ d ∈ dropped σ input, d.1 = e.addr) ∨
        ∃ r ∈ σ.server.table.requests, Table.IsTeardownOn r e.addr ∧ m.1 ∈ r.references ∧
          t'.Left r.addr ∧ Succeeded events' r.addr

instance (env : Env) (σ : ServerState) (input : ServerInput) (t' : Table)
    (events' : List ServerEvent) : Decidable (TeardownAtomic env σ input t' events') :=
  decidable_of_iff
    ((∀ r ∈ σ.server.table.requests, ∀ e ∈ σ.server.table.sessions,
        Table.IsTeardownOn r e.addr → t'.Left r.addr →
          if Succeeded events' r.addr then t'.Loses e r.references
          else t'.GivesBack e r.references) ∧
      (∀ request ∈ arriving env σ input, request.requestHeader.method = .teardown →
        t'.Left request.addr →
          t'.sessions.map (fun e => (e.addr, e.medias)) =
            σ.server.table.sessions.map fun e => (e.addr, e.medias)) ∧
      ∀ e ∈ σ.server.table.sessions, ∀ m ∈ e.medias,
        (∀ e' ∈ t'.sessions, e'.addr = e.addr → m.1 ∉ e'.medias.map Prod.fst) →
          (∃ d ∈ dropped σ input, d.1 = e.addr) ∨
            ∃ r ∈ σ.server.table.requests, Table.IsTeardownOn r e.addr ∧ m.1 ∈ r.references ∧
              t'.Left r.addr ∧ Succeeded events' r.addr)
    ⟨fun h => ⟨h.1, h.2.1, h.2.2⟩, fun h => ⟨h.1, h.2, h.3⟩⟩

/-! ## The condition on a step -/

def ServerInput.apiCall : ServerInput → Option ApiCall
  | .call api => some api
  | _ => none

/-- The request a call replies to. -/
def ApiCall.request : ApiCall → Option Addr
  | .replyToDescribe request _ _ _ => some request
  | .replyToAnnounce request _ _ => some request
  | .replyToSetup request _ _ => some request
  | call => call.mediaReply.map fun reply => reply.2.1

section Condition

variable (P : Platform) (env : Env) (σ : ServerState)

/-- The response header of the answer to a TEARDOWN request. -/
def teardownHeader (session : RtspServerSession) (request : RtspServerPendingRequest)
    (reply : MediaReply) : RtspResponseHeader :=
  rtspResponseHeaderCopyExt reply.ext
    (teardownKind.header session request.requestHeader
      (fillAnswer env σ.server reply.status request).responseHeader)

/-- A reply to TEARDOWN with a success status, for a media of the session the request is on;
the answer can be written and sent. -/
def AnswersWithSuccess (K : MediaReplyKind) (session : RtspServerSession)
    (request : RtspServerPendingRequest) (reply : MediaReply) : Prop :=
  K.tearsDown = true ∧ request.target = some session.addr ∧
    statusIsSuccess (rtspStatusGet reply.status).1 = true ∧ env.send = .ok () ∧
    (writeResponse P σ.server (teardownHeader env σ session request reply) none).isOk = true

/-- A reply for one media that the checks accept; the one that completes the answer
succeeds. -/
def RepliesWithSuccess (call : ApiCall) (request : RtspServerPendingRequest) : Prop :=
  ∃ reply ∈ call.mediaReply, ∃ session ∈ σ.server.mediaSession reply.2.2.1,
    judgeReply reply.1 session request reply.2.2.1 reply.2.2.2 = .accepted ∧
      ((markReplied reply.2.2.1 request.medias).all RtspServerPendingRequestMedia.replied →
        AnswersWithSuccess P env σ reply.1 session request reply.2.2.2)

/-- A TEARDOWN request that selects medias of a session arrives when no other is
pending there, is answered with success, and does not expire; a reply to TEARDOWN that is
given to another request finds no marked media. -/
structure KeepsTeardown (input : ServerInput) : Prop where
  alone : ∀ request ∈ arriving env σ input, request.requestHeader.method = .teardown →
    ∀ session ∈ namedBy σ.server request, selectsMedia request session = true →
      ∀ r ∈ σ.server.table.requests, ¬ Table.IsTeardownOn r session.addr
  replies : ∀ call ∈ input.apiCall, ∀ request ∈ σ.server.pendingRequests,
    call.request = some request.addr → ∀ e ∈ σ.server.table.sessions,
      Table.IsTeardownOn request.entry e.addr → RepliesWithSuccess P env σ call request
  stays : ∀ l ∈ leaving P env σ input, l.clears = none → ∀ r ∈ σ.server.table.requests,
    r.addr = l.request → ∀ e ∈ σ.server.table.sessions, ¬ Table.IsTeardownOn r e.addr
  removes : ∀ l ∈ leaving P env σ input, l.tearsDown = true → ∀ e ∈ σ.server.table.sessions,
    l.clears = some e.addr →
      (∃ r ∈ σ.server.table.requests, r.addr = l.request ∧ Table.IsTeardownOn r e.addr) ∨
        l.ends e = some { e with op := .unknown }

instance (K : MediaReplyKind) (session : RtspServerSession)
    (request : RtspServerPendingRequest) (reply : MediaReply) :
    Decidable (AnswersWithSuccess P env σ K session request reply) :=
  inferInstanceAs (Decidable (_ ∧ _))

instance (call : ApiCall) (request : RtspServerPendingRequest) :
    Decidable (RepliesWithSuccess P env σ call request) :=
  inferInstanceAs (Decidable (∃ reply ∈ call.mediaReply, _))

instance (input : ServerInput) : Decidable (KeepsTeardown P env σ input) :=
  decidable_of_iff
    ((∀ request ∈ arriving env σ input, request.requestHeader.method = .teardown →
        ∀ session ∈ namedBy σ.server request, selectsMedia request session = true →
          ∀ r ∈ σ.server.table.requests, ¬ Table.IsTeardownOn r session.addr) ∧
      (∀ call ∈ input.apiCall, ∀ request ∈ σ.server.pendingRequests,
        call.request = some request.addr → ∀ e ∈ σ.server.table.sessions,
          Table.IsTeardownOn request.entry e.addr → RepliesWithSuccess P env σ call request) ∧
      (∀ l ∈ leaving P env σ input, l.clears = none → ∀ r ∈ σ.server.table.requests,
        r.addr = l.request → ∀ e ∈ σ.server.table.sessions, ¬ Table.IsTeardownOn r e.addr) ∧
      ∀ l ∈ leaving P env σ input, l.tearsDown = true → ∀ e ∈ σ.server.table.sessions,
        l.clears = some e.addr →
          (∃ r ∈ σ.server.table.requests, r.addr = l.request ∧ Table.IsTeardownOn r e.addr) ∨
            l.ends e = some { e with op := .unknown })
    ⟨fun h => ⟨h.1, h.2.1, h.2.2.1, h.2.2.2⟩, fun h => ⟨h.1, h.2, h.3, h.4⟩⟩

end Condition

/-! ## Marks -/

namespace Table

/-- A pending TEARDOWN request on the session has selected the media. -/
def Selected (t : Table) (session media : Addr) : Prop :=
  ∃ r ∈ t.requests, IsTeardownOn r session ∧ media ∈ r.references

/-- Medias are marked by the pending TEARDOWN request of their session, of which
there is at most one; if it has been replied to, then with success. -/
structure TeardownsAgree (t : Table) (events : List ServerEvent) : Prop where
  marks : ∀ e ∈ t.sessions, ∀ m ∈ e.medias, m.2 = true ↔ t.Selected e.addr m.1
  alone : ∀ r ∈ t.requests, ∀ r' ∈ t.requests, ∀ session,
    IsTeardownOn r session → IsTeardownOn r' session → r.addr = r'.addr
  answered : ∀ r ∈ t.requests, ∀ e ∈ t.sessions, IsTeardownOn r e.addr → r.replied = true →
    Succeeded events r.addr

/-- If the request that leaves is a TEARDOWN request on a session, it ends there
and has been answered with success. -/
def EndsTeardown (t : Table) (l : Leaving) (events : List ServerEvent) : Prop :=
  ∀ r ∈ t.requests, r.addr = l.request → ∀ e ∈ t.sessions, IsTeardownOn r e.addr →
    l.clears = some e.addr ∧ l.tearsDown = true ∧ Succeeded events r.addr

end Table

theorem Succeeded.append
    {events : List ServerEvent} {request : Addr} (h : Succeeded events request)
    (more : List ServerEvent) : Succeeded (events ++ more) request := by
  obtain ⟨event, hevent, hsuccess⟩ := h
  exact ⟨event, List.mem_append_left _ hevent, hsuccess⟩

theorem Succeeded.prepend
    (events : List ServerEvent) {more : List ServerEvent} {request : Addr}
    (h : Succeeded more request) : Succeeded (events ++ more) request := by
  obtain ⟨event, hevent, hsuccess⟩ := h
  exact ⟨event, List.mem_append_right _ hevent, hsuccess⟩

section Steps

variable {P : Platform} {env : Env} {σ : ServerState} {input : ServerInput} {t : Table}
  {activity : Activity} {events more : List ServerEvent}

/-- The TEARDOWN requests stay as they are, and sessions get no medias but old
ones and unmarked new ones. -/
theorem teardownsAgree_of_same
    {t' : Table} (hold : t.TeardownsAgree events)
    (hmedias : ∀ e' ∈ t'.sessions, ∀ m ∈ e'.medias,
      (∃ e ∈ t.sessions, e.addr = e'.addr ∧ m ∈ e.medias) ∨
        (m.2 = false ∧ ∀ r ∈ t.requests, m.1 ∉ r.references))
    (hsessions : ∀ e' ∈ t'.sessions, (∃ e ∈ t.sessions, e.addr = e'.addr) ∨
      ∀ r ∈ t.requests, r.target ≠ some e'.addr)
    (hback : ∀ r' ∈ t'.requests, ∀ session, Table.IsTeardownOn r' session →
      ∃ r ∈ t.requests, r.addr = r'.addr ∧ Table.IsTeardownOn r session ∧
        r.references = r'.references ∧
        (r'.replied = true → r.replied = true ∨
          ((∃ e ∈ t.sessions, e.addr = session) → Succeeded more r.addr)))
    (hforth : ∀ r ∈ t.requests, ∀ session, Table.IsTeardownOn r session →
      ∃ r' ∈ t'.requests, r'.references = r.references ∧ Table.IsTeardownOn r' session) :
    t'.TeardownsAgree (events ++ more) where
  marks := by
    intro e' he' m hm
    have hselected : t'.Selected e'.addr m.1 ↔ t.Selected e'.addr m.1 := by
      constructor
      · intro h
        obtain ⟨r', hr', htear, hmem⟩ := h
        obtain ⟨r, hr, -, htear', hreferences, -⟩ := hback r' hr' _ htear
        exact ⟨r, hr, htear', hreferences ▸ hmem⟩
      · intro h
        obtain ⟨r, hr, htear, hmem⟩ := h
        obtain ⟨r', hr', hreferences, htear'⟩ := hforth r hr _ htear
        exact ⟨r', hr', htear', hreferences ▸ hmem⟩
    rw [hselected]
    rcases hmedias e' he' m hm with ⟨e, he, haddr, hm'⟩ | ⟨hmark, hnew⟩
    · rw [← haddr]
      exact hold.marks e he m hm'
    · rw [hmark]
      apply iff_of_false (by simp)
      intro h
      obtain ⟨r, hr, -, hmem⟩ := h
      exact hnew r hr hmem
  alone := by
    intro r hr r' hr' session htear htear'
    obtain ⟨r₁, hr₁, haddr₁, htear₁, -⟩ := hback r hr session htear
    obtain ⟨r₂, hr₂, haddr₂, htear₂, -⟩ := hback r' hr' session htear'
    rw [← haddr₁, ← haddr₂]
    exact hold.alone r₁ hr₁ r₂ hr₂ session htear₁ htear₂
  answered := by
    intro r' hr' e' he' htear hreplied
    obtain ⟨r, hr, haddr, htear', -, hreplied'⟩ := hback r' hr' _ htear
    rcases hsessions e' he' with ⟨e, he, heq⟩ | hnone
    · rw [← haddr]
      rcases hreplied' hreplied with hreplied | hmore
      · exact (hold.answered r hr e he (heq ▸ htear') hreplied).append more
      · exact Succeeded.prepend events (hmore ⟨e, he, heq⟩)
    · exact absurd htear'.2 (hnone r hr)

/-- The requests stay. -/
theorem teardownsAgree_sessions
    {t' : Table} (hold : t.TeardownsAgree events) (hrequests : t'.requests = t.requests)
    (hmedias : ∀ e' ∈ t'.sessions, ∀ m ∈ e'.medias,
      (∃ e ∈ t.sessions, e.addr = e'.addr ∧ m ∈ e.medias) ∨
        (m.2 = false ∧ ∀ r ∈ t.requests, m.1 ∉ r.references))
    (hsessions : ∀ e' ∈ t'.sessions, (∃ e ∈ t.sessions, e.addr = e'.addr) ∨
      ∀ r ∈ t.requests, r.target ≠ some e'.addr) :
    t'.TeardownsAgree (events ++ more) := by
  apply teardownsAgree_of_same hold hmedias hsessions
  · intro r hr session htear
    exact ⟨r, hrequests ▸ hr, rfl, htear, rfl, .inl⟩
  · intro r hr session htear
    exact ⟨r, hrequests ▸ hr, rfl, htear⟩

/-- The sessions are some of those before, with some of their medias. -/
theorem teardownsAgree_shrink
    {t' : Table} (hold : t.TeardownsAgree events) (hrequests : t'.requests = t.requests)
    (hsessions : ∀ e' ∈ t'.sessions, ∃ e ∈ t.sessions, e.addr = e'.addr ∧ e'.medias ⊆ e.medias) :
    t'.TeardownsAgree (events ++ more) := by
  apply teardownsAgree_sessions hold hrequests
  · intro e' he' m hm
    obtain ⟨e, he, haddr, hsub⟩ := hsessions e' he'
    exact .inl ⟨e, he, haddr, hsub hm⟩
  · intro e' he'
    obtain ⟨e, he, haddr, -⟩ := hsessions e' he'
    exact .inl ⟨e, he, haddr⟩

theorem Table.TeardownsAgree.append
    (hold : t.TeardownsAgree events) (more : List ServerEvent) :
    t.TeardownsAgree (events ++ more) :=
  teardownsAgree_shrink hold rfl fun e he => ⟨e, he, rfl, List.Subset.refl _⟩

theorem Table.TeardownsAgree.allocate
    (hold : t.TeardownsAgree events) (next : Addr) : (t.allocate next).TeardownsAgree events :=
  ⟨hold.marks, hold.alone, hold.answered⟩

/-- A request that tears down no session is added. -/
theorem Table.TeardownsAgree.addOther
    (hold : t.TeardownsAgree events) {r : RequestEntry}
    (hother : ∀ session, ¬ IsTeardownOn r session) : (t.addRequest r).TeardownsAgree events := by
  have hagree : (t.addRequest r).TeardownsAgree (events ++ []) := by
    apply teardownsAgree_of_same hold
    · intro e he m hm
      exact .inl ⟨e, he, rfl, hm⟩
    · intro e he
      exact .inl ⟨e, he, rfl⟩
    · intro r' hr' session htear
      rcases Table.mem_addRequest.mp hr' with hr' | rfl
      · exact ⟨r', hr', rfl, htear, rfl, .inl⟩
      · exact absurd htear (hother session)
    · intro r' hr' session htear
      exact ⟨r', Table.mem_addRequest.mpr (.inl hr'), rfl, htear⟩
  simpa using hagree

/-- A request keeps its method, its session and its medias. -/
theorem teardownsAgree_setRequest
    (hwf : t.WellFormed) (hold : t.TeardownsAgree events) {r r' : RequestEntry}
    (hr : r ∈ t.requests) (haddr : r'.addr = r.addr) (hmethod : r'.method = r.method)
    (htarget : r'.target = r.target) (hreferences : r'.references = r.references)
    (hreplied : r'.replied = true → r.replied = true ∨
      ∀ e ∈ t.sessions, Table.IsTeardownOn r e.addr → Succeeded more r.addr) :
    (t.setRequest r').TeardownsAgree (events ++ more) := by
  apply teardownsAgree_of_same hold
  · intro e he m hm
    exact .inl ⟨e, he, rfl, hm⟩
  · intro e he
    exact .inl ⟨e, he, rfl⟩
  · intro r₁ hr₁ session htear
    rcases Table.mem_setRequest.mp hr₁ with ⟨hr₁, -⟩ | ⟨rfl, -⟩
    · exact ⟨r₁, hr₁, rfl, htear, rfl, .inl⟩
    · have htear' : Table.IsTeardownOn r session := ⟨hmethod ▸ htear.1, htarget ▸ htear.2⟩
      refine ⟨r, hr, haddr.symm, htear', hreferences.symm, ?_⟩
      intro h
      rcases hreplied h with hbefore | hnow
      · exact .inl hbefore
      · refine .inr ?_
        intro hlive
        obtain ⟨e, he, rfl⟩ := hlive
        exact hnow e he htear'
  · intro r₁ hr₁ session htear
    by_cases hsame : r₁.addr = r.addr
    · have heq := hwf.request_unique hr₁ hr hsame
      subst heq
      refine ⟨r', Table.mem_setRequest.mpr (.inr ⟨rfl, r₁, hr₁, haddr.symm⟩), hreferences, ?_⟩
      exact ⟨hmethod.trans htear.1, htarget.trans htear.2⟩
    · exact ⟨r₁, Table.mem_setRequest.mpr (.inl ⟨hr₁, haddr ▸ hsame⟩), rfl, htear⟩

/-- A TEARDOWN request marks the medias it selects, in a session that no other
one is on. -/
theorem teardownsAgree_starts
    (hold : t.TeardownsAgree events) {e : SessionEntry} (he : e ∈ t.sessions)
    {e₁ : SessionEntry} {selected : List Addr} {r : RequestEntry} (haddr : e₁.addr = e.addr)
    (hmedias : e₁.medias = markMedias .teardown selected e.medias)
    (htear : Table.IsTeardownOn r e.addr) (hreferences : r.references = selected)
    (hreplied : r.replied = false)
    (hfree : ∀ r' ∈ t.requests, ¬ Table.IsTeardownOn r' e.addr) :
    ((t.setSession e₁).addRequest r).TeardownsAgree events where
  marks := by
    intro e' he' m hm
    have hselected : ∀ session media, ((t.setSession e₁).addRequest r).Selected session media ↔
        t.Selected session media ∨ (session = e.addr ∧ media ∈ selected) := by
      intro session media
      constructor
      · intro h
        obtain ⟨r', hr', htear', hmem⟩ := h
        rcases Table.mem_addRequest.mp hr' with hr' | rfl
        · exact .inl ⟨r', hr', htear', hmem⟩
        · have hsession := htear'.2.symm.trans htear.2
          exact .inr ⟨Option.some.inj hsession, hreferences ▸ hmem⟩
      · intro h
        rcases h with ⟨r', hr', htear', hmem⟩ | ⟨rfl, hmem⟩
        · exact ⟨r', Table.mem_addRequest.mpr (.inl hr'), htear', hmem⟩
        · exact ⟨r, Table.mem_addRequest.mpr (.inr rfl), htear, hreferences ▸ hmem⟩
    rw [hselected]
    rcases (Table.mem_setSession_self he haddr).mp he' with ⟨he', hother⟩ | rfl
    · rw [hold.marks e' he' m hm]
      simp [hother]
    · rw [hmedias] at hm
      obtain ⟨m₀, hm₀, rfl⟩ := List.mem_map.mp hm
      have hunmarked : ¬ t.Selected e.addr m₀.1 := by
        intro h
        obtain ⟨r', hr', htear', -⟩ := h
        exact hfree r' hr' htear'
      have hmark : ¬ m₀.2 = true := fun h => hunmarked ((hold.marks e he m₀ hm₀).mp h)
      simp [haddr, hmark, hunmarked]
  alone := by
    intro r₁ hr₁ r₂ hr₂ session htear₁ htear₂
    rcases Table.mem_addRequest.mp hr₁ with hmem₁ | hnew₁
    · rcases Table.mem_addRequest.mp hr₂ with hmem₂ | hnew₂
      · exact hold.alone r₁ hmem₁ r₂ hmem₂ session htear₁ htear₂
      · rw [hnew₂] at htear₂
        have hsession := Option.some.inj (htear₂.2.symm.trans htear.2)
        exact absurd (hsession ▸ htear₁) (hfree r₁ hmem₁)
    · rcases Table.mem_addRequest.mp hr₂ with hmem₂ | hnew₂
      · rw [hnew₁] at htear₁
        have hsession := Option.some.inj (htear₁.2.symm.trans htear.2)
        exact absurd (hsession ▸ htear₂) (hfree r₂ hmem₂)
      · rw [hnew₁, hnew₂]
  answered := by
    intro r' hr' e' he' htear' hreplied'
    rcases Table.mem_addRequest.mp hr' with hr' | rfl
    · rcases (Table.mem_setSession_self he haddr).mp he' with ⟨he', -⟩ | rfl
      · exact hold.answered r' hr' e' he' htear' hreplied'
      · exact absurd (haddr ▸ htear') (hfree r' hr')
    · rw [hreplied] at hreplied'
      simp at hreplied'

/-! ## Answers to TEARDOWN requests -/

theorem attemptResponse_sends
    {request : RtspServerPendingRequest} {conn : Conn} {body : Option Bytes} {message : Bytes}
    (hwrite : writeResponse P σ.server request.responseHeader body = .ok message)
    (hsend : env.send = .ok ()) :
    attemptResponse P env σ.server request conn body =
      { request
        events := [.response request.addr conn request.responseHeader.statusCode message] } := by
  unfold attemptResponse
  rw [hwrite]
  simp [hsend, sendResponse]

theorem not_repliesWithSuccess {call : ApiCall} {request : RtspServerPendingRequest}
    (hcall : call.mediaReply = none) : ¬ RepliesWithSuccess P env σ call request := by
  rintro ⟨reply, hreply, -⟩
  rw [hcall] at hreply
  cases hreply

/-- Only one of the reply functions tears down. -/
theorem mediaReply_tearsDown {call : ApiCall} {K : MediaReplyKind} {a media : Addr}
    {reply : MediaReply} (hcall : call.mediaReply = some (K, a, media, reply))
    (htears : K.tearsDown = true) : call = .replyToTeardown a media reply ∧ K = teardownKind := by
  cases call with
  | replyToTeardown a' media' reply' =>
      cases hcall
      exact ⟨rfl, rfl⟩
  | replyToPlay =>
      cases hcall
      cases htears
  | replyToPause =>
      cases hcall
      cases htears
  | replyToRecord =>
      cases hcall
      cases htears
  | _ => cases hcall

/-- An accepted reply makes the answer when every media has been replied to. -/
theorem replyAttempt_completes {K : MediaReplyKind}
    {session session' : RtspServerSession} {request : RtspServerPendingRequest} {media : Addr}
    {reply : MediaReply} {attempt : Attempt}
    (haccepted : judgeReply K session request media reply = .accepted)
    (hattempt : replyAttempt P env σ.server K session request media reply =
      some (session', attempt)) :
    (markReplied media request.medias).all RtspServerPendingRequestMedia.replied = true := by
  have hmedias : (acceptReply K (settled K session request media reply).1
      (settled K session request media reply).2 media reply).medias =
        markReplied media request.medias := by
    unfold acceptReply settled settleRange
    split
    next => rfl
    next =>
      split
      next => rfl
      next => rfl
  unfold replyAttempt at hattempt
  dsimp only at hattempt
  rw [haccepted, hmedias] at hattempt
  split at hattempt
  next hverdict => cases hverdict
  next => cases hattempt
  next =>
    split at hattempt
    next hall => exact hall
    next => cases hattempt

/-- The answer that such a reply completes is sent, with its status. -/
theorem teardownReply_succeeds
    {session session' : RtspServerSession} {request : RtspServerPendingRequest} {media : Addr}
    {reply : MediaReply} {attempt : Attempt}
    (haccepted : judgeReply teardownKind session request media reply = .accepted)
    (hstatus : statusIsSuccess (rtspStatusGet reply.status).1 = true) (hsend : env.send = .ok ())
    (hwrite : (writeResponse P σ.server (teardownHeader env σ session request reply) none).isOk =
      true)
    (hattempt : replyAttempt P env σ.server teardownKind session request media reply =
      some (session', attempt)) :
    Succeeded (outcome P env σ.server attempt) request.addr := by
  have hsettled : settled teardownKind session request media reply = (session, request) := by
    unfold settled settleRange
    simp [teardownKind]
  have haccept : acceptReply teardownKind session request media reply =
      { request with medias := markReplied media request.medias } := by
    simp [acceptReply, teardownKind]
  obtain ⟨message, hmessage⟩ : ∃ message, writeResponse P σ.server
      (teardownHeader env σ session request reply) none = .ok message := by
    cases h : writeResponse P σ.server (teardownHeader env σ session request reply) none with
    | error e => simp [h, Except.isOk, Except.toBool] at hwrite
    | ok message => exact ⟨message, rfl⟩
  unfold replyAttempt at hattempt
  simp only [hsettled, haccept, haccepted] at hattempt
  split at hattempt
  next _ _ hverdict => simp at hverdict
  next => simp at hattempt
  next conn _ hconn =>
    split at hattempt
    next =>
      simp only [Option.some.injEq, Prod.mk.injEq] at hattempt
      obtain ⟨-, rfl⟩ := hattempt
      have hsent : outcome P env σ.server (mediaAttempt P env σ.server teardownKind
          (teardownKind.completed session)
          { request with medias := markReplied media request.medias } conn reply) =
          [.response request.addr conn (rtspStatusGet reply.status).1 message] := by
        have hmessage' : writeResponse P σ.server
            (rtspResponseHeaderCopyExt reply.ext
              (teardownKind.header session request.requestHeader
                (fillAnswer env σ.server reply.status
                  { request with medias := markReplied media request.medias }).responseHeader))
            none = .ok message := hmessage
        unfold outcome mediaAttempt
        rw [attemptResponse_sends hmessage' hsend]
        simp [answerError, fillAnswer, teardownKind]
      rw [hsent]
      exact ⟨_, List.mem_singleton_self _, rfl, hstatus⟩
    next => simp at hattempt

section Guarded

variable (hconsistent : σ.Consistent) (hguard : KeepsTeardown P env σ input)

include hconsistent

/-- The request whose callback runs. -/
theorem anchored_entry
    {request : RtspServerPendingRequest} (hpending : request ∈ σ.server.pendingRequests)
    {l : Leaving} (hanchor : σ.activity.anchor = some l) (haddr : request.addr = l.request) :
    request.entry.target = l.clears ∧
      (l.clears = none ∨ l.tearsDown = decide (request.entry.method = .teardown)) := by
  obtain ⟨r, hr, haddr', -, htarget, htears⟩ := hconsistent.anchored l hanchor
  have heq : r = request.entry :=
    hconsistent.wellFormed.request_unique hr (RtspServer.entry_mem_requests hpending)
      (haddr'.trans haddr.symm)
  rw [← heq]
  exact ⟨htarget, htears⟩

include hguard

/-- An attempt to answer a TEARDOWN request on a session succeeds, unless the
request has expired. -/
theorem attempts_teardown
    {request : RtspServerPendingRequest} {attempt : Attempt} {e : SessionEntry}
    (hpending : request ∈ σ.server.pendingRequests) (he : e ∈ σ.server.table.sessions)
    (htear : Table.IsTeardownOn request.entry e.addr)
    (hattempt : Attempts P env σ input request attempt) :
    (input.apiCall = none ∧ σ.activity.anchor = none) ∨
      (Succeeded (outcome P env σ.server attempt) request.addr ∧
        ∃ media reply session, input = .call (.replyToTeardown request.addr media reply) ∧
          σ.server.mediaSession media = some session ∧ session.addr = e.addr) := by
  cases hattempt with
  | describe hfind =>
      have haddr := (RtspServer.findRequest_some hfind).2
      exact absurd (hguard.replies _ rfl request hpending (by simp [ApiCall.request, haddr]) e he
        htear) (not_repliesWithSuccess rfl)
  | announce hfind =>
      have haddr := (RtspServer.findRequest_some hfind).2
      exact absurd (hguard.replies _ rfl request hpending (by simp [ApiCall.request, haddr]) e he
        htear) (not_repliesWithSuccess rfl)
  | setup hmedia hfind =>
      have haddr := (RtspServer.findRequest_some hfind).2
      exact absurd (hguard.replies _ rfl request hpending (by simp [ApiCall.request, haddr]) e he
        htear) (not_repliesWithSuccess rfl)
  | @media call K a media reply request session session' attempt hcall hmedia hfind hreply =>
      have haddr := (RtspServer.findRequest_some hfind).2
      have hrequest : call.request = some request.addr := by
        cases call with
        | replyToDescribe => simp [ApiCall.mediaReply] at hcall
        | replyToAnnounce => simp [ApiCall.mediaReply] at hcall
        | replyToSetup => simp [ApiCall.mediaReply] at hcall
        | forceTeardown => simp [ApiCall.mediaReply] at hcall
        | _ => simp [ApiCall.request, hcall, haddr]
      obtain ⟨replied, hreplied, session₁, hsession, haccepted, hcompletes⟩ :=
        hguard.replies call rfl request hpending hrequest e he htear
      rw [Option.mem_def, hcall] at hreplied
      cases hreplied
      rw [Option.mem_def, hmedia] at hsession
      cases hsession
      obtain ⟨htears, htarget, hstatus, hsend, hwrite⟩ :=
        hcompletes (replyAttempt_completes haccepted hreply)
      have htarget' : request.target = some e.addr := htear.2
      rw [htarget'] at htarget
      obtain ⟨rfl, rfl⟩ := mediaReply_tearsDown hcall htears
      exact .inr ⟨teardownReply_succeeds haccepted hstatus hsend hwrite hreply, media, reply,
        session, by rw [haddr], hmedia, (Option.some.inj htarget).symm⟩
  | @noAnnounce conn messages a request hactivity hcbs hfind =>
      have hanchor : σ.activity.anchor = some { request := a } := by rw [hactivity]; rfl
      have htarget := (anchored_entry hconsistent hpending hanchor
        (RtspServer.findRequest_some hfind).2).1
      rw [htear.2] at htarget
      simp at htarget
  | @noRecord conn messages a session current rest request s s' attempt hactivity hcbs hmedia
      hfind hreply =>
      have hanchor : σ.activity.anchor = some { request := a, clears := some session } := by
        rw [hactivity]
        rfl
      have hmethod := (anchored_entry hconsistent hpending hanchor
        (RtspServer.findRequest_some hfind).2).2
      rw [htear.1] at hmethod
      simp at hmethod
  | failed harriving =>
      have htarget : request.target = some e.addr := htear.2
      rw [(arriving_fresh harriving).target] at htarget
      simp at htarget
  | expired hnow hanchor =>
      refine .inl ⟨?_, hanchor⟩
      rcases hnow with ⟨rfl, -⟩ | ⟨a, next, rfl, -⟩
      · rfl
      · rfl

end Guarded

/-! ## A request leaves -/

section Leaves

variable {l : Leaving} (hwf : t.WellFormed) (hold : t.TeardownsAgree events)
  {ended : List ServerEvent} (hown : t.EndsTeardown l ended)

include hwf hold hown

omit hwf hold in
/-- A request that stays selects what it selected before. -/
theorem selected_leave
    {e : SessionEntry} (he : e ∈ t.sessions) (media : Addr)
    (hother : l.clears ≠ some e.addr ∨ l.tearsDown = false) :
    (t.leave l).Selected e.addr media ↔ t.Selected e.addr media := by
  unfold Table.Selected
  rw [Table.leave_requests]
  constructor
  · intro h
    obtain ⟨r, hr, htear, hmem⟩ := h
    exact ⟨r, (Table.mem_removeRequest.mp hr).1, htear, hmem⟩
  · intro h
    obtain ⟨r, hr, htear, hmem⟩ := h
    refine ⟨r, Table.mem_removeRequest.mpr ⟨hr, ?_⟩, htear, hmem⟩
    intro haddr
    obtain ⟨hclears, htears, -⟩ := hown r hr haddr e he htear
    rcases hother with hother | hother
    · exact hother hclears
    · rw [htears] at hother
      simp at hother

theorem teardownsAgree_leave : (t.leave l).TeardownsAgree (events ++ more) where
  marks := by
    intro e' he' m hm
    rcases (Table.mem_leave hwf).mp he' with ⟨he, hclears⟩ | ⟨e, he, hclears, hends⟩
    · rw [selected_leave hown he _ (.inl hclears)]
      exact hold.marks e' he m hm
    · unfold Leaving.ends at hends
      split at hends
      next htears =>
        split at hends
        next => simp at hends
        next =>
          cases hends
          obtain ⟨hm', hmark⟩ := List.mem_filter.mp hm
          have hmark' : m.2 = false := by simpa using hmark
          rw [hmark']
          apply iff_of_false (by simp)
          intro h
          obtain ⟨r, hr, htear, hmem⟩ := h
          rw [Table.leave_requests] at hr
          have hselected : t.Selected e.addr m.1 :=
            ⟨r, (Table.mem_removeRequest.mp hr).1, htear, hmem⟩
          rw [← hold.marks e he m hm', hmark'] at hselected
          simp at hselected
      next htears =>
        cases hends
        rw [selected_leave hown he _ (.inr (by simpa using htears))]
        exact hold.marks e he m hm
  alone := by
    intro r hr r' hr' session htear htear'
    rw [Table.leave_requests] at hr hr'
    exact hold.alone r (Table.mem_removeRequest.mp hr).1 r' (Table.mem_removeRequest.mp hr').1
      session htear htear'
  answered := by
    intro r hr e' he' htear hreplied
    rw [Table.leave_requests] at hr
    have hr' := (Table.mem_removeRequest.mp hr).1
    have hlive : ∃ e ∈ t.sessions, e.addr = e'.addr := by
      rcases (Table.mem_leave hwf).mp he' with ⟨he, -⟩ | ⟨e, he, -, hends⟩
      · exact ⟨e', he, rfl⟩
      · refine ⟨e, he, ?_⟩
        unfold Leaving.ends at hends
        split at hends
        next =>
          split at hends
          next => simp at hends
          next => cases hends; rfl
        next => cases hends; rfl
    obtain ⟨e, he, haddr⟩ := hlive
    exact (hold.answered r hr' e he (haddr ▸ htear) hreplied).append more

omit hown in
/-- In the session of the TEARDOWN request that leaves, the marked medias are
those it selected. -/
theorem unmarked_iff
    {r : RequestEntry} (hr : r ∈ t.requests) {e : SessionEntry} (he : e ∈ t.sessions)
    (htear : Table.IsTeardownOn r e.addr) {m : Addr × Bool} (hm : m ∈ e.medias) :
    m.2 = false ↔ m.1 ∉ r.references := by
  have hselected : t.Selected e.addr m.1 ↔ m.1 ∈ r.references := by
    constructor
    · intro h
      obtain ⟨r', hr', htear', hmem⟩ := h
      have haddr := hold.alone r hr r' hr' e.addr htear htear'
      rwa [hwf.request_unique hr hr' haddr]
    · intro hmem
      exact ⟨r, hr, htear, hmem⟩
  rw [← hselected, ← hold.marks e he m hm]
  simp

theorem loses_leave
    {r : RequestEntry} (hr : r ∈ t.requests) {e : SessionEntry} (he : e ∈ t.sessions)
    (htear : Table.IsTeardownOn r e.addr) (haddr : r.addr = l.request) :
    (t.leave l).Loses e r.references := by
  obtain ⟨hclears, htears, -⟩ := hown r hr haddr e he htear
  have hunmarked := fun m (hm : m ∈ e.medias) => unmarked_iff hwf hold hr he htear hm
  have hfilter : e.medias.filter (!·.2) = e.medias.filter fun m => m.1 ∉ r.references := by
    apply List.filter_congr
    intro m hm
    have h := hunmarked m hm
    rw [Bool.eq_iff_iff]
    simpa using h
  have hall : e.medias.all Prod.snd = false ↔ ∃ m ∈ e.medias, m.1 ∉ r.references := by
    rw [List.all_eq_false]
    constructor
    · intro h
      obtain ⟨m, hm, hmark⟩ := h
      exact ⟨m, hm, (hunmarked m hm).mp (by simpa using hmark)⟩
    · intro h
      obtain ⟨m, hm, hmem⟩ := h
      refine ⟨m, hm, ?_⟩
      rw [(hunmarked m hm).mpr hmem]
      simp
  have hmember : ∀ e' : SessionEntry, e'.addr = e.addr →
      (e' ∈ (t.leave l).sessions ↔ l.ends e = some e') := by
    intro e' haddr'
    rw [Table.mem_leave hwf]
    constructor
    · intro h
      rcases h with ⟨-, hother⟩ | ⟨e₁, he₁, hclears₁, hends⟩
      · exact absurd (haddr' ▸ hclears) hother
      · rw [hclears] at hclears₁
        rwa [hwf.session_unique he he₁ (Option.some.inj hclears₁)]
    · intro hends
      exact .inr ⟨e, he, hclears, hends⟩
  have hends : l.ends e = if e.medias.all Prod.snd then none
      else some { e with op := .unknown, medias := e.medias.filter (!·.2) } := by
    unfold Leaving.ends
    rw [if_pos htears]
  constructor
  · intro e' he' haddr'
    rw [hmember e' haddr', hends] at he'
    split at he'
    next => simp at he'
    next =>
      cases he'
      exact hfilter
  · rw [← hall]
    constructor
    · intro h
      obtain ⟨e', he', haddr'⟩ := h
      rw [hmember e' haddr', hends] at he'
      split at he'
      next => simp at he'
      next hsome => simpa using hsome
    · intro hsome
      refine ⟨{ e with op := .unknown, medias := e.medias.filter (!·.2) }, ?_, rfl⟩
      apply (hmember { e with op := .unknown, medias := e.medias.filter (!·.2) } rfl).mpr
      rw [hends, if_neg (by simp [hsome])]

omit hold hown in
/-- A media that goes with a request was marked. -/
theorem marked_of_gone
    {e : SessionEntry} (he : e ∈ t.sessions) {m : Addr × Bool} (hm : m ∈ e.medias)
    (hgone : ∀ e' ∈ (t.leave l).sessions, e'.addr = e.addr → m.1 ∉ e'.medias.map Prod.fst) :
    l.clears = some e.addr ∧ l.tearsDown = true ∧ m.2 = true := by
  have hclears : l.clears = some e.addr := by
    by_contra hother
    have hstays := (Table.mem_leave hwf).mpr (.inl ⟨he, hother⟩)
    exact hgone e hstays rfl (List.mem_map_of_mem hm)
  have hends : ∀ e', l.ends e = some e' → e'.addr = e.addr → m ∉ e'.medias := by
    intro e' hends haddr hmem
    have hstays := (Table.mem_leave hwf).mpr (.inr ⟨e, he, hclears, hends⟩)
    exact hgone e' hstays haddr (List.mem_map_of_mem hmem)
  refine ⟨hclears, ?_, ?_⟩
  · by_contra htears
    exact hends { e with op := .unknown } (by simp [Leaving.ends, htears]) rfl hm
  · by_contra hmark
    have hunmarked : m.2 = false := by simpa using hmark
    have hall : e.medias.all Prod.snd = false := by
      rw [List.all_eq_false]
      exact ⟨m, hm, hmark⟩
    by_cases htears : l.tearsDown = true
    · apply hends { e with op := .unknown, medias := e.medias.filter (!·.2) } _ rfl
      · exact List.mem_filter.mpr ⟨hm, by simp [hunmarked]⟩
      · simp [Leaving.ends, htears, hall]
    · exact hends { e with op := .unknown } (by simp [Leaving.ends, htears]) rfl hm

end Leaves

/-! ## Steps -/

section Changes

theorem leaving_clears_of_idle
    {l : Leaving} (hcall : input.apiCall = none) (hanchor : σ.activity.anchor = none)
    (hleaving : leaving P env σ input = some l) : l.clears = none := by
  unfold leaving at hleaving
  split at hleaving
  next => simp [ServerInput.apiCall] at hcall
  next =>
    split at hleaving
    next callback _ hactivity =>
      rw [hactivity] at hanchor
      cases callback with
      | interleavedData => simp [leavingByReturn] at hleaving
      | _ => simp [Activity.anchor, Callback.anchor] at hanchor
    next => cases hleaving; rfl
    next => simp at hleaving
  next => simp at hleaving

/-- No message arrives in a step by which a request leaves. -/
theorem arriving_of_leaving
    {l : Leaving} (hleaving : leaving P env σ input = some l) : arriving env σ input = none := by
  unfold leaving at hleaving
  split at hleaving
  next => rfl
  next =>
    split at hleaving
    next hforced hactivity => simp [arriving, hactivity]
    next hforced hactivity => simp [arriving, hactivity]
    next => simp at hleaving
  next => simp at hleaving

theorem arriving_of_dropped
    {d : Addr × Option Addr} (hdropped : dropped σ input = some d) :
    arriving env σ input = none := by
  unfold dropped at hdropped
  split at hdropped
  next => rfl
  next => rfl
  next => rfl
  next =>
    split at hdropped
    next hforced => simp [arriving, hforced]
    next hforced hactivity => simp [arriving, hactivity]
    next => simp at hdropped
  next => simp at hdropped

section Ends

variable (hconsistent : σ.Consistent) (hguard : KeepsTeardown P env σ input)

include hconsistent hguard

/-- A TEARDOWN request that leaves with its answer ends in its session. -/
theorem endsTeardown_attempt
    {request : RtspServerPendingRequest} {l : Leaving} {attempt : Attempt}
    (hpending : request ∈ σ.server.pendingRequests) (hrequest : request.addr = l.request)
    (hleaving : leaving P env σ input = some l) (hattempt : Attempts P env σ input request attempt)
    (events : List ServerEvent) :
    σ.server.table.EndsTeardown l (events ++ outcome P env σ.server attempt) := by
  intro r hr haddr e he htear
  have heq : r = request.entry :=
    hconsistent.wellFormed.request_unique hr (RtspServer.entry_mem_requests hpending)
      (haddr.trans hrequest.symm)
  rcases attempts_teardown hconsistent hguard hpending he (heq ▸ htear) hattempt with
    ⟨hcall, hanchor⟩ | ⟨hsuccess, media, reply, session, hinput, hmedia, hsession⟩
  · have hclears := leaving_clears_of_idle hcall hanchor hleaving
    exact absurd htear (hguard.stays l hleaving hclears r hr haddr e he)
  · subst hinput
    have hl : l.clears = some e.addr ∧ l.tearsDown = true := by
      simp only [leaving, leavingByCall, ApiCall.mediaReply, hmedia] at hleaving
      split at hleaving
      next session' _ hsame =>
        obtain ⟨-, -, rfl⟩ := Option.map_eq_some_iff.mp hleaving
        cases hsame
        exact ⟨congrArg some hsession, rfl⟩
      next => simp at hleaving
    refine ⟨hl.1, hl.2, ?_⟩
    rw [haddr, ← hrequest]
    exact hsuccess.prepend events

omit hconsistent in
theorem endsTeardown_sweep
    {a : Addr} (hleaving : leaving P env σ input = some { request := a })
    (events : List ServerEvent) :
    σ.server.table.EndsTeardown { request := a } events := by
  intro r hr haddr e he htear
  exact absurd htear (hguard.stays _ hleaving rfl r hr haddr e he)

omit hguard in
theorem endsTeardown_finish
    {request : RtspServerPendingRequest} {l : Leaving}
    (hpending : request ∈ σ.server.pendingRequests) (hrequest : request.addr = l.request)
    (hreplied : request.replied = true) (hbefore : σ.activity.anchor = some l)
    (hold : σ.server.table.TeardownsAgree σ.events) :
    σ.server.table.EndsTeardown l (σ.events ++ []) := by
  intro r hr haddr e he htear
  have heq : r = request.entry :=
    hconsistent.wellFormed.request_unique hr (RtspServer.entry_mem_requests hpending)
      (haddr.trans hrequest.symm)
  obtain ⟨htarget, htears⟩ := anchored_entry hconsistent hpending hbefore hrequest
  rw [← heq, htear.2] at htarget
  rw [← heq, htear.1, ← htarget] at htears
  rw [List.append_nil]
  refine ⟨htarget.symm, by simpa using htears, hold.answered r hr e he htear ?_⟩
  rw [heq]
  exact hreplied

end Ends

/-- A request leaves and its session ends its operation. -/
theorem teardownAtomic_leave
    (hconsistent : σ.Consistent) (hguard : KeepsTeardown P env σ input)
    (hold : σ.server.table.TeardownsAgree σ.events) {l : Leaving}
    (hleaving : leaving P env σ input = some l)
    (hown : σ.server.table.EndsTeardown l events) :
    TeardownAtomic env σ input (σ.server.table.leave l) events where
  ended := by
    intro r hr e he htear hleft
    have haddr : r.addr = l.request := by
      by_contra hother
      have hstays : r ∈ (σ.server.table.leave l).requests := by
        rw [Table.leave_requests]
        exact Table.mem_removeRequest.mpr ⟨hr, hother⟩
      exact hleft r hstays rfl
    rw [if_pos (hown r hr haddr e he htear).2.2]
    exact loses_leave hconsistent.wellFormed hold hown hr he htear haddr
  refused := by
    intro request harriving
    rw [arriving_of_leaving hleaving] at harriving
    simp at harriving
  onlyBy := by
    intro e he m hm hgone
    obtain ⟨hclears, htears, hmark⟩ := marked_of_gone hconsistent.wellFormed he hm hgone
    rcases hguard.removes l hleaving htears e he hclears with ⟨r, hr, haddr, htear⟩ | hends
    · obtain ⟨r', hr', htear', hmem⟩ := (hold.marks e he m hm).mp hmark
      have hsame := hold.alone r hr r' hr' e.addr htear htear'
      have heq := hconsistent.wellFormed.request_unique hr hr' hsame
      subst heq
      refine .inr ⟨r, hr, htear, hmem, ?_, (hown r hr haddr e he htear).2.2⟩
      intro r₁ hr₁
      rw [Table.leave_requests] at hr₁
      rw [haddr]
      exact (Table.mem_removeRequest.mp hr₁).2
    · have hstays := (Table.mem_leave hconsistent.wellFormed).mpr (.inr ⟨e, he, hclears, hends⟩)
      exact absurd (List.mem_map_of_mem hm) (hgone { e with op := .unknown } hstays rfl)

/-- No request leaves and no session loses a media. -/
theorem teardownAtomic_of_same
    {t' : Table}
    (hrequests : ∀ r ∈ σ.server.table.requests, ∃ r' ∈ t'.requests, r'.addr = r.addr)
    (hmedias : ∀ e ∈ σ.server.table.sessions,
      (∃ e' ∈ t'.sessions, e'.addr = e.addr ∧ ∀ m ∈ e.medias, m.1 ∈ e'.medias.map Prod.fst) ∨
        ∃ d ∈ dropped σ input, d.1 = e.addr)
    (hrefused : ∀ request ∈ arriving env σ input, (∃ r ∈ t'.requests, r.addr = request.addr) ∨
      t'.sessions.map (fun e => (e.addr, e.medias)) =
        σ.server.table.sessions.map fun e => (e.addr, e.medias)) :
    TeardownAtomic env σ input t' events where
  ended := by
    intro r hr e he htear hleft
    obtain ⟨r', hr', haddr⟩ := hrequests r hr
    exact absurd haddr (hleft r' hr')
  refused := by
    intro request harriving hmethod hleft
    rcases hrefused request harriving with ⟨r, hr, haddr⟩ | hsame
    · exact absurd haddr (hleft r hr)
    · exact hsame
  onlyBy := by
    intro e he m hm hgone
    rcases hmedias e he with ⟨e', he', haddr, hsub⟩ | hdropped
    · exact absurd (hsub m hm) (hgone e' he' haddr)
    · exact .inl hdropped

/-- The sessions stay as they are. -/
theorem teardownAtomic_of_sessions
    {t' : Table} (hsessions : t'.sessions = σ.server.table.sessions)
    (hrequests : ∀ r ∈ σ.server.table.requests, ∃ r' ∈ t'.requests, r'.addr = r.addr) :
    TeardownAtomic env σ input t' events := by
  apply teardownAtomic_of_same hrequests
  · intro e he
    exact .inl ⟨e, hsessions ▸ he, rfl, fun m hm => List.mem_map_of_mem hm⟩
  · intro request _
    rw [hsessions]
    exact .inr rfl

theorem kept_setRequest
    {r' : RequestEntry} :
    ∀ r ∈ t.requests, ∃ r₁ ∈ (t.setRequest r').requests, r₁.addr = r.addr := by
  intro r hr
  by_cases haddr : r.addr = r'.addr
  · exact ⟨r', Table.mem_setRequest.mpr (.inr ⟨rfl, r, hr, haddr⟩), haddr.symm⟩
  · exact ⟨r, Table.mem_setRequest.mpr (.inl ⟨hr, haddr⟩), rfl⟩

theorem kept_addRequest
    {r' : RequestEntry} : ∀ r ∈ t.requests, ∃ r₁ ∈ (t.addRequest r').requests, r₁.addr = r.addr :=
  fun r hr => ⟨r, Table.mem_addRequest.mpr (.inl hr), rfl⟩

/-- The sessions keep their medias when one of them is set to have at least its own. -/
theorem kept_setSession
    (hwf : t.WellFormed) {e₁ e₂ : SessionEntry} (he₁ : e₁ ∈ t.sessions) (haddr : e₂.addr = e₁.addr)
    (hmedias : ∀ m ∈ e₁.medias, m.1 ∈ e₂.medias.map Prod.fst) :
    ∀ e ∈ t.sessions, ∃ e' ∈ (t.setSession e₂).sessions, e'.addr = e.addr ∧
      ∀ m ∈ e.medias, m.1 ∈ e'.medias.map Prod.fst := by
  intro e he
  by_cases hsame : e.addr = e₁.addr
  · have heq := hwf.session_unique he he₁ hsame
    subst heq
    exact ⟨e₂, (Table.mem_setSession_self he haddr).mpr (.inr rfl), haddr, hmedias⟩
  · refine ⟨e, (Table.mem_setSession_self he₁ haddr).mpr (.inl ⟨he, hsame⟩), rfl, ?_⟩
    intro m hm
    exact List.mem_map_of_mem hm

theorem medias_setSession
    (hwf : t.WellFormed) {e : SessionEntry} (he : e ∈ t.sessions) (op : RtspMethodType) :
    ((t.setSession { e with op }).sessions.map fun e => (e.addr, e.medias)) =
      t.sessions.map fun e => (e.addr, e.medias) := by
  unfold Table.setSession replace
  rw [List.map_map]
  apply List.map_congr_left
  intro e₁ he₁
  rw [Function.comp_apply]
  split
  next haddr => rw [hwf.session_unique he₁ he haddr]
  next => rfl

theorem Change.teardownAtomic
    (hconsistent : σ.Consistent) (hguard : KeepsTeardown P env σ input)
    (hold : σ.server.table.TeardownsAgree σ.events)
    (h : Change P env σ input t activity events) :
    TeardownAtomic env σ input t (σ.events ++ events) := by
  have hwf := hconsistent.wellFormed
  have hself : ∀ r ∈ σ.server.table.requests, ∃ r' ∈ σ.server.table.requests, r'.addr = r.addr :=
    fun r hr => ⟨r, hr, rfl⟩
  have hsweep : ∀ a more, leaving P env σ input = some { request := a } →
      TeardownAtomic env σ input (σ.server.table.removeRequest a) more :=
    fun a more hleaving => teardownAtomic_leave hconsistent hguard hold hleaving
      (endsTeardown_sweep hguard hleaving more)
  cases h with
  | moves => exact teardownAtomic_of_sessions rfl hself
  | admits => exact teardownAtomic_of_sessions rfl kept_addRequest
  | refuses => exact teardownAtomic_of_sessions rfl hself
  | @mismatches request activity event attempt e harriving _ _ _ he =>
      apply teardownAtomic_of_same
      · exact hself
      · intro e₁ he₁
        refine .inl (kept_setSession hwf he ?_ ?_ e₁ he₁)
        · rfl
        · exact fun m hm => List.mem_map_of_mem hm
      · intro request' _
        exact .inr (medias_setSession hwf he _)
  | answers => exact teardownAtomic_of_sessions rfl hself
  | asks => exact teardownAtomic_of_sessions rfl kept_addRequest
  | @starts request activity event e medias harriving _ _ he =>
      apply teardownAtomic_of_same
      · exact kept_addRequest
      · intro e₁ he₁
        refine .inl (kept_setSession hwf he ?_ ?_ e₁ he₁)
        · rfl
        · intro m hm
          rw [markMedias_fst]
          exact List.mem_map_of_mem hm
      · intro request' harriving'
        cases harriving.symm.trans harriving'
        exact .inl ⟨_, Table.mem_addRequest.mpr (.inr rfl), rfl⟩
  | @joins request activity event e harriving _ _ he =>
      apply teardownAtomic_of_same
      · exact kept_addRequest
      · intro e₁ he₁
        refine .inl (kept_setSession hwf he ?_ ?_ e₁ he₁)
        · rfl
        · intro m hm
          exact List.mem_map_of_mem (List.mem_append_left _ hm)
      · intro request' harriving'
        cases harriving.symm.trans harriving'
        exact .inl ⟨_, Table.mem_addRequest.mpr (.inr rfl), rfl⟩
  | opens harriving =>
      apply teardownAtomic_of_same
      · exact kept_addRequest
      · intro e he
        exact .inl ⟨e, Table.mem_addSession.mpr (.inl he), rfl, fun m hm => List.mem_map_of_mem hm⟩
      · intro request' harriving'
        cases harriving.symm.trans harriving'
        exact .inl ⟨_, Table.mem_addRequest.mpr (.inr rfl), rfl⟩
  | answered => exact teardownAtomic_of_sessions rfl kept_setRequest
  | leaves hpending hrequest _ hleaving hattempt =>
      exact teardownAtomic_leave hconsistent hguard hold hleaving
        (endsTeardown_attempt hconsistent hguard hpending hrequest hleaving hattempt _)
  | finishes hpending hrequest hreplied hleaving hbefore =>
      exact teardownAtomic_leave hconsistent hguard hold hleaving
        (endsTeardown_finish hconsistent hpending hrequest hreplied hbefore hold)
  | finishesSelf hpending hrequest _ hleaving hattempt =>
      exact teardownAtomic_leave hconsistent hguard hold hleaving
        (endsTeardown_attempt hconsistent hguard hpending hrequest hleaving hattempt _)
  | returns => exact teardownAtomic_of_sessions rfl kept_setRequest
  | @drops session activity events hdropped =>
      apply teardownAtomic_of_same
      · exact hself
      · intro e he
        by_cases haddr : e.addr = session
        · exact .inr ⟨_, hdropped, haddr.symm⟩
        · exact .inl ⟨e, Table.mem_removeSession.mpr ⟨he, haddr⟩, rfl,
            fun m hm => List.mem_map_of_mem hm⟩
      · intro request harriving
        rw [arriving_of_dropped hdropped] at harriving
        simp at harriving
  | @dropsMedia e media activity events hdropped he =>
      apply teardownAtomic_of_same
      · exact hself
      · intro e₁ he₁
        by_cases haddr : e₁.addr = e.addr
        · exact .inr ⟨_, hdropped, haddr.symm⟩
        · exact .inl ⟨e₁, Table.mem_setSession.mpr (.inl ⟨he₁, haddr⟩), rfl,
            fun m hm => List.mem_map_of_mem hm⟩
      · intro request harriving
        rw [arriving_of_dropped hdropped] at harriving
        simp at harriving
  | expires => exact teardownAtomic_of_sessions rfl hself
  | sweeps _ hleaving => exact hsweep _ _ hleaving
  | sweepsOn _ hleaving => exact hsweep _ _ hleaving
  | disconnects conn =>
      apply teardownAtomic_of_sessions
      · rfl
      · intro r hr
        refine ⟨_, List.mem_map_of_mem hr, ?_⟩
        split
        next => rfl
        next => rfl

theorem markMedias_other
    {method : RtspMethodType} (hother : method ≠ .teardown) (selected : List Addr)
    (medias : List (Addr × Bool)) : markMedias method selected medias = medias := by
  simp [markMedias, hother]

theorem Change.teardownsAgree
    (hconsistent : σ.Consistent) (hguard : KeepsTeardown P env σ input)
    (hold : σ.server.table.TeardownsAgree σ.events)
    (h : Change P env σ input t activity events) : t.TeardownsAgree (σ.events ++ events) := by
  have hwf := hconsistent.wellFormed
  have hsweep : ∀ a more, leaving P env σ input = some { request := a } →
      (σ.server.table.removeRequest a).TeardownsAgree (σ.events ++ more) :=
    fun a more hleaving => teardownsAgree_leave hwf hold (endsTeardown_sweep hguard hleaving [])
  cases h with
  | moves => exact hold.append _
  | admits harriving =>
      apply Table.TeardownsAgree.allocate
      apply (hold.append _).addOther
      intro session htear
      rw [Table.IsTeardownOn, (arriving_entry harriving).2.1] at htear
      simp at htear
  | refuses => exact (hold.append _).allocate _
  | @mismatches request activity event attempt e harriving _ _ _ he =>
      apply Table.TeardownsAgree.allocate
      apply teardownsAgree_shrink hold
      · rfl
      · intro e' he'
        rcases Table.mem_setSession.mp he' with ⟨he', -⟩ | ⟨rfl, -⟩
        · exact ⟨e', he', rfl, List.Subset.refl _⟩
        · exact ⟨e, he, rfl, List.Subset.refl _⟩
  | answers => exact (hold.append _).allocate _
  | asks harriving =>
      apply Table.TeardownsAgree.allocate
      apply (hold.append _).addOther
      intro session htear
      have htarget := htear.2
      rw [show _ = none from (arriving_entry harriving).2.1] at htarget
      simp at htarget
  | @starts request activity event e medias harriving _ hmethod he hnamed hmedias _ hanchor _
      hselects =>
      apply Table.TeardownsAgree.allocate
      by_cases htears : request.requestHeader.method = .teardown
      · apply teardownsAgree_starts (hold.append _) he
        · rfl
        · rw [htears]
        · exact ⟨htears, rfl⟩
        · rfl
        · exact (arriving_entry harriving).2.2.2.2
        · obtain ⟨session, hsession, haddr⟩ := Option.map_eq_some_iff.mp hnamed
          intro r hr
          rw [← haddr]
          exact hguard.alone request harriving htears session hsession
            (hselects htears session hsession) r hr
      · have hset : (σ.server.table.setSession
            { e with
              op := request.requestHeader.method
              medias := markMedias request.requestHeader.method medias e.medias }).TeardownsAgree
            (σ.events ++ [event]) := by
          rw [markMedias_other htears]
          apply teardownsAgree_shrink hold
          · rfl
          · intro e' he'
            rcases Table.mem_setSession.mp he' with ⟨he', -⟩ | ⟨rfl, -⟩
            · exact ⟨e', he', rfl, List.Subset.refl _⟩
            · exact ⟨e, he, rfl, List.Subset.refl _⟩
        apply hset.addOther
        intro session htear
        exact htears htear.1
  | @joins request activity event e harriving _ hmethod he =>
      apply Table.TeardownsAgree.allocate
      have hset : (σ.server.table.setSession
          { e with
            op := .setup
            medias := e.medias ++ [(σ.server.table.next + 1, false)] }).TeardownsAgree
          (σ.events ++ [event]) := by
        apply teardownsAgree_sessions hold
        · rfl
        · intro e' he' m hm
          rcases Table.mem_setSession.mp he' with ⟨he', -⟩ | ⟨rfl, -⟩
          · exact .inl ⟨e', he', rfl, hm⟩
          · rcases List.mem_append.mp hm with hm | hm
            · exact .inl ⟨e, he, rfl, hm⟩
            · rw [List.mem_singleton] at hm
              subst hm
              refine .inr ⟨rfl, fun r hr hmem => ?_⟩
              exact absurd (hwf.referenceBelow r hr _ hmem) (Nat.not_lt.mpr (Nat.le_succ _))
        · intro e' he'
          rcases Table.mem_setSession.mp he' with ⟨he', -⟩ | ⟨rfl, -⟩
          · exact .inl ⟨e', he', rfl⟩
          · exact .inl ⟨e, he, rfl⟩
      apply hset.addOther
      intro session htear
      exact absurd (hmethod.symm.trans htear.1) (by simp)
  | @opens request activity event harriving _ hmethod =>
      apply Table.TeardownsAgree.allocate
      have hadd : (σ.server.table.addSession
          { addr := σ.server.table.next + 1
            op := .setup
            medias := [(σ.server.table.next + 2, false)] }).TeardownsAgree
          (σ.events ++ [event]) := by
        apply teardownsAgree_sessions hold
        · rfl
        · intro e' he' m hm
          rcases Table.mem_addSession.mp he' with he' | rfl
          · exact .inl ⟨e', he', rfl, hm⟩
          · rw [List.mem_singleton] at hm
            subst hm
            refine .inr ⟨rfl, fun r hr hmem => ?_⟩
            exact absurd (hwf.referenceBelow r hr _ hmem) (Nat.not_lt.mpr (Nat.le_add_right _ 2))
        · intro e' he'
          rcases Table.mem_addSession.mp he' with he' | rfl
          · exact .inl ⟨e', he', rfl⟩
          · refine .inr fun r hr htarget => ?_
            exact absurd (hwf.targetBelow r hr _ htarget) (Nat.not_lt.mpr (Nat.le_succ _))
      apply hadd.addOther
      intro session htear
      exact absurd (hmethod.symm.trans htear.1) (by simp)
  | @answered request activity attempt hpending hcallback hattempt =>
      apply teardownsAgree_setRequest hwf hold (RtspServer.entry_mem_requests hpending)
      · rfl
      · rfl
      · rfl
      · rfl
      · intro _
        refine .inr fun e he htear => ?_
        rcases attempts_teardown hconsistent hguard hpending he htear hattempt with
          ⟨-, hanchor⟩ | ⟨hsuccess, -⟩
        · have hidle := hconsistent.none_running hanchor _
            (RtspServer.entry_mem_requests hpending)
          exact absurd (hcallback.symm.trans hidle) (by simp)
        · exact hsuccess
  | leaves hpending hrequest _ hleaving hattempt =>
      exact teardownsAgree_leave hwf hold
        (endsTeardown_attempt hconsistent hguard hpending hrequest hleaving hattempt [])
  | finishes hpending hrequest hreplied hleaving hbefore =>
      exact teardownsAgree_leave hwf hold
        (endsTeardown_finish hconsistent hpending hrequest hreplied hbefore hold)
  | finishesSelf hpending hrequest _ hleaving hattempt =>
      exact teardownsAgree_leave hwf hold
        (endsTeardown_attempt hconsistent hguard hpending hrequest hleaving hattempt [])
  | returns hpending =>
      apply teardownsAgree_setRequest hwf hold (RtspServer.entry_mem_requests hpending)
      · rfl
      · rfl
      · rfl
      · rfl
      · exact .inl
  | drops =>
      apply teardownsAgree_shrink hold
      · rfl
      · intro e he
        exact ⟨e, (Table.mem_removeSession.mp he).1, rfl, List.Subset.refl _⟩
  | @dropsMedia e media activity events _ he =>
      apply teardownsAgree_shrink hold
      · rfl
      · intro e' he'
        rcases Table.mem_setSession.mp he' with ⟨he', -⟩ | ⟨rfl, -⟩
        · exact ⟨e', he', rfl, List.Subset.refl _⟩
        · exact ⟨e, he, rfl, List.filter_sublist.subset⟩
  | expires => exact hold.append _
  | sweeps _ hleaving => exact hsweep _ _ hleaving
  | sweepsOn _ hleaving => exact hsweep _ _ hleaving
  | disconnects conn =>
      apply teardownsAgree_of_same hold
      · intro e he m hm
        exact .inl ⟨e, he, rfl, hm⟩
      · intro e he
        exact .inl ⟨e, he, rfl⟩
      · intro r' hr' session htear
        obtain ⟨r, hr, heq, -⟩ := Table.mem_disconnect hr'
        rw [heq] at htear ⊢
        exact ⟨r, hr, rfl, htear, rfl, .inl⟩
      · intro r hr session htear
        refine ⟨_, List.mem_map_of_mem hr, ?_⟩
        split
        next => exact ⟨rfl, htear⟩
        next => exact ⟨rfl, htear⟩

end Changes

end Steps

/-! ## Runs -/

/-- The step does with the medias of TEARDOWN requests what it should. -/
def StepsAtomically (P : Platform) (σ : ServerState) (input : Env × ServerInput) : Prop :=
  ∃ σ' ∈ (envStep P σ input).toOption,
    TeardownAtomic input.1 σ input.2 σ'.server.table σ'.events

instance (P : Platform) (σ : ServerState) (input : Env × ServerInput) :
    Decidable (StepsAtomically P σ input) :=
  inferInstanceAs (Decidable (∃ σ' ∈ (envStep P σ input).toOption, _))

/-- In every run whose steps keep the TEARDOWN requests, every step removes the
medias a TEARDOWN request selected when it has been answered with success, and no
others. -/
theorem teardown_atomic
    {P : Platform} (softwareName : Option Bytes) (replyTimeoutMs sessionTimeoutMs : Int32)
    (cbs : RtspServerCbs) {before after : List (Env × ServerInput)} {input : Env × ServerInput}
    {σ σ' : ServerState}
    (hguard : Execution.Guarded (envStep P) (fun σ input => KeepsTeardown P input.1 σ input.2)
      (serverStart softwareName replyTimeoutMs sessionTimeoutMs cbs) (before ++ input :: after))
    (hrun : Execution.run (envStep P)
      (serverStart softwareName replyTimeoutMs sessionTimeoutMs cbs) before = .ok σ)
    (hstep : envStep P σ input = .ok σ') :
    TeardownAtomic input.1 σ input.2 σ'.server.table σ'.events := by
  apply Execution.step_property
    (fun σ => σ.Consistent ∧ σ.server.table.TeardownsAgree σ.events) _ _ _ hguard hrun hstep
  · intro σ input σ₁ hσ hkeeps hstep
    obtain ⟨events, hevents, hchange⟩ := serverStep_changes hσ.1 hstep
    rw [hevents]
    exact ⟨hchange.consistent hσ.1, hchange.teardownsAgree hσ.1 hkeeps hσ.2⟩
  · intro σ input σ₁ hσ hkeeps hstep
    obtain ⟨events, hevents, hchange⟩ := serverStep_changes hσ.1 hstep
    rw [hevents]
    exact hchange.teardownAtomic hσ.1 hkeeps hσ.2
  · refine ⟨serverStart_consistent .., ?_, ?_, ?_⟩
    · simp [serverStart, rtspServerNew, RtspServer.table]
    · simp [serverStart, rtspServerNew, RtspServer.table]
    · simp [serverStart, rtspServerNew, RtspServer.table]

/-- A SETUP of one media, then a TEARDOWN request that waits for its reply. -/
def pendingTeardown : List (Env × ServerInput) :=
  let setup : RtspRequestHeader :=
    { method := .setup, uri := some (ascii "rtsp://h/p/a"), cseq := 1, transport := [{}] }
  let teardown : RtspRequestHeader :=
    { method := .teardown, uri := some (ascii "rtsp://h/p"), cseq := 2
      sessionId := some (ascii "0000000000000001") }
  [({ ids := [1] }, .receive 0 [.text (.request setup) []]), ({ ids := [1] }, .resume),
    ({}, .call (.replyToSetup 0 2 { status := 200, srcStreamPort := 1, srcControlPort := 2 })),
    ({}, .resume), ({}, .resume),
    ({}, .receive 0 [.text (.request teardown) []]), ({}, .resume), ({}, .resume), ({}, .resume)]

def replyToPendingTeardown (status : Int) : Env × ServerInput :=
  ({}, .call (.replyToTeardown 3 2 { status }))

/-- Answered with success the request takes the media and the session away. -/
theorem teardown_atomic_pendingTeardown :
    Execution.Reaches (envStep .bare)
      (fun σ => σ.server.sessions.length = 1 ∧
        ∃ σ' ∈ (envStep .bare σ (replyToPendingTeardown 200)).toOption,
          σ'.server.sessions = [] ∧
            TeardownAtomic {} σ (replyToPendingTeardown 200).2 σ'.server.table σ'.events)
      (serverStart none 0 0 {}) pendingTeardown := by
  have hrun : Execution.Reaches (envStep .bare)
      (fun σ => σ.server.sessions.length = 1 ∧
        ∃ σ' ∈ (envStep .bare σ (replyToPendingTeardown 200)).toOption, σ'.server.sessions = [])
      (serverStart none 0 0 {}) pendingTeardown := by
    decide +kernel
  obtain ⟨σ, hrun, hlive, σ', hstep, hgone⟩ := hrun
  have hstep' : envStep .bare σ (replyToPendingTeardown 200) = .ok σ' := by
    cases h : envStep .bare σ (replyToPendingTeardown 200) with
    | error halt => simp [h, Except.toOption] at hstep
    | ok σ₁ =>
        simp only [h, Except.toOption, Option.mem_def, Option.some.injEq] at hstep
        rw [hstep]
  have hguard : Execution.Guarded (envStep .bare)
      (fun σ input => KeepsTeardown .bare input.1 σ input.2) (serverStart none 0 0 {})
      (pendingTeardown ++ [replyToPendingTeardown 200]) := by
    decide +kernel
  exact ⟨σ, hrun, hlive, σ', hstep, hgone, teardown_atomic none 0 0 {} hguard hrun hstep'⟩

/-- Answered with an error it takes them away as well. -/
theorem refusedTeardown_removes :
    Execution.Reaches (envStep .bare)
      (fun σ => ¬ StepsAtomically .bare σ (replyToPendingTeardown 404) ∧
        ∃ σ' ∈ (envStep .bare σ (replyToPendingTeardown 404)).toOption, σ'.server.sessions = [])
      (serverStart none 0 0 {}) pendingTeardown := by
  decide +kernel

end Librtsp
