import Librtsp.ServerConsistency

/-!
# The medias a TEARDOWN request selects

`selectedMedias` states the purpose: the media the URI names, or else those below its path
at a slash.  The code compares the beginnings of the paths without looking for the slash,
selects every media when the path has a slash of its own, and sets the timer of the session
again and marks it busy before it finds out that nothing is selected.
-/

namespace Librtsp

open CString RecordList

/-! ## The selection -/

/-- The second path is the first one and more, with a slash between. -/
def LiesBelow (path below : Bytes) : Prop :=
  (path ++ [0x2f]) <+: below ∨ (path.getLast? = some 0x2f ∧ path <+: below)

instance decidableLiesBelow (path below : Bytes) : Decidable (LiesBelow path below) :=
  inferInstanceAs (Decidable (_ ∨ _))

/-- The media with this path, or else the medias below it; an empty path is above all. -/
def selectedMedias (medias : List RtspServerSessionMedia) (path : Option Bytes) :
    List RtspServerSessionMedia :=
  match path with
  | none => medias
  | some path =>
      if ∃ media ∈ medias, media.path = path then medias.filter fun media => media.path = path
      else medias.filter fun media => LiesBelow path media.path

/-- The medias the URI of a TEARDOWN request selects; one that cannot be read selects none. -/
def requestedMedias (session : RtspServerSession) (uri : Option Bytes) :
    List RtspServerSessionMedia :=
  match rtspUrlParsePath uri with
  | .error _ => []
  | .ok path => selectedMedias session.medias path

/-- A TEARDOWN request about this session arrives. -/
structure ArrivesTeardown (env : Env) (σ : ServerState) (input : ServerInput)
    (request : RtspServerPendingRequest) (session : RtspServerSession) : Prop where
  arrives : arriving env σ input = some request
  method : request.requestHeader.method = .teardown
  named : request.requestHeader.sessionId.bind (rtspServerSessionFind σ.server) = some session

/-- The medias a request waits for. -/
def ServerState.requestMedias (σ : ServerState) (request : Addr) : List Addr :=
  ((σ.server.findRequest request).map fun r =>
    r.medias.map RtspServerPendingRequestMedia.media).getD []

/-- The request is answered with an error and leaves the list. -/
def RefusesRequest (P : Platform) (env : Env) (σ σ' : ServerState)
    (request : RtspServerPendingRequest) : Prop :=
  σ'.server.findRequest request.addr = none ∧
    ∃ status conn, (status < 0 ∨ statusIsFailure status = true) ∧ request.conn = some conn ∧
      σ'.events =
        σ.events ++
          .received conn request.addr request.requestHeader request.body ::
            (errorResponse P env σ.server request status).2

/-- The request gets hold of the selected medias and marks them.  If there is none, it is
refused, and the sessions stay as they were. -/
structure TearsDownSelected (P : Platform) (env : Env) (σ σ' : ServerState)
    (request : RtspServerPendingRequest) (session : RtspServerSession) : Prop where
  waits : σ'.requestMedias request.addr =
    (requestedMedias session request.requestHeader.uri).map RtspServerSessionMedia.addr
  marks : (σ'.server.findSession session.addr).map RtspServerSession.medias =
    some (session.medias.map fun media =>
      if media ∈ requestedMedias session request.requestHeader.uri then
        { media with isTearingDown := true }
      else media)
  refuses : requestedMedias session request.requestHeader.uri = [] →
    RefusesRequest P env σ σ' request ∧ σ'.server.sessions = σ.server.sessions

/-- What begins with the path lies below it, and, when it has a slash, all medias do; and
there is one, unless the session has no medias. -/
def OnlyBelow (session : RtspServerSession) (path : Bytes) : Prop :=
  (∀ media ∈ session.medias, path <+: media.path ∨ 0x2f ∈ path → LiesBelow path media.path) ∧
    (session.medias = [] ∨ ∃ media ∈ session.medias, path <+: media.path)

/-- The URI cannot be read, or its path is empty or one of a media, or what the code takes
for the medias below it are these. -/
def SelectsBelow (session : RtspServerSession) (uri : Option Bytes) : Prop :=
  ∀ path, rtspUrlParsePath uri = .ok (some path) →
    (∃ media ∈ session.medias, media.path = path) ∨ OnlyBelow session path

/-! ## What the code selects -/

section Selects

variable {session : RtspServerSession} {path : Bytes} {media : RtspServerSessionMedia}

theorem rtspServerSessionMediaFind_isSome :
    (rtspServerSessionMediaFind session (some path)).isSome = true ↔
      ∃ media ∈ session.medias, media.path = path := by
  unfold rtspServerSessionMediaFind
  rw [Option.bind_some, List.find?_isSome]
  simp

theorem teardownSelects_exact (hexact : ∃ media ∈ session.medias, media.path = path) :
    teardownSelects session (some path) media = true ↔ media.path = path := by
  unfold teardownSelects
  dsimp only
  rw [if_pos (rtspServerSessionMediaFind_isSome.mpr hexact), decide_eq_true_iff]
  exact eq_comm

theorem strncmpEq_length {a b : Bytes} : strncmpEq a b a.length = true ↔ a <+: b := by
  unfold strncmpEq
  rw [List.take_length, beq_iff_eq, List.prefix_iff_eq_take]

/-- Without a media of this path the code selects what begins with it, or everything. -/
theorem teardownSelects_other (hother : ¬ ∃ media ∈ session.medias, media.path = path) :
    teardownSelects session (some path) media = true ↔ path <+: media.path ∨ 0x2f ∈ path := by
  unfold teardownSelects
  dsimp only
  rw [if_neg (mt rtspServerSessionMediaFind_isSome.mp hother)]
  have hslash : (strchr 0x2f path).isNone = true ↔ 0x2f ∉ path := by
    rw [Option.isNone_iff_eq_none]
    exact ⟨strchr_eq_none, strchr_none⟩
  split
  next hnone => simp [strncmpEq_length, hslash.mp hnone]
  next hsome => simp [not_not.mp (mt hslash.mpr hsome)]

/-- Two selections of a list take the same records exactly when they agree on the list. -/
theorem filter_keys_iff {α κ : Type*} {key : α → κ} {l : List α} (hkeys : (l.map key).Nodup)
    (p q : α → Bool) :
    (l.filter p).map key = (l.filter q).map key ↔ ∀ x ∈ l, p x = q x := by
  constructor
  · intro h x hx
    have hone : ∀ {p q : α → Bool}, (l.filter p).map key = (l.filter q).map key →
        p x = true → q x = true := by
      intro p q h hp
      have hmem : key x ∈ (l.filter p).map key :=
        List.mem_map_of_mem (List.mem_filter.mpr ⟨hx, hp⟩)
      rw [h] at hmem
      obtain ⟨y, hy, hkey⟩ := List.mem_map.mp hmem
      obtain ⟨hyl, hyq⟩ := List.mem_filter.mp hy
      rwa [List.inj_on_of_nodup_map hkeys hyl hx hkey] at hyq
    exact Bool.eq_iff_iff.mpr ⟨hone h, hone h.symm⟩
  · intro h
    rw [List.filter_congr h]

theorem LiesBelow.isPrefix {path below : Bytes} (h : LiesBelow path below) : path <+: below := by
  rcases h with hbelow | ⟨-, hbelow⟩
  · exact (List.prefix_append path [0x2f]).trans hbelow
  · exact hbelow

theorem selectedMedias_filter (medias : List RtspServerSessionMedia) (path : Option Bytes) :
    selectedMedias medias path =
      medias.filter fun media => media ∈ selectedMedias medias path := by
  have hfilter : ∀ p : RtspServerSessionMedia → Bool,
      medias.filter p = medias.filter fun media => media ∈ medias.filter p := by
    intro p
    apply List.filter_congr
    intro media hmedia
    simp [List.mem_filter, hmedia]
  unfold selectedMedias
  split
  next => exact (List.filter_eq_self.mpr fun media hmedia => decide_eq_true hmedia).symm
  next =>
    split
    next => exact hfilter _
    next => exact hfilter _

/-- The code selects what it should exactly when what it takes for a path below is one. -/
theorem teardownSelects_iff (path : Option Bytes) :
    (∀ media ∈ session.medias,
        teardownSelects session path media = true ↔
          media ∈ selectedMedias session.medias path) ↔
      match path with
      | none => True
      | some path =>
          (∃ media ∈ session.medias, media.path = path) ∨
            ∀ media ∈ session.medias, path <+: media.path ∨ 0x2f ∈ path →
              LiesBelow path media.path := by
  cases path with
  | none =>
      simp only [iff_true]
      exact fun media hmedia => ⟨fun _ => hmedia, fun _ => rfl⟩
  | some path =>
      unfold selectedMedias
      dsimp only
      by_cases hexact : ∃ media ∈ session.medias, media.path = path
      · rw [if_pos hexact]
        refine iff_of_true (fun media hmedia => ?_) (.inl hexact)
        rw [teardownSelects_exact hexact, List.mem_filter, decide_eq_true_iff]
        simp [hmedia]
      · rw [if_neg hexact, or_iff_right hexact]
        apply forall₂_congr
        intro media hmedia
        rw [teardownSelects_other hexact, List.mem_filter, decide_eq_true_iff]
        exact ⟨fun h hselected => (h.mp hselected).2,
          fun h => ⟨fun hselected => ⟨hmedia, h hselected⟩, fun hbelow => .inl hbelow.2.isPrefix⟩⟩

end Selects

/-! ## The step -/

section Step

variable {P : Platform} {env : Env} {σ σ' : ServerState} {input : ServerInput}
  {request : RtspServerPendingRequest} {session : RtspServerSession} {path : Option Bytes}

/-- The condition in terms of what the code selects. -/
theorem selectsBelow_iff (hpath : rtspUrlParsePath request.requestHeader.uri = .ok path)
    (hmedias : session.medias ≠ []) :
    SelectsBelow session request.requestHeader.uri ↔
      (∀ media ∈ session.medias,
        teardownSelects session path media = true ↔
          media ∈ selectedMedias session.medias path) ∧
        ∃ media ∈ session.medias, teardownSelects session path media = true := by
  obtain ⟨first, hfirst⟩ := List.exists_mem_of_ne_nil _ hmedias
  unfold SelectsBelow
  rw [teardownSelects_iff, hpath]
  cases path with
  | none => exact iff_of_true (fun path h => by cases h) ⟨trivial, first, hfirst, rfl⟩
  | some path =>
      have hread : (∀ other, (Except.ok (some path) : Except Errno (Option Bytes)) =
            .ok (some other) →
          (∃ media ∈ session.medias, media.path = other) ∨ OnlyBelow session other) ↔
          (∃ media ∈ session.medias, media.path = path) ∨ OnlyBelow session path := by
        constructor
        · exact fun h => h path rfl
        · rintro h other hother
          cases hother
          exact h
      rw [hread]
      by_cases hexact : ∃ media ∈ session.medias, media.path = path
      · obtain ⟨media, hmedia, hmediaPath⟩ := hexact
        exact iff_of_true (.inl ⟨media, hmedia, hmediaPath⟩)
          ⟨.inl ⟨media, hmedia, hmediaPath⟩, media, hmedia,
            (teardownSelects_exact ⟨media, hmedia, hmediaPath⟩).mpr hmediaPath⟩
      · dsimp only
        rw [or_iff_right hexact, or_iff_right hexact]
        unfold OnlyBelow
        rw [or_iff_right hmedias]
        refine and_congr_right fun hbelow => ?_
        constructor
        · rintro ⟨media, hmedia, hbegins⟩
          exact ⟨media, hmedia, (teardownSelects_other hexact).mpr (.inl hbegins)⟩
        · rintro ⟨media, hmedia, hselected⟩
          have hcode := (teardownSelects_other hexact).mp hselected
          exact ⟨media, hmedia, (hbelow media hmedia hcode).isPrefix⟩

/-- The medias of the session with the marks of a TEARDOWN request. -/
def markedMedias (session : RtspServerSession) (path : Option Bytes) :
    List RtspServerSessionMedia :=
  session.medias.map fun media =>
    if teardownSelects session path media then { media with isTearingDown := true } else media

/-- What the handler comes to. -/
theorem rtspServerTeardown_eq {server : RtspServer} {sessionId : Bytes}
    (hid : request.requestHeader.sessionId = some sessionId)
    (hpath : rtspUrlParsePath request.requestHeader.uri = .ok path)
    (hfind : rtspServerSessionFind server sessionId = some session)
    (hmedias : session.medias ≠ []) :
    rtspServerTeardown server request =
      match (session.medias.filter (teardownSelects session path)).map
        RtspServerSessionMedia.addr with
      | [] =>
          .failed .enoent 0 request
            (server.setSession
              { rtspServerSessionResetTimeout
                  { session with medias := markedMedias session path } with
                opInProgress := .teardown })
      | first :: rest =>
          startOperation server request { session with medias := markedMedias session path }
            .teardown first rest := by
  obtain ⟨media, rest, hcons⟩ := List.exists_cons_of_ne_nil hmedias
  have hnamed : namedSession server sessionId = some (session, media, rest) := by
    unfold namedSession
    rw [hfind]
    dsimp only
    rw [hcons]
  unfold rtspServerTeardown
  rw [hid]
  dsimp only
  rw [hpath]
  dsimp only
  rw [hnamed]
  rfl

/-- Without a path or without medias the request is refused, and the server stays. -/
theorem rtspServerTeardown_refused {server : RtspServer} {sessionId : Bytes}
    (hid : request.requestHeader.sessionId = some sessionId)
    (hfind : rtspServerSessionFind server sessionId = some session)
    (hnone : (∃ e, rtspUrlParsePath request.requestHeader.uri = .error e) ∨
      session.medias = []) :
    ∃ e status, (status = 0 ∨ statusIsFailure status = true) ∧
      rtspServerTeardown server request = .failed e status request server := by
  unfold rtspServerTeardown
  rw [hid]
  dsimp only
  cases hpath : rtspUrlParsePath request.requestHeader.uri with
  | error e => exact ⟨e, 0, .inl rfl, rfl⟩
  | ok path =>
      have hmedias : session.medias = [] := by
        rcases hnone with ⟨e, he⟩ | hmedias
        · rw [hpath] at he
          cases he
        · exact hmedias
      have hnamed : namedSession server sessionId = none := by
        unfold namedSession
        rw [hfind]
        dsimp only
        rw [hmedias]
      dsimp only
      rw [hnamed]
      exact ⟨.enoent, sessionNotFound, .inr (by decide), rfl⟩

theorem requestedMedias_nil
    (hnone : (∃ e, rtspUrlParsePath request.requestHeader.uri = .error e) ∨
      session.medias = []) :
    requestedMedias session request.requestHeader.uri = [] := by
  unfold requestedMedias
  split
  next => rfl
  next path hpath =>
    rcases hnone with ⟨e, he⟩ | hmedias
    · rw [hpath] at he
      cases he
    · rw [selectedMedias_filter, hmedias, List.filter_nil]

/-- A request that selects nothing and is refused with the sessions as they were. -/
theorem tearsDownSelected_unchanged (hwf : σ.server.table.WellFormed)
    (harrives : ArrivesTeardown env σ input request session)
    (hempty : requestedMedias session request.requestHeader.uri = [])
    (hsessions : σ'.server.sessions = σ.server.sessions)
    (hrefused : RefusesRequest P env σ σ' request) :
    TearsDownSelected P env σ σ' request session := by
  obtain ⟨sessionId, -, hfind⟩ := Option.bind_eq_some_iff.mp harrives.named
  refine ⟨?_, ?_, fun _ => ⟨hrefused, hsessions⟩⟩
  · unfold ServerState.requestMedias
    rw [hrefused.1, hempty]
    rfl
  · unfold RtspServer.findSession
    rw [hsessions, lookup_of_mem (RtspServer.session_keys_nodup hwf)
      (List.mem_of_find?_eq_some hfind), hempty]
    simp

/-- A request that is refused after the timer was set again has changed the session. -/
theorem not_tearsDownSelected (hwf : σ.server.table.WellFormed)
    (harrives : ArrivesTeardown env σ input request session)
    {changed : RtspServerSession} (haddr : changed.addr = session.addr)
    (hsets : changed.timerSets ≠ session.timerSets)
    (hsessions : σ'.server.sessions =
      replace RtspServerSession.addr changed σ.server.sessions)
    (hrefused : RefusesRequest P env σ σ' request) :
    ¬ TearsDownSelected P env σ σ' request session := by
  intro h
  obtain ⟨sessionId, -, hfind⟩ := Option.bind_eq_some_iff.mp harrives.named
  have hmem : session ∈ σ.server.sessions := List.mem_of_find?_eq_some hfind
  have hwaits := h.waits
  unfold ServerState.requestMedias at hwaits
  rw [hrefused.1] at hwaits
  have hsame := (h.refuses (by simpa using hwaits.symm)).2
  have hchanged : σ'.server.findSession session.addr = some changed := by
    rw [← haddr]
    unfold RtspServer.findSession
    rw [hsessions]
    exact @lookup_replace _ _ _ RtspServerSession.addr changed _ ⟨session, hmem, haddr.symm⟩
  have hkept : σ'.server.findSession session.addr = some session := by
    unfold RtspServer.findSession
    rw [hsame]
    exact lookup_of_mem (RtspServer.session_keys_nodup hwf) hmem
  rw [hchanged, Option.some.injEq] at hkept
  exact hsets (congrArg RtspServerSession.timerSets hkept)

/-- The request that is taken waits for what the code selects. -/
theorem tearsDownSelected_taken (hwf : σ.server.table.WellFormed)
    (harrives : ArrivesTeardown env σ input request session)
    (hpath : rtspUrlParsePath request.requestHeader.uri = .ok path)
    (hsome : session.medias.filter (teardownSelects session path) ≠ [])
    (hsession : σ'.server.findSession session.addr =
      some
        { rtspServerSessionResetTimeout { session with medias := markedMedias session path } with
          opInProgress := .teardown })
    (hwaits : σ'.requestMedias request.addr =
      (session.medias.filter (teardownSelects session path)).map RtspServerSessionMedia.addr) :
    TearsDownSelected P env σ σ' request session ↔
      ∀ media ∈ session.medias, teardownSelects session path media = true ↔
        media ∈ selectedMedias session.medias path := by
  have hrequested : requestedMedias session request.requestHeader.uri =
      selectedMedias session.medias path := by
    unfold requestedMedias
    rw [hpath]
  have hmem : session ∈ σ.server.sessions := by
    obtain ⟨sessionId, -, hfind⟩ := Option.bind_eq_some_iff.mp harrives.named
    exact List.mem_of_find?_eq_some hfind
  have hmediaKeys : (session.medias.map RtspServerSessionMedia.addr).Nodup := by
    have hdistinct := hwf.mediasDistinct _ (RtspServer.entry_mem_sessions hmem)
    rwa [RtspServerSession.entry_medias_fst] at hdistinct
  have hagree : σ'.requestMedias request.addr =
        (selectedMedias session.medias path).map RtspServerSessionMedia.addr ↔
      ∀ media ∈ session.medias, teardownSelects session path media = true ↔
        media ∈ selectedMedias session.medias path := by
    rw [hwaits, selectedMedias_filter, filter_keys_iff hmediaKeys]
    apply forall₂_congr
    intro media hmedia
    rw [Bool.eq_iff_iff, decide_eq_true_iff, ← selectedMedias_filter]
  constructor
  · intro h
    have hwaits := h.waits
    rw [hrequested] at hwaits
    exact hagree.mp hwaits
  · intro h
    refine ⟨?_, ?_, fun hempty => ?_⟩
    · rw [hrequested]
      exact hagree.mpr h
    · rw [hsession, hrequested]
      unfold markedMedias
      rw [Option.map_some, Option.some.injEq]
      apply List.map_congr_left
      intro media hmedia
      simp only [h media hmedia]
    · refine absurd (List.filter_eq_nil_iff.mpr fun media hmedia => ?_) hsome
      rw [h media hmedia, ← hrequested, hempty]
      exact List.not_mem_nil

/-- A request whose handler fails is answered with an error and leaves the list. -/
theorem failed_refuses {e : Errno} {status : Int} {server : RtspServer} {conn : Conn}
    (hserver : σ'.server = ((Processed.failed e status request server).outcome P env).1)
    (hevents : σ'.events =
      σ.events ++
        .received conn request.addr request.requestHeader request.body ::
          ((Processed.failed e status request server).outcome P env).2)
    (hconn : request.conn = some conn)
    (hstatus : status = 0 ∨ statusIsFailure status = true)
    (hanswer : ∀ status, (errorResponse P env server request status).2 =
      (errorResponse P env σ.server request status).2) :
    RefusesRequest P env σ σ' request := by
  refine ⟨?_, if statusIsFailure status then status else e.ret, conn, ?_, hconn, ?_⟩
  · rw [hserver]
    exact lookup_none.mpr fun r hr => (mem_remove.mp hr).2
  · rcases hstatus with rfl | hfailure
    · exact .inl e.ret_neg
    · rw [if_pos hfailure]
      exact .inr hfailure
  · rw [hevents, ← hanswer]
    rfl

theorem serverStep_tearsDownSelected_iff (hwf : σ.server.table.WellFormed)
    (harrives : ArrivesTeardown env σ input request session)
    (hstep : serverStep P env σ input = .ok σ') :
    TearsDownSelected P env σ σ' request session ↔
      SelectsBelow session request.requestHeader.uri := by
  obtain ⟨sessionId, hid, hfind⟩ := Option.bind_eq_some_iff.mp harrives.named
  obtain ⟨conn, processed, hconn, hprocessed, hserver, hevents⟩ :=
    arriving_outcome harrives.arrives hstep
  have hmem : session ∈ σ.server.sessions := List.mem_of_find?_eq_some hfind
  have hfind' : rtspServerSessionFind (σ.server.enqueue request) sessionId = some session := hfind
  unfold handleRequest at hprocessed
  rw [harrives.method] at hprocessed
  dsimp only at hprocessed
  by_cases hnone : (∃ e, rtspUrlParsePath request.requestHeader.uri = .error e) ∨
      session.medias = []
  · obtain ⟨e, status, hstatus, hteardown⟩ := rtspServerTeardown_refused hid hfind' hnone
    rw [hteardown] at hprocessed
    cases hprocessed
    have hsessions : σ'.server.sessions = σ.server.sessions := by
      rw [hserver]
      rfl
    refine iff_of_true ?_ fun path hpath => ?_
    · exact tearsDownSelected_unchanged hwf harrives (requestedMedias_nil hnone) hsessions
        (failed_refuses hserver hevents hconn hstatus fun _ => rfl)
    · rcases hnone with ⟨e, he⟩ | hmedias
      · rw [hpath] at he
        cases he
      · refine .inr ⟨fun media hmedia => ?_, .inl hmedias⟩
        rw [hmedias] at hmedia
        cases hmedia
  rw [not_or] at hnone
  obtain ⟨hreadable, hmedias⟩ := hnone
  obtain ⟨path, hpath⟩ : ∃ path, rtspUrlParsePath request.requestHeader.uri = .ok path := by
    cases hpath : rtspUrlParsePath request.requestHeader.uri with
    | error e => exact absurd ⟨e, hpath⟩ hreadable
    | ok path => exact ⟨path, rfl⟩
  rw [rtspServerTeardown_eq hid hpath hfind' hmedias] at hprocessed
  rw [selectsBelow_iff hpath hmedias]
  split at hprocessed
  next hnil =>
    cases hprocessed
    rw [List.map_eq_nil_iff, List.filter_eq_nil_iff] at hnil
    have hsessions : σ'.server.sessions = replace RtspServerSession.addr
        { rtspServerSessionResetTimeout { session with medias := markedMedias session path } with
          opInProgress := .teardown } σ.server.sessions := by
      rw [hserver]
      rfl
    refine iff_of_false ?_ fun h => ?_
    · apply not_tearsDownSelected hwf harrives _ _ hsessions
        (failed_refuses hserver hevents hconn (.inl rfl) fun _ => rfl)
      · rfl
      · exact Nat.succ_ne_self _
    · obtain ⟨media, hmedia, hselected⟩ := h.2
      exact hnil media hmedia hselected
  next first rest hcons =>
    cases hprocessed
    rw [tearsDownSelected_taken hwf harrives hpath]
    · refine (and_iff_left ?_).symm
      have hmember : first ∈ (session.medias.filter (teardownSelects session path)).map
          RtspServerSessionMedia.addr := by
        rw [hcons]
        exact List.mem_cons_self
      obtain ⟨media, hmedia, -⟩ := List.mem_map.mp hmember
      exact ⟨media, List.mem_filter.mp hmedia⟩
    · intro hempty
      rw [hempty] at hcons
      cases hcons
    · rw [hserver]
      exact @lookup_replace _ _ _ RtspServerSession.addr
        { rtspServerSessionResetTimeout { session with medias := markedMedias session path } with
          opInProgress := .teardown } _
        ⟨session, hmem, rfl⟩
    · have hfound : σ'.server.findRequest request.addr =
          some
            { request with
              inCallback := true
              target := some session.addr
              medias := (first :: rest).map fun media => { media } } := by
        rw [hserver]
        refine @lookup_replace _ _ _ RtspServerPendingRequest.addr
          { request with
            inCallback := true
            target := some session.addr
            medias := (first :: rest).map fun media => { media } } _ ⟨request, ?_, rfl⟩
        exact List.mem_append_right _ (List.mem_singleton_self _)
      unfold ServerState.requestMedias
      rw [hfound, hcons, Option.map_some, Option.getD_some, List.map_map]
      exact List.map_id _

end Step

/-- In every run: a TEARDOWN request that names a session selects the medias it should, and
leaves the sessions alone when there is none, exactly when the condition on its URI holds. -/
theorem teardownSelection_iff {P : Platform} {softwareName : Option Bytes}
    {replyTimeoutMs sessionTimeoutMs : Int32} {cbs : RtspServerCbs}
    {inputs : List (Env × ServerInput)} {σ σ' : ServerState} {input : Env × ServerInput}
    {request : RtspServerPendingRequest} {session : RtspServerSession}
    (hrun : Execution.run (envStep P)
      (serverStart softwareName replyTimeoutMs sessionTimeoutMs cbs) inputs = .ok σ)
    (harrives : ArrivesTeardown input.1 σ input.2 request session)
    (hstep : envStep P σ input = .ok σ') :
    TearsDownSelected P input.1 σ σ' request session ↔
      SelectsBelow session request.requestHeader.uri := by
  refine serverStep_tearsDownSelected_iff ?_ harrives hstep
  have hconsistent := Execution.invariant ServerState.Consistent
    (fun _ _ _ hconsistent _ hstep => serverStep_consistent hconsistent hstep)
    (serverStart_consistent softwareName replyTimeoutMs sessionTimeoutMs cbs)
    (Execution.guarded_of_forall (fun _ _ => trivial) _ _) hrun
  exact hconsistent.wellFormed

/-- The session has the media `p/a`, and a TEARDOWN request for this URI is received. -/
def receivedTeardown (uri : Bytes) : List (Env × ServerInput) :=
  let setup : RtspRequestHeader :=
    { method := .setup, uri := some (ascii "rtsp://h/p/a"), cseq := 1, transport := [{}] }
  let teardown : RtspRequestHeader :=
    { method := .teardown, uri := some uri, cseq := 2
      sessionId := some (ascii "0000000000000001") }
  [({ ids := [1] }, .receive 0 [.text (.request setup) []]), ({ ids := [1] }, .resume),
    ({}, .call (.replyToSetup 0 2 { status := 200, srcStreamPort := 1, srcControlPort := 2 })),
    ({}, .resume), ({}, .resume), ({}, .receive 0 [.text (.request teardown) []])]

theorem teardownSelection_parent :
    ∃ σ σ' request session,
      Execution.run (envStep .bare) (serverStart none 0 0 {})
          (receivedTeardown (ascii "rtsp://h/p")) = .ok σ ∧
        envStep .bare σ ({}, .resume) = .ok σ' ∧ σ'.requestMedias request.addr ≠ [] ∧
          TearsDownSelected .bare {} σ σ' request session := by
  have hrun : Execution.Reaches (envStep .bare)
      (fun σ => ∃ σ' ∈ (envStep .bare σ ({}, .resume)).toOption,
        ∃ request ∈ arriving {} σ .resume, request.requestHeader.method = .teardown ∧
          ∃ session ∈ request.requestHeader.sessionId.bind (rtspServerSessionFind σ.server),
            session.medias.map RtspServerSessionMedia.path = [ascii "p/a"] ∧
              request.requestHeader.uri = some (ascii "rtsp://h/p") ∧
              σ'.requestMedias request.addr ≠ [])
      (serverStart none 0 0 {}) (receivedTeardown (ascii "rtsp://h/p")) := by
    decide +kernel
  obtain ⟨σ, hrun, σ', hstep, request, harrives, hmethod, session, hnamed, hpaths, huri,
    hwaits⟩ := hrun
  refine ⟨σ, σ', request, session, hrun, Execution.ok_of_toOption hstep, hwaits, ?_⟩
  apply (teardownSelection_iff hrun ⟨harrives, hmethod, hnamed⟩
    (Execution.ok_of_toOption hstep)).mpr
  obtain ⟨media, hmedias, hmedia⟩ := List.map_eq_singleton_iff.mp hpaths
  have hread : rtspUrlParsePath (some (ascii "rtsp://h/p")) = .ok (some (ascii "p")) := by
    decide +kernel
  intro path hpath
  rw [huri, hread] at hpath
  cases hpath
  refine .inr ⟨fun other hother _ => ?_, .inr ⟨media, ?_, ?_⟩⟩
  · rw [hmedias, List.mem_singleton] at hother
    rw [hother, hmedia]
    decide
  · rw [hmedias]
    exact List.mem_singleton_self media
  · rw [hmedia]
    decide

/-- A TEARDOWN request for `x/y` selects the media `p/a`, and one for `x` is refused but
leaves the session busy. -/
theorem teardownSelection_elsewhere :
    (∃ σ σ' request session,
      Execution.run (envStep .bare) (serverStart none 0 0 {})
          (receivedTeardown (ascii "rtsp://h/x/y")) = .ok σ ∧
        envStep .bare σ ({}, .resume) = .ok σ' ∧
          ArrivesTeardown {} σ .resume request session ∧
          ¬ TearsDownSelected .bare {} σ σ' request session) ∧
      Execution.Reaches (envStep .bare)
        (fun σ => ∃ σ' ∈ (envStep .bare σ ({}, .resume)).toOption,
          σ.server.sessions.map RtspServerSession.opInProgress = [.unknown] ∧
            σ'.server.sessions.map RtspServerSession.opInProgress = [.teardown] ∧
            σ'.server.pendingRequests = [])
        (serverStart none 0 0 {}) (receivedTeardown (ascii "rtsp://h/x")) := by
  constructor
  · have hrun : Execution.Reaches (envStep .bare)
        (fun σ => ∃ σ' ∈ (envStep .bare σ ({}, .resume)).toOption,
          ∃ request ∈ arriving {} σ .resume, request.requestHeader.method = .teardown ∧
            ∃ session ∈ request.requestHeader.sessionId.bind (rtspServerSessionFind σ.server),
              σ'.requestMedias request.addr ≠
                (requestedMedias session request.requestHeader.uri).map
                  RtspServerSessionMedia.addr)
        (serverStart none 0 0 {}) (receivedTeardown (ascii "rtsp://h/x/y")) := by
      decide +kernel
    obtain ⟨σ, hrun, σ', hstep, request, harrives, hmethod, session, hnamed, hwaits⟩ := hrun
    exact ⟨σ, σ', request, session, hrun, Execution.ok_of_toOption hstep,
      ⟨harrives, hmethod, hnamed⟩, fun h => hwaits h.waits⟩
  · decide +kernel

end Librtsp
