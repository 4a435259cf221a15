import Librtsp.ClientSteps
import Librtsp.UrlCredentials

/-!
# Credentials in request URIs

The URL of the connection and the content base of a SETUP lose their credentials before they
are kept, and what is joined to them stands behind their authority.  So no request URI has a
userinfo as long as the resource URLs given to SETUP and TEARDOWN have none; an absolute one is
sent as it is.
-/

namespace Librtsp

open CString RecordList

/-! ## Userinfo -/

/-- The bytes that end the scheme of a URI. -/
def schemeEnds : Bytes :=
  [0x3a, 0x2f, 0x3f, 0x23]

/-- What stands behind the scheme of a URI, if it has one.  Any scheme counts, in any letter
case. -/
def behindScheme (uri : Bytes) : Bytes :=
  match uri.takeWhile (· ∉ schemeEnds), uri.dropWhile (· ∉ schemeEnds) with
  | _ :: _, 0x3a :: rest => rest
  | _, _ => uri

/-- The authority of a URI: from two slashes, behind the scheme if there is one, to the next
slash. -/
def uriAuthority (uri : Bytes) : Option Bytes :=
  match behindScheme uri with
  | 0x2f :: 0x2f :: rest => some (rest.takeWhile (· ≠ 0x2f))
  | _ => none

/-- An at sign in the authority of a URI. -/
def hasUserInfo (uri : Bytes) : Bool :=
  match uriAuthority uri with
  | none => false
  | some authority => authority.contains 0x40

/-- A scheme, an authority without credentials, and what follows it. -/
def BareUrl (text : Bytes) : Prop :=
  ∃ entry ∈ rtspUrlSchemeMap, ∃ host tail, host ≠ [] ∧ (∀ b ∈ host, b ≠ 0x2f ∧ b ≠ 0x40) ∧
    AtDelimiter [0x2f] tail ∧ text = entry.2.2 ++ (host ++ tail)

/-- A URL that may be missing. -/
def BareBase (base : Option Bytes) : Prop :=
  ∀ text ∈ base, BareUrl text

section Urls

variable {text base control uri : Bytes}

theorem uriAuthority_behind {scheme : Bytes} (hne : scheme ≠ [])
    (hscheme : ∀ b ∈ scheme, b ∉ schemeEnds) (rest : Bytes) :
    uriAuthority (scheme ++ 0x3a :: 0x2f :: 0x2f :: rest) =
      some (rest.takeWhile (· ≠ 0x2f)) := by
  have hall : ∀ b ∈ scheme, decide (b ∉ schemeEnds) = true := by
    intro b hb
    exact decide_eq_true (hscheme b hb)
  have hbehind : behindScheme (scheme ++ 0x3a :: 0x2f :: 0x2f :: rest) =
      0x2f :: 0x2f :: rest := by
    unfold behindScheme
    rw [List.takeWhile_append_of_pos hall, List.dropWhile_append_of_pos hall]
    cases scheme with
    | nil => exact absurd rfl hne
    | cons b scheme => rfl
  unfold uriAuthority
  rw [hbehind]
  rfl

/-- The schemes of the map are followed by a colon and two slashes. -/
theorem uriAuthority_known {entry : RtspUrlScheme × UInt16 × Bytes}
    (hentry : entry ∈ rtspUrlSchemeMap) (rest : Bytes) :
    uriAuthority (entry.2.2 ++ rest) = some (rest.takeWhile (· ≠ 0x2f)) := by
  have hmap : ∀ entry ∈ rtspUrlSchemeMap, ∃ n, entry.2.2.take n ≠ [] ∧
      (∀ b ∈ entry.2.2.take n, b ∉ schemeEnds) ∧
        entry.2.2 = entry.2.2.take n ++ [0x3a, 0x2f, 0x2f] := by
    intro entry hentry
    refine ⟨entry.2.2.length - 3, ?_⟩
    revert entry
    decide +kernel
  obtain ⟨n, hne, hscheme, hstr⟩ := hmap entry hentry
  rw [hstr, List.append_assoc]
  exact uriAuthority_behind hne hscheme rest

theorem takeWhile_authority {host tail : Bytes} (hhost : ∀ b ∈ host, b ≠ 0x2f ∧ b ≠ 0x40)
    (htail : AtDelimiter [0x2f] tail) : (host ++ tail).takeWhile (· ≠ 0x2f) = host := by
  have htaken : tail.takeWhile (· ≠ 0x2f) = [] := by
    cases tail with
    | nil => rfl
    | cons b tail =>
        rw [atDelimiter_cons, List.mem_singleton] at htail
        rw [htail]
        rfl
  rw [List.takeWhile_append_of_pos, htaken, List.append_nil]
  intro b hb
  exact decide_eq_true (hhost b hb).1

theorem BareUrl.noUserInfo (h : BareUrl text) : hasUserInfo text = false := by
  obtain ⟨entry, hentry, host, tail, hne, hhost, htail, rfl⟩ := h
  unfold hasUserInfo
  rw [uriAuthority_known hentry, takeWhile_authority hhost htail]
  dsimp only
  rw [Bool.eq_false_iff]
  intro hat
  exact (hhost _ (List.contains_iff_mem.mp hat)).2 rfl

theorem BareBase.noUserInfo {base : Option Bytes} (h : BareBase base) :
    ∀ text ∈ base, hasUserInfo text = false :=
  fun text htext => (h text htext).noUserInfo

/-- Text behind a slash is not in the authority. -/
theorem BareUrl.slash (h : BareUrl text) (rest : Bytes) : BareUrl (text ++ 0x2f :: rest) := by
  obtain ⟨entry, hentry, host, tail, hne, hhost, htail, rfl⟩ := h
  refine ⟨entry, hentry, host, tail ++ 0x2f :: rest, hne, hhost, ?_, ?_⟩
  · cases tail with
    | nil => exact atDelimiter_cons.mpr (List.mem_singleton_self _)
    | cons b tail =>
        rw [atDelimiter_cons] at htail
        exact atDelimiter_cons.mpr htail
  · simp only [List.append_assoc]

theorem BareUrl.behindSlash (h : BareUrl text) (hlast : text.getLast? = some 0x2f)
    (rest : Bytes) : BareUrl (text ++ rest) := by
  obtain ⟨entry, hentry, host, tail, hne, hhost, htail, rfl⟩ := h
  refine ⟨entry, hentry, host, tail ++ rest, hne, hhost, ?_, ?_⟩
  · cases tail with
    | nil =>
        -- The last byte is one of the host.
        rw [List.append_nil, List.getLast?_append_of_ne_nil _ hne] at hlast
        exact absurd rfl (hhost _ (List.mem_of_getLast? hlast)).1
    | cons b tail =>
        rw [atDelimiter_cons] at htail
        exact atDelimiter_cons.mpr htail
  · simp only [List.append_assoc]

/-- A resource URL is the URI itself, or what is behind a content base. -/
theorem formatRequestUri_noUserInfo {base : Option Bytes} (hbase : BareBase base)
    (hcontrol : hasUserInfo control = false) (h : formatRequestUri base control = .ok uri) :
    hasUserInfo uri = false := by
  unfold formatRequestUri at h
  split at h
  next =>
    cases h
    exact hcontrol
  next =>
    split at h
    next => cases h
    next base =>
      cases h
      have hbare := hbase base rfl
      split
      next hlast =>
        rw [List.append_nil]
        apply (hbare.behindSlash _ control).noUserInfo
        unfold getLastChar at hlast
        split at hlast
        next => cases hlast
        next => exact hlast
      next =>
        rw [List.append_assoc]
        exact (hbare.slash control).noUserInfo

theorem stripCredentials_bare {inetPton : AddressFamily → Bytes → Bool} {addr : Option Bytes}
    (h : rtspUrlStripCredentials inetPton addr = .ok text) : BareUrl text := by
  cases haddr : addr with
  | none =>
      rw [haddr] at h
      cases h
  | some given =>
      rw [haddr] at h
      cases hparse : rtspUrlParseInternal (some given) with
      | error e =>
          unfold rtspUrlStripCredentials rtspUrlParse at h
          rw [hparse] at h
          cases h
      | ok url =>
          rw [rtspUrlStripCredentials_ok inetPton hparse] at h
          cases h
          obtain ⟨hurl, -⟩ := rtspUrlParseInternal_parsed hparse
          obtain ⟨entry, hentry, hscheme, -⟩ := hurl.scheme
          have hstr := (rtspUrlSchemeMap_find hentry []).2.1
          rw [hscheme] at hstr
          refine ⟨entry, hentry, urlHostStr url.host ++ urlPortStr url.port url.portExplicit,
            urlPathStr url.path, ?_, ?_, ?_, ?_⟩
          · intro hempty
            have hhost := (List.append_eq_nil_iff.mp hempty).1
            unfold urlHostStr at hhost
            split at hhost
            next => cases hhost
            next => exact hurl.host.nonempty hhost
          · intro b hb
            rcases List.mem_append.mp hb with hb | hb
            · exact urlHostStr_plain hurl.host hb
            · exact urlPortStr_plain hb
          · cases url.path with
            | none => exact atDelimiter_nil
            | some path => exact atDelimiter_cons.mpr (List.mem_singleton_self _)
          · have hnone : urlUserInfoStr none none = [] := rfl
            simp only [urlText, withoutCredentials, hnone, hstr, Option.getD_some,
              List.nil_append]

end Urls

/-! ## What the client keeps -/

/-- The client keeps no credentials where it takes URIs from. -/
structure RtspClient.Stripped (client : RtspClient) : Prop where
  url : BareBase client.urlStr
  slot : BareBase client.request.contentBase
  bases : ∀ session ∈ client.sessions, BareBase session.contentBase

theorem BareBase.none : BareBase none := fun _ h => nomatch h

theorem BareBase.some {text : Bytes} (h : BareUrl text) : BareBase (some text) := by
  rintro text' ⟨⟩
  exact h

theorem BareBase.or {base base' : Option Bytes} (h : BareBase base) (h' : BareBase base') :
    BareBase (base.or base') := by
  cases base with
  | none => exact h'
  | some text => exact h

namespace RtspClient

variable {client client' : RtspClient} {session : RtspClientSession}

theorem Stripped.new (softwareName : Option Bytes) (cbs : RtspClientCbs) :
    (rtspClientNew softwareName cbs).Stripped :=
  ⟨.none, .none, fun _ hmem => absurd hmem List.not_mem_nil⟩

theorem Stripped.withSessions (h : client.Stripped) (hurl : client'.urlStr = client.urlStr)
    (hslot : client'.request.contentBase = client.request.contentBase)
    (hbases : ∀ session ∈ client'.sessions, BareBase session.contentBase) :
    client'.Stripped := by
  refine ⟨?_, ?_, hbases⟩
  · rw [hurl]
    exact h.url
  · rw [hslot]
    exact h.slot

/-- A session is replaced by itself. -/
theorem Stripped.replaced (h : client.Stripped) {old : RtspClientSession} {addr : Addr}
    (hfind : client.findSession addr = some old)
    (hsessions : client'.sessions = replace RtspClientSession.addr session client.sessions)
    (hsame : session.contentBase = old.contentBase) (hurl : client'.urlStr = client.urlStr)
    (hslot : client'.request.contentBase = client.request.contentBase) : client'.Stripped := by
  apply h.withSessions hurl hslot
  rw [hsessions]
  intro x hx
  rcases mem_replace.mp hx with ⟨hx, -⟩ | ⟨rfl, -⟩
  · exact h.bases x hx
  · rw [hsame]
    exact h.bases old (findSession_some hfind).1

end RtspClient

section Changes

variable {env : ClientEnv} {kinds : List ChangeKind} {client client' : RtspClient}
  {events : List ClientEvent}

/-- A call leaves the URL and the content bases of the sessions alone. -/
theorem CallOutcome.stripped {method : RtspMethodType} {userdata : Nat} {timeoutMs : UInt32}
    {internal : Bool} {stages : CallStages} {marked : Option RtspClientSession} {called : Called}
    (h : CallOutcome env client method userdata timeoutMs internal stages marked called)
    (hstripped : client.Stripped) (hslot : BareBase called.client.request.contentBase) :
    called.client.Stripped := by
  have hurl : ∀ {built}, Filled env (Librtsp.claimed client) built method userdata →
      built.urlStr = client.urlStr := by
    intro built hfilled
    rw [hfilled.same]
    rfl
  cases h with
  | refused e hclaims => exact hstripped
  | claimed e hclaim hclaims hlookups => exact hstripped.withSessions rfl rfl hstripped.bases
  | unnumbered e hclaim hclaims hlookups hreserves hunset =>
      exact ⟨hstripped.url, hslot, hstripped.bases⟩
  | @unsent _ built e hclaim hclaims hlookups hreserves hfilled =>
      refine ⟨?_, hslot, ?_⟩
      · change BareBase built.urlStr
        rw [hurl hfilled]
        exact hstripped.url
      · change ∀ session ∈ built.sessions, BareBase session.contentBase
        rw [hfilled.sessions]
        exact hstripped.bases
  | @sent built message hclaim hmethod hfilled hagent hsock hsend =>
      refine ⟨?_, hslot, ?_⟩
      · change BareBase built.urlStr
        rw [hurl hfilled]
        exact hstripped.url
      · change ∀ session ∈ built.sessions, BareBase session.contentBase
        rw [hfilled.sessions]
        exact hstripped.bases
  | @tearsDown built session message hclaim hmethod hteardown hfilled hagent hsock hsend hfind =>
      refine ⟨?_, hslot, ?_⟩
      · change BareBase built.urlStr
        rw [hurl hfilled]
        exact hstripped.url
      · change ∀ x ∈ replace RtspClientSession.addr { session with internalTeardown := internal }
          built.sessions, BareBase x.contentBase
        rw [hfilled.sessions]
        intro x hx
        rcases mem_replace.mp hx with ⟨hx, -⟩ | ⟨rfl, -⟩
        · exact hstripped.bases x hx
        · exact (hstripped.bases session (RtspClient.findSession_some hfind).1 :)

theorem ClientChange.stripped (h : ClientChange env kinds client events client')
    (hwf : client.WellFormed) (hstripped : client.Stripped) : client'.Stripped := by
  induction h with
  | refl => exact hstripped
  | trans hab _ ihab ihbc => exact ihbc (hab.wellFormed hwf) (ihab hwf hstripped)
  | told => exact hstripped
  | answered => exact hstripped
  | connecting => exact hstripped
  | delivered => exact hstripped
  | received => exact hstripped.withSessions rfl rfl hstripped.bases
  | linked haddr h hkind htext =>
      rw [h]
      refine ⟨?_, hstripped.slot, hstripped.bases⟩
      rcases htext with hsame | hnone | ⟨addr, text, hstrip, hset⟩
      · rw [hsame]
        exact hstripped.url
      · rw [hnone]
        exact .none
      · rw [hset]
        exact .some (stripCredentials_bare hstrip)
  | forgotten => exact hstripped.withSessions rfl rfl hstripped.bases
  | called _ call houtcome huris hbase =>
      apply houtcome.stripped hstripped
      rcases hbase with hsame | ⟨asked, args, base, -, hstrip, hset⟩
      · rw [hsame]
        exact hstripped.slot
      · rw [hset]
        exact .some (stripCredentials_bare hstrip)
  | tearsDown _ houtcome =>
      apply houtcome.stripped hstripped
      rw [houtcome.base nofun]
      exact hstripped.slot
  | completed _ resp status hpending h =>
      have hbases := completed_bases hwf hstripped.bases (fun base hbase => hbase.or hstripped.slot)
        (fun _ => hstripped.slot) h
      have hframe := completed_frame h
      refine ⟨?_, ?_, hbases⟩
      · rw [hframe]
        exact hstripped.url
      · rcases completed_slotBase hwf h with hnone | hsame
        · rw [hnone]
          exact .none
        · rw [hsame]
          exact hstripped.slot
  | expired => exact hstripped.withSessions rfl rfl hstripped.bases
  | fired _ hfind => exact hstripped.replaced hfind rfl rfl rfl rfl
  | rearmed _ hfind failed timerMsec =>
      exact hstripped.replaced hfind rfl (RtspClient.resetKeepAliveTimer_contentBase _ _) rfl rfl
  | drafted _ hidle hheader => exact hstripped.withSessions rfl rfl hstripped.bases
  | keptAlive _ hfind hidle hstate hheader hsession =>
      exact hstripped.replaced hfind rfl rfl rfl rfl
  | resumed _ hfind =>
      exact hstripped.replaced hfind rfl (RtspClient.resetKeepAliveTimer_contentBase _ _) rfl rfl
  | unmarked hfind => exact hstripped.replaced hfind rfl rfl rfl rfl
  | external => exact hstripped.withSessions rfl rfl hstripped.bases
  | mediaAdded _ hfind hadd =>
      unfold rtspClientSessionMediaAdd at hadd
      split at hadd
      next =>
        cases hadd
        exact hstripped.replaced hfind rfl rfl rfl rfl
      next => cases hadd
  | mediaDropped hfind => exact hstripped.replaced hfind rfl rfl rfl rfl
  | mediasDropped hfind => exact hstripped.replaced hfind rfl rfl rfl rfl
  | unlinked hfind =>
      exact hstripped.withSessions rfl rfl fun x hx => hstripped.bases x (mem_remove.mp hx).1

/-- Without a call the URI of a request is the content base of a session. -/
theorem ClientChange.sentBare (h : ClientChange env kinds client events client')
    (hwf : client.WellFormed) (hstripped : client.Stripped) (hcall : .call ∉ kinds) :
    SentTo BareBase events := by
  induction h with
  | trans hab hbc ihab ihbc =>
      exact (ihab hwf hstripped).append
        (ihbc (hab.wellFormed hwf) (hab.stripped hwf hstripped))
  | linked haddr h => exact .nil
  | called hkind => exact absurd hkind hcall
  | tearsDown hkind houtcome huris =>
      apply huris.mono
      rintro uri ⟨session, hsession, rfl⟩
      exact hstripped.bases session hsession
  | completed hkind resp status hpending h => exact .of_unsent h.unsent
  | keptAlive hkind hfind hidle hstate hheader hsession hagent hevents huri =>
      have hbare := hstripped.bases _ (RtspClient.findSession_some hfind).1
      rcases hevents with rfl | ⟨message, rfl⟩
      · exact .nil
      · apply SentTo.one
        refine ⟨?_, huri.2⟩
        rw [huri.1]
        exact hbare
  | mediaAdded hkind hfind hadd => exact .nil
  | _ => exact .of_unsent rfl

end Changes

/-! ## Calls -/

/-- The resource URL an application gives. -/
def ClientCall.resourceUrl : ClientCall → Option Bytes
  | .setup asked _ => asked.resourceUrl
  | .teardown resourceUrl _ _ => resourceUrl
  | _ => none

def ClientInput.resourceUrl : ClientInput → Option Bytes
  | .call asked => asked.resourceUrl
  | _ => none

section Calls

variable {env : ClientEnv} {client : RtspClient} {uri : Option Bytes}

theorem makeUri_noUserInfo (hstripped : client.Stripped) (path : Option Bytes) :
    ∀ text ∈ makeUri client path, hasUserInfo text = false := by
  cases path with
  | none => exact hstripped.url.noUserInfo
  | some path =>
      rintro text ⟨⟩
      cases hurl : client.urlStr with
      | none => rfl
      | some url =>
          have hbare := hstripped.url url hurl
          rw [Option.getD_some, List.append_assoc]
          exact (hbare.slash path).noUserInfo

/-- The URI of a call has no userinfo unless its resource URL has one. -/
theorem ClientCall.addresses_noUserInfo {call : ClientCall} (hstripped : client.Stripped)
    (hresource : ∀ resource ∈ call.resourceUrl, hasUserInfo resource = false)
    (h : call.Addresses env client uri) : ∀ text ∈ uri, hasUserInfo text = false := by
  have hsession : (∃ session ∈ client.sessions, uri = session.contentBase) →
      ∀ text ∈ uri, hasUserInfo text = false := by
    rintro ⟨session, hmem, rfl⟩
    exact (hstripped.bases session hmem).noUserInfo
  cases call with
  | options args =>
      obtain rfl : uri = some (ascii "*") := h
      rintro text ⟨⟩
      rfl
  | describe path args =>
      obtain rfl : uri = makeUri client path := h
      exact makeUri_noUserInfo hstripped path
  | announce path sessionDescription args =>
      obtain rfl : uri = makeUri client path := h
      exact makeUri_noUserInfo hstripped path
  | setup asked args =>
      obtain ⟨base, resource, found, hstrip, hgiven, hformat, rfl⟩ := h
      rintro text ⟨⟩
      apply formatRequestUri_noUserInfo (.some (stripCredentials_bare hstrip)) _ hformat
      exact hresource resource (nonEmpty_some hgiven)
  | play sessionId range scale args => exact hsession h
  | pause sessionId range args => exact hsession h
  | record sessionId range args => exact hsession h
  | teardown resourceUrl sessionId args =>
      obtain ⟨session, hmem, huri⟩ := h
      unfold teardownUri at huri
      split at huri
      next =>
        cases huri
        exact (hstripped.bases session hmem).noUserInfo
      next resource hgiven =>
        obtain ⟨found, hformat, rfl⟩ := except_map_ok.mp huri
        rintro text ⟨⟩
        apply formatRequestUri_noUserInfo (hstripped.bases session hmem) _ hformat
        exact hresource resource (nonEmpty_some hgiven)

theorem formatRequestUri_suffix {base : Option Bytes} {control text : Bytes}
    (h : formatRequestUri base control = .ok text) : control <:+ text := by
  unfold formatRequestUri at h
  split at h
  next =>
    cases h
    exact List.suffix_rfl
  next =>
    split at h
    next => cases h
    next =>
      cases h
      exact List.suffix_append _ _

/-- A resource URL with a userinfo is a part of the URI. -/
theorem ClientCall.addresses_resource {call : ClientCall} {resource : Bytes}
    (hresource : resource ∈ call.resourceUrl) (hinfo : hasUserInfo resource = true)
    (h : call.Addresses env client uri) : ∃ text ∈ uri, resource <:+ text := by
  have hgiven : nonEmpty (some resource) = some resource := by
    cases resource with
    | nil => cases hinfo
    | cons b resource => rfl
  cases call with
  | setup asked args =>
      obtain ⟨base, control, found, hstrip, hcontrol, hformat, rfl⟩ := h
      obtain rfl : resource = control := by
        rw [show asked.resourceUrl = some resource from hresource, hgiven] at hcontrol
        exact Option.some.inj hcontrol
      exact ⟨found, rfl, formatRequestUri_suffix hformat⟩
  | teardown resourceUrl sessionId args =>
      obtain ⟨session, hmem, huri⟩ := h
      unfold teardownUri at huri
      rw [show resourceUrl = some resource from hresource, hgiven] at huri
      obtain ⟨found, hformat, rfl⟩ := except_map_ok.mp huri
      exact ⟨found, rfl, formatRequestUri_suffix hformat⟩
  | _ => cases hresource

end Calls

/-! ## Runs -/

/-- Neither the URI nor the one in the Digest has a userinfo, and a resource URL with a userinfo
is not in the URI. -/
structure RtspRequestHeader.KeepsCredentials (header : RtspRequestHeader)
    (resourceUrl : Option Bytes) : Prop where
  uri : ∀ text ∈ header.uri, hasUserInfo text = false
  digest : ∀ auth ∈ header.authorization, auth.type = .digest →
    ∀ text ∈ auth.uri, hasUserInfo text = false
  resource : ∀ resource ∈ resourceUrl, hasUserInfo resource = true →
    ∀ text ∈ header.uri, ¬ resource <:+ text

/-- The resource URL that is given has no userinfo. -/
def ClientInput.GivesBareResource (input : ClientInput) : Prop :=
  ∀ resource ∈ input.resourceUrl, hasUserInfo resource = false

section Machine

variable {E : HeaderEdit} {P : Platform}

theorem clientEnvStep_stripped {s s' : ClientState} {input : ClientEnv × ClientInput}
    (h : s.client.WellFormed ∧ s.client.Stripped) (hstep : clientEnvStep E P s input = .ok s') :
    s'.client.WellFormed ∧ s'.client.Stripped := by
  obtain ⟨events, -, hchange⟩ := clientStep_changes h.1 hstep
  exact ⟨hchange.wellFormed h.1, hchange.stripped h.1 h.2⟩

theorem run_stripped {softwareName : Option Bytes} {cbs : RtspClientCbs} {s : ClientState}
    {inputs : List (ClientEnv × ClientInput)}
    (h : Execution.run (clientEnvStep E P) (clientStart softwareName cbs) inputs = .ok s) :
    s.client.WellFormed ∧ s.client.Stripped :=
  Execution.invariant (fun s => s.client.WellFormed ∧ s.client.Stripped)
    (fun _ _ _ hs _ hstep => clientEnvStep_stripped hs hstep)
    ⟨RtspClient.WellFormed.new softwareName cbs, RtspClient.Stripped.new softwareName cbs⟩
    (Execution.guarded_of_forall (fun _ _ => trivial) _ _) h

theorem SentTo.keepCredentials {events : List ClientEvent} {given : Option Bytes}
    (hsent : SentTo (fun uri => ∀ text ∈ uri, hasUserInfo text = false) events)
    (hgiven : ∀ resource ∈ given, hasUserInfo resource = false) :
    ∀ header ∈ sentHeaders events, header.KeepsCredentials given := by
  intro header hheader
  obtain ⟨message, hmem⟩ := mem_sentHeaders.mp hheader
  obtain ⟨huri, hdigest⟩ := hsent header message hmem
  refine ⟨huri, ?_, ?_⟩
  · intro auth hauth htype
    rw [hdigest auth hauth htype]
    exact huri
  · intro resource hresource hinfo
    rw [hgiven resource hresource] at hinfo
    cases hinfo

/-- In every run, a request keeps credentials out of its URI exactly when no resource URL with a
userinfo is given for it. -/
theorem requests_keepCredentials_iff (E : HeaderEdit) (P : Platform)
    (softwareName : Option Bytes) (cbs : RtspClientCbs)
    (before : List (ClientEnv × ClientInput)) (env : ClientEnv) (input : ClientInput)
    (s s' : ClientState)
    (hrun : Execution.run (clientEnvStep E P) (clientStart softwareName cbs) before = .ok s)
    (hstep : clientEnvStep E P s (env, input) = .ok s') :
    ∃ sent, sentHeaders s'.events = sentHeaders s.events ++ sent ∧
      ∀ header ∈ sent, header.KeepsCredentials input.resourceUrl ↔ input.GivesBareResource := by
  obtain ⟨hwf, hstripped⟩ := run_stripped hrun
  by_cases hcall : ∃ call, input = .call call
  · obtain ⟨call, rfl⟩ := hcall
    obtain ⟨called, hcalled, -, hevents, -⟩ := clientStep_call hstep
    have huris := callRequest_uris hcalled
    refine ⟨sentHeaders called.events, by rw [hevents, sentHeaders_append], ?_⟩
    intro header hheader
    constructor
    · intro hkeeps resource hresource
      obtain ⟨message, hmem⟩ := mem_sentHeaders.mp hheader
      cases hinfo : hasUserInfo resource with
      | false => rfl
      | true =>
          obtain ⟨text, htext, hsuffix⟩ :=
            call.addresses_resource hresource hinfo (huris header message hmem).1
          exact absurd hsuffix (hkeeps.resource resource hresource hinfo text htext)
    · intro hbare
      have hsent := huris.mono fun uri huri =>
        call.addresses_noUserInfo hstripped hbare huri
      exact hsent.keepCredentials hbare header hheader
  · have hnone : input.resourceUrl = none := by
      cases input with
      | call call => exact absurd ⟨call, rfl⟩ hcall
      | _ => rfl
    have hbare : input.GivesBareResource := by
      intro resource hresource
      rw [hnone] at hresource
      cases hresource
    obtain ⟨events, hevents, hchange⟩ := clientStep_changes hwf hstep
    have hsent := hchange.sentBare hwf hstripped fun hkind => hcall (call_of_kinds hkind)
    refine ⟨sentHeaders events, by rw [hevents, sentHeaders_append], ?_⟩
    intro header hheader
    apply iff_of_true _ hbare
    exact (hsent.mono fun uri huri => huri.noUserInfo).keepCredentials hbare header hheader

end Machine

/-- A SETUP with credentials in its content base. -/
def securedSetup (resourceUrl : Bytes) : ClientInput :=
  .call
    (.setup
      { contentBase := some (ascii "rtsp://u:p@h/s"), resourceUrl := some resourceUrl,
        lowerTransport := .tcp } {})

theorem securedSetup_keepsCredentials :
    ∃ s s' sent, Execution.run (clientEnvStep .words .bare) (clientStart none {}) connectInputs =
        .ok s ∧
      clientEnvStep .words .bare s ({}, securedSetup (ascii "t")) = .ok s' ∧
        sentHeaders s'.events = sentHeaders s.events ++ sent ∧
          sent.map RtspRequestHeader.uri = [some (ascii "rtsp://h/s/t")] ∧
            ∀ header ∈ sent, header.KeepsCredentials (some (ascii "t")) := by
  have hrun : Execution.Reaches (clientEnvStep .words .bare)
      (fun s => ∃ s' ∈ (clientEnvStep .words .bare s ({}, securedSetup (ascii "t"))).toOption,
        (sentHeaders s'.events).map RtspRequestHeader.uri =
          (sentHeaders s.events).map RtspRequestHeader.uri ++ [some (ascii "rtsp://h/s/t")])
      (clientStart none {}) connectInputs := by
    decide +kernel
  obtain ⟨s, hrun, s', hs', huris⟩ := hrun
  have hstep := Execution.ok_of_toOption hs'
  obtain ⟨sent, hsent, hkeeps⟩ :=
    requests_keepCredentials_iff .words .bare none {} _ _ _ s s' hrun hstep
  refine ⟨s, s', sent, hrun, hstep, hsent, ?_, ?_⟩
  · rw [hsent, List.map_append] at huris
    exact List.append_cancel_left huris
  · intro header hheader
    apply (hkeeps header hheader).mpr
    rintro resource ⟨⟩
    rfl

/-- An absolute resource URL is the URI of the request, with its credentials. -/
theorem absoluteResource_sendsCredentials :
    ∃ s, Execution.run (clientEnvStep .words .bare) (clientStart none {})
        (connectInputs ++ undisturbed [securedSetup (ascii "rtsp://u:p@h/t")]) = .ok s ∧
      ∃ header ∈ sentHeaders s.events, header.uri = some (ascii "rtsp://u:p@h/t") ∧
        ¬ header.KeepsCredentials (some (ascii "rtsp://u:p@h/t")) := by
  have hrun : Execution.Reaches (clientEnvStep .words .bare)
      (fun s => ∃ header ∈ sentHeaders s.events, header.uri = some (ascii "rtsp://u:p@h/t"))
      (clientStart none {})
      (connectInputs ++ undisturbed [securedSetup (ascii "rtsp://u:p@h/t")]) := by
    decide +kernel
  obtain ⟨s, hrun, header, hheader, huri⟩ := hrun
  refine ⟨s, hrun, header, hheader, huri, fun hkeeps => ?_⟩
  have hinfo := hkeeps.uri _ huri
  have hat : hasUserInfo (ascii "rtsp://u:p@h/t") = true := by decide +kernel
  rw [hat] at hinfo
  cases hinfo

end Librtsp
