import Librtsp.UrlCredentials

/-!
# The class around a URL

The class `RtspUrl` parses a text with `rtsp_url_parse` and joins the parts again on its own:
without brackets around an address, without the colon of an empty password, with one slash
before a path from which a first slash was taken, and with a port of any length.  Its texts
and the ones that are printed for the parsed URL are read as the same URL exactly when none
of these makes a difference.
-/

namespace Librtsp

open CString

/-! ## The class -/

/-- `mCache` -/
structure RtspUrlCache where
  user : Bytes
  pass : Bytes
  host : Bytes
  resolvedHost : Bytes
  port : UInt16
  streamName : Bytes
  address : Bytes := []
  baseUrl : Bytes := []
  baseUrlWithAuth : Bytes := []
  url : Bytes := []
  urlWithAuth : Bytes := []
  deriving DecidableEq, Repr

def streamNameOf (path : Option Bytes) : Bytes :=
  match path with
  | none => []
  | some (0x2f :: rest) => rest
  | some path => path

def cacheData (parsed : RtspUrlObject) : RtspUrlCache :=
  let cache : RtspUrlCache :=
    { user := parsed.user.getD []
      pass := parsed.pass.getD []
      host := parsed.host
      resolvedHost := parsed.resolvedHost.getD []
      port := parsed.port
      streamName := streamNameOf parsed.path }
  match rtspUrlSchemeStr parsed.scheme with
  | none => cache
  | some schemeStr =>
      let activeHost := if cache.resolvedHost = [] then cache.host else cache.resolvedHost
      let address :=
        activeHost ++ if cache.port ≠ 0 then 0x3a :: formatNat cache.port.toNat else []
      let authPrefix := schemeStr ++
        if cache.user = [] then []
        else cache.user ++ ((if cache.pass = [] then [] else 0x3a :: cache.pass) ++ [0x40])
      let named := if parsed.portExplicit then address else activeHost
      let baseUrl := schemeStr ++ named
      let baseUrlWithAuth := authPrefix ++ named
      { cache with
        address
        baseUrl
        baseUrlWithAuth
        url := if baseUrl = [] then [] else baseUrl ++ 0x2f :: cache.streamName
        urlWithAuth :=
          if baseUrlWithAuth = [] then [] else baseUrlWithAuth ++ 0x2f :: cache.streamName }

/-- The class `RtspUrl`. -/
structure RtspUrlWrapper where
  parsedUrl : RtspUrlObject
  originalUrl : Bytes
  cache : RtspUrlCache
  deriving DecidableEq, Repr

section Wrapper

variable (inetPton : AddressFamily → Bytes → Bool)

def RtspUrlWrapper.create (url : Bytes) : Option RtspUrlWrapper :=
  match rtspUrlParse inetPton (some url) with
  | .error _ => none
  | .ok parsed => some { parsedUrl := parsed, originalUrl := url, cache := cacheData parsed }

def RtspUrlWrapper.getUrl (wrapper : RtspUrlWrapper) : Bytes :=
  wrapper.cache.url

def RtspUrlWrapper.getUrlWithAuth (wrapper : RtspUrlWrapper) : Bytes :=
  wrapper.cache.urlWithAuth

end Wrapper

theorem RtspUrlWrapper.create_some {inetPton : AddressFamily → Bytes → Bool} {text : Bytes}
    {wrapper : RtspUrlWrapper} (h : create inetPton text = some wrapper) :
    ∃ parsed, rtspUrlParse inetPton (some text) = .ok parsed ∧
      wrapper = { parsedUrl := parsed, originalUrl := text, cache := cacheData parsed } := by
  unfold create at h
  split at h
  next => cases h
  next parsed hparsed =>
    cases h
    exact ⟨parsed, hparsed, rfl⟩

/-! ## The joined texts -/

def joinedPort (url : RtspUrl) : Bytes :=
  if url.portExplicit then 0x3a :: formatNat url.port.toNat else []

def joinedText (url : RtspUrl) (info : Bytes) : Bytes :=
  (rtspUrlSchemeStr url.scheme).getD [] ++
    ((info ++ (url.host ++ joinedPort url)) ++ 0x2f :: streamNameOf url.path)

/-- What the class makes of a parsed URL. -/
theorem cacheData_parsed {parsed : RtspUrlObject} (hurl : ParsedUrl parsed.toRtspUrl)
    (hresolved : parsed.resolvedHost = some parsed.host ∨ parsed.resolvedHost = none) :
    (cacheData parsed).url = joinedText parsed.toRtspUrl (urlUserInfoStr none none) ∧
      (cacheData parsed).urlWithAuth =
        joinedText parsed.toRtspUrl (urlUserInfoStr parsed.user (nonEmpty parsed.pass)) := by
  obtain ⟨entry, hentry, hscheme, -⟩ := hurl.scheme
  have hstr := (rtspUrlSchemeMap_find hentry []).2.1
  rw [hscheme] at hstr
  have hne : entry.2.2 ≠ [] := by
    simp only [rtspUrlSchemeMap, List.mem_cons, List.not_mem_nil, or_false] at hentry
    rcases hentry with rfl | rfl | rfl <;> decide
  have hactive : (if parsed.resolvedHost.getD [] = [] then parsed.host
      else parsed.resolvedHost.getD []) = parsed.host := by
    rcases hresolved with h | h
    · rw [h, Option.getD_some, if_neg hurl.host.nonempty]
    · rw [h, Option.getD_none, if_pos rfl]
  have hnamed : (if parsed.portExplicit then parsed.host ++ 0x3a :: formatNat parsed.port.toNat
      else parsed.host) = parsed.host ++ joinedPort parsed.toRtspUrl := by
    unfold joinedPort
    split
    next => rfl
    next => rw [List.append_nil]
  have hinfo : (if parsed.user.getD [] = [] then []
      else parsed.user.getD [] ++ ((if parsed.pass.getD [] = [] then []
        else 0x3a :: parsed.pass.getD []) ++ [0x40])) =
      urlUserInfoStr parsed.user (nonEmpty parsed.pass) := by
    cases huser : parsed.user with
    | none =>
        rw [hurl.userInfo.noPass huser]
        rfl
    | some user =>
        obtain ⟨hnonempty, -⟩ := hurl.userInfo.named user huser
        rw [Option.getD_some, if_neg hnonempty]
        cases parsed.pass with
        | none => simp [urlUserInfoStr, nonEmpty]
        | some pass =>
            by_cases hpass : pass = []
            · have hnone : nonEmpty (some []) = none := rfl
              rw [hpass, hnone]
              simp [urlUserInfoStr]
            · have hsome : nonEmpty (some pass) = some pass := by simp [nonEmpty, hpass]
              rw [hsome]
              simp [urlUserInfoStr, hpass]
  unfold cacheData
  rw [hstr]
  dsimp only
  rw [hactive, if_pos hurl.port, hnamed, hinfo, if_neg (by simp [hne]), if_neg (by simp [hne])]
  unfold joinedText
  rw [hstr, Option.getD_some]
  constructor
  · simp [urlUserInfoStr]
  · simp

section Joined

variable {url : RtspUrl} {user pass : Option Bytes}

theorem joinedPort_plain {b : UInt8} (hb : b ∈ joinedPort url) : b ≠ 0x2f ∧ b ≠ 0x40 := by
  unfold joinedPort at hb
  split at hb
  next =>
    rcases List.mem_cons.mp hb with rfl | hb
    · decide
    · have hdigit := (spells_formatNat url.port.toNat).digits b hb
      constructor
      · rintro rfl
        exact absurd hdigit (by decide)
      · rintro rfl
        exact absurd hdigit (by decide)
  next => cases hb

theorem joinedHost_plain (hurl : ParsedUrl url) {b : UInt8}
    (hb : b ∈ url.host ++ joinedPort url) : b ≠ 0x2f ∧ b ≠ 0x40 := by
  rcases List.mem_append.mp hb with h | h
  · exact ⟨(hurl.host.plain h).1, (hurl.host.plain h).2.1⟩
  · exact joinedPort_plain h

theorem joinedText_cut (hurl : ParsedUrl url) {info : Bytes} (hinfo : 0x2f ∉ info)
    (hlength : (joinedText url info).length < pathMax) :
    ∃ entry, entry.1 = url.scheme ∧ (url.portExplicit = false → url.port = entry.2.1) ∧
      UrlCut (joinedText url info) entry (info ++ (url.host ++ joinedPort url))
        (0x2f :: streamNameOf url.path) := by
  obtain ⟨entry, hentry, hscheme, hdefault⟩ := hurl.scheme
  have hstr := (rtspUrlSchemeMap_find hentry []).2.1
  rw [hscheme] at hstr
  refine ⟨entry, hscheme, hdefault, hentry, ?_, ⟨?_, ?_⟩, ?_, hlength⟩
  · rw [joinedText, hstr, Option.getD_some]
  · simp [hurl.host.nonempty]
  · intro b hb
    rw [List.mem_singleton]
    rcases List.mem_append.mp hb with hb | hb
    · rintro rfl
      exact hinfo hb
    · exact (joinedHost_plain hurl hb).1
  · exact atDelimiter_cons.mpr (by simp)

/-- A host that was not written in brackets has no colon. -/
theorem parseHostAndPort_unbracketed {text host : Bytes} {port : UInt16}
    (h : parseHostAndPort text = .ok (host, port)) (hfirst : text.head? ≠ some 0x5b) :
    0x3a ∉ host := by
  unfold parseHostAndPort at h
  split at h
  next rest => exact absurd rfl hfirst
  next =>
    have hfree : 0x3a ∉ ((strchr 0x3a text).getD (text, [])).1 := by
      cases hcolon : strchr 0x3a text with
      | none => exact strchr_eq_none hcolon
      | some cut => exact (strchr_eq_some hcolon).2
    dsimp only at h
    split at h
    next => cases h
    next =>
      obtain ⟨port', hport, h⟩ := except_bind_ok.mp h
      split at h
      next =>
        simp only [Except.ok.injEq, Prod.mk.injEq] at h
        rw [← h.1]
        exact hfree
      next => cases h

/-- The joined text of an address is not read as this address. -/
theorem joinedAuthority_host (hurl : ParsedUrl url) (hinfo : UrlUserInfo user pass)
    {authority : Authority} (h : parseAuthority (urlUserInfoStr user pass ++
      (url.host ++ joinedPort url)) = .ok authority) : 0x3a ∉ authority.host := by
  have hfree : 0x40 ∉ url.host ++ joinedPort url :=
    fun hmem => (joinedHost_plain hurl hmem).2 rfl
  have hpart : hostPart (urlUserInfoStr user pass ++ (url.host ++ joinedPort url)) =
      url.host ++ joinedPort url := by
    cases user with
    | none =>
        rw [hinfo.noPass rfl]
        exact hostPart_none hfree
    | some user =>
        have hsome : urlUserInfoStr (some user) pass ++ (url.host ++ joinedPort url) =
            (user ++ (if pass.isSome then [0x3a] else []) ++ pass.getD []) ++
              0x40 :: (url.host ++ joinedPort url) := by
          simp [urlUserInfoStr]
        rw [hsome]
        exact hostPart_append _ hfree
  have hparse := (parseAuthority_ok h).2.1
  rw [hpart] at hparse
  refine parseHostAndPort_unbracketed hparse ?_
  obtain ⟨c, tail, hcons⟩ := List.exists_cons_of_ne_nil hurl.host.nonempty
  have hfirst : c ≠ 0x5b := (hurl.host.plain (by simp [hcons])).2.2.1
  simpa [hcons] using hfirst

theorem joinedAuthority_read (hurl : ParsedUrl url) (hinfo : UrlUserInfo user pass)
    (hhost : 0x3a ∉ url.host) :
    parseAuthority (urlUserInfoStr user pass ++ (url.host ++ joinedPort url)) =
      .ok { user, pass, host := url.host, port := if url.portExplicit then url.port else 0 } := by
  have hbound : url.port.toNat < 65536 := url.port.toNat_lt
  have hstr : urlHostStr url.host = url.host := by
    unfold urlHostStr
    rw [if_neg (by simpa using hhost)]
  have hparse : parseHostAndPort (url.host ++ joinedPort url) =
      .ok (url.host, if url.portExplicit then url.port else 0) := by
    have htext := @parseHostAndPort_text url.host (joinedPort url)
      (if url.portExplicit then url.port else 0) hurl.host
    rw [hstr] at htext
    apply htext
    unfold joinedPort
    cases url.portExplicit with
    | false => exact .inl ⟨rfl, rfl⟩
    | true =>
        have hport := parsePort_spells (spells_formatNat url.port.toNat) (by omega)
        rw [UInt16.ofNat_toNat] at hport
        exact .inr ⟨_, rfl, hport⟩
  exact parseAuthority_text hinfo (fun hmem => (joinedHost_plain hurl hmem).2 rfl) hparse

theorem streamNameOf_eq {path : Bytes} (hpath : path.head? ≠ some 0x2f) :
    streamNameOf (some path) = path := by
  unfold streamNameOf
  split
  next h => cases h
  next rest h =>
    cases h
    exact absurd rfl hpath
  next h => exact (Option.some.inj h).symm

theorem streamName_read (hurl : ParsedUrl url)
    (hpath : ∀ path ∈ url.path, path.head? ≠ some 0x2f) :
    urlTailRead (0x2f :: streamNameOf url.path) = .ok url.path := by
  cases hsome : url.path with
  | none => rfl
  | some path =>
      obtain ⟨hne, hparse⟩ := hurl.path path hsome
      rw [streamNameOf_eq (hpath path hsome)]
      simp [urlTailRead, hne, hparse]

/-- A first slash of the path does not come back. -/
theorem streamName_kept (h : urlTailRead (0x2f :: streamNameOf url.path) = .ok url.path) :
    ∀ path ∈ url.path, path.head? ≠ some 0x2f := by
  intro path hpath hslash
  have hlength := (urlTailRead_ok h).2
  obtain ⟨rest, rfl⟩ : ∃ rest, path = 0x2f :: rest := by
    cases path with
    | nil => cases hslash
    | cons c rest =>
        cases hslash
        exact ⟨rest, rfl⟩
  rw [Option.mem_def.mp hpath] at hlength
  simp only [urlPathStr, streamNameOf, List.length_cons] at hlength
  omega

/-- The joined text is read back as soon as it is not too long, the host needs no brackets and
no slash is missing. -/
theorem joinedText_read (hurl : ParsedUrl url) (hinfo : UrlUserInfo user pass)
    (hslash : 0x2f ∉ urlUserInfoStr user pass)
    (hlength : (joinedText url (urlUserInfoStr user pass)).length < pathMax)
    (hhost : 0x3a ∉ url.host) (hpath : ∀ path ∈ url.path, path.head? ≠ some 0x2f) :
    rtspUrlParseInternal (some (joinedText url (urlUserInfoStr user pass))) =
      .ok { url with user, pass } := by
  obtain ⟨entry, hscheme, hdefault, hcut⟩ := joinedText_cut hurl hslash hlength
  rw [rtspUrlParseInternal_cut hcut, joinedAuthority_read hurl hinfo hhost, except_ok_bind,
    streamName_read hurl hpath, except_ok_bind, Except.ok.injEq]
  cases hexplicit : url.portExplicit with
  | false => simp [hscheme, hdefault hexplicit]
  | true => simp [hscheme, hurl.port]

/-- If the joined text is read back, it was not too long, the host needs no brackets, no slash
is missing and the credentials are the ones that were joined. -/
theorem joinedText_kept (hurl : ParsedUrl url) (hinfo : UrlUserInfo user pass)
    (hslash : 0x2f ∉ urlUserInfoStr user pass)
    (h : rtspUrlParseInternal (some (joinedText url (urlUserInfoStr user pass))) = .ok url) :
    (joinedText url (urlUserInfoStr user pass)).length < pathMax ∧ 0x3a ∉ url.host ∧
      (∀ path ∈ url.path, path.head? ≠ some 0x2f) ∧ url.pass = pass := by
  obtain ⟨_, _, _, hshort⟩ := exists_urlCut h
  obtain ⟨entry, hscheme, hdefault, hcut⟩ := joinedText_cut hurl hslash hshort.short
  rw [rtspUrlParseInternal_cut hcut] at h
  obtain ⟨authority, hauthority, h⟩ := except_bind_ok.mp h
  obtain ⟨path, hpath, h⟩ := except_bind_ok.mp h
  have h := Except.ok.inj h
  have hhost : 0x3a ∉ url.host := by
    have hfree := joinedAuthority_host hurl hinfo hauthority
    rw [← congrArg RtspUrl.host h]
    exact hfree
  rw [joinedAuthority_read hurl hinfo hhost, Except.ok.injEq] at hauthority
  have hsame : path = url.path := congrArg RtspUrl.path h
  refine ⟨hshort.short, hhost, streamName_kept (hsame ▸ hpath), ?_⟩
  have hpass : authority.pass = url.pass := congrArg RtspUrl.pass h
  rw [← hpass, ← hauthority]

/-- The joined text is the printed one, but for the slash after a URL without a path. -/
theorem joinedText_eq (hhost : 0x3a ∉ url.host) (hport : url.port ≠ 0)
    (hdigits : printedPort url.port = url.port ∨ url.portExplicit = false)
    (hpath : ∀ path ∈ url.path, path.head? ≠ some 0x2f) :
    joinedText url (urlUserInfoStr url.user url.pass) =
      urlText url ++ if url.path = none then [0x2f] else [] := by
  have hhostStr : urlHostStr url.host = url.host := by
    unfold urlHostStr
    rw [if_neg (by simpa using hhost)]
  have hportStr : urlPortStr url.port url.portExplicit = joinedPort url := by
    unfold joinedPort
    cases hexplicit : url.portExplicit with
    | false => simp [urlPortStr]
    | true =>
        rcases hdigits with h | h
        · rw [urlPortStr_printed hport, h, if_pos rfl]
        · rw [hexplicit] at h
          cases h
  have htail : 0x2f :: streamNameOf url.path =
      urlPathStr url.path ++ if url.path = none then [0x2f] else [] := by
    cases hsome : url.path with
    | none => rfl
    | some path =>
        rw [if_neg (Option.some_ne_none path), List.append_nil, streamNameOf_eq (hpath path hsome)]
        rfl
  rw [joinedText, htail, urlText, hhostStr, hportStr]
  simp only [List.append_assoc]

end Joined

/-! ## Agreement -/

section Agreement

variable (inetPton : AddressFamily → Bytes → Bool)

/-- The text is accepted, and read as the URL. -/
def ReadsAs (text : Bytes) (url : RtspUrlObject) : Prop :=
  ∃ again, rtspUrlParse inetPton (some text) = .ok again ∧ rtspUrlCmp again url = true

def RtspUrlObject.bare (url : RtspUrlObject) : RtspUrlObject :=
  { url with user := none, pass := none }

/-- The texts of the class and the ones printed for its URL are read as the same URLs. -/
structure SerialisersAgree (wrapper : RtspUrlWrapper) : Prop where
  urlWithAuth : ReadsAs inetPton wrapper.getUrlWithAuth wrapper.parsedUrl
  printed : ∃ str, rtspUrlToStr wrapper.parsedUrl = .ok str ∧
    ReadsAs inetPton str wrapper.parsedUrl
  url : ReadsAs inetPton wrapper.getUrl wrapper.parsedUrl.bare
  stripped : ∃ str, rtspUrlStripCredentials inetPton (some wrapper.originalUrl) = .ok str ∧
    ReadsAs inetPton str wrapper.parsedUrl.bare

/-- A host without brackets, no empty password, no second slash before the path, a port of at
most four digits, and room for the slash that is added where there is no path. -/
structure JoinsPlainly (text : Bytes) (url : RtspUrl) : Prop where
  host : 0x3a ∉ url.host
  pass : url.pass ≠ some []
  path : ∀ path ∈ url.path, path.head? ≠ some 0x2f
  port : urlPortNumber text < 10000
  room : url.path = none → (urlText url).length + 1 < pathMax

variable {inetPton}

theorem readsAs_iff {text : Bytes} {url : RtspUrlObject} :
    ReadsAs inetPton text url ↔ rtspUrlParse inetPton (some text) = .ok url := by
  constructor
  · rintro ⟨again, hparse, hcmp⟩
    rw [rtspUrlCmp_iff] at hcmp
    rw [hparse, hcmp]
  · intro hparse
    exact ⟨url, hparse, rtspUrlCmp_iff.mpr rfl⟩

theorem reprintedUrl_same {text : Bytes} {url : RtspUrl}
    (h : rtspUrlParseInternal (some text) = .ok url) (hport : urlPortNumber text < 10000) :
    reprintedUrl url = url := by
  have hsame := (reprintedUrl_eq_iff h).mpr hport
  calc
    reprintedUrl url = { url with port := (reprintedUrl url).port } := rfl
    _ = url := by rw [hsame]

theorem printedPort_same {text : Bytes} {url : RtspUrl}
    (h : rtspUrlParseInternal (some text) = .ok url) (hport : urlPortNumber text < 10000) :
    printedPort url.port = url.port ∨ url.portExplicit = false := by
  have hsame := (reprintedUrl_eq_iff h).mpr hport
  unfold reprintedUrl at hsame
  cases hexplicit : url.portExplicit with
  | false => exact .inr rfl
  | true =>
      rw [hexplicit] at hsame
      exact .inl hsame

theorem nonEmptyPass_userInfo {url : RtspUrl} (hurl : ParsedUrl url) :
    UrlUserInfo url.user (nonEmpty url.pass) ∧
      0x2f ∉ urlUserInfoStr url.user (nonEmpty url.pass) := by
  cases hpass : url.pass with
  | none =>
      have hnone : nonEmpty none = none := rfl
      rw [hnone, ← hpass]
      exact ⟨hurl.userInfo, hurl.noSlash⟩
  | some pass =>
      by_cases hempty : pass = []
      · have hnone : nonEmpty (some []) = none := rfl
        rw [hempty, hnone]
        refine ⟨⟨hurl.userInfo.named, fun _ => rfl⟩, ?_⟩
        intro hmem
        refine hurl.noSlash ?_
        rw [hpass]
        simp only [urlUserInfoStr, Option.isSome_none, Option.getD_none, and_false, if_false,
          Bool.false_eq_true, List.append_nil, List.mem_append] at hmem ⊢
        rcases hmem with h | h
        · exact .inl (.inl (.inl h))
        · exact .inr h
      · have hsome : nonEmpty (some pass) = some pass := by simp [nonEmpty, hempty]
        rw [hsome, ← hpass]
        exact ⟨hurl.userInfo, hurl.noSlash⟩

/-- The texts agree exactly when nothing is lost that the class does not print. -/
theorem serialisersAgree_iff {text : Bytes} {wrapper : RtspUrlWrapper}
    (h : RtspUrlWrapper.create inetPton text = some wrapper) :
    SerialisersAgree inetPton wrapper ↔ JoinsPlainly text wrapper.parsedUrl.toRtspUrl := by
  obtain ⟨parsed, hparse, rfl⟩ := RtspUrlWrapper.create_some h
  obtain ⟨hinternal, hresolved⟩ := (rtspUrlParse_eq inetPton).mp hparse
  obtain ⟨hurl, hlength, hshort, -⟩ := rtspUrlParseInternal_parsed hinternal
  have hhostKnown : parsed.resolvedHost = some parsed.host ∨ parsed.resolvedHost = none := by
    rw [hresolved]
    split
    next => exact .inl rfl
    next => exact .inr rfl
  obtain ⟨hplainText, hauthText⟩ := cacheData_parsed hurl hhostKnown
  obtain ⟨hinfo, hslash⟩ := nonEmptyPass_userInfo hurl
  have hstr : rtspUrlToStr parsed = .ok (urlText parsed.toRtspUrl) := rtspUrlToStr_parsed hurl _
  have hagain := rtspUrlParse_urlText inetPton hurl (hlength.trans_lt hshort) hresolved
  have hstripped := rtspUrlStripCredentials_ok inetPton hinternal
  constructor
  · intro hagree
    have hjoined := readsAs_iff.mp hagree.urlWithAuth
    rw [RtspUrlWrapper.getUrlWithAuth, hauthText] at hjoined
    obtain ⟨hroom, hhost, hpath, hpass⟩ :=
      joinedText_kept hurl hinfo hslash ((rtspUrlParse_eq inetPton).mp hjoined).1
    have hport : urlPortNumber text < 10000 := by
      obtain ⟨str, hprinted, hread⟩ := hagree.printed
      rw [hstr, Except.ok.injEq] at hprinted
      have hsame := readsAs_iff.mp hread
      rw [← hprinted, hagain, Except.ok.injEq] at hsame
      exact (reprintedUrl_eq_iff hinternal).mp
        (congrArg RtspUrl.port (congrArg RtspUrlObject.toRtspUrl hsame))
    refine ⟨hhost, ?_, hpath, hport, fun hnone => ?_⟩
    · intro hempty
      rw [hempty] at hpass
      cases hpass
    · have hdigits : printedPort parsed.port = parsed.port ∨ parsed.portExplicit = false :=
        printedPort_same hinternal hport
      rw [← hpass, joinedText_eq hhost hurl.port hdigits hpath, if_pos hnone,
        List.length_append] at hroom
      exact hroom
  · intro hplain
    have hsame := reprintedUrl_same hinternal hplain.port
    have hdigits := printedPort_same hinternal hplain.port
    have hpass : nonEmpty parsed.pass = parsed.pass := by
      cases hsome : parsed.pass with
      | none => rfl
      | some pass =>
          have hne : pass ≠ [] := fun hempty => hplain.pass (by rw [hsome, hempty])
          simp [nonEmpty, hne]
    have hroom : (joinedText parsed.toRtspUrl (urlUserInfoStr parsed.user parsed.pass)).length <
        pathMax := by
      rw [joinedText_eq hplain.host hurl.port hdigits hplain.path, List.length_append]
      split
      next hnone => exact hplain.room hnone
      next => exact hlength.trans_lt hshort
    have hbareRoom : (joinedText parsed.toRtspUrl (urlUserInfoStr none none)).length <
        pathMax := by
      refine lt_of_le_of_lt ?_ hroom
      have hempty : urlUserInfoStr none none = [] := rfl
      simp only [joinedText, hempty, List.length_append, List.length_nil]
      omega
    constructor
    · have hread := joinedText_read hurl hurl.userInfo hurl.noSlash hroom hplain.host hplain.path
      rw [RtspUrlWrapper.getUrlWithAuth, hauthText, hpass, readsAs_iff, rtspUrlParse_eq]
      exact ⟨hread, hresolved⟩
    · refine ⟨_, hstr, readsAs_iff.mpr ?_⟩
      rw [hagain, hsame]
    · have hread := joinedText_read hurl hurl.withoutCredentials.userInfo
        hurl.withoutCredentials.noSlash hbareRoom hplain.host hplain.path
      rw [RtspUrlWrapper.getUrl, hplainText, readsAs_iff, rtspUrlParse_eq]
      exact ⟨hread, hresolved⟩
    · have hread := rtspUrlParseInternal_stripped hinternal
      have hbare : reprintedUrl (withoutCredentials parsed.toRtspUrl) =
          withoutCredentials (reprintedUrl parsed.toRtspUrl) := rfl
      rw [hbare, hsame] at hread
      refine ⟨_, hstripped, ?_⟩
      rw [readsAs_iff, rtspUrlParse_eq]
      exact ⟨hread, hresolved⟩

end Agreement

/-- A wrapper of a text, as `create` makes it. -/
def wrapped (parsed : RtspUrlObject) (text : Bytes) : RtspUrlWrapper :=
  { parsedUrl := parsed, originalUrl := text, cache := cacheData parsed }

def secretUrl : RtspUrlObject where
  scheme := .tcp
  user := some (ascii "u")
  pass := some (ascii "p")
  host := ascii "h"
  port := 8554
  portExplicit := true
  path := some (ascii "live")
  resolvedHost := none

theorem serialisersAgree_secretUrl :
    SerialisersAgree (fun _ _ => false)
      (wrapped secretUrl (ascii "rtsp://u:p@h:8554/live/")) := by
  have hcreate : RtspUrlWrapper.create (fun _ _ => false) (ascii "rtsp://u:p@h:8554/live/") =
      some (wrapped secretUrl (ascii "rtsp://u:p@h:8554/live/")) := by decide +kernel
  refine (serialisersAgree_iff hcreate).mpr ⟨?_, ?_, ?_, ?_, ?_⟩
  · decide
  · exact fun h => absurd h (by decide)
  · rintro path ⟨⟩
    decide
  · decide +kernel
  · intro h
    cases h

def localUrl : RtspUrlObject where
  scheme := .tcp
  user := none
  pass := none
  host := ascii "::1"
  port := 8554
  portExplicit := true
  path := some (ascii "live")
  resolvedHost := some (ascii "::1")

/-- The text of an address has lost its brackets and is not accepted. -/
theorem serialisersAgree_localUrl :
    RtspUrlWrapper.create (fun family _ => family = .inet6) (ascii "rtsp://[::1]:8554/live") =
        some (wrapped localUrl (ascii "rtsp://[::1]:8554/live")) ∧
      (wrapped localUrl (ascii "rtsp://[::1]:8554/live")).getUrlWithAuth =
        ascii "rtsp://::1:8554/live" ∧
      rtspUrlParse (fun family _ => family = .inet6) (some (ascii "rtsp://::1:8554/live")) =
        .error .einval ∧
      ¬SerialisersAgree (fun family _ => family = .inet6)
        (wrapped localUrl (ascii "rtsp://[::1]:8554/live")) := by
  have htext : (wrapped localUrl (ascii "rtsp://[::1]:8554/live")).getUrlWithAuth =
      ascii "rtsp://::1:8554/live" := by decide +kernel
  have hrefused : rtspUrlParse (fun family _ => family = .inet6)
      (some (ascii "rtsp://::1:8554/live")) = .error .einval := by decide +kernel
  refine ⟨by decide +kernel, htext, hrefused, fun hagree => ?_⟩
  obtain ⟨again, hagain, -⟩ := hagree.urlWithAuth
  rw [htext, hrefused] at hagain
  cases hagain

end Librtsp
