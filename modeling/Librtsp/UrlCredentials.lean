import Librtsp.UrlText

/-!
# Credentials taken out of a URL

The text without credentials is the text of the URL whose user and password are
unset, so it depends on the host part and the path of the given text only.
-/

namespace Librtsp

open CString

/-- A parsed URL without its credentials. -/
def withoutCredentials (url : RtspUrl) : RtspUrl :=
  { url with user := none, pass := none }

theorem ParsedUrl.withoutCredentials {url : RtspUrl} (hurl : ParsedUrl url) :
    ParsedUrl (withoutCredentials url) where
  scheme := hurl.scheme
  userInfo := ⟨by simp [Librtsp.withoutCredentials], fun _ => rfl⟩
  noSlash := by simp [Librtsp.withoutCredentials, urlUserInfoStr]
  host := hurl.host
  port := hurl.port
  path := hurl.path

theorem urlText_withoutCredentials_length (url : RtspUrl) :
    (urlText (withoutCredentials url)).length ≤ (urlText url).length := by
  have hnone : urlUserInfoStr none none = [] := rfl
  simp only [urlText, withoutCredentials, hnone, List.length_append, List.length_nil]
  omega

variable (inetPton : AddressFamily → Bytes → Bool)

/-- What is printed for an accepted text. -/
theorem rtspUrlStripCredentials_ok {text : Bytes} {url : RtspUrl}
    (h : rtspUrlParseInternal (some text) = .ok url) :
    rtspUrlStripCredentials inetPton (some text) = .ok (urlText (withoutCredentials url)) := by
  obtain ⟨hurl, -⟩ := rtspUrlParseInternal_parsed h
  have hstr := rtspUrlToStr_parsed hurl.withoutCredentials
    (if isValidIpv4OrIpv6 inetPton url.host then some url.host else none)
  unfold rtspUrlStripCredentials rtspUrlParse
  rw [h]
  exact hstr

theorem rtspUrlParseInternal_stripped {text : Bytes} {url : RtspUrl}
    (h : rtspUrlParseInternal (some text) = .ok url) :
    rtspUrlParseInternal (some (urlText (withoutCredentials url))) =
      .ok (reprintedUrl (withoutCredentials url)) := by
  obtain ⟨hurl, hlength, hshort, -⟩ := rtspUrlParseInternal_parsed h
  apply rtspUrlParseInternal_urlText hurl.withoutCredentials
  exact ((urlText_withoutCredentials_length url).trans hlength).trans_lt hshort

/-- A port that was printed once is printed in the same way again. -/
theorem urlText_reprinted {url : RtspUrl} (hport : url.port ≠ 0) :
    urlText (reprintedUrl url) = urlText url := by
  have hstr : urlPortStr (reprintedUrl url).port url.portExplicit =
      urlPortStr url.port url.portExplicit := by
    unfold reprintedUrl
    cases hexplicit : url.portExplicit with
    | false => rfl
    | true =>
        simp only [↓reduceIte]
        rw [urlPortStr_printed (printedPort_ne_zero hport), urlPortStr_printed hport,
          printedPort_idem]
  unfold urlText
  change (rtspUrlSchemeStr url.scheme).getD [] ++ (urlUserInfoStr url.user url.pass ++
    (urlHostStr url.host ++ urlPortStr (reprintedUrl url).port url.portExplicit) ++
      urlPathStr url.path) = _
  rw [hstr]

/-! ## Texts that differ in their credentials -/

/-- A host part behind credentials, or on its own. -/
def withUserInfo (info : Option Bytes) (host : Bytes) : Bytes :=
  match info with
  | none => host
  | some info => info ++ 0x40 :: host

/-- The same URL text with credentials, with other ones or without any. -/
def SameButUserInfo (text text' : Bytes) : Prop :=
  ∃ entry ∈ rtspUrlSchemeMap, ∃ (info info' : Option Bytes) (host tail : Bytes),
    (∀ t ∈ info, 0x2f ∉ t) ∧ (∀ t ∈ info', 0x2f ∉ t) ∧ 0x2f ∉ host ∧ 0x40 ∉ host ∧
    AtDelimiter [0x2f] tail ∧
    text = entry.2.2 ++ (withUserInfo info host ++ tail) ∧
    text' = entry.2.2 ++ (withUserInfo info' host ++ tail)

theorem hostPart_withUserInfo (info : Option Bytes) {host : Bytes} (hhost : 0x40 ∉ host) :
    hostPart (withUserInfo info host) = host := by
  cases info with
  | none => exact hostPart_none hhost
  | some info => exact hostPart_append info hhost

/-- The parts of an accepted text without its credentials follow from the rest of it. -/
theorem withoutCredentials_eq
    {entry : RtspUrlScheme × UInt16 × Bytes} (hentry : entry ∈ rtspUrlSchemeMap)
    {info : Option Bytes} {host tail : Bytes} (hinfo : ∀ t ∈ info, 0x2f ∉ t) (hslash : 0x2f ∉ host)
    (hhost : 0x40 ∉ host) (htail : AtDelimiter [0x2f] tail) {url : RtspUrl}
    (h : rtspUrlParseInternal (some (entry.2.2 ++ (withUserInfo info host ++ tail))) = .ok url) :
    ∃ port, parseHostAndPort host = .ok (url.host, port) ∧ urlTailRead tail = .ok url.path ∧
      url.scheme = entry.1 ∧ url.port = (if port = 0 then entry.2.1 else port) ∧
      url.portExplicit = decide (port ≠ 0) := by
  obtain ⟨entry', authority', tail', hcut'⟩ := exists_urlCut h
  have hsame : entry = entry' := by
    have hfind := (rtspUrlSchemeMap_find hentry (withUserInfo info host ++ tail)).1
    have hfind' := (rtspUrlSchemeMap_find hcut'.scheme (authority' ++ tail')).1
    rw [hcut'.parts, hfind', Option.some.injEq] at hfind
    exact hfind.symm
  have hcut : UrlCut (entry.2.2 ++ (withUserInfo info host ++ tail)) entry
      (withUserInfo info host) tail := by
    refine ⟨hentry, rfl, ⟨?_, ?_⟩, htail, hcut'.short⟩
    · -- An authority without bytes is not accepted.
      intro hempty
      have hparts := hcut'.parts
      rw [hempty, ← hsame, List.append_cancel_left_eq, List.nil_append] at hparts
      obtain ⟨b, rest, hcons⟩ := List.exists_cons_of_ne_nil hcut'.token.nonempty
      rw [hparts, hcons, List.cons_append, atDelimiter_cons] at htail
      exact hcut'.token.free b (by simp [hcons]) htail
    · intro b hb
      rw [List.mem_singleton]
      rintro rfl
      cases info with
      | none => exact hslash hb
      | some info =>
          have hmem : 0x2f ∈ info ∨ (0x2f : UInt8) = 0x40 ∨ 0x2f ∈ host := by
            simpa [withUserInfo] using hb
          rcases hmem with hmem | hmem | hmem
          · exact hinfo info rfl hmem
          · exact absurd hmem (by decide)
          · exact hslash hmem
  rw [rtspUrlParseInternal_cut hcut] at h
  obtain ⟨authority, hauthority, h⟩ := except_bind_ok.mp h
  obtain ⟨path, hpath, h⟩ := except_bind_ok.mp h
  rw [Except.ok.injEq] at h
  subst h
  have hparse := (parseAuthority_ok hauthority).2.1
  rw [hostPart_withUserInfo info hhost] at hparse
  exact ⟨authority.port, hparse, hpath, rfl, rfl, rfl⟩

theorem rtspUrlStripCredentials_same
    {text text' : Bytes} (hsame : SameButUserInfo text text') {url url' : RtspUrl}
    (h : rtspUrlParseInternal (some text) = .ok url)
    (h' : rtspUrlParseInternal (some text') = .ok url') :
    rtspUrlStripCredentials inetPton (some text) =
      rtspUrlStripCredentials inetPton (some text') := by
  rw [rtspUrlStripCredentials_ok inetPton h, rtspUrlStripCredentials_ok inetPton h']
  obtain ⟨entry, hentry, info, info', host, tail, hinfo, hinfo', hslash, hhost, htail, rfl, rfl⟩ :=
    hsame
  obtain ⟨port, hparse, hpath, hscheme, hport, hexplicit⟩ :=
    withoutCredentials_eq hentry hinfo hslash hhost htail h
  obtain ⟨port', hparse', hpath', hscheme', hport', hexplicit'⟩ :=
    withoutCredentials_eq hentry hinfo' hslash hhost htail h'
  rw [hparse, Except.ok.injEq, Prod.mk.injEq] at hparse'
  rw [hpath, Except.ok.injEq] at hpath'
  obtain ⟨hhost', rfl⟩ := hparse'
  simp only [urlText, withoutCredentials, hhost', hpath', hscheme, hscheme', hport, hport',
    hexplicit, hexplicit']

/-! ## The law -/

/-- Stripping leaves no credentials, keeps everything else exactly when the port has at most
four digits, changes nothing the second time and does not depend on the credentials. -/
theorem stripCredentials_iff {text : Bytes} {url : RtspUrlObject}
    (h : rtspUrlParse inetPton (some text) = .ok url) :
    (∃ str, rtspUrlStripCredentials inetPton (some text) = .ok str ∧
      rtspUrlStripCredentials inetPton (some str) = .ok str ∧
      ∃ url', rtspUrlParse inetPton (some str) = .ok url' ∧ url'.user = none ∧
        url'.pass = none ∧ url'.scheme = url.scheme ∧ url'.host = url.host ∧
        url'.path = url.path ∧ (url'.port = url.port ↔ urlPortNumber text < 10000)) ∧
    ∀ text' url', rtspUrlParse inetPton (some text') = .ok url' → SameButUserInfo text text' →
      rtspUrlStripCredentials inetPton (some text) =
        rtspUrlStripCredentials inetPton (some text') := by
  obtain ⟨hparse, hresolved⟩ := (rtspUrlParse_eq inetPton).mp h
  constructor
  · obtain ⟨hurl, -⟩ := rtspUrlParseInternal_parsed hparse
    have hstripped := rtspUrlParseInternal_stripped hparse
    have htext := urlText_reprinted hurl.withoutCredentials.port
    have hport := reprintedUrl_eq_iff hparse
    refine ⟨_, rtspUrlStripCredentials_ok inetPton hparse, ?_, ?_⟩
    · rw [rtspUrlStripCredentials_ok inetPton hstripped]
      exact congrArg Except.ok htext
    · refine ⟨{ reprintedUrl (withoutCredentials url.toRtspUrl) with
          resolvedHost := url.resolvedHost }, ?_, rfl, rfl, rfl, rfl, rfl, hport⟩
      exact (rtspUrlParse_eq inetPton).mpr ⟨hstripped, hresolved⟩
  · intro text' url' h' hsame
    have hparse' := ((rtspUrlParse_eq inetPton).mp h').1
    exact rtspUrlStripCredentials_same inetPton hsame hparse hparse'

def credentialsUrl (user pass : Option Bytes) : RtspUrlObject where
  scheme := .tcp
  user := user
  pass := pass
  host := ascii "h"
  port := 554
  portExplicit := true
  path := some (ascii "x")
  resolvedHost := none

/-- Two texts with and without credentials. -/
theorem stripCredentials_two :
    rtspUrlStripCredentials (fun _ _ => false) (some (ascii "rtsp://u:p@q@h:554/x")) =
      rtspUrlStripCredentials (fun _ _ => false) (some (ascii "rtsp://h:554/x")) := by
  have hparse : rtspUrlParse (fun _ _ => false) (some (ascii "rtsp://u:p@q@h:554/x")) =
      .ok (credentialsUrl (some (ascii "u")) (some (ascii "p@q"))) := by
    decide +kernel
  apply (stripCredentials_iff _ hparse).2 _ (credentialsUrl none none)
  · decide +kernel
  · refine ⟨_, List.mem_cons_self, some (ascii "u:p@q"), none, ascii "h:554", ascii "/x",
      ?_, ?_, ?_, ?_, ?_, ?_, ?_⟩
    · decide +kernel
    · decide
    · decide +kernel
    · decide +kernel
    · exact (show AtDelimiter [0x2f] (0x2f :: ascii "x") from atDelimiter_cons.mpr (by simp))
    · decide +kernel
    · decide +kernel

/-- The stripped text names another port. -/
theorem stripCredentials_fiveDigits :
    rtspUrlStripCredentials (fun _ _ => false) (some (ascii "rtsp://u:p@h:12345/x")) =
        .ok (ascii "rtsp://h:1234/x") ∧
      (rtspUrlParseInternal (some (ascii "rtsp://u:p@h:12345/x"))).map RtspUrl.port = .ok 12345 ∧
      (rtspUrlParseInternal (some (ascii "rtsp://h:1234/x"))).map RtspUrl.port = .ok 1234 := by
  refine ⟨?_, ?_, ?_⟩
  · decide +kernel
  · decide +kernel
  · decide +kernel

end Librtsp
