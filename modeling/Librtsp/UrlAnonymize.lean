import Librtsp.UrlCredentials

/-!
# Masked URLs

Masking overwrites the user and the password with stars and leaves of the path
its first and its last two bytes.  Stars stand in every component of a URL, so
the masked text is a URL again.  It is a function of what `UrlView` holds.
-/

namespace Librtsp

open CString

/-! ## Masking -/

def anonymizeStr (str : Bytes) (keepPrefixSuffix : Bool) : Option Bytes :=
  let len := str.length
  let prefixSuffixLen := if keepPrefixSuffix then 2 else 0
  if pathMax ≤ len then none
  else if 2 * prefixSuffixLen < len then
    some (str.take prefixSuffixLen ++ (List.replicate (len - 2 * prefixSuffixLen) 0x2a ++
      str.drop (len - prefixSuffixLen)))
  else some str

def anonymizeField (field : Option Bytes) (isPath : Bool) : Except Errno (Option Bytes) :=
  match field with
  | none => .ok none
  | some text =>
      match anonymizeStr text isPath with
      | none => .error .enomem
      | some text => .ok (some text)

def rtspUrlAnonymize (inetPton : AddressFamily → Bytes → Bool) (url : Option Bytes) :
    Except Errno Bytes := do
  let parsed ← rtspUrlParse inetPton url
  let user ← anonymizeField parsed.user false
  let pass ← anonymizeField parsed.pass false
  let path ← anonymizeField parsed.path true
  rtspUrlToStr { parsed with user, pass, path }

/-! ## Masked components -/

def maskedText (text : Bytes) : Bytes :=
  List.replicate text.length 0x2a

def maskedPath (path : Bytes) : Bytes :=
  if 4 < path.length then
    path.take 2 ++ (List.replicate (path.length - 4) 0x2a ++ path.drop (path.length - 2))
  else path

@[simp] theorem maskedText_length (text : Bytes) : (maskedText text).length = text.length := by
  simp [maskedText]

@[simp] theorem maskedPath_length (path : Bytes) : (maskedPath path).length = path.length := by
  unfold maskedPath
  split
  next hlong =>
    simp only [List.length_append, List.length_take, List.length_replicate, List.length_drop]
    omega
  next => rfl

@[simp] theorem maskedText_idem (text : Bytes) :
    maskedText (maskedText text) = maskedText text := by
  simp [maskedText]

theorem maskedPath_ends (path : Bytes) :
    (maskedPath path).take 2 = path.take 2 ∧
      (maskedPath path).drop (path.length - 2) = path.drop (path.length - 2) := by
  unfold maskedPath
  split
  next hlong =>
    have hfirst : (path.take 2).length = 2 := by
      rw [List.length_take]
      omega
    constructor
    · rw [List.take_append_of_le_length hfirst.ge, List.take_take, Nat.min_self]
    · rw [← List.append_assoc, List.drop_left']
      rw [List.length_append, hfirst, List.length_replicate]
      omega
  next => exact ⟨rfl, rfl⟩

/-- The masked path follows from the length and the ends of the path. -/
theorem maskedPath_congr {path path' : Bytes} (hlength : path.length = path'.length)
    (hfirst : path.take 2 = path'.take 2)
    (hlast : path.drop (path.length - 2) = path'.drop (path'.length - 2)) :
    maskedPath path = maskedPath path' := by
  unfold maskedPath
  rw [hlength]
  split
  next => rw [hfirst, ← hlast, hlength]
  next hshort =>
    have hbefore : path.take (path.length - 2) = path'.take (path'.length - 2) := by
      have htake := congrArg (List.take (path'.length - 2)) hfirst
      rw [List.take_take, List.take_take, Nat.min_eq_left (by omega)] at htake
      rw [hlength]
      exact htake
    calc
      path = path.take (path.length - 2) ++ path.drop (path.length - 2) :=
        (List.take_append_drop _ _).symm
      _ = path'.take (path'.length - 2) ++ path'.drop (path'.length - 2) := by
        rw [hbefore, hlast]
      _ = path' := List.take_append_drop _ _

@[simp] theorem maskedPath_idem (path : Bytes) :
    maskedPath (maskedPath path) = maskedPath path := by
  apply maskedPath_congr
  · simp
  · exact (maskedPath_ends path).1
  · rw [maskedPath_length]
    exact (maskedPath_ends path).2

theorem mem_maskedText {text : Bytes} {c : UInt8} (hc : c ∈ maskedText text) : c = 0x2a :=
  (List.mem_replicate.mp hc).2

theorem mem_maskedPath {path : Bytes} {c : UInt8} (hc : c ∈ maskedPath path) :
    c ∈ path ∨ c = 0x2a := by
  unfold maskedPath at hc
  split at hc
  next =>
    simp only [List.mem_append, List.mem_replicate] at hc
    rcases hc with hc | hc | hc
    · exact .inl (List.mem_of_mem_take hc)
    · exact .inr hc.2
    · exact .inl (List.mem_of_mem_drop hc)
  next => exact .inl hc

theorem maskedPath_getLast? (path : Bytes) : (maskedPath path).getLast? = path.getLast? := by
  have hlast := congrArg List.getLast? (maskedPath_ends path).2
  rw [List.getLast?_drop, List.getLast?_drop, maskedPath_length] at hlast
  by_cases hempty : path.length ≤ path.length - 2
  · have hnil : path = [] := List.length_eq_zero_iff.mp (by omega)
    subst hnil
    rfl
  · rwa [if_neg hempty, if_neg hempty] at hlast

/-- Texts that are their own parsed path. -/
theorem parsePath_self_iff {path : Bytes} :
    parsePath path = .ok (some path) ↔
      path.length < pathMax ∧ path ≠ [] ∧ (∀ c ∈ path.getLast?, c ≠ 0x2f) ∧
        ∀ c ∈ path, isValidRtspPathChar c = true := by
  have htrailing : dropTrailingSlashes path = path ↔ ∀ c ∈ path.getLast?, c ≠ 0x2f := by
    refine List.rdropWhile_eq_self_iff.trans ⟨fun h c hc => ?_, fun h hne => ?_⟩
    · obtain ⟨hne, rfl⟩ := List.mem_getLast?_eq_getLast hc
      simpa using h hne
    · simpa using h _ (List.getLast_mem_getLast? hne)
  unfold parsePath
  constructor
  · intro h
    split at h
    next => simp at h
    next hlength =>
      split at h
      next => simp at h
      next hne =>
        split at h
        next hall =>
          rw [Except.ok.injEq, Option.some.injEq] at h
          rw [h] at hne hall
          exact ⟨by omega, hne, htrailing.mp h, List.all_eq_true.mp hall⟩
        next => simp at h
  · rintro ⟨hlength, hne, hlast, hall⟩
    rw [htrailing.mpr hlast, if_neg (by omega), if_neg hne, if_pos (List.all_eq_true.mpr hall)]

/-! ## Masked URLs -/

def maskedUrl (url : RtspUrl) : RtspUrl :=
  { url with
    user := url.user.map maskedText
    pass := url.pass.map maskedText
    path := url.path.map maskedPath }

theorem anonymizeField_text {field : Option Bytes} (h : ∀ text ∈ field, text.length < pathMax) :
    anonymizeField field false = .ok (field.map maskedText) := by
  cases field with
  | none => rfl
  | some text =>
      have hshort := h text rfl
      unfold anonymizeField anonymizeStr
      dsimp only [Bool.false_eq_true, ↓reduceIte]
      rw [if_neg (by omega)]
      by_cases hpos : 0 < text.length
      · rw [if_pos (by simpa using hpos)]
        simp [maskedText]
      · have hnil : text = [] := List.length_eq_zero_iff.mp (by omega)
        subst hnil
        rfl

theorem anonymizeField_path {field : Option Bytes} (h : ∀ text ∈ field, text.length < pathMax) :
    anonymizeField field true = .ok (field.map maskedPath) := by
  cases field with
  | none => rfl
  | some text =>
      have hshort := h text rfl
      unfold anonymizeField anonymizeStr
      dsimp only
      rw [if_neg (by omega)]
      unfold maskedPath
      by_cases hlong : 4 < text.length
      · simp [hlong]
      · simp [hlong]

theorem not_mem_urlUserInfoStr_masked (user pass : Option Bytes) :
    0x2f ∉ urlUserInfoStr (user.map maskedText) (pass.map maskedText) := by
  intro hmem
  unfold urlUserInfoStr at hmem
  simp only [List.mem_append] at hmem
  rcases hmem with ((hmem | hmem) | hmem) | hmem
  · cases user with
    | none => simp at hmem
    | some user => exact absurd (mem_maskedText hmem) (by decide)
  · split at hmem
    next => simp at hmem
    next => simp at hmem
  · cases pass with
    | none => simp at hmem
    | some pass => exact absurd (mem_maskedText hmem) (by decide)
  · split at hmem
    next => simp at hmem
    next => simp at hmem

theorem ParsedUrl.masked {url : RtspUrl} (hurl : ParsedUrl url) : ParsedUrl (maskedUrl url) where
  scheme := hurl.scheme
  userInfo := by
    constructor
    · intro text htext
      obtain ⟨user, huser, rfl⟩ := Option.map_eq_some_iff.mp htext
      constructor
      · have hne := (hurl.userInfo.named user huser).1
        rw [← List.length_pos_iff, maskedText_length]
        exact List.length_pos_iff.mpr hne
      · intro hcolon
        exact absurd (mem_maskedText hcolon) (by decide)
    · intro hnone
      have huser : url.user = none := by simpa [maskedUrl] using hnone
      simp [maskedUrl, hurl.userInfo.noPass huser]
  noSlash := not_mem_urlUserInfoStr_masked url.user url.pass
  host := hurl.host
  port := hurl.port
  path := by
    intro text htext
    obtain ⟨path, hpath, rfl⟩ := Option.map_eq_some_iff.mp htext
    obtain ⟨hne, hparse⟩ := hurl.path path hpath
    obtain ⟨hshort, -, hlast, hall⟩ := parsePath_self_iff.mp hparse
    have hmasked : maskedPath path ≠ [] := by
      rw [← List.length_pos_iff, maskedPath_length]
      exact List.length_pos_iff.mpr hne
    refine ⟨hmasked, parsePath_self_iff.mpr ⟨by simpa using hshort, hmasked, ?_, ?_⟩⟩
    · rw [maskedPath_getLast?]
      exact hlast
    · intro c hc
      rcases mem_maskedPath hc with hc | rfl
      · exact hall c hc
      · decide +kernel

theorem urlText_masked_length (url : RtspUrl) :
    (urlText (maskedUrl url)).length = (urlText url).length := by
  have huserInfo : (urlUserInfoStr (url.user.map maskedText) (url.pass.map maskedText)).length =
      (urlUserInfoStr url.user url.pass).length := by
    cases url.user <;> cases url.pass <;> simp [urlUserInfoStr]
  have hpath : (urlPathStr (url.path.map maskedPath)).length = (urlPathStr url.path).length := by
    cases url.path <;> simp [urlPathStr]
  simp only [urlText, maskedUrl, List.length_append, huserInfo, hpath]

theorem maskedUrl_idem (url : RtspUrl) : maskedUrl (maskedUrl url) = maskedUrl url := by
  simp [maskedUrl, Function.comp_def]

theorem maskedUrl_reprinted (url : RtspUrl) :
    maskedUrl (reprintedUrl url) = reprintedUrl (maskedUrl url) := rfl

theorem urlText_components {url : RtspUrl} :
    (∀ text ∈ url.user, text.length ≤ (urlText url).length) ∧
      (∀ text ∈ url.pass, text.length ≤ (urlText url).length) ∧
        ∀ text ∈ url.path, text.length ≤ (urlText url).length := by
  refine ⟨?_, ?_, ?_⟩
  all_goals
    intro text htext
    rw [Option.mem_def] at htext
    simp only [urlText, urlUserInfoStr, urlPathStr, htext, Option.getD_some, List.length_append,
      List.length_cons]
    omega

variable (inetPton : AddressFamily → Bytes → Bool)

/-- What is printed for an accepted text. -/
theorem rtspUrlAnonymize_ok {text : Bytes} {url : RtspUrl}
    (h : rtspUrlParseInternal (some text) = .ok url) :
    rtspUrlAnonymize inetPton (some text) = .ok (urlText (maskedUrl url)) := by
  obtain ⟨hurl, hlength, hshort, -⟩ := rtspUrlParseInternal_parsed h
  obtain ⟨huser, hpass, hpath⟩ := @urlText_components url
  have hstr := rtspUrlToStr_parsed hurl.masked
    (if isValidIpv4OrIpv6 inetPton url.host then some url.host else none)
  have hmax : (urlText url).length < pathMax := hlength.trans_lt hshort
  unfold rtspUrlAnonymize rtspUrlParse
  rw [h]
  simp only [except_ok_bind]
  rw [anonymizeField_text fun text htext => (huser text htext).trans_lt hmax, except_ok_bind,
    anonymizeField_text fun text htext => (hpass text htext).trans_lt hmax, except_ok_bind,
    anonymizeField_path fun text htext => (hpath text htext).trans_lt hmax, except_ok_bind]
  exact hstr

theorem rtspUrlParseInternal_masked {text : Bytes} {url : RtspUrl}
    (h : rtspUrlParseInternal (some text) = .ok url) :
    rtspUrlParseInternal (some (urlText (maskedUrl url))) =
      .ok (reprintedUrl (maskedUrl url)) := by
  obtain ⟨hurl, hlength, hshort, -⟩ := rtspUrlParseInternal_parsed h
  apply rtspUrlParseInternal_urlText hurl.masked
  rw [urlText_masked_length]
  exact hlength.trans_lt hshort

/-! ## What the masked text tells -/

/-- Everything about a URL that its masked text may depend on. -/
structure UrlView where
  scheme : RtspUrlScheme
  userLength : Option Nat
  passLength : Option Nat
  host : Bytes
  explicitPort : Option UInt16
  /-- Length, first two and last two bytes. -/
  path : Option (Nat × Bytes × Bytes)
  deriving DecidableEq

def urlView (url : RtspUrl) : UrlView where
  scheme := url.scheme
  userLength := url.user.map List.length
  passLength := url.pass.map List.length
  host := url.host
  explicitPort := if url.portExplicit then some url.port else none
  path := url.path.map fun path => (path.length, path.take 2, path.drop (path.length - 2))

theorem map_maskedText_congr {field field' : Option Bytes}
    (h : field.map List.length = field'.map List.length) :
    field.map maskedText = field'.map maskedText := by
  cases field with
  | none =>
      cases field' with
      | none => rfl
      | some text' => simp at h
  | some text =>
      cases field' with
      | none => simp at h
      | some text' =>
          rw [Option.map_some, Option.map_some, Option.some.injEq] at h
          simp [maskedText, h]

theorem urlText_masked_congr {url url' : RtspUrl} (h : urlView url = urlView url') :
    urlText (maskedUrl url) = urlText (maskedUrl url') := by
  simp only [urlView, UrlView.mk.injEq] at h
  obtain ⟨hscheme, huser, hpass, hhost, hport, hpath⟩ := h
  have hportStr : urlPortStr url.port url.portExplicit =
      urlPortStr url'.port url'.portExplicit := by
    cases hexplicit : url.portExplicit with
    | false =>
        cases hexplicit' : url'.portExplicit with
        | false => simp [urlPortStr]
        | true => simp [hexplicit, hexplicit'] at hport
    | true =>
        cases hexplicit' : url'.portExplicit with
        | false => simp [hexplicit, hexplicit'] at hport
        | true =>
            have hsame : url.port = url'.port := by simpa [hexplicit, hexplicit'] using hport
            rw [hsame]
  have hmasked : url.path.map maskedPath = url'.path.map maskedPath := by
    cases hfirst : url.path with
    | none =>
        cases hsecond : url'.path with
        | none => rfl
        | some path' => simp [hfirst, hsecond] at hpath
    | some path =>
        cases hsecond : url'.path with
        | none => simp [hfirst, hsecond] at hpath
        | some path' =>
            simp only [hfirst, hsecond, Option.map_some, Option.some.injEq, Prod.mk.injEq] at hpath
            obtain ⟨hlength, hstart, hend⟩ := hpath
            rw [Option.map_some, Option.map_some, maskedPath_congr hlength hstart hend]
  simp only [urlText, maskedUrl, hscheme, hhost, hportStr, hmasked, map_maskedText_congr huser,
    map_maskedText_congr hpass]

/-! ## The law -/

/-- Masking is idempotent and depends on the view alone; the masked text parses to the same
scheme, host, port and lengths exactly when the port has at most four digits. -/
theorem urlAnonymize_iff {text : Bytes} {url : RtspUrlObject}
    (h : rtspUrlParse inetPton (some text) = .ok url) :
    ((∃ str url', rtspUrlAnonymize inetPton (some text) = .ok str ∧
      rtspUrlParse inetPton (some str) = .ok url' ∧ url'.scheme = url.scheme ∧
      url'.host = url.host ∧ url'.port = url.port ∧ url'.portExplicit = url.portExplicit ∧
      url'.user.map List.length = url.user.map List.length ∧
      url'.pass.map List.length = url.pass.map List.length ∧
      url'.path.map List.length = url.path.map List.length) ↔ urlPortNumber text < 10000) ∧
    (∃ str, rtspUrlAnonymize inetPton (some text) = .ok str ∧
      rtspUrlAnonymize inetPton (some str) = .ok str) ∧
    ∀ text' url', rtspUrlParse inetPton (some text') = .ok url' →
      urlView url.toRtspUrl = urlView url'.toRtspUrl →
        rtspUrlAnonymize inetPton (some text) = rtspUrlAnonymize inetPton (some text') := by
  obtain ⟨hparse, hresolved⟩ := (rtspUrlParse_eq inetPton).mp h
  obtain ⟨hurl, -⟩ := rtspUrlParseInternal_parsed hparse
  have hmasked := rtspUrlParseInternal_masked hparse
  have hprinted := rtspUrlAnonymize_ok inetPton hparse
  have hport := reprintedUrl_eq_iff hparse
  have hagain : rtspUrlParse inetPton (some (urlText (maskedUrl url.toRtspUrl))) =
      .ok { reprintedUrl (maskedUrl url.toRtspUrl) with resolvedHost := url.resolvedHost } :=
    (rtspUrlParse_eq inetPton).mpr ⟨hmasked, hresolved⟩
  refine ⟨⟨?_, fun hshort => ?_⟩, ?_, ?_⟩
  · rintro ⟨str, url', hstr, hparse', -, -, hsame, -⟩
    rw [hprinted, Except.ok.injEq] at hstr
    rw [← hstr, hagain, Except.ok.injEq] at hparse'
    rw [← hparse'] at hsame
    exact hport.mp hsame
  · refine ⟨_, _, hprinted, hagain, rfl, rfl, hport.mpr hshort, rfl, ?_, ?_, ?_⟩
    · simp [reprintedUrl, maskedUrl, Function.comp_def]
    · simp [reprintedUrl, maskedUrl, Function.comp_def]
    · simp [reprintedUrl, maskedUrl, Function.comp_def]
  · refine ⟨_, hprinted, ?_⟩
    rw [rtspUrlAnonymize_ok inetPton hmasked, maskedUrl_reprinted, maskedUrl_idem,
      urlText_reprinted hurl.masked.port]
  · intro text' url' h' hview
    have hparse' := ((rtspUrlParse_eq inetPton).mp h').1
    rw [hprinted, rtspUrlAnonymize_ok inetPton hparse', urlText_masked_congr hview]

def anonymizeUrl (user path : Bytes) : RtspUrlObject where
  scheme := .tcp
  user := some user
  pass := none
  host := ascii "h"
  port := 554
  portExplicit := false
  path := some path
  resolvedHost := none

/-- Two texts that differ in the masked bytes only. -/
theorem urlAnonymize_two :
    rtspUrlAnonymize (fun _ _ => false) (some (ascii "rtsp://ab@h/livecam")) =
      rtspUrlAnonymize (fun _ _ => false) (some (ascii "rtsp://cd@h/lixxxam/")) := by
  have hparse : rtspUrlParse (fun _ _ => false) (some (ascii "rtsp://ab@h/livecam")) =
      .ok (anonymizeUrl (ascii "ab") (ascii "livecam")) := by
    decide +kernel
  apply (urlAnonymize_iff _ hparse).2.2 _ (anonymizeUrl (ascii "cd") (ascii "lixxxam"))
  · decide +kernel
  · decide +kernel

/-- The masked text names another port. -/
theorem urlAnonymize_fiveDigits :
    rtspUrlAnonymize (fun _ _ => false) (some (ascii "rtsp://u@h:12345/x")) =
        .ok (ascii "rtsp://*@h:1234/x") ∧
      (rtspUrlParseInternal (some (ascii "rtsp://u@h:12345/x"))).map RtspUrl.port = .ok 12345 ∧
      (rtspUrlParseInternal (some (ascii "rtsp://*@h:1234/x"))).map RtspUrl.port = .ok 1234 := by
  refine ⟨?_, ?_, ?_⟩
  · decide +kernel
  · decide +kernel
  · decide +kernel

end Librtsp
