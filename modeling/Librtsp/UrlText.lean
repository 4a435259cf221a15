import Librtsp.HeaderRead
import Librtsp.Numerals
import Librtsp.Tokens
import Librtsp.Url

/-!
# URLs printed and parsed again

`rtsp_url_to_str` puts a parsed URL together again: brackets around a host with
colons, the credentials before the last at sign, the port when the text named
one.  The port is printed into six bytes, so a port of five digits loses its
last digit.  Every other component of an accepted text is parsed back.
-/

namespace Librtsp

open CString

/-! ## The object -/

inductive AddressFamily where
  | inet
  | inet6
  deriving DecidableEq, Repr

/-- `struct rtsp_url`: the parsed parts and the address of the host, when known. -/
structure RtspUrlObject extends RtspUrl where
  resolvedHost : Option Bytes
  deriving DecidableEq, Repr

section Address

-- `inet_pton(family, str, dst) == 1`
variable (inetPton : AddressFamily → Bytes → Bool)

def isValidIpv4OrIpv6 (str : Bytes) : Bool :=
  inetPton .inet str || inetPton .inet6 str

def rtspUrlParse (url : Option Bytes) : Except Errno RtspUrlObject := do
  let url ← rtspUrlParseInternal url
  .ok
    { url with
      resolvedHost := if isValidIpv4OrIpv6 inetPton url.host then some url.host else none }

end Address

def rtspUrlSchemeStr (scheme : RtspUrlScheme) : Option Bytes :=
  (rtspUrlSchemeMap.find? fun entry => entry.1 = scheme).map fun entry => entry.2.2

/-- `snprintf(port_str, sizeof(port_str), ":%u", port)`, where `port_str` has six bytes. -/
def urlPortStr (port : UInt16) (portExplicit : Bool) : Bytes :=
  if port ≠ 0 ∧ portExplicit then (0x3a :: formatNat port.toNat).take 5 else []

def urlUserInfoStr (user pass : Option Bytes) : Bytes :=
  user.getD [] ++ (if user.isSome ∧ pass.isSome then [0x3a] else []) ++ pass.getD [] ++
    if user.isSome then [0x40] else []

def urlHostStr (host : Bytes) : Bytes :=
  if host.contains 0x3a then 0x5b :: (host ++ [0x5d]) else host

def urlPathStr (path : Option Bytes) : Bytes :=
  match path with
  | none => []
  | some path => 0x2f :: path

def rtspUrlToStrInternal (url : RtspUrlObject) (resolved includePath : Bool) :
    Except Errno Bytes :=
  let hostToUse := if resolved then url.resolvedHost.getD url.host else url.host
  let pathToUse := if includePath then url.path else none
  match rtspUrlSchemeStr url.scheme with
  | none => .error .einval
  | some schemeStr =>
      .ok (schemeStr ++ (urlUserInfoStr url.user url.pass ++
        (urlHostStr hostToUse ++ urlPortStr url.port url.portExplicit) ++
          urlPathStr pathToUse))

def rtspUrlToStr (url : RtspUrlObject) : Except Errno Bytes :=
  rtspUrlToStrInternal url false true

def rtspUrlToStrResolved (url : RtspUrlObject) : Except Errno Bytes :=
  rtspUrlToStrInternal url true true

def rtspUrlToStrNoPath (url : RtspUrlObject) : Except Errno Bytes :=
  rtspUrlToStrInternal url false false

def rtspUrlToStrNoPathResolved (url : RtspUrlObject) : Except Errno Bytes :=
  rtspUrlToStrInternal url true false

/-- Field by field, a null string only equal to a null string. -/
def rtspUrlCmp (url1 url2 : RtspUrlObject) : Bool :=
  url1.scheme == url2.scheme && url1.user == url2.user && url1.pass == url2.pass &&
    url1.host == url2.host && url1.resolvedHost == url2.resolvedHost &&
    url1.port == url2.port && url1.portExplicit == url2.portExplicit && url1.path == url2.path

def rtspUrlStripCredentials (inetPton : AddressFamily → Bytes → Bool) (url : Option Bytes) :
    Except Errno Bytes := do
  let parsed ← rtspUrlParse inetPton url
  rtspUrlToStr { parsed with user := none, pass := none }

theorem rtspUrlCmp_iff {url1 url2 : RtspUrlObject} : rtspUrlCmp url1 url2 = true ↔ url1 = url2 := by
  obtain ⟨⟨scheme1, user1, pass1, host1, port1, explicit1, path1⟩, resolved1⟩ := url1
  obtain ⟨⟨scheme2, user2, pass2, host2, port2, explicit2, path2⟩, resolved2⟩ := url2
  simp only [rtspUrlCmp, Bool.and_eq_true, beq_iff_eq, RtspUrlObject.mk.injEq, RtspUrl.mk.injEq]
  tauto

/-! ## The port a text names -/

/-- What stands between the scheme and the path. -/
def urlAuthority (text : Bytes) : Bytes :=
  (((strchr 0x3a text).map fun cut => cut.2.drop 2).getD []).takeWhile (· != 0x2f)

/-- The authority without the credentials. -/
def hostPart (authority : Bytes) : Bytes :=
  ((strrchr 0x40 authority).map Prod.snd).getD authority

def hostPortText (host : Bytes) : Bytes :=
  match host with
  | 0x5b :: rest => ((strchr 0x5d rest).map fun cut => cut.2.drop 1).getD []
  | host => ((strchr 0x3a host).map Prod.snd).getD []

/-- The number that stands for the port in a text, zero when there is none. -/
def urlPortNumber (text : Bytes) : Int :=
  (strtol (hostPortText (hostPart (urlAuthority text)))).1

/-! ## Ports -/

theorem parsePort_value {portStr : Bytes} {port : UInt16} (h : parsePort portStr = .ok port) :
    (port.toNat : Int) = (strtol portStr).1 ∧
      (port ≠ 0 → portStr ≠ [] ∧ (formatNat port.toNat).length ≤ portStr.length) := by
  unfold parsePort at h
  split at h
  next hempty =>
    rw [Except.ok.injEq] at h
    subst h hempty
    exact ⟨rfl, fun hne => absurd rfl hne⟩
  next hne =>
    dsimp only at h
    split at h
    next => simp at h
    next hrange =>
      simp only [not_or, not_lt, ne_eq, not_not] at hrange
      obtain ⟨hrest, hnonneg, hmax⟩ := hrange
      rw [Except.ok.injEq] at h
      have hport : port.toNat = (strtol portStr).1.toNat := by
        rw [← h, UInt16.toNat_ofNat']
        omega
      have hpositive := List.length_pos_iff.mpr hne
      have hlt := strtol_lt portStr
      refine ⟨by omega, fun _ => ⟨hne, (formatNat_length_le_iff hpositive).mpr ?_⟩⟩
      have hcast : (port.toNat : Int) < ((10 ^ portStr.length : Nat) : Int) := by
        rw [hport, Int.toNat_of_nonneg hnonneg]
        exact_mod_cast hlt
      exact_mod_cast hcast

theorem parsePort_spells {text : Bytes} {n : Nat} (htext : Spells 10 text n) (hn : n ≤ 65535) :
    parsePort text = .ok (UInt16.ofNat n) := by
  have hvalue := strtol_spells htext pastDigits_nil (show n < 2 ^ 63 by omega)
  rw [List.append_nil] at hvalue
  unfold parsePort
  rw [if_neg htext.nonempty, hvalue]
  dsimp only
  rw [if_neg]
  · simp
  · simp only [ne_eq, not_true_eq_false, false_or, not_or, not_lt]
    omega

/-- The port a printed port is read as. -/
def printedPort (port : UInt16) : UInt16 :=
  if port.toNat < 10000 then port else UInt16.ofNat (port.toNat / 10)

theorem printedPort_toNat (port : UInt16) :
    (printedPort port).toNat =
      if port.toNat < 10000 then port.toNat else port.toNat / 10 := by
  have hbound : port.toNat < 65536 := port.toNat_lt
  unfold printedPort
  split
  next => rfl
  next => exact UInt16.toNat_ofNat_of_lt' (by change port.toNat / 10 < 65536; omega)

theorem urlPortStr_printed {port : UInt16} (hport : port ≠ 0) :
    urlPortStr port true = 0x3a :: formatNat (printedPort port).toNat := by
  have hbound : port.toNat < 65536 := port.toNat_lt
  have htake : urlPortStr port true = 0x3a :: (formatNat port.toNat).take 4 := by
    simp [urlPortStr, hport]
  rw [htake, printedPort_toNat]
  split
  next hshort =>
    have hlength := (formatNat_length_le_iff (n := port.toNat) (k := 4) (by decide)).mpr hshort
    rw [List.take_of_length_le hlength]
  next hlong =>
    obtain ⟨digit, hstep⟩ := formatNat_step (n := port.toNat) (by omega)
    have hle := (formatNat_length_le_iff (n := port.toNat / 10) (k := 4) (by decide)).mpr (by omega)
    have hnot := (formatNat_length_le_iff (n := port.toNat / 10) (k := 3) (by decide)).not.mpr
      (by omega)
    have hlength : (formatNat (port.toNat / 10)).length = 4 := by omega
    rw [hstep, ← hlength, List.take_left]

theorem printedPort_ne_zero {port : UInt16} (hport : port ≠ 0) : printedPort port ≠ 0 := by
  have hpos : port.toNat ≠ 0 := fun hzero => hport (UInt16.toNat_inj.mp hzero)
  intro hzero
  have hvalue := printedPort_toNat port
  rw [hzero] at hvalue
  change 0 = _ at hvalue
  split at hvalue
  next => omega
  next => omega

theorem printedPort_idem (port : UInt16) : printedPort (printedPort port) = printedPort port := by
  have hbound : port.toNat < 65536 := port.toNat_lt
  have hvalue := printedPort_toNat port
  have hshort : (printedPort port).toNat < 10000 := by
    rw [hvalue]
    split <;> omega
  exact if_pos hshort

theorem printedPort_eq_iff {port : UInt16} : printedPort port = port ↔ port.toNat < 10000 := by
  rw [← UInt16.toNat_inj, printedPort_toNat]
  split <;> omega

/-! ## Hosts -/

/-- A host with a colon is an address in brackets, another one a name. -/
structure UrlHost (host : Bytes) : Prop where
  nonempty : host ≠ []
  name : 0x3a ∉ host → ∀ c ∈ host, (isAlnum c || c == 0x2e || c == 0x2d) = true
  address : 0x3a ∈ host → ∀ c ∈ host, (isXdigit c || c == 0x3a || c == 0x2e) = true

/-- Bytes of a host and of a port cut nothing. -/
theorem hostChar_plain {c : UInt8}
    (h : (isAlnum c || c == 0x2e || c == 0x2d) = true ∨
      (isXdigit c || c == 0x3a || c == 0x2e) = true) :
    c ≠ 0x2f ∧ c ≠ 0x40 ∧ c ≠ 0x5b ∧ c ≠ 0x5d := by
  have hall : ∀ i : Fin 256,
      ((isAlnum (UInt8.ofNat i) || UInt8.ofNat i == 0x2e || UInt8.ofNat i == 0x2d) = true ∨
        (isXdigit (UInt8.ofNat i) || UInt8.ofNat i == 0x3a || UInt8.ofNat i == 0x2e) = true) →
      UInt8.ofNat i ≠ 0x2f ∧ UInt8.ofNat i ≠ 0x40 ∧ UInt8.ofNat i ≠ 0x5b ∧
        UInt8.ofNat i ≠ 0x5d := by
    decide +kernel
  simpa using hall ⟨c.toNat, c.toNat_lt⟩ (by simpa using h)

theorem isAlnum_of_isXdigit {c : UInt8} (h : isXdigit c = true) : isAlnum c = true := by
  have hall : ∀ i : Fin 256, isXdigit (UInt8.ofNat i) = true → isAlnum (UInt8.ofNat i) = true := by
    decide +kernel
  simpa using hall ⟨c.toNat, c.toNat_lt⟩ (by simpa using h)

theorem UrlHost.plain {host : Bytes} (hhost : UrlHost host) {c : UInt8} (hc : c ∈ host) :
    c ≠ 0x2f ∧ c ≠ 0x40 ∧ c ≠ 0x5b ∧ c ≠ 0x5d := by
  by_cases hcolon : 0x3a ∈ host
  · exact hostChar_plain (.inr (hhost.address hcolon c hc))
  · exact hostChar_plain (.inl (hhost.name hcolon c hc))

/-- A bracketed text without a colon is a name as well. -/
theorem urlHost_bracketed {host : Bytes} (hne : host ≠ [])
    (hall : host.all (fun c => isXdigit c || c == 0x3a || c == 0x2e) = true) : UrlHost host := by
  rw [List.all_eq_true] at hall
  refine ⟨hne, fun hcolon c hc => ?_, fun _ => hall⟩
  have hchar := hall c hc
  have hnot : c ≠ 0x3a := fun heq => hcolon (heq ▸ hc)
  simp only [Bool.or_eq_true, beq_iff_eq, hnot, or_false] at hchar
  rcases hchar with hchar | hchar
  · simp [isAlnum_of_isXdigit hchar]
  · simp [hchar]

theorem urlHost_name {host : Bytes} (hne : host ≠ [])
    (hall : host.all (fun c => isAlnum c || c == 0x2e || c == 0x2d) = true) : UrlHost host := by
  rw [List.all_eq_true] at hall
  refine ⟨hne, fun _ => hall, fun hcolon => ?_⟩
  exact absurd (hall 0x3a hcolon) (by decide)

theorem urlHostStr_length_le (host : Bytes) : (urlHostStr host).length ≤ host.length + 2 := by
  unfold urlHostStr
  split
  next => simp
  next => omega

/-- What an accepted host part consists of; its text is no shorter than the one that is
printed for it. -/
theorem parseHostAndPort_ok
    {text host : Bytes} {port : UInt16} (h : parseHostAndPort text = .ok (host, port)) :
    UrlHost host ∧ parsePort (hostPortText text) = .ok port ∧
      (urlHostStr host).length + (if hostPortText text = [] then 0 else
        1 + (hostPortText text).length) ≤ text.length := by
  unfold parseHostAndPort at h
  split at h
  next rest =>
    split at h
    next => simp at h
    next host' after hcut =>
      have hlength : (0x5b :: rest).length = host'.length + 2 + after.length := by
        rw [(strchr_eq_some hcut).1]
        simp
        omega
      have hportText : hostPortText (0x5b :: rest) = after.drop 1 := by
        simp [hostPortText, hcut]
      have hbrackets := urlHostStr_length_le host'
      rw [hportText, hlength]
      split at h
      next => simp at h
      next hne =>
        split at h
        next =>
          split at h
          next hall =>
            simp only [Except.ok.injEq, Prod.mk.injEq] at h
            obtain ⟨rfl, rfl⟩ := h
            refine ⟨urlHost_bracketed hne hall, rfl, ?_⟩
            simpa using hbrackets
          next => simp at h
        next portStr =>
          obtain ⟨port', hport, h⟩ := except_bind_ok.mp h
          split at h
          next hall =>
            simp only [Except.ok.injEq, Prod.mk.injEq] at h
            obtain ⟨rfl, rfl⟩ := h
            refine ⟨urlHost_bracketed hne hall, hport, ?_⟩
            rw [List.drop_one, List.tail_cons, List.length_cons]
            split <;> omega
          next => simp at h
        next => simp at h
  next hnot =>
    have hportText : hostPortText text = ((strchr 0x3a text).map Prod.snd).getD [] := by
      unfold hostPortText
      split
      next rest => exact absurd rfl (hnot rest)
      next => rfl
    have hcut : 0x3a ∉ ((strchr 0x3a text).getD (text, [])).1 ∧
        ((strchr 0x3a text).getD (text, [])).2 = hostPortText text ∧
        ((strchr 0x3a text).getD (text, [])).1.length + (if hostPortText text = [] then 0 else
          1 + (hostPortText text).length) ≤ text.length := by
      rw [hportText]
      cases hcolon : strchr 0x3a text with
      | none => simpa using strchr_eq_none hcolon
      | some cut =>
          obtain ⟨htext, hfree⟩ := strchr_eq_some hcolon
          have hlength : text.length = cut.1.length + 1 + cut.2.length := by
            rw [htext]
            simp
            omega
          refine ⟨hfree, rfl, ?_⟩
          simp only [Option.map_some, Option.getD_some]
          split <;> omega
    obtain ⟨hfree, hport', hlength⟩ := hcut
    dsimp only at h
    split at h
    next => simp at h
    next hne =>
      obtain ⟨port', hport, h⟩ := except_bind_ok.mp h
      rw [hport'] at hport
      split at h
      next hall =>
        simp only [Except.ok.injEq, Prod.mk.injEq] at h
        obtain ⟨hhost, rfl⟩ := h
        rw [hhost] at hne hall hfree hlength
        refine ⟨urlHost_name hne hall, hport, ?_⟩
        unfold urlHostStr
        rw [if_neg (by simpa using hfree)]
        exact hlength
      next => simp at h

/-- A printed host part. -/
theorem parseHostAndPort_text
    {host portStr : Bytes} {port : UInt16} (hhost : UrlHost host)
    (hport : portStr = [] ∧ port = 0 ∨ ∃ text, portStr = 0x3a :: text ∧ parsePort text = .ok port) :
    parseHostAndPort (urlHostStr host ++ portStr) = .ok (host, port) := by
  unfold urlHostStr parseHostAndPort
  by_cases hcolon : 0x3a ∈ host
  · have hbracket : 0x5d ∉ host := fun hmem => (hhost.plain hmem).2.2.2 rfl
    have hall := List.all_eq_true.mpr (hhost.address hcolon)
    rw [if_pos (by simpa using hcolon), List.cons_append, List.append_assoc,
      List.singleton_append]
    simp only [strchr_append hbracket]
    rw [if_neg hhost.nonempty]
    rcases hport with ⟨rfl, rfl⟩ | ⟨text, rfl, hparse⟩
    · rw [if_pos hall]
    · simp only [hparse, except_ok_bind]
      rw [if_pos hall]
  · have hall := List.all_eq_true.mpr (hhost.name hcolon)
    rw [if_neg (by simpa using hcolon)]
    obtain ⟨c, tail, hcons⟩ := List.exists_cons_of_ne_nil hhost.nonempty
    have hfirst : c ≠ 0x5b := (hhost.plain (by simp [hcons])).2.2.1
    split
    next rest heq =>
      rw [hcons, List.cons_append, List.cons.injEq] at heq
      exact absurd heq.1 hfirst
    next =>
      rcases hport with ⟨rfl, rfl⟩ | ⟨text, rfl, hparse⟩
      · rw [List.append_nil, strchr_none hcolon]
        dsimp only [Option.getD_none]
        rw [if_neg hhost.nonempty]
        simp [parsePort, hall]
      · rw [strchr_append hcolon]
        dsimp only [Option.getD_some]
        rw [if_neg hhost.nonempty, hparse, except_ok_bind, if_pos hall]

/-! ## Authorities -/

/-- Credentials as the parser cuts them. -/
structure UrlUserInfo (user pass : Option Bytes) : Prop where
  named : ∀ text ∈ user, text ≠ [] ∧ 0x3a ∉ text
  noPass : user = none → pass = none

/-- The text of an authority without an at sign. -/
theorem hostPart_append (before : Bytes) {host : Bytes} (hhost : 0x40 ∉ host) :
    hostPart (before ++ 0x40 :: host) = host := by
  unfold hostPart
  rw [strrchr_append before hhost]
  rfl

theorem hostPart_none {text : Bytes} (htext : 0x40 ∉ text) : hostPart text = text := by
  unfold hostPart
  rw [strrchr_none htext]
  rfl

theorem parseAuthority_ok {text : Bytes} {authority : Authority}
    (h : parseAuthority text = .ok authority) :
    UrlUserInfo authority.user authority.pass ∧
      parseHostAndPort (hostPart text) = .ok (authority.host, authority.port) ∧
      text = urlUserInfoStr authority.user authority.pass ++ hostPart text := by
  unfold parseAuthority at h
  split at h
  next hcut =>
    obtain ⟨⟨host, port⟩, hparse, h⟩ := except_bind_ok.mp h
    rw [Except.ok.injEq] at h
    have hpart : hostPart text = text := by simp [hostPart, hcut]
    subst h
    rw [hpart]
    exact ⟨⟨by simp, fun _ => rfl⟩, hparse, by simp [urlUserInfoStr]⟩
  next userPass host' hcut =>
    have htext := (strrchr_eq_some hcut).1
    have hpart : hostPart text = host' := by simp [hostPart, hcut]
    rw [hpart, htext]
    cases hcolon : strchr 0x3a userPass with
    | none =>
        simp only [hcolon] at h
        split at h
        next => simp at h
        next hne =>
          obtain ⟨⟨host, port⟩, hparse, h⟩ := except_bind_ok.mp h
          rw [Except.ok.injEq] at h
          subst h
          refine ⟨⟨?_, by simp⟩, hparse, by simp [urlUserInfoStr]⟩
          intro user huser
          rw [Option.mem_some_iff] at huser
          exact huser ▸ ⟨hne, strchr_eq_none hcolon⟩
    | some cut =>
        obtain ⟨huserPass, hfree⟩ := strchr_eq_some hcolon
        simp only [hcolon] at h
        split at h
        next => simp at h
        next hne =>
          obtain ⟨⟨host, port⟩, hparse, h⟩ := except_bind_ok.mp h
          rw [Except.ok.injEq] at h
          subst h
          refine ⟨⟨?_, by simp⟩, hparse, ?_⟩
          · intro user huser
            rw [Option.mem_some_iff] at huser
            exact huser ▸ ⟨hne, hfree⟩
          · rw [huserPass]
            simp [urlUserInfoStr]

theorem parseAuthority_text
    {user pass : Option Bytes} {text host : Bytes} {port : UInt16}
    (hinfo : UrlUserInfo user pass) (hfree : 0x40 ∉ text)
    (htext : parseHostAndPort text = .ok (host, port)) :
    parseAuthority (urlUserInfoStr user pass ++ text) = .ok { user, pass, host, port } := by
  unfold parseAuthority
  cases user with
  | none =>
      obtain rfl := hinfo.noPass rfl
      have hnone : urlUserInfoStr none none ++ text = text := by simp [urlUserInfoStr]
      rw [hnone, strrchr_none hfree]
      simp [htext]
  | some user =>
      obtain ⟨hne, hcolon⟩ := hinfo.named user rfl
      cases pass with
      | none =>
          have hsome : urlUserInfoStr (some user) none ++ text = user ++ 0x40 :: text := by
            simp [urlUserInfoStr]
          rw [hsome, strrchr_append _ hfree]
          simp [strchr_none hcolon, hne, htext]
      | some pass =>
          have hsome : urlUserInfoStr (some user) (some pass) ++ text =
              (user ++ 0x3a :: pass) ++ 0x40 :: text := by
            simp [urlUserInfoStr]
          rw [hsome, strrchr_append _ hfree]
          simp [strchr_append hcolon, hne, htext]

/-! ## Whole texts -/

/-- The parts an accepted text is cut into before they are parsed. -/
structure UrlCut (text : Bytes) (entry : RtspUrlScheme × UInt16 × Bytes)
    (authority tail : Bytes) : Prop where
  scheme : entry ∈ rtspUrlSchemeMap
  parts : text = entry.2.2 ++ (authority ++ tail)
  token : IsToken [0x2f] authority
  slash : AtDelimiter [0x2f] tail
  short : text.length < pathMax

/-- The path of what follows the authority. -/
def urlTailRead (tail : Bytes) : Except Errno (Option Bytes) :=
  if tail.drop 1 = [] then .ok none else parsePath (tail.drop 1)

theorem rtspUrlSchemeMap_find {entry : RtspUrlScheme × UInt16 × Bytes}
    (hentry : entry ∈ rtspUrlSchemeMap) (rest : Bytes) :
    rtspUrlSchemeMap.find? (fun e => e.2.2.isPrefixOf (entry.2.2 ++ rest)) = some entry ∧
      rtspUrlSchemeStr entry.1 = some entry.2.2 ∧ entry.2.1 ≠ 0 := by
  simp only [rtspUrlSchemeMap, List.mem_cons, List.not_mem_nil, or_false] at hentry
  rcases hentry with rfl | rfl | rfl
  · exact ⟨rfl, rfl, by decide⟩
  · exact ⟨rfl, rfl, by decide⟩
  · exact ⟨rfl, rfl, by decide⟩

theorem rtspUrlParseInternal_cut
    {text authorityText tail : Bytes} {entry : RtspUrlScheme × UInt16 × Bytes}
    (hcut : UrlCut text entry authorityText tail) :
    rtspUrlParseInternal (some text) =
      (parseAuthority authorityText >>= fun authority =>
        urlTailRead tail >>= fun path =>
          .ok
            { scheme := entry.1
              user := authority.user
              pass := authority.pass
              host := authority.host
              port := if authority.port = 0 then entry.2.1 else authority.port
              portExplicit := authority.port ≠ 0
              path }) := by
  have hne : text ≠ [] := by
    rw [hcut.parts]
    simp [hcut.token.nonempty]
  have hhead : ¬ (authorityText ++ tail = [] ∨ (authorityText ++ tail).head? = some 0x2f) := by
    obtain ⟨b, rest, hcons⟩ := List.exists_cons_of_ne_nil hcut.token.nonempty
    have hb := hcut.token.free b (by simp [hcons])
    simpa [hcons] using hb
  have hscheme := (rtspUrlSchemeMap_find hcut.scheme (authorityText ++ tail)).1
  unfold rtspUrlParseInternal urlTailRead
  dsimp only
  rw [if_neg (by simp [hne, hcut.short]), hcut.parts, hscheme]
  dsimp only
  rw [List.drop_left, if_neg hhead, strtok_token hcut.token hcut.slash]
  dsimp only
  by_cases hrest : tail.drop 1 = []
  · simp only [if_pos hrest]
  · simp only [if_neg hrest]

theorem exists_urlCut {text : Bytes} {url : RtspUrl}
    (h : rtspUrlParseInternal (some text) = .ok url) :
    ∃ entry authority tail, UrlCut text entry authority tail := by
  unfold rtspUrlParseInternal at h
  dsimp only at h
  split at h
  next => simp at h
  next hlength =>
    split at h
    next => simp at h
    next scheme defaultPort schemeStr hfind =>
      split at h
      next => simp at h
      next hhead =>
        have hmem := List.mem_of_find?_eq_some hfind
        have hprefix := List.find?_some hfind
        have htext : text = schemeStr ++ text.drop schemeStr.length :=
          (List.prefix_iff_eq_append.mp (List.isPrefixOf_iff_prefix.mp hprefix)).symm
        rw [not_or] at hhead
        obtain ⟨b, rest, hcons⟩ := List.exists_cons_of_ne_nil hhead.1
        have hb : b ≠ 0x2f := by simpa [hcons] using hhead.2
        refine ⟨_, (text.drop schemeStr.length).takeWhile (!([0x2f] : Bytes).contains ·),
          (text.drop schemeStr.length).dropWhile (!([0x2f] : Bytes).contains ·),
          hmem, ?_, ?_, ?_, ?_⟩
        · rw [List.takeWhile_append_dropWhile]
          exact htext
        · constructor
          · rw [hcons, List.takeWhile_cons_of_pos (by simpa using hb)]
            simp
          · intro c hc
            simpa using List.mem_takeWhile_imp hc
        · intro c hc
          have hnot := List.head?_dropWhile_not (!([0x2f] : Bytes).contains ·)
            (text.drop schemeStr.length)
          rw [Option.mem_def.mp hc] at hnot
          simpa using hnot
        · omega

/-! ## Parsed URLs -/

/-- The text of a URL. -/
def urlText (url : RtspUrl) : Bytes :=
  (rtspUrlSchemeStr url.scheme).getD [] ++ (urlUserInfoStr url.user url.pass ++
    (urlHostStr url.host ++ urlPortStr url.port url.portExplicit) ++ urlPathStr url.path)

/-- A URL as the parser leaves it. -/
structure ParsedUrl (url : RtspUrl) : Prop where
  scheme : ∃ entry ∈ rtspUrlSchemeMap, entry.1 = url.scheme ∧
    (url.portExplicit = false → url.port = entry.2.1)
  userInfo : UrlUserInfo url.user url.pass
  noSlash : 0x2f ∉ urlUserInfoStr url.user url.pass
  host : UrlHost url.host
  port : url.port ≠ 0
  path : ∀ path ∈ url.path, path ≠ [] ∧ parsePath path = .ok (some path)

theorem rtspUrlToStr_parsed {url : RtspUrl} (hurl : ParsedUrl url) (resolvedHost : Option Bytes) :
    rtspUrlToStr { url with resolvedHost } = .ok (urlText url) := by
  obtain ⟨entry, hentry, hscheme, -⟩ := hurl.scheme
  have hstr := (rtspUrlSchemeMap_find hentry []).2.1
  rw [hscheme] at hstr
  simp [rtspUrlToStr, rtspUrlToStrInternal, urlText, hstr]

theorem dropTrailingSlashes_idem (path : Bytes) :
    dropTrailingSlashes (dropTrailingSlashes path) = dropTrailingSlashes path := by
  unfold dropTrailingSlashes
  rw [List.reverse_reverse, List.dropWhile_idempotent]

theorem dropTrailingSlashes_length (path : Bytes) :
    (dropTrailingSlashes path).length ≤ path.length := by
  unfold dropTrailingSlashes
  rw [List.length_reverse]
  exact (List.dropWhile_suffix _).length_le.trans (by simp)

theorem parsePath_some {text path : Bytes} (h : parsePath text = .ok (some path)) :
    path ≠ [] ∧ parsePath path = .ok (some path) ∧ path.length ≤ text.length := by
  have hpath : path = dropTrailingSlashes text ∧ path ≠ [] ∧ ¬ pathMax ≤ text.length ∧
      path.all isValidRtspPathChar = true := by
    unfold parsePath at h
    split at h
    next => simp at h
    next hlength =>
      split at h
      next => simp at h
      next hne =>
        split at h
        next hall =>
          simp only [Except.ok.injEq, Option.some.injEq] at h
          exact ⟨h.symm, h ▸ hne, hlength, h ▸ hall⟩
        next => simp at h
  obtain ⟨heq, hne, hlength, hall⟩ := hpath
  have hshort : path.length ≤ text.length := heq ▸ dropTrailingSlashes_length text
  have hidem : dropTrailingSlashes path = path := heq ▸ dropTrailingSlashes_idem text
  refine ⟨hne, ?_, hshort⟩
  unfold parsePath
  rw [if_neg (by omega), hidem, if_neg hne, if_pos hall]

theorem urlTailRead_ok {tail : Bytes} {path : Option Bytes} (h : urlTailRead tail = .ok path) :
    (∀ p ∈ path, p ≠ [] ∧ parsePath p = .ok (some p)) ∧
      (urlPathStr path).length ≤ tail.length := by
  unfold urlTailRead at h
  split at h
  next =>
    cases h
    simp [urlPathStr]
  next hne =>
    cases path with
    | none => simp [urlPathStr]
    | some path =>
        obtain ⟨hpath, hparse, hlength⟩ := parsePath_some h
        constructor
        · intro p hp
          rw [Option.mem_some_iff] at hp
          exact hp ▸ ⟨hpath, hparse⟩
        · have htail : tail ≠ [] := by
            rintro rfl
            exact hne rfl
          have hpos := List.length_pos_iff.mpr htail
          rw [List.length_drop] at hlength
          simp only [urlPathStr, List.length_cons]
          omega

theorem urlAuthority_cut
    {text authority tail : Bytes} {entry : RtspUrlScheme × UInt16 × Bytes}
    (hcut : UrlCut text entry authority tail) : urlAuthority text = authority := by
  have hafter : (((strchr 0x3a text).map fun cut => cut.2.drop 2).getD []) =
      authority ++ tail := by
    have hscheme := hcut.scheme
    rw [hcut.parts]
    simp only [rtspUrlSchemeMap, List.mem_cons, List.not_mem_nil, or_false] at hscheme
    rcases hscheme with rfl | rfl | rfl
    · rfl
    · rfl
    · rfl
  have htake := (takeWhile_token hcut.token.free hcut.slash).1
  have hslash : (fun b : UInt8 => b != 0x2f) = fun b => !([0x2f] : Bytes).contains b := by
    funext b
    simp [bne, beq_eq_decide]
  unfold urlAuthority
  rw [hafter, hslash, htake]

/-- What the parser leaves of an accepted text, and the port the text names. -/
theorem rtspUrlParseInternal_parsed {text : Bytes} {url : RtspUrl}
    (h : rtspUrlParseInternal (some text) = .ok url) :
    ParsedUrl url ∧ (urlText url).length ≤ text.length ∧ text.length < pathMax ∧
      (if url.portExplicit then (url.port.toNat : Int) else 0) = urlPortNumber text := by
  obtain ⟨entry, authorityText, tail, hcut⟩ := exists_urlCut h
  rw [rtspUrlParseInternal_cut hcut] at h
  obtain ⟨authority, hauthority, h⟩ := except_bind_ok.mp h
  obtain ⟨path, htail, h⟩ := except_bind_ok.mp h
  rw [Except.ok.injEq] at h
  obtain ⟨hinfo, hhostPort, hsplit⟩ := parseAuthority_ok hauthority
  obtain ⟨hhost, hport, hhostLength⟩ := parseHostAndPort_ok hhostPort
  obtain ⟨hpath, htailLength⟩ := urlTailRead_ok htail
  obtain ⟨hnumber, hdigits⟩ := parsePort_value hport
  have hnoSlash : 0x2f ∉ urlUserInfoStr authority.user authority.pass := by
    intro hmem
    refine hcut.token.free 0x2f ?_ (by simp)
    rw [hsplit]
    exact List.mem_append_left _ hmem
  subst h
  refine ⟨⟨⟨entry, hcut.scheme, rfl, ?_⟩, hinfo, hnoSlash, hhost, ?_, hpath⟩, ?_, hcut.short, ?_⟩
  · intro himplicit
    have hzero : authority.port = 0 := by simpa using himplicit
    simp [hzero]
  · have hdefault := (rtspUrlSchemeMap_find hcut.scheme []).2.2
    dsimp only
    split
    next => exact hdefault
    next hne => exact hne
  · have hstr := (rtspUrlSchemeMap_find hcut.scheme []).2.1
    have hportLength : (urlPortStr (if authority.port = 0 then entry.2.1 else authority.port)
        (decide (authority.port ≠ 0))).length ≤
          if hostPortText (hostPart authorityText) = [] then 0
          else 1 + (hostPortText (hostPart authorityText)).length := by
      by_cases hzero : authority.port = 0
      · simp [hzero, urlPortStr]
      · obtain ⟨hne, hlength⟩ := hdigits hzero
        rw [if_neg hzero, if_neg hne]
        simp only [urlPortStr, ne_eq, hzero, not_false_eq_true, decide_true, and_self, ↓reduceIte,
          List.length_take, List.length_cons]
        omega
    have hauthorityLength := congrArg List.length hsplit
    rw [List.length_append] at hauthorityLength
    rw [hcut.parts]
    simp only [urlText, hstr, Option.getD_some, List.length_append]
    omega
  · rw [urlPortNumber, urlAuthority_cut hcut, ← hnumber]
    by_cases hzero : authority.port = 0
    · simp [hzero]
    · simp [hzero]

/-- The URL that is parsed from the text of a URL: the port may have lost a digit. -/
def reprintedUrl (url : RtspUrl) : RtspUrl :=
  { url with port := if url.portExplicit then printedPort url.port else url.port }

theorem urlPortStr_plain {port : UInt16} {portExplicit : Bool} {b : UInt8}
    (hb : b ∈ urlPortStr port portExplicit) : b ≠ 0x2f ∧ b ≠ 0x40 := by
  unfold urlPortStr at hb
  split at hb
  next =>
    rcases List.mem_cons.mp (List.mem_of_mem_take hb) with rfl | hb
    · decide
    · have hdigit := (spells_formatNat port.toNat).digits b hb
      constructor
      · rintro rfl
        exact absurd hdigit (by decide)
      · rintro rfl
        exact absurd hdigit (by decide)
  next => simp at hb

theorem urlHostStr_plain {host : Bytes} (hhost : UrlHost host) {b : UInt8}
    (hb : b ∈ urlHostStr host) : b ≠ 0x2f ∧ b ≠ 0x40 := by
  unfold urlHostStr at hb
  split at hb
  next =>
    simp only [List.mem_cons, List.mem_append, List.not_mem_nil, or_false] at hb
    rcases hb with rfl | hb | rfl
    · decide
    · exact ⟨(hhost.plain hb).1, (hhost.plain hb).2.1⟩
    · decide
  next => exact ⟨(hhost.plain hb).1, (hhost.plain hb).2.1⟩

theorem parseHostAndPort_parsed {url : RtspUrl} (hurl : ParsedUrl url) :
    parseHostAndPort (urlHostStr url.host ++ urlPortStr url.port url.portExplicit) =
      .ok (url.host, if url.portExplicit then printedPort url.port else 0) := by
  apply parseHostAndPort_text hurl.host
  cases hexplicit : url.portExplicit with
  | false => exact .inl ⟨by simp [urlPortStr], rfl⟩
  | true =>
      have hbound : (printedPort url.port).toNat < 65536 := (printedPort url.port).toNat_lt
      have hparse := parsePort_spells (spells_formatNat (printedPort url.port).toNat) (by omega)
      rw [UInt16.ofNat_toNat] at hparse
      exact .inr ⟨_, urlPortStr_printed hurl.port, hparse⟩

/-- The text of a parsed URL is accepted, and everything but the port comes back. -/
theorem rtspUrlParseInternal_urlText {url : RtspUrl} (hurl : ParsedUrl url)
    (hlength : (urlText url).length < pathMax) :
    rtspUrlParseInternal (some (urlText url)) = .ok (reprintedUrl url) := by
  obtain ⟨entry, hentry, hscheme, hdefault⟩ := hurl.scheme
  have hstr := (rtspUrlSchemeMap_find hentry []).2.1
  rw [hscheme] at hstr
  have hplain : ∀ b ∈ urlHostStr url.host ++ urlPortStr url.port url.portExplicit,
      b ≠ 0x2f ∧ b ≠ 0x40 := by
    intro b hb
    rcases List.mem_append.mp hb with hb | hb
    · exact urlHostStr_plain hurl.host hb
    · exact urlPortStr_plain hb
  have hcut : UrlCut (urlText url) entry
      (urlUserInfoStr url.user url.pass ++
        (urlHostStr url.host ++ urlPortStr url.port url.portExplicit)) (urlPathStr url.path) := by
    refine ⟨hentry, ?_, ⟨?_, ?_⟩, ?_, hlength⟩
    · simp [urlText, hstr]
    · have hne := hurl.host.nonempty
      unfold urlHostStr
      split
      next => simp
      next => simp [hne]
    · intro b hb
      rw [List.mem_singleton]
      rcases List.mem_append.mp hb with hb | hb
      · rintro rfl
        exact hurl.noSlash hb
      · exact (hplain b hb).1
    · cases url.path with
      | none => exact atDelimiter_nil
      | some path => exact atDelimiter_cons.mpr (by simp)
  have htail : urlTailRead (urlPathStr url.path) = .ok url.path := by
    cases hpath : url.path with
    | none => rfl
    | some path =>
        obtain ⟨hne, hparse⟩ := hurl.path path hpath
        simp [urlTailRead, urlPathStr, hne, hparse]
  rw [rtspUrlParseInternal_cut hcut,
    parseAuthority_text hurl.userInfo (fun hmem => (hplain _ hmem).2 rfl)
      (parseHostAndPort_parsed hurl), except_ok_bind, htail, except_ok_bind, Except.ok.injEq]
  unfold reprintedUrl
  cases hexplicit : url.portExplicit with
  | false => simp [hscheme, hdefault hexplicit]
  | true => simp [hscheme, printedPort_ne_zero hurl.port]

/-! ## Printing and parsing again -/

theorem rtspUrlParse_eq (inetPton : AddressFamily → Bytes → Bool) {text : Option Bytes}
    {url : RtspUrlObject} :
    rtspUrlParse inetPton text = .ok url ↔
      rtspUrlParseInternal text = .ok url.toRtspUrl ∧
        url.resolvedHost =
          if isValidIpv4OrIpv6 inetPton url.host then some url.host else none := by
  obtain ⟨url, resolvedHost⟩ := url
  unfold rtspUrlParse
  constructor
  · intro h
    obtain ⟨url', hparse, h⟩ := except_bind_ok.mp h
    simp only [Except.ok.injEq, RtspUrlObject.mk.injEq] at h
    obtain ⟨rfl, rfl⟩ := h
    exact ⟨hparse, rfl⟩
  · rintro ⟨hparse, hresolved⟩
    rw [hparse, except_ok_bind, ← hresolved]

theorem rtspUrlParse_urlText (inetPton : AddressFamily → Bytes → Bool) {url : RtspUrlObject}
    (hurl : ParsedUrl url.toRtspUrl) (hlength : (urlText url.toRtspUrl).length < pathMax)
    (hresolved : url.resolvedHost =
      if isValidIpv4OrIpv6 inetPton url.host then some url.host else none) :
    rtspUrlParse inetPton (some (urlText url.toRtspUrl)) =
      .ok { reprintedUrl url.toRtspUrl with resolvedHost := url.resolvedHost } := by
  rw [rtspUrlParse_eq]
  exact ⟨rtspUrlParseInternal_urlText hurl hlength, hresolved⟩

theorem reprintedUrl_eq_iff {text : Bytes} {url : RtspUrl}
    (h : rtspUrlParseInternal (some text) = .ok url) :
    (reprintedUrl url).port = url.port ↔ urlPortNumber text < 10000 := by
  obtain ⟨-, -, -, hnumber⟩ := rtspUrlParseInternal_parsed h
  rw [← hnumber]
  unfold reprintedUrl
  cases url.portExplicit with
  | false => simp
  | true =>
      simp only [↓reduceIte, printedPort_eq_iff]
      omega

/-- An accepted text is printed and parsed back exactly when the port it names has at most
four digits. -/
theorem urlRoundTrip_iff (inetPton : AddressFamily → Bytes → Bool) {text : Bytes}
    {url : RtspUrlObject} (h : rtspUrlParse inetPton (some text) = .ok url) :
    (∃ str url', rtspUrlToStr url = .ok str ∧ rtspUrlParse inetPton (some str) = .ok url' ∧
      rtspUrlCmp url url' = true) ↔ urlPortNumber text < 10000 := by
  obtain ⟨hparse, hresolved⟩ := (rtspUrlParse_eq inetPton).mp h
  obtain ⟨hurl, hlength, hshort, -⟩ := rtspUrlParseInternal_parsed hparse
  have hstr : rtspUrlToStr url = .ok (urlText url.toRtspUrl) := rtspUrlToStr_parsed hurl _
  have hagain := rtspUrlParse_urlText inetPton hurl (hlength.trans_lt hshort) hresolved
  rw [← reprintedUrl_eq_iff hparse]
  constructor
  · rintro ⟨str, url', hstr', hparse', hcmp⟩
    rw [hstr, Except.ok.injEq] at hstr'
    rw [← hstr', hagain, Except.ok.injEq] at hparse'
    rw [rtspUrlCmp_iff, ← hparse'] at hcmp
    exact (congrArg RtspUrl.port (congrArg RtspUrlObject.toRtspUrl hcmp)).symm
  · intro hport
    refine ⟨_, _, hstr, hagain, rtspUrlCmp_iff.mpr ?_⟩
    have hsame : reprintedUrl url.toRtspUrl = url.toRtspUrl := by
      calc
        reprintedUrl url.toRtspUrl =
            { url.toRtspUrl with port := (reprintedUrl url.toRtspUrl).port } := rfl
        _ = url.toRtspUrl := by rw [hport]
    rw [hsame]

/-- An address behind credentials with an at sign. -/
def addressUrl : RtspUrlObject where
  scheme := .tcp
  user := some (ascii "a@b")
  pass := some []
  host := ascii "::1"
  port := 8554
  portExplicit := true
  path := some (ascii "/live")
  resolvedHost := some (ascii "::1")

theorem urlRoundTrip_addressUrl :
    ∃ str url', rtspUrlToStr addressUrl = .ok str ∧
      rtspUrlParse (fun family host => family = .inet6 ∧ host = ascii "::1") (some str) =
        .ok url' ∧
      rtspUrlCmp addressUrl url' = true :=
  (urlRoundTrip_iff _
    (show rtspUrlParse _ (some (ascii "rtsp://a@b:@[::1]:8554//live/")) = .ok addressUrl by
      decide +kernel)).mpr (by decide +kernel)

def fiveDigitUrl : RtspUrlObject where
  scheme := .tcp
  user := none
  pass := none
  host := ascii "h"
  port := 12345
  portExplicit := true
  path := some (ascii "x")
  resolvedHost := none

/-- A port of five digits comes back without its last digit. -/
theorem urlRoundTrip_fiveDigitUrl :
    rtspUrlParse (fun _ _ => false) (some (ascii "rtsp://h:12345/x")) = .ok fiveDigitUrl ∧
      rtspUrlToStr fiveDigitUrl = .ok (ascii "rtsp://h:1234/x") ∧
      ¬ ∃ url', rtspUrlParse (fun _ _ => false) (some (ascii "rtsp://h:1234/x")) = .ok url' ∧
        rtspUrlCmp fiveDigitUrl url' = true := by
  refine ⟨by decide +kernel, by decide +kernel, ?_⟩
  rintro ⟨url', hparse, hcmp⟩
  rw [rtspUrlCmp_iff] at hcmp
  subst hcmp
  exact absurd hparse (by decide +kernel)

end Librtsp
