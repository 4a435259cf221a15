import Librtsp.Client
import Librtsp.Server

/-!
# Resolving control URLs against a base

The client makes a URI of a base and of a control URL or path in three functions.  Each has
its own test for a URL that is absolute and its own way to put a slash between the parts: two
of them know one of the three schemes, the third knows none; none of them counts the slashes
that are there.  A server announces a path with a slash in front of it.
-/

namespace Librtsp

open CString

/-! ## Announcing -/

/-- The path that is put on the wire. -/
def announcedPath (uri : Bytes) : Bytes :=
  ascii "/" ++ uri

section Announce

variable (P : Platform) (env : Env) (server : RtspServer)

def announceHeader (uri : Bytes) (ext : List RtspHeaderExt) (sessionDescription : Bytes) :
    RtspRequestHeader :=
  rtspRequestHeaderCopyExt ext
    { method := .announce
      uri := some (announcedPath uri)
      cseq := server.cseq.toInt32
      contentLength := Int32.ofNat sessionDescription.length
      contentType := some (ascii "application/sdp")
      date := env.now / 1000000
      server := some server.softwareName }

/-- The value returned, the server and what was sent to every client. -/
def rtspServerAnnounce (uri : Option Bytes) (ext : List RtspHeaderExt)
    (sessionDescription : Option Bytes) : Except Errno Unit × RtspServer × List ServerEvent :=
  match nonEmpty uri, nonEmpty sessionDescription with
  | some uri, some description =>
      if 65535 ≤ description.length then (.error .einval, server, [])
      else
        let header := announceHeader env server uri ext description
        let server := { server with cseq := server.cseq + 1 }
        match rtspRequestHeaderWrite P header { maxLen := server.maxMsgSize } with
        | .error e => (.error e, server, [])
        | .ok request =>
            match rtspSprintf request description with
            | .error e => (.error e, server, [])
            | .ok request =>
                match env.send with
                | .error e => (.error e, server, [])
                | .ok () => (.ok (), server, [.broadcast request.str])
  | _, _ => (.error .einval, server, [])

end Announce

/-- The first line of the message asks for `uri` with ANNOUNCE. -/
def AnnouncesUri (uri message : Bytes) : Prop :=
  ascii "ANNOUNCE " ++ uri ++ ascii " RTSP/1.0\r\n" <+: message

theorem requestLine_printed {P : Platform} {header : RtspRequestHeader} {uri text : Bytes}
    (huri : nonEmpty header.uri = some uri) (htext : printed (requestPieces P header) = some text) :
    rtspMethodTypeStr header.method ++ ascii " " ++ uri ++ ascii " " ++ rtspVersion ++ rtspCrlf <+:
      text := by
  unfold requestPieces at htext
  rw [huri] at htext
  dsimp only at htext
  split at htext
  next => cases htext
  next =>
    simp only [List.append_assoc, List.cons_append, List.nil_append, printed_ok] at htext
    obtain ⟨rest, -, rfl⟩ := Option.map_eq_some_iff.mp htext
    exact ⟨rest, by simp only [List.append_assoc]⟩

/-- A message that is sent asks for the path with a slash in front. -/
theorem rtspServerAnnounce_wire {P : Platform} {env : Env} {server : RtspServer}
    {uri : Option Bytes} {ext : List RtspHeaderExt} {sessionDescription : Option Bytes}
    {message : Bytes}
    (h : .broadcast message ∈ (rtspServerAnnounce P env server uri ext sessionDescription).2.2) :
    ∃ text, nonEmpty uri = some text ∧ AnnouncesUri (announcedPath text) message := by
  unfold rtspServerAnnounce at h
  split at h
  next text description huri hdescription =>
    refine ⟨text, huri, ?_⟩
    split at h
    next => simp at h
    next =>
      dsimp only at h
      split at h
      next => simp at h
      next written hwrite =>
        split at h
        next => simp at h
        next request hrequest =>
          split at h
          next => simp at h
          next =>
            have hmessage : message = request.str := by simpa using h
            obtain ⟨printedText, hprinted, hwritten⟩ := rtspPrint_ok hwrite
            have hheader : (announceHeader env server text ext description).method = .announce ∧
                nonEmpty (announceHeader env server text ext description).uri =
                  some (announcedPath text) := by
              unfold announceHeader rtspRequestHeaderCopyExt
              split
              next => exact ⟨rfl, rfl⟩
              next => exact ⟨rfl, rfl⟩
            have hline := requestLine_printed hheader.2 hprinted
            rw [hheader.1] at hline
            rw [rtspSprintf_ok hrequest, hwritten] at hmessage
            rw [hmessage]
            have hfirst : ascii "ANNOUNCE " ++ announcedPath text ++ ascii " RTSP/1.0\r\n" =
                rtspMethodTypeStr .announce ++ ascii " " ++ announcedPath text ++ ascii " " ++
                  rtspVersion ++ rtspCrlf := by
              have hlast : ascii " RTSP/1.0\r\n" = ascii " " ++ (rtspVersion ++ rtspCrlf) := by
                decide +kernel
              have hmethod : ascii "ANNOUNCE " = rtspMethodTypeStr .announce ++ ascii " " := by
                decide +kernel
              rw [hlast, hmethod]
              simp only [List.append_assoc]
            unfold AnnouncesUri
            rw [hfirst]
            exact hline.trans (List.prefix_append _ _)
  next => simp at h

/-! ## The resolved URI -/

/-- A URL with one of the schemes the library supports. -/
def isAbsoluteUrl (text : Bytes) : Bool :=
  rtspUrlSchemeMap.any fun entry => entry.2.2.isPrefixOf text

def trailingSlashes (base : Bytes) : Nat :=
  (base.reverse.takeWhile (· == 0x2f)).length

def leadingSlashes (text : Bytes) : Nat :=
  (text.takeWhile (· == 0x2f)).length

def dropLeadingSlashes (text : Bytes) : Bytes :=
  text.dropWhile (· == 0x2f)

/-- What a control URL or path means: itself when it is absolute, and otherwise a place
below the base, with one slash between the two. -/
def resolvedUri (base text : Bytes) : Bytes :=
  if isAbsoluteUrl text then text
  else dropTrailingSlashes base ++ slash ++ dropLeadingSlashes text

/-- The functions of the client that resolve a control URL or path. -/
inductive UriFunction where
  | formatRequestUri
  | clientUriToContentBase
  | makeUri
  deriving DecidableEq, Repr

/-- The URI a function makes: the base is a content base, or the URL of the connection. -/
def UriFunction.format (f : UriFunction) (client : RtspClient) (base text : Bytes) :
    Option Bytes :=
  match f with
  | .formatRequestUri => (Librtsp.formatRequestUri (some base) text).toOption
  | .clientUriToContentBase =>
      (Librtsp.clientUriToContentBase { client with urlStr := some base }
        (some text)).toOption.join
  | .makeUri => Librtsp.makeUri { client with urlStr := some base } (some text)

def UriFunction.Resolves (f : UriFunction) (client : RtspClient) (base text : Bytes) : Prop :=
  f.format client base text = some (resolvedUri base text)

/-- The bases and texts a function gets right. -/
def UriFunction.Suits : UriFunction → Bytes → Bytes → Prop
  | .formatRequestUri, base, text =>
      rtspSchemeTcp <+: text ∨
        ¬isAbsoluteUrl text ∧ leadingSlashes text = 0 ∧
          (trailingSlashes base = 0 ∨ trailingSlashes base = 1 ∧ base.length < pathMax)
  | .clientUriToContentBase, base, text =>
      (base ≠ [] ∧ base.length < pathMax) ∧
        (rtspSchemeTcp <+: text ∨
          ¬isAbsoluteUrl text ∧ leadingSlashes text ≤ 1 ∧ trailingSlashes base ≤ 1)
  | .makeUri, base, text =>
      ¬isAbsoluteUrl text ∧ leadingSlashes text = 0 ∧ trailingSlashes base = 0

/-! ## Slashes -/

theorem run_eq_replicate (text : Bytes) :
    text.takeWhile (· == 0x2f) = List.replicate (leadingSlashes text) 0x2f := by
  refine List.eq_replicate_of_mem fun c hc => ?_
  simpa using List.mem_takeWhile_imp hc

theorem leadingSlashes_split (text : Bytes) :
    text = List.replicate (leadingSlashes text) 0x2f ++ dropLeadingSlashes text := by
  rw [← run_eq_replicate]
  exact (List.takeWhile_append_dropWhile).symm

theorem trailingSlashes_split (base : Bytes) :
    base = dropTrailingSlashes base ++ List.replicate (trailingSlashes base) 0x2f := by
  have hsplit := leadingSlashes_split base.reverse
  have hreverse := congrArg List.reverse hsplit
  rw [List.reverse_reverse, List.reverse_append, List.reverse_replicate] at hreverse
  exact hreverse

/-- One slash stands between the parts exactly when the slashes that are there and the ones
that are put in add up to one. -/
theorem slashes_iff {base text : Bytes} {n : Nat} :
    dropTrailingSlashes base ++ List.replicate n 0x2f ++ dropLeadingSlashes text =
        dropTrailingSlashes base ++ slash ++ dropLeadingSlashes text ↔ n = 1 := by
  constructor
  · intro h
    have hlength := congrArg List.length h
    simp only [List.length_append, List.length_replicate, slash, List.length_singleton] at hlength
    omega
  · intro h
    rw [h]
    rfl

/-- A base, some slashes and a text are a core, all the slashes and a rest. -/
theorem joined_eq (base text : Bytes) (k : Nat) :
    base ++ List.replicate k 0x2f ++ text =
      dropTrailingSlashes base ++
        List.replicate (trailingSlashes base + k + leadingSlashes text) 0x2f ++
          dropLeadingSlashes text := by
  have hbase := trailingSlashes_split base
  have htext := leadingSlashes_split text
  conv_lhs => rw [hbase, htext]
  simp only [List.replicate_add, List.append_assoc]

theorem resolvedUri_joined_iff {base text : Bytes} (hrelative : ¬isAbsoluteUrl text) (k : Nat) :
    base ++ List.replicate k 0x2f ++ text = resolvedUri base text ↔
      trailingSlashes base + k + leadingSlashes text = 1 := by
  unfold resolvedUri
  rw [if_neg hrelative, joined_eq, slashes_iff]

theorem getLastChar_slash_iff {base : Bytes} {maxLen : Nat} :
    getLastChar base maxLen = some 0x2f ↔ base.length < maxLen ∧ 0 < trailingSlashes base := by
  have hlast : base.getLast? = some 0x2f ↔ 0 < trailingSlashes base := by
    unfold trailingSlashes
    rw [List.getLast?_eq_head?_reverse]
    cases base.reverse with
    | nil => simp
    | cons c rest =>
        by_cases hc : c = 0x2f
        · simp [hc]
        · simp [hc]
  unfold getLastChar
  split
  next hlong => simp [Nat.not_lt.mpr hlong]
  next hshort => rw [hlast, and_iff_right (by omega)]

/-! ## Each function -/

section Functions

variable {client : RtspClient} {base text : Bytes}

theorem schemeTcp_absolute (h : rtspSchemeTcp <+: text) : isAbsoluteUrl text = true :=
  List.any_eq_true.mpr ⟨_, List.mem_cons_self, List.isPrefixOf_iff_prefix.mpr h⟩

/-- A text that is put behind another one is not that text. -/
theorem joined_ne {front : Bytes} (hfront : front ≠ []) : front ++ text ≠ text := by
  intro h
  have hlength := congrArg List.length h
  rw [List.length_append] at hlength
  have hpos := List.length_pos_iff.mpr hfront
  omega

/-- No absolute URL begins with a slash. -/
theorem absolute_head (h : isAbsoluteUrl text = true) : text.head? ≠ some 0x2f := by
  obtain ⟨entry, hentry, hbegins⟩ := List.any_eq_true.mp h
  have hschemes : ∀ entry ∈ rtspUrlSchemeMap, entry.2.2.head? = some 0x72 := by decide +kernel
  have hhead := hschemes entry hentry
  obtain ⟨rest, rfl⟩ := List.isPrefixOf_iff_prefix.mp hbegins
  cases hscheme : entry.2.2 with
  | nil => simp [hscheme] at hhead
  | cons c scheme =>
      rw [hscheme, List.head?_cons, Option.some.injEq] at hhead
      rw [hhead]
      simp

/-- The text without a first slash. -/
theorem afterSlash_slashes (text : Bytes) :
    leadingSlashes (if text.head? = some 0x2f then text.drop 1 else text) =
        leadingSlashes text - 1 ∧
      dropLeadingSlashes (if text.head? = some 0x2f then text.drop 1 else text) =
        dropLeadingSlashes text := by
  cases text with
  | nil => exact ⟨rfl, rfl⟩
  | cons c rest =>
      by_cases hc : c = 0x2f
      · simp [hc, leadingSlashes, dropLeadingSlashes]
      · simp [hc, leadingSlashes, dropLeadingSlashes]

/-- The slash a function puts in. -/
theorem insertedSlash_eq (base : Bytes) :
    (if getLastChar base pathMax = some 0x2f then [] else ascii "/") =
      List.replicate (if base.length < pathMax ∧ 0 < trailingSlashes base then 0 else 1) 0x2f := by
  by_cases hlast : getLastChar base pathMax = some 0x2f
  · rw [if_pos hlast, if_pos (getLastChar_slash_iff.mp hlast)]
    rfl
  · rw [if_neg hlast, if_neg fun h => hlast (getLastChar_slash_iff.mpr h)]
    rfl

theorem formatRequestUri_resolves_iff :
    UriFunction.formatRequestUri.Resolves client base text ↔
      UriFunction.formatRequestUri.Suits base text := by
  unfold UriFunction.Resolves UriFunction.format UriFunction.Suits formatRequestUri
  dsimp only
  by_cases htcp : rtspSchemeTcp <+: text
  · have habsolute := schemeTcp_absolute htcp
    rw [if_pos (List.isPrefixOf_iff_prefix.mpr htcp)]
    unfold resolvedUri
    rw [if_pos habsolute]
    simp [htcp, Except.toOption]
  · have hnot : ¬rtspSchemeTcp.isPrefixOf text = true := fun h =>
      htcp (List.isPrefixOf_iff_prefix.mp h)
    rw [if_neg hnot, or_iff_right htcp]
    change some _ = some _ ↔ _
    rw [Option.some.injEq, insertedSlash_eq]
    by_cases habsolute : isAbsoluteUrl text = true
    · have hfront : base ++ List.replicate
          (if base.length < pathMax ∧ 0 < trailingSlashes base then 0 else 1) 0x2f ≠ [] := by
        intro hnil
        obtain ⟨rfl, hslash⟩ := List.append_eq_nil_iff.mp hnil
        exact absurd hslash (by decide)
      have hverbatim : resolvedUri base text = text := if_pos habsolute
      rw [hverbatim]
      exact iff_of_false (joined_ne hfront) fun h => h.1 habsolute
    · rw [resolvedUri_joined_iff habsolute, and_iff_right habsolute]
      split
      next h => omega
      next h => omega

theorem clientUriToContentBase_resolves_iff :
    UriFunction.clientUriToContentBase.Resolves client base text ↔
      UriFunction.clientUriToContentBase.Suits base text := by
  unfold UriFunction.Resolves UriFunction.format UriFunction.Suits clientUriToContentBase
  dsimp only
  by_cases hbase : base ≠ [] ∧ base.length < pathMax
  · have hkept : ¬(base = [] ∨ pathMax ≤ base.length) := by
      rintro (hnil | hlong)
      · exact hbase.1 hnil
      · exact absurd hbase.2 (Nat.not_lt.mpr hlong)
    rw [if_neg hkept, and_iff_right hbase]
    by_cases htcp : rtspSchemeTcp <+: text
    · have habsolute := schemeTcp_absolute htcp
      rw [if_pos (List.isPrefixOf_iff_prefix.mpr htcp)]
      unfold resolvedUri
      rw [if_pos habsolute]
      simp [htcp, Except.toOption]
    · have hnot : ¬rtspSchemeTcp.isPrefixOf text = true := fun h =>
        htcp (List.isPrefixOf_iff_prefix.mp h)
      rw [if_neg hnot, or_iff_right htcp]
      change some _ = some _ ↔ _
      rw [Option.some.injEq, insertedSlash_eq]
      by_cases habsolute : isAbsoluteUrl text = true
      · have hfront : base ++ List.replicate
            (if base.length < pathMax ∧ 0 < trailingSlashes base then 0 else 1) 0x2f ≠ [] :=
          fun hnil => hbase.1 (List.append_eq_nil_iff.mp hnil).1
        have hverbatim : resolvedUri base text = text := if_pos habsolute
        rw [hverbatim, if_neg (absolute_head habsolute)]
        exact iff_of_false (joined_ne hfront) fun h => h.1 habsolute
      · obtain ⟨hleading, hrest⟩ := afterSlash_slashes text
        have hrelative : resolvedUri base text =
            dropTrailingSlashes base ++ slash ++ dropLeadingSlashes text := if_neg habsolute
        rw [hrelative, joined_eq, hrest, hleading, slashes_iff, and_iff_right habsolute]
        have hshort := hbase.2
        split
        next h => omega
        next h => omega
  · have hrefused : base = [] ∨ pathMax ≤ base.length := by
      by_contra hnone
      rw [not_or, Nat.not_le] at hnone
      exact hbase hnone
    rw [if_pos hrefused]
    exact iff_of_false (by simp [Except.toOption]) fun h => hbase h.1

theorem makeUri_resolves_iff :
    UriFunction.makeUri.Resolves client base text ↔ UriFunction.makeUri.Suits base text := by
  unfold UriFunction.Resolves UriFunction.format UriFunction.Suits makeUri
  dsimp only
  rw [Option.some.injEq, Option.getD_some, show ascii "/" = List.replicate 1 0x2f from rfl]
  by_cases habsolute : isAbsoluteUrl text = true
  · have hfront : base ++ List.replicate 1 (0x2f : UInt8) ≠ [] := by simp
    have hverbatim : resolvedUri base text = text := if_pos habsolute
    rw [hverbatim]
    exact iff_of_false (joined_ne hfront) fun h => h.1 habsolute
  · rw [resolvedUri_joined_iff habsolute, and_iff_right habsolute]
    omega

theorem resolves_iff (f : UriFunction) : f.Resolves client base text ↔ f.Suits base text := by
  cases f with
  | formatRequestUri => exact formatRequestUri_resolves_iff
  | clientUriToContentBase => exact clientUriToContentBase_resolves_iff
  | makeUri => exact makeUri_resolves_iff

end Functions

/-! ## Announced paths -/

theorem announcedPath_slashes (uri : Bytes) :
    ¬isAbsoluteUrl (announcedPath uri) ∧
      leadingSlashes (announcedPath uri) = leadingSlashes uri + 1 := by
  have hpath : announcedPath uri = 0x2f :: uri := rfl
  constructor
  · intro habsolute
    exact absolute_head habsolute (by rw [hpath, List.head?_cons])
  · rw [hpath]
    simp [leadingSlashes]

/-- Each function resolves exactly the bases and texts that suit it.  A path that is announced
is resolved into a content base when neither side brings a further slash, and never by
`make_uri`. -/
theorem requestUris_resolved_iff (P : Platform) (env : Env) (server : RtspServer)
    (uri : Option Bytes) (ext : List RtspHeaderExt) (sessionDescription : Option Bytes)
    (client : RtspClient) (base : Bytes) :
    (∀ (f : UriFunction) (text : Bytes), f.Resolves client base text ↔ f.Suits base text) ∧
      ∀ message,
        .broadcast message ∈ (rtspServerAnnounce P env server uri ext sessionDescription).2.2 →
          ∃ text, nonEmpty uri = some text ∧ AnnouncesUri (announcedPath text) message ∧
            (UriFunction.clientUriToContentBase.Resolves client base (announcedPath text) ↔
              (base ≠ [] ∧ base.length < pathMax) ∧ leadingSlashes text = 0 ∧
                trailingSlashes base ≤ 1) ∧
            ¬UriFunction.makeUri.Resolves client base (announcedPath text) := by
  refine ⟨fun f text => resolves_iff f, fun message hmessage => ?_⟩
  obtain ⟨text, huri, hwire⟩ := rtspServerAnnounce_wire hmessage
  obtain ⟨hrelative, hleading⟩ := announcedPath_slashes text
  refine ⟨text, huri, hwire, ?_, ?_⟩
  · rw [resolves_iff]
    unfold UriFunction.Suits
    dsimp only
    have htcp : ¬rtspSchemeTcp <+: announcedPath text := fun h =>
      hrelative (schemeTcp_absolute h)
    rw [or_iff_right htcp, and_iff_right hrelative, hleading]
    simp
  · rw [resolves_iff]
    unfold UriFunction.Suits
    dsimp only
    rw [hleading]
    simp

/-- An announcement that is sent, and its path below the URL of a connection. -/
theorem announcement_resolved :
    ∃ message, .broadcast message ∈ (rtspServerAnnounce .bare {} {} (some (ascii "s")) []
        (some (ascii "v=0"))).2.2 ∧
      UriFunction.clientUriToContentBase.Resolves {} (ascii "rtsp://h") (ascii "/s") := by
  have hsent : (rtspServerAnnounce .bare {} {} (some (ascii "s")) []
      (some (ascii "v=0"))).2.2 ≠ [] := by
    decide +kernel
  have hbroadcast : ∀ event ∈ (rtspServerAnnounce .bare {} {} (some (ascii "s")) []
      (some (ascii "v=0"))).2.2, ∃ message, event = .broadcast message := by
    have hall : (rtspServerAnnounce .bare {} {} (some (ascii "s")) []
        (some (ascii "v=0"))).2.2.all (fun
          | .broadcast _ => true
          | _ => false) = true := by
      decide +kernel
    intro event hevent
    have hkind := List.all_eq_true.mp hall event hevent
    cases event with
    | broadcast message => exact ⟨message, rfl⟩
    | received => cases hkind
    | response => cases hkind
  obtain ⟨event, hevent⟩ := List.exists_mem_of_ne_nil _ hsent
  obtain ⟨message, rfl⟩ := hbroadcast event hevent
  obtain ⟨text, htext, -, hresolves, -⟩ := (requestUris_resolved_iff .bare {} {}
    (some (ascii "s")) [] (some (ascii "v=0")) {} (ascii "rtsp://h")).2 message hevent
  obtain rfl : ascii "s" = text := Option.some.inj (htext : some (ascii "s") = some text)
  exact ⟨message, hevent, hresolves.mpr (by decide +kernel)⟩

/-- An absolute URL of another scheme is put behind the base, and the path of an announcement
behind a second slash. -/
theorem otherScheme_joined :
    formatRequestUri (some (ascii "rtsp://h/s")) (ascii "rtsps://h/s/t") =
        .ok (ascii "rtsp://h/s/rtsps://h/s/t") ∧
      makeUri { urlStr := some (ascii "rtsp://h") } (some (announcedPath (ascii "s"))) =
        some (ascii "rtsp://h//s") ∧
      ¬UriFunction.formatRequestUri.Resolves {} (ascii "rtsp://h/s") (ascii "rtsps://h/s/t") ∧
      ¬UriFunction.makeUri.Resolves {} (ascii "rtsp://h") (announcedPath (ascii "s")) := by
  have hformat : formatRequestUri (some (ascii "rtsp://h/s")) (ascii "rtsps://h/s/t") =
      .ok (ascii "rtsp://h/s/rtsps://h/s/t") := by
    decide +kernel
  have hmake : makeUri { urlStr := some (ascii "rtsp://h") } (some (announcedPath (ascii "s"))) =
      some (ascii "rtsp://h//s") := by
    decide +kernel
  refine ⟨hformat, hmake, ?_, ?_⟩
  · unfold UriFunction.Resolves UriFunction.format
    dsimp only
    rw [hformat]
    decide +kernel
  · unfold UriFunction.Resolves UriFunction.format
    dsimp only
    rw [hmake]
    decide +kernel

end Librtsp
