import Librtsp.Header

/-!
# URLs

A URL is cut in place: at the first slash after the scheme into authority and
path, the authority at its last at sign into user part and host part.  Trailing
slashes of the path are dropped, and a path of slashes only is no path.
-/

namespace Librtsp

open CString

inductive RtspUrlScheme where
  | unknown
  | tcp
  | udp
  | tcpTls
  deriving DecidableEq, Repr

def rtspUrlSchemeMap : List (RtspUrlScheme × UInt16 × Bytes) :=
  [(.tcp, 554, ascii "rtsp://"), (.udp, 554, ascii "rtspu://"), (.tcpTls, 322, ascii "rtsps://")]

def isValidRtspPathChar (c : UInt8) : Bool :=
  isAlnum c || (ascii "-._~!$&'()*+,;=:@/").contains c

def isXdigit (c : UInt8) : Bool :=
  (digitVal 16 c).isSome

/-! ## Authority -/

/-- The port a URL names; an empty text names none. -/
def parsePort (portStr : Bytes) : Except Errno UInt16 :=
  if portStr = [] then .ok 0
  else
    let val := strtol portStr
    if val.2 ≠ [] ∨ val.1 < 0 ∨ 65535 < val.1 then .error .einval
    else .ok (UInt16.ofNat val.1.toNat)

def parseHostAndPort (host : Bytes) : Except Errno (Bytes × UInt16) :=
  match host with
  | 0x5b :: rest =>
      match strchr 0x5d rest with
      | none => .error .einval
      | some (host, after) =>
          if host = [] then .error .einval
          else
            match after with
            | [] => if host.all fun c => isXdigit c || c == 0x3a || c == 0x2e then .ok (host, 0)
                else .error .einval
            | 0x3a :: portStr => do
                let port ← parsePort portStr
                if host.all fun c => isXdigit c || c == 0x3a || c == 0x2e then .ok (host, port)
                else .error .einval
            | _ => .error .einval
  | host => do
      let (host, portStr) := (strchr 0x3a host).getD (host, [])
      if host = [] then .error .einval
      else
        let port ← parsePort portStr
        if host.all fun c => isAlnum c || c == 0x2e || c == 0x2d then .ok (host, port)
        else .error .einval

structure Authority where
  user : Option Bytes := none
  pass : Option Bytes := none
  host : Bytes
  port : UInt16
  deriving DecidableEq, Repr

def parseAuthority (authority : Bytes) : Except Errno Authority := do
  match strrchr 0x40 authority with
  | none =>
      let (host, port) ← parseHostAndPort authority
      .ok { host, port }
  | some (userPass, hostPart) =>
      let (user, pass) :=
        match strchr 0x3a userPass with
        | none => (userPass, none)
        | some (user, pass) => (user, some pass)
      if user = [] then .error .einval
      else
        let (host, port) ← parseHostAndPort hostPart
        .ok { user := some user, pass, host, port }

/-! ## Path -/

def dropTrailingSlashes (path : Bytes) : Bytes :=
  (path.reverse.dropWhile (· == 0x2f)).reverse

def parsePath (path : Bytes) : Except Errno (Option Bytes) :=
  if pathMax ≤ path.length then .error .enametoolong
  else if dropTrailingSlashes path = [] then .ok none
  else if (dropTrailingSlashes path).all isValidRtspPathChar then
    .ok (some (dropTrailingSlashes path))
  else .error .einval

/-! ## The whole URL -/

structure RtspUrl where
  scheme : RtspUrlScheme
  user : Option Bytes
  pass : Option Bytes
  host : Bytes
  port : UInt16
  portExplicit : Bool
  path : Option Bytes
  deriving DecidableEq, Repr

def rtspUrlParseInternal (url : Option Bytes) : Except Errno RtspUrl := do
  let some url := url | .error .einval
  if url = [] ∨ pathMax ≤ url.length then .error .einval
  else
    match rtspUrlSchemeMap.find? fun entry => entry.2.2.isPrefixOf url with
    | none => .error .einval
    | some (scheme, defaultPort, schemeStr) =>
        let host := url.drop schemeStr.length
        if host = [] ∨ host.head? = some 0x2f then .error .einval
        else
          match strtok [0x2f] host with
          | none => .error .einval
          | some (authorityText, rest) =>
              let authority ← parseAuthority authorityText
              let path ← if rest = [] then .ok none else parsePath rest
              .ok
                { scheme
                  user := authority.user
                  pass := authority.pass
                  host := authority.host
                  port := if authority.port = 0 then defaultPort else authority.port
                  portExplicit := authority.port ≠ 0
                  path }

def rtspUrlParseHostAndPath (url : Option Bytes) : Except Errno (Bytes × Option Bytes) :=
  (rtspUrlParseInternal url).map fun url => (url.host, url.path)

def rtspUrlParsePath (url : Option Bytes) : Except Errno (Option Bytes) :=
  (rtspUrlParseInternal url).map RtspUrl.path

end Librtsp
