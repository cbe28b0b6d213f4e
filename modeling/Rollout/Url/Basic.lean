/-! URLs by their parts, and their text. -/

namespace Rollout

/-- A host. The empty name stands for none. -/
inductive Url.Host where
  | name (text : String)
  | ipv4 (address : Nat)
  | ipv6 (pieces : List Nat)
  deriving DecidableEq

structure Url.Authority where
  username : String
  password : String
  host : Url.Host
  port : Option Nat
  deriving DecidableEq

structure Url where
  scheme : String
  authority : Option Url.Authority
  path : String
  query : Option String
  fragment : Option String
  deriving DecidableEq

inductive UrlError where
  | relativeWithoutBase
  | emptyHost
  | invalidPort
  | invalidIpv6
  | invalidIpv4
  | invalidName
  | invalidDomainCharacter
  deriving DecidableEq

namespace UrlError

def message : UrlError → String
  | relativeWithoutBase => "relative URL without a base"
  | emptyHost => "empty host"
  | invalidPort => "invalid port number"
  | invalidIpv6 => "invalid IPv6 address"
  | invalidIpv4 => "invalid IPv4 address"
  | invalidName => "invalid international domain name"
  | invalidDomainCharacter => "invalid domain character"

end UrlError

namespace Url

inductive SchemeKind where
  | file
  | special
  | other
  deriving DecidableEq

namespace SchemeKind

def of (scheme : String) : SchemeKind :=
  if scheme = "file" then file
  else if ["http", "https", "ws", "wss", "ftp"].contains scheme then special
  else other

def isSpecial : SchemeKind → Bool
  | other => false
  | _ => true

end SchemeKind

def defaultPort? : String → Option Nat
  | "http" | "ws" => some 80
  | "https" | "wss" => some 443
  | "ftp" => some 21
  | _ => none

namespace Host

def longestZeros : List Nat → Nat × Nat
  | [] => (0, 0)
  | n :: pieces =>
    let run := ((n :: pieces).takeWhile (· == 0)).length
    let (start, length) := longestZeros pieces
    if run ≥ length ∧ 0 < run then (0, run) else (start + 1, length)

def hexText (n : Nat) : String := String.ofList (Nat.toDigits 16 n)

def ipv6Text (pieces : List Nat) : String :=
  let join := fun pieces => ":".intercalate (List.map hexText pieces)
  let (start, length) := longestZeros pieces
  if length < 2 then join pieces
  else join (pieces.take start) ++ "::" ++ join (pieces.drop (start + length))

def text : Host → String
  | name text => text
  | ipv4 address =>
    ".".intercalate <| [24, 16, 8, 0].map fun shift => toString ((address >>> shift) % 256)
  | ipv6 pieces => "[" ++ ipv6Text pieces ++ "]"

end Host

namespace Authority

def userText (a : Authority) : String :=
  let password := if a.password.isEmpty then "" else ":" ++ a.password
  if a.username.isEmpty ∧ a.password.isEmpty then "" else a.username ++ password ++ "@"

def text (a : Authority) : String :=
  a.userText ++ a.host.text ++
    (match a.port with | some port => ":" ++ toString port | none => "")

end Authority

def text (u : Url) : String :=
  u.scheme ++ ":" ++
    (match u.authority with
      | some authority => "//" ++ authority.text
      -- A path that begins with two slashes must not pass for an authority.
      | none => if ['/', '/'].isPrefixOf u.path.toList then "/." else "") ++
    u.path ++
    (match u.query with | some query => "?" ++ query | none => "") ++
    (match u.fragment with | some fragment => "#" ++ fragment | none => "")

end Url

end Rollout
