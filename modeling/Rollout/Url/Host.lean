import Rollout.Text.Decimal
import Rollout.Text.Split
import Rollout.Url.Basic
import Rollout.Url.Encoding

/-! Hosts out of text. -/

namespace Rollout.Url.Host

def piece? (s : List Char) : Option Nat :=
  if s = [] ∨ 4 < s.length then none else Text.ofBase? 16 s

def byte? (s : List Char) : Option Nat :=
  if s.head? = some '0' ∧ s ≠ ['0'] then none
  else (Text.readNat? s).filter (· < 256)

/-- Pieces between colons, of which the last may be two pieces written as an IPv4 address. -/
def pieces? : List (List Char) → Option (List Nat)
  | [] => some []
  | [last] =>
    match (Text.pieces (· == '.') last).map byte? with
    | [some a, some b, some c, some d] => some [256 * a + b, 256 * c + d]
    | _ => (piece? last).map ([·])
  | part :: parts => do
    let piece ← piece? part
    return piece :: (← pieces? parts)

def splitGap : List Char → Option (List Char × List Char)
  | ':' :: ':' :: s => some ([], s)
  | c :: s => (splitGap s).map fun (before, after) => (c :: before, after)
  | [] => none

def ipv6? (s : List Char) : Option (List Nat) :=
  let read := fun s => if s = [] then some [] else pieces? (Text.pieces (· == ':') s)
  match splitGap s with
  | none => (read s).filter (·.length = 8)
  | some (before, after) => do
    let before ← if before.contains '.' then none else read before
    let after ← read after
    let missing := 8 - (before.length + after.length)
    if 0 < missing then return before ++ List.replicate missing 0 ++ after else none

def number? (s : List Char) : Option Nat :=
  match s with
  | [] => none
  | '0' :: 'x' :: s | '0' :: 'X' :: s => Text.ofBase? 16 s
  | '0' :: c :: s => Text.ofBase? 8 (c :: s)
  | s => Text.ofBase? 10 s

def labels (s : List Char) : List (List Char) :=
  let parts := Text.pieces (· == '.') s
  if parts.getLast? = some [] then parts.dropLast else parts

def endsInNumber (s : List Char) : Bool :=
  match (labels s).getLast? with
  | some last => (last ≠ [] && last.all Char.isDigit) || (number? last).isSome
  | none => false

/-- Up to four numbers. The last takes all the bytes that the ones before it leave. -/
def ipv4? (s : List Char) : Option Nat := do
  let numbers ← (labels s).mapM number?
  let last ← numbers.getLast?
  let bytes := numbers.dropLast
  let room := Nat.pow 256 (4 - bytes.length)
  if bytes.length ≤ 3 ∧ bytes.all (· < 256) ∧ last < room then
    return bytes.foldl (fun n byte => 256 * n + byte) 0 * room + last
  else none

def isForbidden (c : Char) : Bool :=
  c.toNat ≤ 0x20 || 0x7F ≤ c.toNat || "%#/:<>?@[\\]^|".toList.contains c

def isForbiddenAnywhere (c : Char) : Bool :=
  "\x00\t\n\r #/:<>?@[\\]^|".toList.contains c

def special (s : List Char) : Except UrlError Host :=
  -- Labels are not mapped to Punycode: names outside ASCII are refused, and `xn--` is not checked.
  let domain := (decode s).map Char.toLower
  if domain.any isForbidden then .error .invalidName
  else if domain = [] then .error .emptyHost
  else if endsInNumber domain then
    match ipv4? domain with
    | some address => .ok (ipv4 address)
    | none => .error .invalidIpv4
  else .ok (name (String.ofList domain))

def other (s : List Char) : Except UrlError Host :=
  if s.any isForbiddenAnywhere then .error .invalidDomainCharacter
  else .ok (name (encodeText isControl s))

def parse (isSpecial : Bool) (s : List Char) : Except UrlError Host :=
  match s with
  | '[' :: rest =>
    if rest.getLast? = some ']' then
      match ipv6? rest.dropLast with
      | some pieces => .ok (ipv6 pieces)
      | none => .error .invalidIpv6
    else .error .invalidIpv6
  | s => if isSpecial then special s else other s

end Rollout.Url.Host
