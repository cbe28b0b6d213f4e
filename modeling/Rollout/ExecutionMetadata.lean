import Rollout.Json.Reader
import Rollout.Json.Record
import Rollout.Text.Blank

/-!
What the staging of a container image recorded: the ports that the image declares and its user.
The document is read in its order, and the first fault in it is the one that counts.
-/

namespace Rollout

structure PortSpec where
  port : UInt16
  protocol : String
  deriving DecidableEq

structure ExecutionMetadata where
  ports : Option (List PortSpec)
  user : Option String
  deriving DecidableEq

inductive MetadataError where
  | malformed
  | invalidPort (text : String)
  deriving DecidableEq

namespace PortSpec

def isTcp (spec : PortSpec) : Bool := spec.protocol == "tcp"

/-- A port number in decimal, with or without a plus sign and with blanks around it. -/
def portOfText? (text : String) : Option UInt16 :=
  ((Text.readUnsigned? (Text.trimWhile Text.isBlank text.toList)).filter (· < UInt16.size)).map
    UInt16.ofNat

def readPort : Json → Except MetadataError UInt16
  | .string text =>
    match portOfText? text with
    | some port => .ok port
    | none => .error (.invalidPort text)
  | j =>
    match Json.uint16? j with
    | some port => .ok port
    | none => .error .malformed

def readProtocol : Json → Except MetadataError String
  | .string s => .ok s
  | _ => .error .malformed

def readMembers (port : Option UInt16) (protocol : Option String) :
    List (String × Json) → Except MetadataError PortSpec
  | [] =>
    match port with
    | some port => .ok ⟨port, protocol.getD ""⟩
    | none => .error .malformed
  | (name, value) :: members =>
    if name = "port" then
      if port.isSome then .error .malformed
      else (readPort value).bind fun port => readMembers (some port) protocol members
    else if name = "protocol" then
      if protocol.isSome then .error .malformed
      else (readProtocol value).bind fun protocol => readMembers port (some protocol) members
    else readMembers port protocol members

def read : Json → Except MetadataError PortSpec
  | .object members => readMembers none none members
  | .array [port] => (readPort port).map (⟨·, ""⟩)
  | .array (port :: protocol :: rest) => do
    let port ← readPort port
    let protocol ← readProtocol protocol
    if rest.isEmpty then return ⟨port, protocol⟩ else throw .malformed
  | _ => .error .malformed

end PortSpec

namespace ExecutionMetadata

def empty : ExecutionMetadata := ⟨none, none⟩

def readPorts : Json → Except MetadataError (Option (List PortSpec))
  | .null => .ok none
  | .array items => (items.mapM PortSpec.read).map some
  | _ => .error .malformed

def readUser : Json → Except MetadataError (Option String)
  | .null => .ok none
  | .string s => .ok (some s)
  | _ => .error .malformed

def readMembers (ports : Option (Option (List PortSpec))) (user : Option (Option String)) :
    List (String × Json) → Except MetadataError ExecutionMetadata
  | [] => .ok ⟨ports.join, user.join⟩
  | (name, value) :: members =>
    if name = "ports" then
      if ports.isSome then .error .malformed
      else (readPorts value).bind fun ports => readMembers (some ports) user members
    else if name = "user" then
      if user.isSome then .error .malformed
      else (readUser value).bind fun user => readMembers ports (some user) members
    else readMembers ports user members

def read : Json → Except MetadataError ExecutionMetadata
  | .object members => readMembers none none members
  | .array [] => .ok empty
  | .array [ports] => (readPorts ports).map (⟨·, none⟩)
  | .array (ports :: user :: rest) => do
    let ports ← readPorts ports
    let user ← readUser user
    if rest.isEmpty then return ⟨ports, user⟩ else throw .malformed
  | _ => .error .malformed

/-- The metadata of a text; a blank text has none. A bad port counts even in a broken document. -/
def parse (raw : String) : Except MetadataError ExecutionMetadata :=
  if Text.isBlankText raw then .ok empty
  else
    let (document, complete) := Json.read raw
    match read document with
    | .error fault => .error fault
    | .ok metadata => if complete then .ok metadata else .error .malformed

end ExecutionMetadata

end Rollout
