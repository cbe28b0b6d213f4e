import Rollout.ExecutionMetadata

/-! The ports that a container listens on. -/

namespace Rollout

inductive PortError where
  | noTcpPorts
  deriving DecidableEq

namespace PortError

def message : PortError → String
  | noTcpPorts => "No tcp ports found in image metadata"

end PortError

/--
Ports set on the process come first, then the TCP ports that the image declares, and the default
only if it declares none at all. The first port of the answer is the main one.
-/
def resolvePorts (explicit : List UInt16) (metadata : ExecutionMetadata) (default : UInt16) :
    Except PortError (List UInt16) :=
  match explicit, metadata.ports with
  | _ :: _, _ => .ok explicit
  | [], none | [], some [] => .ok [default]
  | [], some declared =>
    match (declared.filter PortSpec.isTcp).map (·.port) with
    | [] => .error .noTcpPorts
    | ports => .ok ports

end Rollout
