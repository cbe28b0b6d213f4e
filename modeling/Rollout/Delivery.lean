/-! How the payload of a workload reaches its container. -/

namespace Rollout

/-- The setting of a platform. `download` is the empty text, written down. -/
inductive DeliveryMode where
  | unset
  | download
  | ociPhase1
  deriving DecidableEq

namespace DeliveryMode

def isOci : DeliveryMode → Bool
  | ociPhase1 => true
  | _ => false

def ofText? : String → Option DeliveryMode
  | "" => some download
  | "oci-phase-1" => some ociPhase1
  | _ => none

def unknownMessage (mode : String) : String := "unknown image delivery mode: " ++ mode

def text : DeliveryMode → String
  | unset => "unset"
  | download => "download"
  | ociPhase1 => "oci-phase-1"

end DeliveryMode

/-- The payload is downloaded before the run, or mounted as layers of the image. -/
inductive Delivery where
  | download
  | layered
  deriving DecidableEq

namespace Delivery

/-- Layers need a payload that can be verified; without one it is downloaded in any mode. -/
def select (mode : DeliveryMode) (verifiable : Bool) : Delivery :=
  if mode.isOci && verifiable then layered else download

end Delivery

end Rollout
