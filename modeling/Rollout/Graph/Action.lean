import Rollout.Checksum

/-! What the scheduler is given to run one workload. -/

namespace Rollout

structure EnvironmentVariable where
  name : String
  value : String
  deriving DecidableEq

structure ResourceLimits where
  nofile : Option UInt64
  deriving DecidableEq

structure DownloadAction where
  source : String
  destination : String
  cacheKey : String
  user : String
  checksumAlgorithm : Option ChecksumAlgorithm
  checksumValue : Option String
  deriving DecidableEq

namespace DownloadAction

def withChecksum (d : DownloadAction) (checksum : Option Checksum) : DownloadAction :=
  { d with
    checksumAlgorithm := checksum.map (·.algorithm)
    checksumValue := checksum.map (·.value) }

end DownloadAction

structure RunAction where
  path : String
  args : List String
  logSource : String
  user : String
  resourceLimits : ResourceLimits
  env : List EnvironmentVariable
  deriving DecidableEq

/-- The steps of a serial action run in order until one fails. -/
inductive Action where
  | serial (actions : List Action)
  | download (action : DownloadAction)
  | run (action : RunAction)
  deriving Inhabited

namespace Action

mutual

def same : Action → Action → Bool
  | .serial a, .serial b => sameSteps a b
  | .download a, .download b => a == b
  | .run a, .run b => a == b
  | _, _ => false

def sameSteps : List Action → List Action → Bool
  | [], [] => true
  | a :: as, b :: bs => same a b && sameSteps as bs
  | _, _ => false

end

mutual

theorem same_iff : ∀ a b : Action, same a b = true ↔ a = b
  | .serial as, b => by cases b <;> simp [same, sameSteps_iff as]
  | .download _, b => by cases b <;> simp [same]
  | .run _, b => by cases b <;> simp [same]

theorem sameSteps_iff : ∀ as bs : List Action, sameSteps as bs = true ↔ as = bs
  | [], bs => by cases bs <;> simp [sameSteps]
  | a :: as, bs => by cases bs <;> simp [sameSteps, same_iff a, sameSteps_iff as]

end

instance : DecidableEq Action := fun a b => decidable_of_iff _ (same_iff a b)

def steps : Action → List Action
  | serial actions => actions
  | action => [action]

def stepName : Action → String
  | serial _ => "serial"
  | download _ => "download"
  | run _ => "run"

end Action

/-- A file that is fetched once for all the containers of a cell. -/
structure CachedDependency where
  source : String
  destination : String
  cacheKey : String
  deriving DecidableEq

/-- A shared layer serves every workload on a stack, an exclusive one only its own. -/
inductive LayerType where
  | shared
  | exclusive
  deriving DecidableEq

inductive MediaType where
  | tgz
  deriving DecidableEq

inductive DigestAlgorithm where
  | sha256
  deriving DecidableEq

structure ImageLayer where
  name : String
  url : String
  destinationPath : String
  layerType : LayerType
  mediaType : MediaType
  digestAlgorithm : Option DigestAlgorithm
  digestValue : Option String
  deriving DecidableEq

namespace ImageLayer

def shared (name url destination : String) : ImageLayer :=
  ⟨name, url, destination, .shared, .tgz, none, none⟩

def exclusive (name url destination : String) : ImageLayer :=
  { shared name url destination with layerType := .exclusive }

def withSha256 (l : ImageLayer) (digest : Option String) : ImageLayer :=
  { l with digestAlgorithm := digest.map fun _ => .sha256, digestValue := digest }

end ImageLayer

/-- A whole submission. Its payload comes as image layers or by cached dependencies. -/
structure ActionGraph where
  action : Action
  imageLayers : Option (List ImageLayer)
  cachedDependencies : Option (List CachedDependency)
  environmentVariables : List EnvironmentVariable
  deriving DecidableEq

end Rollout
