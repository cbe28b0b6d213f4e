import Rollout.Dictionary
import Rollout.Text.Blank
import Rollout.UrlParser

/-! The table of lifecycle bundles, and where each of them is downloaded. -/

namespace Rollout

inductive LifecycleType where
  | buildpack
  | docker
  deriving DecidableEq

namespace LifecycleType

def text : LifecycleType → String
  | buildpack => "buildpack"
  | docker => "docker"

def bundleKey (type : LifecycleType) (stack : Option String) : String :=
  match stack with
  | some stack => type.text ++ "/" ++ stack
  | none => type.text

/-- The key with dashes for slashes, as the name of the cached bundle or its layer. -/
def cacheKey (type : LifecycleType) (stack : Option String) : String :=
  (type.bundleKey stack).map (fun c => if c == '/' then '-' else c) ++ "-lifecycle"

end LifecycleType

inductive LifecycleError where
  | invalidStack (key : String)
  | noFileServer (bundle : String)
  deriving DecidableEq

namespace LifecycleError

def message : LifecycleError → String
  | invalidStack key => "no compiler defined for requested stack: " ++ key
  | noFileServer bundle =>
    "lifecycle bundle " ++ bundle ++ " is a relative path but no file_server_url is configured"

end LifecycleError

/-- Bundles by key: absolute URLs, and paths on a file server, whose URL is in its normal form. -/
structure LifecycleBundles where
  bundles : Dictionary String
  fileServer : Option String
  urls : UrlParser

namespace LifecycleBundles

def served (base path : String) : String :=
  String.ofList (Text.dropEndWhile (· == '/') base.toList) ++ "/v1/static/" ++
    String.ofList (path.toList.dropWhile (· == '/'))

def bundleUri (b : LifecycleBundles) (bundle : String) : Except LifecycleError String :=
  if b.urls.accepts bundle then .ok bundle
  else
    match b.fileServer with
    | some base => .ok (served base bundle)
    | none => .error (.noFileServer bundle)

def entries (b : LifecycleBundles) : Except LifecycleError (List (String × String)) :=
  b.bundles.entries.mapM fun (key, bundle) => (b.bundleUri bundle).map (key, ·)

def isValid (b : LifecycleBundles) : Bool := b.entries.toOption.isSome

def resolve (b : LifecycleBundles) (type : LifecycleType) (stack : Option String) :
    Except LifecycleError String :=
  let key := type.bundleKey stack
  match b.bundles.get? key with
  | some bundle => b.bundleUri bundle
  | none => .error (.invalidStack key)

end LifecycleBundles

end Rollout
