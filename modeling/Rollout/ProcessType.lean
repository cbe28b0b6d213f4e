import Rollout.Guid
import Rollout.Text.Blank

/-! What a process is for, and the labels of process types. -/

namespace Rollout

/-- `deployingWeb` is the shadow of the web process during a rollout. -/
inductive ProcessType where
  | web
  | deployingWeb
  | task
  | worker (name : String)
  deriving DecidableEq, Inhabited

inductive ProcessTypeError where
  | empty
  | reservedForDeployment (name : String)
  | invalidChar (c : Char)
  deriving DecidableEq

namespace ProcessTypeError

def message : ProcessTypeError → String
  | empty => "process type cannot be empty"
  | reservedForDeployment name => "process type is reserved for deployments: " ++ name
  | invalidChar c => "invalid character in process type: \x27" ++ c.toString ++ "\x27"

end ProcessTypeError

namespace ProcessType

def isNameChar (c : Char) : Bool := c.isAlphanum || c == '-' || c == '_'

/-- How the labels of shadow processes begin, which no declared type may have. -/
def reserved : String := "web-deployment-"

def parse (text : String) : Except ProcessTypeError ProcessType :=
  let name := Text.trim text
  if name.isEmpty then .error .empty
  else
    match name.toList.find? fun c => !isNameChar c with
    | some c => .error (.invalidChar c)
    | none =>
      if name = "web" then .ok .web
      else if name = "task" then .ok .task
      else if reserved.toList.isPrefixOf name.toList then .error (.reservedForDeployment name)
      else .ok (.worker name)

def isWeb : ProcessType → Bool
  | web => true
  | _ => false

/-- The label of a process of this type that belongs to `deployment`. -/
def label : ProcessType → Option DeploymentGuid → String
  | web, _ => "web"
  | task, _ => "task"
  | worker name, _ => name
  | deployingWeb, some deployment => reserved ++ deployment.text
  | deployingWeb, none => "web-deployment"

def text (t : ProcessType) : String := t.label none

def toJson : ProcessType → Json
  | web => .object [("role", .string "web")]
  | deployingWeb => .object [("role", .string "deploying_web")]
  | task => .object [("role", .string "task")]
  | worker name => .object [("role", .string "worker"), ("name", .string name)]

def ofRole? (role : String) (name : Option Json) : Option ProcessType :=
  match role, name with
  | "web", none | "web", some .null => some web
  | "deploying_web", none | "deploying_web", some .null => some deployingWeb
  | "task", none | "task", some .null => some task
  | "worker", some (.string name) => some (worker name)
  | _, _ => none

/-- A role and a name, as an object or as an array of just the two. -/
def ofJson? : Json → Option ProcessType
  | .array [role, name] => (Json.word? role).bind (ofRole? · (some name))
  | .object members => do
    let fields ← Json.fields? ["role", "name"] (.object members)
    let role ← fields.need "role" Json.word?
    ofRole? role (fields.lookup "name")
  | _ => none

theorem ofJson?_toJson (t : ProcessType) : ofJson? t.toJson = some t := by
  cases t <;> rfl

end ProcessType

end Rollout
