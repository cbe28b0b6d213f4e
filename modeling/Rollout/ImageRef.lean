import Rollout.Text.Blank
import Rollout.Text.Split

/-! References to container images, such as `registry:5000/user/image:tag@sha256:hex`. -/

namespace Rollout

structure ImageRef where
  registry : Option String
  name : String
  tag : Option String
  digest : Option String
  deriving DecidableEq

inductive ImageRefError where
  | empty
  | hasScheme (text : String)
  | invalidChar (c : Char)
  | invalidFormat (text : String)
  deriving DecidableEq

namespace ImageRefError

def message : ImageRefError → String
  | empty => "image reference cannot be empty"
  | hasScheme text => "docker image reference [" ++ text ++ "] should not contain a scheme"
  | invalidChar c => "invalid character in image reference: " ++ c.toString
  | invalidFormat text => "invalid image reference format: " ++ text

end ImageRefError

namespace ImageRef

open Text (cut? cutLast? includes)

def isAllowed (c : Char) : Bool :=
  c.isAlphanum || c == '/' || c == ':' || c == '.' || c == '-' || c == '_' || c == '@'

/-- The first component of a name is a registry if it looks like a host. -/
def isHostLike (component : List Char) : Bool :=
  component.contains '.' || component.contains ':' || component = "localhost".toList

def splitDigest (s : List Char) : Option (List Char × Option (List Char)) :=
  match cut? '@' s with
  | none => some (s, none)
  | some (_, []) => none
  | some (before, after) => some (before, some after)

/-- A colon before a slash belongs to the port of a registry and begins no tag. -/
def splitTag (s : List Char) : List Char × Option (List Char) :=
  match cutLast? ':' s with
  | some (before, after) => if after.contains '/' then (s, none) else (before, some after)
  | none => (s, none)

def splitRegistry (s : List Char) : Option (List Char) × List Char :=
  match cut? '/' s with
  | some (first, rest) => if isHostLike first then (some first, rest) else (none, s)
  | none => (none, s)

/-- A reference out of text without blanks around it, all of whose characters are allowed. -/
def ofChars (s : List Char) : Except ImageRefError ImageRef :=
  match splitDigest s with
  | none => .error (.invalidFormat (String.ofList s))
  | some (undigested, digest) =>
    let (path, tag) := splitTag undigested
    if path = [] ∨ path.getLast? = some '/' then .error (.invalidFormat (String.ofList path))
    else
      let (registry, name) := splitRegistry path
      let tag := if tag = none ∧ digest = none then some "latest".toList else tag
      .ok ⟨registry.map .ofList, .ofList name, tag.map .ofList, digest.map .ofList⟩

def parse (text : String) : Except ImageRefError ImageRef :=
  let s := Text.trimWhile Text.isBlank text.toList
  if s = [] then .error .empty
  else if includes "://".toList s then .error (.hasScheme (String.ofList s))
  else
    match s.find? fun c => !isAllowed c with
    | some c => .error (.invalidChar c)
    | none => ofChars s

def sha256? (r : ImageRef) : Option String :=
  match r.digest with
  | none => none
  | some digest =>
    if "sha256:".toList.isPrefixOf digest.toList then
      let hex := digest.toList.drop 7
      if hex = [] then none else some (String.ofList hex)
    else none

def pin (r : ImageRef) : String := (r.digest.or r.tag).getD "latest"

/-- An image of the official registry that has no namespace is found under `library`. -/
def path (r : ImageRef) : String :=
  if (r.registry = none ∨ r.registry = some "docker.io") ∧ !r.name.toList.contains '/' then
    "library/" ++ r.name
  else r.name

def uri (r : ImageRef) : String :=
  "docker://" ++ r.registry.getD "" ++ "/" ++ r.path ++ "#" ++ r.pin

def text (r : ImageRef) : String :=
  (match r.registry with | some registry => registry ++ "/" | none => "") ++ r.name ++
    (match r.tag with | some tag => ":" ++ tag | none => "") ++
    (match r.digest with | some digest => "@" ++ digest | none => "")

end ImageRef

end Rollout
