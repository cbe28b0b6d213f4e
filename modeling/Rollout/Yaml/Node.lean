import Rollout.Yaml.Scanner

/-! Documents as trees of nodes, with the nodes that aliases stand for. -/

namespace Rollout.Yaml

structure Scalar where
  text : String
  style : Style
  tag : Option String
  deriving DecidableEq

inductive Node where
  | scalar (s : Scalar)
  | sequence (tag : Option String) (items : List Node)
  | mapping (tag : Option String) (entries : List (Node × Node))
  | alias (id : Nat)
  deriving Inhabited

def Node.empty : Node := .scalar ⟨"", .plain, none⟩

/-- A node that aliases stand for. `order` counts the anchors before its own. -/
structure Anchored where
  id : Nat
  order : Nat
  node : Node

/--
A document. One without any content has no root. An anchor is known by the number of names that
were in use before it, and of several anchors with one number the last in the text counts.
-/
structure Document where
  root : Option Node
  anchored : List Anchored

def Document.resolve (d : Document) : Node → Node
  | .alias id =>
    let last := d.anchored.foldl (fun best a =>
      match best with
      | none => if a.id = id then some a else none
      | some b => if a.id = id ∧ b.order < a.order then some a else some b) none
    (last.map (·.node)).getD .empty
  | node => node

namespace Parser

structure State where
  tokens : List Token
  handles : List (String × String)
  names : List (String × Nat)
  met : Nat
  anchored : List Anchored

abbrev Parse (α : Type) := StateT State Option α

def fail {α : Type} : Parse α := fun _ => none

def peek : Parse Token := do
  match (← get).tokens with
  | t :: _ => return t
  | [] => fail

def skip : Parse Unit := modify fun s => { s with tokens := s.tokens.tail }

def expect (t : Token) : Parse Unit := do
  if (← peek) = t then skip else fail

def define (name : String) : Parse (Nat × Nat) := do
  let s ← get
  let id := s.names.length
  set { s with
    names := (name, id) :: s.names.filter (·.1 ≠ name)
    met := s.met + 1 }
  return (id, s.met)

def bind (place : Option (Nat × Nat)) (node : Node) : Parse Node := do
  match place with
  | some (id, order) =>
    modify fun s => { s with anchored := ⟨id, order, node⟩ :: s.anchored }
    return node
  | none => return node

structure Properties where
  anchor : Option String
  tag : Option (String × String)

def properties : Parse Properties := do
  match ← peek with
  | .anchor name =>
    skip
    match ← peek with
    | .tag handle suffix => skip; return ⟨some name, some (handle, suffix)⟩
    | _ => return ⟨some name, none⟩
  | .tag handle suffix =>
    skip
    match ← peek with
    | .anchor name => skip; return ⟨some name, some (handle, suffix)⟩
    | _ => return ⟨none, some (handle, suffix)⟩
  | _ => return ⟨none, none⟩

def fullTag : Option (String × String) → Parse (Option String)
  | none => return none
  | some ("", suffix) => return some suffix
  | some (handle, suffix) => do
    match (← get).handles.lookup handle with
    | some lead => return some (lead ++ suffix)
    | none => fail

def scalarTag (tag : Option String) : Option String := tag.filter (· ≠ "!")

def isOneOf (ends : List Token) : Parse Bool := do return ends.contains (← peek)

mutual

def node (block indentless : Bool) : Nat → Parse Node
  | 0 => fail
  | fuel + 1 => do
    match ← peek with
    | .alias name =>
      skip
      match (← get).names.lookup name with
      | some id => return .alias id
      | none => fail
    | _ =>
      let p ← properties
      let tag ← fullTag p.tag
      let place ← p.anchor.mapM define
      match ← peek with
      | .blockEntry =>
        if indentless then bind place (.sequence tag (← indentlessItems fuel))
        else emptyNode p tag place
      | .scalar text style => skip; bind place (.scalar ⟨text, style, scalarTag tag⟩)
      | .flowSequenceStart => skip; bind place (.sequence tag (← flowItems true fuel))
      | .flowMappingStart => skip; bind place (.mapping tag (← flowEntries true fuel))
      | .blockSequenceStart =>
        if block then skip; bind place (.sequence tag (← blockItems fuel))
        else emptyNode p tag place
      | .blockMappingStart =>
        if block then skip; bind place (.mapping tag (← blockEntries fuel))
        else emptyNode p tag place
      | _ => emptyNode p tag place

def emptyNode (p : Properties) (tag : Option String) (place : Option (Nat × Nat)) : Parse Node :=
  if p.anchor.isSome ∨ p.tag.isSome then bind place (.scalar ⟨"", .plain, scalarTag tag⟩)
  else fail

def nodeBefore (ends : List Token) (block indentless : Bool) : Nat → Parse Node
  | 0 => fail
  | fuel + 1 => do
    if ← isOneOf ends then return .empty else node block indentless fuel

def blockItems : Nat → Parse (List Node)
  | 0 => fail
  | fuel + 1 => do
    match ← peek with
    | .blockEntry =>
      skip
      let item ← nodeBefore [.blockEntry, .blockEnd] true false fuel
      return item :: (← blockItems fuel)
    | .blockEnd => skip; return []
    | _ => fail

def indentlessItems : Nat → Parse (List Node)
  | 0 => fail
  | fuel + 1 => do
    match ← peek with
    | .blockEntry =>
      skip
      let item ← nodeBefore [.blockEntry, .key, .value, .blockEnd] true false fuel
      return item :: (← indentlessItems fuel)
    | _ => return []

def blockEntries : Nat → Parse (List (Node × Node))
  | 0 => fail
  | fuel + 1 => do
    match ← peek with
    | .key =>
      skip
      let key ← nodeBefore [.key, .value, .blockEnd] true true fuel
      let value ← blockValue fuel
      return (key, value) :: (← blockEntries fuel)
    | .blockEnd => skip; return []
    | _ => fail

def blockValue : Nat → Parse Node
  | 0 => fail
  | fuel + 1 => do
    match ← peek with
    | .value => skip; nodeBefore [.key, .value, .blockEnd] true true fuel
    | _ => return .empty

def flowItems (first : Bool) : Nat → Parse (List Node)
  | 0 => fail
  | fuel + 1 => do
    if ← isOneOf [.flowSequenceEnd] then skip; return []
    else
      if !first then expect .flowEntry
      match ← peek with
      | .flowSequenceEnd => skip; return []
      | .key =>
        skip
        let entry ← pair fuel
        return .mapping none [entry] :: (← flowItems false fuel)
      | _ =>
        let item ← node false false fuel
        return item :: (← flowItems false fuel)

/-- The entry of a mapping within a flow sequence. Without a key, the token in its place is lost. -/
def pair : Nat → Parse (Node × Node)
  | 0 => fail
  | fuel + 1 => do
    let key ←
      if ← isOneOf [.value, .flowEntry, .flowSequenceEnd] then skip; pure .empty
      else node false false fuel
    return (key, ← flowValue [.flowEntry, .flowSequenceEnd] fuel)

def flowValue (ends : List Token) : Nat → Parse Node
  | 0 => fail
  | fuel + 1 => do
    match ← peek with
    | .value => skip; nodeBefore ends false false fuel
    | _ => return .empty

def flowEntries (first : Bool) : Nat → Parse (List (Node × Node))
  | 0 => fail
  | fuel + 1 => do
    if ← isOneOf [.flowMappingEnd] then skip; return []
    else
      if !first then expect .flowEntry
      match ← peek with
      | .flowMappingEnd => skip; return []
      | .key =>
        skip
        let key ← nodeBefore [.value, .flowEntry, .flowMappingEnd] false false fuel
        let value ← flowValue [.flowEntry, .flowMappingEnd] fuel
        return (key, value) :: (← flowEntries false fuel)
      | _ =>
        let key ← node false false fuel
        return (key, .empty) :: (← flowEntries false fuel)

end

def directives (versioned : Bool) : List Token → List (String × String) →
    Option (List (String × String) × List Token)
  | .versionDirective major minor :: tokens, handles =>
    if versioned ∨ major ≠ 1 ∨ (minor ≠ 1 ∧ minor ≠ 2) then none
    else directives true tokens handles
  | .tagDirective handle lead :: tokens, handles =>
    if (handles.lookup handle).isSome then none
    else directives versioned tokens ((handle, lead) :: handles)
  | tokens, handles => some (handles, tokens)

def standardHandles : List (String × String) := [("!", "!"), ("!!", "tag:yaml.org,2002:")]

def endsDocument : Token → Bool
  | .versionDirective .. | .tagDirective .. | .documentStart | .documentEnd | .streamEnd => true
  | _ => false

def root (explicit : Bool) (fuel : Nat) : Parse Node := do
  if explicit && endsDocument (← peek) then return .empty else node true false fuel

def document (tokens : List Token) : Option Document :=
  match tokens with
  -- Without any content there is a document, but no root.
  | [.streamEnd] => some ⟨none, []⟩
  | _ => do
    let (handles, content) ← directives false tokens []
    let explicit := content.head? = some .documentStart
    if !explicit ∧ content.length ≠ tokens.length then none
    else
      let content := if explicit then content.tail else content
      let fuel := 4 * tokens.length + 4
      let (node, s) ← (root explicit fuel).run ⟨content, handles ++ standardHandles, [], 0, []⟩
      if s.tokens.dropWhile (· = .documentEnd) = [.streamEnd] then
        return ⟨some node, s.anchored⟩
      else none

end Parser

def parse? (text : String) : Option Document := (tokens? text).bind Parser.document

end Rollout.Yaml
