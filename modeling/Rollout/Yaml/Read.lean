import Rollout.Yaml.Node

/-! Nodes read as values of a type that is known beforehand. -/

namespace Rollout.Yaml

def coreTag (name : String) : String := "tag:yaml.org,2002:" ++ name

def isNull (s : String) : Bool := ["~", "null", "Null", "NULL"].contains s

def boolOf? : String → Option Bool
  | "true" | "True" | "TRUE" => some true
  | "false" | "False" | "FALSE" => some false
  | _ => none

def digitsOf? (base : Nat) (s : List Char) : Option Nat :=
  if s = [] then none else Text.ofBase? base s

/-- More than one digit with a zero in front is text and no number. -/
def isPaddedNumber (s : List Char) : Bool :=
  let digits := match s with
    | '-' :: s => s
    | '+' :: s => s
    | s => s
  digits.length > 1 && digits.head? == some '0' && digits.all Char.isDigit

def natOf? (s : List Char) : Option Nat :=
  match (match s with | '+' :: s => s | s => s) with
  | '0' :: 'x' :: rest => digitsOf? 16 rest
  | '0' :: 'o' :: rest => digitsOf? 8 rest
  | '0' :: 'b' :: rest => digitsOf? 2 rest
  | unsigned => if isPaddedNumber s then none else digitsOf? 10 unsigned

namespace Scalar

/-- Whether a value of the core type `name` may be read: plain, or a literal block under its tag. -/
def mayBe (name : String) (s : Scalar) : Bool :=
  s.style == .plain || (s.style == .literal && s.tag == some (coreTag name))

def bool? (s : Scalar) : Option Bool := if s.mayBe "bool" then boolOf? s.text else none

def nat? (bound : Nat) (s : Scalar) : Option Nat :=
  if s.mayBe "int" then (natOf? s.text.toList).filter (· < bound) else none

def isMissing (s : Scalar) : Bool := s.text.isEmpty && s.style == .plain

/-- Whether there is no value. The tag of null admits no other text than that of null. -/
def absent? (s : Scalar) : Option Bool :=
  if s.style ≠ .plain then some false
  else if s.tag = some (coreTag "null") then if isNull s.text then some true else none
  else if s.tag.isSome then some false
  else some (s.text.isEmpty || isNull s.text)

end Scalar

namespace Document

variable {α : Type}

def text? (d : Document) (n : Node) : Option String :=
  match d.resolve n with
  | .scalar s => some s.text
  | _ => none

def bool? (d : Document) (n : Node) : Option Bool :=
  match d.resolve n with
  | .scalar s => s.bool?
  | _ => none

def natBelow? (d : Document) (bound : Nat) (n : Node) : Option Nat :=
  match d.resolve n with
  | .scalar s => s.nat? bound
  | _ => none

def uint16? (d : Document) (n : Node) : Option UInt16 :=
  (d.natBelow? UInt16.size n).map UInt16.ofNat

def uint64? (d : Document) (n : Node) : Option UInt64 :=
  (d.natBelow? UInt64.size n).map UInt64.ofNat

def optional? (d : Document) (read : Node → Option α) (n : Node) : Option (Option α) :=
  match d.resolve n with
  | .scalar s => do if ← s.absent? then return none else return some (← read n)
  | _ => (read n).map some

def list? (d : Document) (read : Node → Option α) (n : Node) : Option (List α) :=
  match d.resolve n with
  | .sequence _ items => items.mapM read
  | .scalar s => if s.isMissing then some [] else none
  | _ => none

def entries? (d : Document) (n : Node) : Option (List (Node × Node)) :=
  match d.resolve n with
  | .mapping _ entries => some entries
  | .scalar s => if s.isMissing then some [] else none
  | _ => none

def rootEntries? (d : Document) : Option (List (Node × Node)) :=
  match d.root with
  | some n => d.entries? n
  | none => some []

def named? (d : Document) (entries : List (Node × Node)) : Option (List (String × Node)) :=
  entries.mapM fun (key, value) => (d.text? key).map (·, value)

def fields? (d : Document) (names : List String) (entries : List (Node × Node)) :
    Option (List (String × Node)) := do
  let known := (← d.named? entries).filter fun e => names.contains e.1
  if (known.map (·.1)).Nodup then return known else none

end Document

def need {α : Type} (fields : List (String × Node)) (name : String) (read : Node → Option α) :
    Option α :=
  (fields.lookup name).bind read

def withDefault {α : Type} (fields : List (String × Node)) (name : String) (value : α)
    (read : Node → Option α) : Option α :=
  match fields.lookup name with
  | some n => read n
  | none => some value

end Rollout.Yaml
