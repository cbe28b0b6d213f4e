import Rollout.Yaml.Read

/-! Nodes read as values whose type is seen in the text alone. -/

namespace Rollout.Yaml

inductive Content where
  | null
  | bool (b : Bool)
  | nat (n : Nat)
  | negative
  | float
  | text (s : String)
  | sequence (items : List Content)
  | mapping (entries : List (Content × Content))
  deriving Inhabited

/-- A number with a minus sign, which may stand before the mark of the base. -/
def negativeOf? : List Char → Option Int
  | '-' :: s =>
    if isPaddedNumber s then none
    else
      let magnitude := match s with
        | '0' :: 'x' :: rest => digitsOf? 16 rest
        | '0' :: 'o' :: rest => digitsOf? 8 rest
        | '0' :: 'b' :: rest => digitsOf? 2 rest
        | s => digitsOf? 10 s
      magnitude.map fun n => -(n : Int)
  | _ => none

def intOf? (s : List Char) : Option (Int × Bool) :=
  match natOf? s with
  | some n => some (n, false)
  | none => (negativeOf? s).map (·, true)

def isDecimal (s : List Char) : Bool :=
  let (whole, s) := s.span Char.isDigit
  let (fraction, s) := match s with
    | '.' :: s => s.span Char.isDigit
    | s => ([], s)
  let exponent : Option Int := match s with
    | [] => some 0
    | c :: s =>
      if c == 'e' || c == 'E' then
        match s with
        | '-' :: s => (Text.readNat? s).map fun n => -(n : Int)
        | s => (Text.readUnsigned? s).map fun n => (n : Int)
      else none
  match exponent with
  | some exponent =>
    whole ++ fraction ≠ [] &&
      Text.isFiniteDouble (Text.ofDigits (whole ++ fraction)) (exponent - fraction.length)
  | none => false

def isFloat (s : String) : Bool :=
  let unsigned := match s.toList with
    | '+' :: s => s
    | '-' :: s => s
    | s => s
  [".nan", ".NaN", ".NAN"].contains s ||
    [".inf", ".Inf", ".INF"].contains (String.ofList unsigned) || isDecimal unsigned

/--
An integer of 64 bits, with a sign or without. Wider ones up to 128 bits are refused, and those
beyond are none.
-/
def intContent? : Int × Bool → Option (Option Content)
  | (n, negative) =>
    if negative then
      if -Nat.pow 2 63 ≤ n then some (some .negative)
      else if -Nat.pow 2 127 ≤ n then none
      else some none
    else if n < Nat.pow 2 64 then some (some (.nat n.toNat))
    else if n < Nat.pow 2 128 then none
    else some none

def plainContent? (s : String) : Option Content :=
  if s.isEmpty ∨ isNull s then some .null
  else
    match boolOf? s with
    | some b => some (.bool b)
    | none => do
      let int ← match intOf? s.toList with
        | some n => intContent? n
        | none => some none
      match int with
      | some content => return content
      | none => return if !isPaddedNumber s.toList && isFloat s then .float else .text s

def scalarContent? (s : Scalar) : Option Content :=
  match s.tag with
  | some tag =>
    if tag = coreTag "bool" then (boolOf? s.text).map .bool
    else if tag = coreTag "int" then do (← intContent? (← intOf? s.text.toList))
    else if tag = coreTag "float" then if isFloat s.text then some .float else none
    else if tag = coreTag "null" then if isNull s.text then some .null else none
    else if ['!'].isPrefixOf tag.toList then none
    else some (.text s.text)
  | none => if s.style = .plain then plainContent? s.text else some (.text s.text)

def isLocal (tag : Option String) : Bool :=
  tag.any fun tag => ['!'].isPrefixOf tag.toList && tag ≠ "!"

def Document.content? (d : Document) (depth : Nat) (n : Node) : Option Content :=
  match d.resolve n with
  | .scalar s => scalarContent? s
  | .sequence tag items =>
    match depth with
    | 0 => none
    | depth + 1 =>
      if isLocal tag then none else (items.mapM fun n => d.content? depth n).map .sequence
  | .mapping tag entries =>
    match depth with
    | 0 => none
    | depth + 1 =>
      if isLocal tag then none
      else
        (entries.mapM fun (key, value) => do
          return (← d.content? depth key, ← d.content? depth value)).map .mapping
  | .alias _ => none

namespace Content

def text? : Content → Option String
  | .text s => some s
  | _ => none

def optionalText? : Content → Option (Option String)
  | .null => some none
  | .text s => some (some s)
  | _ => none

end Content

end Rollout.Yaml
