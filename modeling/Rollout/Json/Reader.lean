import Rollout.Json.Basic
import Rollout.Text.Decimal
import Rollout.Text.Hexadecimal

/-!
Documents out of text. A text that stops being JSON somewhere still yields the document up to
there, so that a reader who goes through it in order meets the faults before that point first.
-/

namespace Rollout.Json

/-- A document, or what was seen of it, and the text behind it unless the text broke off. -/
structure Scan where
  value : Json
  rest : Option (List Char)

namespace Scan

def broken : Scan := ⟨.unreadable, none⟩

end Scan

def isSpace (c : Char) : Bool :=
  c == ' ' || c == '\n' || c == '\t' || c == '\r'

def skipSpace (s : List Char) : List Char := s.dropWhile isSpace

def escaped? : Char → Option Nat
  | '\x22' => some 0x22
  | '\\' => some 0x5C
  | '/' => some 0x2F
  | 'b' => some 0x08
  | 'f' => some 0x0C
  | 'n' => some 0x0A
  | 'r' => some 0x0D
  | 't' => some 0x09
  | _ => none

/--
The inside of a string, after its opening quote: its characters and escapes as numbers, and the
text behind its closing quote.
-/
def readUnits (seen : List Nat) : List Char → Option (List Nat × List Char)
  | [] => none
  | '\x22' :: s => some (seen.reverse, s)
  | '\\' :: 'u' :: a :: b :: c :: d :: s =>
    match Text.ofBase? 16 [a, b, c, d] with
    | some unit => readUnits (unit :: seen) s
    | none => none
  | '\\' :: c :: s =>
    match escaped? c with
    | some unit => readUnits (unit :: seen) s
    | none => none
  | c :: s => if c.toNat < 0x20 then none else readUnits (c.toNat :: seen) s

def joinSurrogates (seen : List Char) : List Nat → Option (List Char)
  | [] => some seen.reverse
  | hi :: lo :: units =>
    if 0xD800 ≤ hi ∧ hi < 0xDC00 then
      if 0xDC00 ≤ lo ∧ lo < 0xE000 then
        joinSurrogates (Char.ofNat (0x10000 + (hi - 0xD800) * 0x400 + (lo - 0xDC00)) :: seen) units
      else none
    else if 0xDC00 ≤ hi ∧ hi < 0xE000 then none
    else joinSurrogates (Char.ofNat hi :: seen) (lo :: units)
  | [unit] =>
    if 0xD800 ≤ unit ∧ unit < 0xE000 then none else some (Char.ofNat unit :: seen).reverse

def readString (s : List Char) : Option (Option String × List Char) :=
  (readUnits [] s).map fun (units, rest) => ((joinSurrogates [] units).map String.ofList, rest)

def Number.ofParts (negative : Bool) (whole fraction : List Char) (exponent : Option Int) : Json :=
  let digits := Text.ofDigits (whole ++ fraction)
  if fraction = [] ∧ exponent = none then
    if negative then
      if 0 < digits ∧ digits ≤ UInt64.size / 2 then .number (.int (-digits))
      else decimal digits 0
    else if digits < UInt64.size then .number (.int digits)
    else decimal digits 0
  else decimal digits (exponent.getD 0 - fraction.length)
where
  decimal (digits : Nat) (exponent : Int) : Json :=
    if Text.isFiniteDouble digits exponent then .number (.decimal negative digits exponent)
    else .unreadable

def readFraction : List Char → Option (List Char × List Char)
  | '.' :: s =>
    match s.span Char.isDigit with
    | ([], _) => none
    | (digits, rest) => some (digits, rest)
  | s => some ([], s)

def readExponent : List Char → Option (Option Int × List Char)
  | c :: s =>
    if c = 'e' ∨ c = 'E' then
      let (negative, s) : Bool × List Char := match s with
        | '+' :: s => (false, s)
        | '-' :: s => (true, s)
        | s => (false, s)
      match s.span Char.isDigit with
      | ([], _) => none
      | (digits, rest) =>
        let n : Int := Text.ofDigits digits
        some (some (if negative then -n else n), rest)
    else some (none, c :: s)
  | [] => some (none, [])

def readNumber (negative : Bool) (s : List Char) : Scan :=
  let (whole, s) := s.span Char.isDigit
  if whole = [] ∨ (whole.head? = some '0' ∧ whole.length ≠ 1) then .broken
  else
    match readFraction s with
    | none => .broken
    | some (fraction, s) =>
      match readExponent s with
      | none => .broken
      | some (exponent, s) => ⟨Number.ofParts negative whole fraction exponent, some s⟩

def readWord (word : String) (value : Json) (s : List Char) : Scan :=
  if word.toList.isPrefixOf s then ⟨value, some (s.drop word.length)⟩ else .broken

def objectOf (readable : Bool) (members : List (String × Json)) : Json :=
  if readable then .object members.reverse else .unreadable

mutual

/-- A value at the beginning of the text. Each character takes at most two steps of the fuel. -/
def readValue : Nat → List Char → Scan
  | 0, _ => .broken
  | fuel + 1, s =>
    match skipSpace s with
    | '\x22' :: s =>
      match readString s with
      | some (some text, rest) => ⟨.string text, some rest⟩
      | some (none, rest) => ⟨.unreadable, some rest⟩
      | none => .broken
    | '[' :: s =>
      match skipSpace s with
      | ']' :: s => ⟨.array [], some s⟩
      | s => readItems fuel [] s
    | '\x7b' :: s =>
      match skipSpace s with
      | '\x7d' :: s => ⟨.object [], some s⟩
      | s => readMembers fuel true [] s
    | '-' :: s => readNumber true s
    | 'n' :: s => readWord "null" .null ('n' :: s)
    | 't' :: s => readWord "true" (.bool true) ('t' :: s)
    | 'f' :: s => readWord "false" (.bool false) ('f' :: s)
    | s => readNumber false s

def readItems : Nat → List Json → List Char → Scan
  | 0, seen, _ => ⟨.array seen.reverse, none⟩
  | fuel + 1, seen, s =>
    match readValue fuel s with
    | ⟨value, none⟩ => ⟨.array (value :: seen).reverse, none⟩
    | ⟨value, some s⟩ =>
      match skipSpace s with
      | ',' :: s => readItems fuel (value :: seen) s
      | ']' :: s => ⟨.array (value :: seen).reverse, some s⟩
      | _ => ⟨.array (value :: seen).reverse, none⟩

def readMembers : Nat → Bool → List (String × Json) → List Char → Scan
  | 0, readable, seen, _ => ⟨objectOf readable seen, none⟩
  | fuel + 1, readable, seen, s =>
    match skipSpace s with
    | '\x22' :: s =>
      match readString s with
      | none => ⟨objectOf readable seen, none⟩
      | some (name, s) =>
        let readable := readable && name.isSome
        let name := name.getD ""
        match skipSpace s with
        | ':' :: s =>
          match readValue fuel s with
          | ⟨value, none⟩ => ⟨objectOf readable ((name, value) :: seen), none⟩
          | ⟨value, some s⟩ =>
            match skipSpace s with
            | ',' :: s => readMembers fuel readable ((name, value) :: seen) s
            | '\x7d' :: s => ⟨objectOf readable ((name, value) :: seen), some s⟩
            | _ => ⟨objectOf readable ((name, value) :: seen), none⟩
        | _ => ⟨objectOf readable seen, none⟩
    | _ => ⟨objectOf readable seen, none⟩

end

def read (text : String) : Json × Bool :=
  match readValue (2 * text.length + 2) text.toList with
  | ⟨value, some rest⟩ => (value, rest.all isSpace)
  | ⟨value, none⟩ => (value, false)

def parse? (text : String) : Option Json :=
  match read text with
  | (value, true) => some value
  | (_, false) => none

end Rollout.Json
