import Rollout.Json.Basic
import Rollout.Text.Hexadecimal

/-! The text of documents, compact or spread over indented lines. -/

namespace Rollout.Json

/-- Quotes, backslashes and control characters are escaped, and nothing else. -/
def escape (c : Char) : List Char :=
  match c with
  | '\x22' => ['\\', '\x22']
  | '\\' => ['\\', '\\']
  | '\x08' => ['\\', 'b']
  | '\x0c' => ['\\', 'f']
  | '\n' => ['\\', 'n']
  | '\r' => ['\\', 'r']
  | '\t' => ['\\', 't']
  | c =>
    if c.toNat < 0x20 then
      ['\\', 'u', '0', '0', Text.hexDigit (c.toNat / 16), Text.hexDigit (c.toNat % 16)]
    else [c]

def quote (s : String) : String :=
  "\"" ++ String.ofList (s.toList.flatMap escape) ++ "\""

def Number.text : Number → String
  | .int n => toString n
  | .decimal negative digits exponent =>
    (if negative then "-" else "") ++ toString digits ++ "e" ++ toString exponent

def leaf : Json → String
  | .null => "null"
  | .bool b => if b then "true" else "false"
  | .number n => n.text
  | .string s => quote s
  | .array _ => "[]"
  | .object _ => "\x7b\x7d"
  | .unreadable => "null"

mutual

def compact : Json → String
  | .array (x :: xs) => "[" ++ compact x ++ compactItems xs
  | .object ((k, v) :: ms) => "\x7b" ++ quote k ++ ":" ++ compact v ++ compactMembers ms
  | j => leaf j

def compactItems : List Json → String
  | [] => "]"
  | x :: xs => "," ++ compact x ++ compactItems xs

def compactMembers : List (String × Json) → String
  | [] => "\x7d"
  | (k, v) :: ms => "," ++ quote k ++ ":" ++ compact v ++ compactMembers ms

end

def newline (level : Nat) : String :=
  "\n" ++ String.ofList (List.replicate (2 * level) ' ')

mutual

/-- The text with one item or member a line, below `level` levels. -/
def prettyAt (level : Nat) : Json → String
  | .array (x :: xs) =>
    "[" ++ newline (level + 1) ++ prettyAt (level + 1) x ++ prettyItems level xs
  | .object ((k, v) :: ms) =>
    "\x7b" ++ newline (level + 1) ++ quote k ++ ": " ++ prettyAt (level + 1) v ++
      prettyMembers level ms
  | j => leaf j

def prettyItems (level : Nat) : List Json → String
  | [] => newline level ++ "]"
  | x :: xs => "," ++ newline (level + 1) ++ prettyAt (level + 1) x ++ prettyItems level xs

def prettyMembers (level : Nat) : List (String × Json) → String
  | [] => newline level ++ "\x7d"
  | (k, v) :: ms =>
    "," ++ newline (level + 1) ++ quote k ++ ": " ++ prettyAt (level + 1) v ++
      prettyMembers level ms

end

def pretty (j : Json) : String := prettyAt 0 j

end Rollout.Json
