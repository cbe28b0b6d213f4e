/-! Numbers written in decimal, and the decimals that a double can hold. -/

namespace Rollout.Text

def digitValue (c : Char) : Nat := c.toNat - '0'.toNat

def takeDigits : Nat → List Char → List Char × List Char
  | limit + 1, c :: s =>
    if c.isDigit then
      let (digits, rest) := takeDigits limit s
      (c :: digits, rest)
    else ([], c :: s)
  | _, s => ([], s)

def ofDigits (digits : List Char) : Nat :=
  digits.foldl (fun n c => 10 * n + digitValue c) 0

def readNat? (s : List Char) : Option Nat :=
  if s ≠ [] ∧ s.all Char.isDigit then some (ofDigits s) else none

def readUnsigned? : List Char → Option Nat
  | '+' :: s => readNat? s
  | s => readNat? s

def padded (width n : Nat) : String :=
  let digits := toString n
  String.ofList (List.replicate (width - digits.length) '0') ++ digits

/--
Whether `digits * 10 ^ exponent` rounds to a finite double: it does below
`2 ^ 1024 - 2 ^ 970`, the midpoint between the largest double and the next power of two.
-/
def isFiniteDouble (digits : Nat) (exponent : Int) : Bool :=
  let bound := Nat.pow 2 1024 - Nat.pow 2 970
  if digits = 0 then true
  else
    let magnitude := ((Nat.toDigits 10 digits).length : Int) + exponent
    if magnitude > 310 then false
    else if magnitude < 300 then true
    else if exponent < 0 then digits < bound * Nat.pow 10 exponent.natAbs
    else digits * Nat.pow 10 exponent.natAbs < bound

end Rollout.Text
