import Rollout.Text.Hexadecimal

/-! Percent-encoding of the parts of a URL. -/

namespace Rollout.Url

def isControl (c : Char) : Bool := c.toNat < 0x20 || 0x7F ≤ c.toNat

def inFragment (c : Char) : Bool :=
  isControl c || c == ' ' || c == '\x22' || c == '<' || c == '>' || c == '\x60'

def inPath (c : Char) : Bool :=
  inFragment c || c == '#' || c == '?' || c == '\x7b' || c == '\x7d'

def inUser (c : Char) : Bool :=
  inPath c || c == '/' || c == ':' || c == ';' || c == '=' || c == '@' || c == '[' || c == '\\' ||
    c == ']' || c == '^' || c == '|'

def inQuery (special : Bool) (c : Char) : Bool :=
  isControl c || c == ' ' || c == '\x22' || c == '#' || c == '<' || c == '>' ||
    (special && c == '\x27')

def encode (set : Char → Bool) (s : List Char) : List Char :=
  s.flatMap fun c =>
    if set c then
      (String.singleton c).toUTF8.toList.flatMap fun b =>
        ['%', Text.upperHexDigit (b.toNat / 16), Text.upperHexDigit (b.toNat % 16)]
    else [c]

def encodeText (set : Char → Bool) (s : List Char) : String := String.ofList (encode set s)

/-- Puts in the bytes that are written by their numbers. -/
def decode : List Char → List Char
  | '%' :: a :: b :: s =>
    match Text.hexValue? a, Text.hexValue? b with
    | some hi, some lo => Char.ofNat (16 * hi + lo) :: decode s
    | _, _ => '%' :: decode (a :: b :: s)
  | c :: s => c :: decode s
  | [] => []

end Rollout.Url
