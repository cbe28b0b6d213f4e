import Rollout.Yaml.Scalar

/-! Tags, anchors and directives. -/

namespace Rollout.Yaml

def isTagChar (verbatim : Bool) (c : Char) : Bool :=
  isWordChar c || ";/?:@&=+$.%!~*\x27()".toList.contains c ||
    (verbatim && (c == ',' || c == '[' || c == ']'))

def percentBytes : List Char → List UInt8
  | '%' :: a :: b :: s =>
    match Text.hexValue? a, Text.hexValue? b with
    | some hi, some lo => UInt8.ofNat (16 * hi + lo) :: percentBytes s
    | _, _ => []
  | _ => []

def byteCount (b : UInt8) : Nat :=
  if b < 0x80 then 1 else if b < 0xE0 then 2 else if b < 0xF0 then 3 else 4

def readPercent (c : Cursor) : Option (Char × Cursor) := do
  let bytes := percentBytes c.rest
  let first ← bytes.head?
  let count := byteCount first
  let text ← String.fromUTF8? ⟨(bytes.take count).toArray⟩
  match text.toList with
  | [d] => return (d, c.skipMany (3 * count))
  | _ => none

def tagChars (verbatim : Bool) : Nat → List Char → Cursor → Option (List Char × Cursor)
  | 0, seen, c => some (seen, c)
  | fuel + 1, seen, c =>
    match c.rest with
    | d :: _ =>
      if d == '%' then
        match readPercent c with
        | some (e, c) => tagChars verbatim fuel (e :: seen) c
        | none => none
      else if isTagChar verbatim d then tagChars verbatim fuel (d :: seen) c.skip
      else some (seen, c)
    | [] => some (seen, c)

def tagText (verbatim : Bool) (head : List Char) (c : Cursor) : Option (String × Cursor) := do
  let (seen, behind) ← tagChars verbatim c.rest.length [] c
  if head = [] ∧ seen = [] then none
  else return (String.ofList (head.tail ++ seen.reverse), behind)

/-- An exclamation mark, and a word and another mark behind it if they are there. -/
def tagHandle (c : Cursor) : Option (List Char × Cursor) :=
  if c.rest.head? = some '!' then
    let (word, c) := c.skip.takeWhile isWordChar
    if c.rest.head? = some '!' then some ('!' :: word ++ ['!'], c.skip)
    else some ('!' :: word, c)
  else none

def readTag (flow : Bool) (c : Cursor) : Option (Token × Cursor) := do
  let ((handle, suffix), c) ←
    if c.rest.tail.head? = some '<' then do
      let (text, c) ← tagText true [] c.skip.skip
      if c.rest.head? = some '>' then pure (("", text), c.skip) else none
    else do
      let (handle, behind) ← tagHandle c
      if handle.length > 1 ∧ handle.getLast? = some '!' then
        let (suffix, c) ← tagText false [] behind
        pure ((String.ofList handle, suffix), c)
      else
        let (suffix, c) ← tagText false handle behind
        pure (if suffix = "" then ("", "!") else ("!", suffix), c)
  if atWordEnd c.rest ∨ (flow ∧ c.rest.head? = some ',') then
    return (.tag handle suffix, c)
  else none

def readName (c : Cursor) : Option (String × Cursor) :=
  let (name, c) := c.skip.takeWhile isWordChar
  let ended := atWordEnd c.rest || c.rest.head?.any fun d => "?:,]\x7d%@\x60".toList.contains d
  if name ≠ [] ∧ ended then some (String.ofList name, c) else none

def readVersion (c : Cursor) : Option (Nat × Cursor) :=
  let (digits, c) := c.takeWhile Char.isDigit
  if digits ≠ [] ∧ digits.length ≤ 9 then some (Text.ofDigits digits, c) else none

def readDirective (c : Cursor) : Option (Token × Cursor) := do
  let (name, c) := c.skip.takeWhile isWordChar
  if name = [] ∨ !atWordEnd c.rest then none
  else if name = "YAML".toList then
    let (major, c) ← readVersion c.skipBlanks
    if c.rest.head? = some '.' then
      let (minor, c) ← readVersion c.skip
      return (.versionDirective major minor, ← c.finishLine)
    else none
  else if name = "TAG".toList then
    let (handle, c) ← tagHandle c.skipBlanks
    if (handle.getLast? = some '!') ∧ c.rest.head?.any isBlank then
      let (lead, c) ← tagText true [] c.skipBlanks
      if atWordEnd c.rest then return (.tagDirective (String.ofList handle) lead, ← c.finishLine)
      else none
    else none
  else none

end Rollout.Yaml
