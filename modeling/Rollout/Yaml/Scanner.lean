import Rollout.Yaml.Tag

/-!
Tokens out of text. Indentation opens and closes block collections, and a colon makes a key of
what stands before it on its line.
-/

namespace Rollout.Yaml

structure KeyStart where
  required : Bool
  number : Nat
  index : Nat
  line : Nat
  column : Nat

/--
The tokens so far, newest first; the columns of the open block collections, innermost first; and
for each open flow, and for the block around them, the key that may have begun there.
-/
structure Scanner where
  cursor : Cursor
  tokens : List Token
  indents : List Nat
  keys : List (Option KeyStart)
  keyAllowed : Bool

namespace Scanner

def start (s : List Char) : Scanner := ⟨.start s, [], [], [none], true⟩

def inFlow (s : Scanner) : Bool := s.keys.length > 1

def least (s : Scanner) : Nat :=
  match s.indents with
  | column :: _ => column + 1
  | [] => 0

def emit (s : Scanner) (t : Token) : Scanner := { s with tokens := t :: s.tokens }

def moveTo (s : Scanner) (c : Cursor) : Scanner := { s with cursor := c }

def emitAt (s : Scanner) (number : Nat) (t : Token) : Scanner :=
  { s with tokens := s.tokens.insertIdx (s.tokens.length - number) t }

def allowKey (s : Scanner) (allowed : Bool) : Scanner := { s with keyAllowed := allowed }

def dropKey (s : Scanner) : Option Scanner :=
  match s.keys with
  | some key :: keys => if key.required then none else some { s with keys := none :: keys }
  | _ => some s

/-- Notes that a key may begin here. One at the indentation of its block has to be a key. -/
def saveKey (s : Scanner) : Option Scanner :=
  if s.keyAllowed then do
    let s ← s.dropKey
    let c := s.cursor
    let required := !s.inFlow && s.indents.head? == some c.column
    let key := ⟨required, s.tokens.length, c.index, c.line, c.column⟩
    return { s with keys := some key :: s.keys.tail }
  else some s

/-- A key is on one line and of no more than 1024 characters. -/
def dropStale (s : Scanner) : Option Scanner := do
  let keys ← s.keys.mapM fun
    | some key =>
      if key.line < s.cursor.line ∨ key.index + 1024 < s.cursor.index then
        if key.required then none else some none
      else some (some key)
    | none => some none
  return { s with keys }

def roll (s : Scanner) (column number : Nat) (t : Token) : Scanner :=
  if !s.inFlow && s.least ≤ column then
    { s.emitAt number t with indents := column :: s.indents }
  else s

def unrollTo (column : Nat) : List Nat → List Token → List Nat × List Token
  | [], tokens => ([], tokens)
  | indent :: indents, tokens =>
    if column < indent then unrollTo column indents (.blockEnd :: tokens)
    else (indent :: indents, tokens)

def unroll (s : Scanner) : Scanner :=
  if s.inFlow then s
  else
    let (indents, tokens) := unrollTo s.cursor.column s.indents s.tokens
    { s with indents, tokens }

def unrollAll (s : Scanner) : Scanner :=
  if s.inFlow then s
  else { s with indents := [], tokens := s.indents.map (fun _ => .blockEnd) ++ s.tokens }

/--
Goes to the next token. Tabs are blanks where no key may begin. A new line in a block may begin
one.
-/
def toNext : Nat → Scanner → Scanner
  | 0, s => s
  | fuel + 1, s =>
    let c := s.cursor
    let c := if c.index = 0 ∧ c.rest.head? = some '\ufeff' then c.skip else c
    let tabs := s.inFlow || !s.keyAllowed
    let c := (c.skipWhile fun d => d == ' ' || (tabs && d == '\t')).skipComment
    if c.rest ≠ [] ∧ atLineEnd c.rest then
      toNext fuel { s with cursor := c.skipLine, keyAllowed := s.keyAllowed || !s.inFlow }
    else s.moveTo c

def boundary (s : Scanner) (t : Token) (c : Cursor) : Option Scanner := do
  let s ← s.unrollAll.dropKey
  return ((s.allowKey false).moveTo c).emit t

def openFlow (s : Scanner) (t : Token) : Option Scanner := do
  let s ← s.saveKey
  return { s.emit t with cursor := s.cursor.skip, keys := none :: s.keys, keyAllowed := true }

def closeFlow (s : Scanner) (t : Token) : Option Scanner := do
  let s ← s.dropKey
  let keys := if s.inFlow then s.keys.tail else s.keys
  return { s.emit t with cursor := s.cursor.skip, keys, keyAllowed := false }

def indicator (s : Scanner) (t : Token) (allowed : Bool) : Option Scanner := do
  let s ← s.dropKey
  return ((s.allowKey allowed).moveTo s.cursor.skip).emit t

def blockHere (s : Scanner) (t : Token) : Option Scanner :=
  if s.inFlow then some s
  else if s.keyAllowed then some (s.roll s.cursor.column s.tokens.length t)
  else none

def value (s : Scanner) : Option Scanner :=
  match s.keys with
  -- The tokens of the key are there already; those that open it go in front of them.
  | some key :: keys =>
    let s := (s.emitAt key.number .key).roll key.column key.number .blockMappingStart
    some ({ s with keys := none :: keys, keyAllowed := false, cursor := s.cursor.skip }.emit .value)
  | _ => do
    let s ← s.blockHere .blockMappingStart
    return ((s.allowKey !s.inFlow).moveTo s.cursor.skip).emit .value

def node (s : Scanner) (read : Cursor → Option (Token × Cursor)) : Option Scanner := do
  let s ← s.saveKey
  let (t, c) ← read s.cursor
  return ((s.allowKey false).moveTo c).emit t

def plain (s : Scanner) : Option Scanner := do
  let s ← s.saveKey
  let (text, broken, c) ← plainScalar s.inFlow s.least s.cursor
  return ((s.allowKey broken).moveTo c).emit (.scalar text .plain)

def block (s : Scanner) (folded : Bool) : Option Scanner := do
  let s ← s.dropKey
  let (text, c) ← blockScalar folded s.least s.cursor
  return ((s.allowKey true).moveTo c).emit (.scalar text (if folded then .folded else .literal))

def quoted (s : Scanner) (quote : Char) : Option Scanner :=
  s.node fun c => do
    let (text, c) ← quotedScalar quote c
    return (.scalar text .quoted, c)

def isIndicator (c : Char) : Bool :=
  "-?:,[]\x7b\x7d#&*!|>\x27\x22%@\x60".toList.contains c

def token (s : Scanner) (d : Char) (behind : List Char) : Option Scanner :=
  let alone := atWordEnd behind
  if s.cursor.column = 0 ∧ d = '%' then do
    let s ← s.unrollAll.dropKey
    let (t, c) ← readDirective s.cursor
    return ((s.allowKey false).moveTo c).emit t
  else if s.cursor.atDocumentMarker then
    s.boundary (if d == '-' then .documentStart else .documentEnd) (s.cursor.skipMany 3)
  else if d = '[' then s.openFlow .flowSequenceStart
  else if d = '\x7b' then s.openFlow .flowMappingStart
  else if d = ']' then s.closeFlow .flowSequenceEnd
  else if d = '\x7d' then s.closeFlow .flowMappingEnd
  else if d = ',' then s.indicator .flowEntry true
  else if d = '-' ∧ alone then do (← s.blockHere .blockSequenceStart).indicator .blockEntry true
  else if d = '?' ∧ (s.inFlow ∨ alone) then do
    (← s.blockHere .blockMappingStart).indicator .key !s.inFlow
  else if d = ':' ∧ (s.inFlow ∨ alone) then s.value
  else if d = '*' then s.node fun c => (readName c).map fun (name, c) => (.alias name, c)
  else if d = '&' then s.node fun c => (readName c).map fun (name, c) => (.anchor name, c)
  else if d = '!' then s.node (readTag s.inFlow)
  else if d = '|' ∧ !s.inFlow then s.block false
  else if d = '>' ∧ !s.inFlow then s.block true
  else if d = '\x27' ∨ d = '\x22' then s.quoted d
  else if !(isBlank d || isBreak d || isIndicator d) ∨
      (d = '-' ∧ !(behind.head?.any isBlank)) ∨ (!s.inFlow ∧ (d = '?' ∨ d = ':') ∧ !alone) then
    s.plain
  else none

def run : Nat → Scanner → Option Scanner
  | 0, _ => none
  | fuel + 1, s => do
    let s ← (toNext (s.cursor.rest.length + 1) s).dropStale
    match s.cursor.rest with
    | [] => s.boundary .streamEnd s.cursor
    | d :: behind => run fuel (← s.unroll.token d behind)

end Scanner

def tokens? (text : String) : Option (List Token) :=
  let s := text.toList
  if s.all isPrintable then
    ((Scanner.start s).run (s.length + 1)).map fun scanner => scanner.tokens.reverse
  else none

end Rollout.Yaml
