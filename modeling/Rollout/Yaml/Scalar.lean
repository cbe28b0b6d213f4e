import Rollout.Text.Decimal
import Rollout.Text.Hexadecimal
import Rollout.Yaml.Cursor
import Rollout.Yaml.Token

/-! Scalars: plain, quoted and block text, with folded lines and escapes. -/

namespace Rollout.Yaml

/--
What stands between two words of a scalar, read backwards: blanks, or a line break with the breaks
behind it. `broken` without a first break is a break that was escaped.
-/
structure Gap where
  blanks : List Char
  broken : Bool
  first : Option Char
  more : List Char

namespace Gap

def none : Gap := ⟨[], false, .none, []⟩

def fold (g : Gap) : List Char :=
  if g.broken then
    match g.first with
    -- A line break on its own reads as a space, and one before others as nothing.
    | some '\n' => if g.more = [] then [' '] else g.more
    | some c => g.more ++ [c]
    | .none => g.more
  else g.blanks

def read (indent : Nat) : Nat → Gap → Cursor → Option (Gap × Cursor)
  | 0, g, c => some (g, c)
  | fuel + 1, g, c =>
    match c.rest with
    | d :: _ =>
      if isBlank d then
        if !g.broken then read indent fuel { g with blanks := d :: g.blanks } c.skip
        -- Tabs do not indent a line.
        else if d == '\t' && c.column < indent then .none
        else read indent fuel g c.skip
      else if isBreak d then
        if g.broken then read indent fuel { g with more := breakChar d :: g.more } c.skipLine
        else read indent fuel ⟨[], true, some (breakChar d), []⟩ c.skipLine
      else some (g, c)
    | [] => some (g, c)

end Gap

def isFlowIndicator (c : Char) : Bool :=
  c == ',' || c == '[' || c == ']' || c == '\x7b' || c == '\x7d'

def plainWord (flow : Bool) : Nat → List Char → Cursor → Option (List Char × Cursor)
  | 0, seen, c => some (seen, c)
  | fuel + 1, seen, c =>
    match c.rest with
    | [] => some (seen, c)
    | d :: s =>
      if atWordEnd c.rest then some (seen, c)
      else if flow && d == ':' && (s.head?.any fun e => isFlowIndicator e || e == '?') then none
      else if (d == ':' && atWordEnd s) || (flow && isFlowIndicator d) then some (seen, c)
      else plainWord flow fuel (d :: seen) c.skip

def plainWords (flow : Bool) (indent : Nat) :
    Nat → List Char → Gap → Cursor → Option (List Char × Gap × Cursor)
  | 0, seen, gap, c => some (seen, gap, c)
  | fuel + 1, seen, gap, c =>
    if c.atDocumentMarker || c.rest.head? == some '#' then some (seen, gap, c)
    else
      match plainWord flow c.rest.length [] c with
      | none => none
      | some ([], c) => some (seen, gap, c)
      | some (word, c) =>
        let seen := word ++ gap.fold ++ seen
        match Gap.none.read indent c.rest.length c with
        | none => none
        | some (gap, behind) =>
          if behind.index = c.index then some (seen, .none, c)
          else if !flow && behind.column < indent then some (seen, gap, behind)
          else plainWords flow indent fuel seen gap behind

def plainScalar (flow : Bool) (indent : Nat) (c : Cursor) : Option (String × Bool × Cursor) :=
  (plainWords flow indent (c.rest.length + 1) [] .none c).map fun (seen, gap, c) =>
    (String.ofList seen.reverse, gap.broken, c)

def escaped? : Char → Option Char
  | '0' => some '\x00'
  | 'a' => some '\x07'
  | 'b' => some '\x08'
  | 't' | '\t' => some '\t'
  | 'n' => some '\n'
  | 'v' => some '\x0b'
  | 'f' => some '\x0c'
  | 'r' => some '\r'
  | 'e' => some '\x1b'
  | ' ' => some ' '
  | '\x22' => some '\x22'
  | '/' => some '/'
  | '\\' => some '\\'
  | 'N' => some '\u0085'
  | '_' => some '\u00a0'
  | 'L' => some '\u2028'
  | 'P' => some '\u2029'
  | _ => none

def escapeLength? : Char → Option Nat
  | 'x' => some 2
  | 'u' => some 4
  | 'U' => some 8
  | _ => none

def readEscape (c : Cursor) : Option (Char × Cursor) := do
  let d ← c.rest.head?
  match escapeLength? d with
  | none => return (← escaped? d, c.skip)
  | some length =>
    let digits := c.skip.rest.take length
    let n ← Text.ofBase? 16 digits
    if digits.length = length ∧ n.isValidChar then
      return (Char.ofNat n, c.skip.skipMany length)
    else none

def quotedWord (quote : Char) : Nat → List Char → Cursor → Option (List Char × Bool × Cursor)
  | 0, _, _ => none
  | fuel + 1, seen, c =>
    match c.rest with
    | [] => some (seen, false, c)
    | d :: s =>
      if atWordEnd c.rest then some (seen, false, c)
      else if quote == '\x27' && d == '\x27' && s.head? == some '\x27' then
        quotedWord quote fuel ('\x27' :: seen) c.skip.skip
      else if d == quote then some (seen, false, c)
      else if quote == '\x22' && d == '\\' then
        if !s.isEmpty && atLineEnd s then some (seen, true, c.skip.skipLine)
        else
          match readEscape c.skip with
          | some (e, c) => quotedWord quote fuel (e :: seen) c
          | none => none
      else quotedWord quote fuel (d :: seen) c.skip

def quotedWords (quote : Char) : Nat → List Char → Cursor → Option (List Char × Cursor)
  | 0, _, _ => none
  | fuel + 1, seen, c =>
    if c.atDocumentMarker || c.rest.isEmpty then none
    else
      match quotedWord quote (c.rest.length + 1) seen c with
      | none => none
      | some (seen, escapedBreak, c) =>
        if c.rest.head? == some quote then some (seen, c.skip)
        else
          match Gap.read 0 c.rest.length { Gap.none with broken := escapedBreak } c with
          | none => none
          | some (gap, c) => quotedWords quote fuel (gap.fold ++ seen) c

def quotedScalar (quote : Char) (c : Cursor) : Option (String × Cursor) :=
  (quotedWords quote (c.rest.length + 1) [] c.skip).map fun (seen, c) =>
    (String.ofList seen.reverse, c)

inductive Chomping where
  | strip
  | clip
  | keep
  deriving DecidableEq

structure BlockHeader where
  chomping : Chomping
  indent : Option Nat

def chomping? : Char → Option Chomping
  | '+' => some .keep
  | '-' => some .strip
  | _ => none

def readHeader (c : Cursor) : Option (BlockHeader × Cursor) :=
  match c.rest with
  | d :: s =>
    match chomping? d with
    | some chomping =>
      match s with
      | e :: _ =>
        if e == '0' then none
        else if e.isDigit then some (⟨chomping, some (Text.digitValue e)⟩, c.skip.skip)
        else some (⟨chomping, none⟩, c.skip)
      | [] => some (⟨chomping, none⟩, c.skip)
    | none =>
      if d == '0' then none
      else if d.isDigit then
        match s.head?.bind chomping? with
        | some chomping => some (⟨chomping, some (Text.digitValue d)⟩, c.skip.skip)
        | none => some (⟨.clip, some (Text.digitValue d)⟩, c.skip)
      else some (⟨.clip, none⟩, c)
  | [] => some (⟨.clip, none⟩, c)

/--
The empty lines at the front, put before `seen`, and the widest column that a line came to. Spaces
count as indentation left of `indent`, or all of them while it is not known; tabs do not.
-/
def emptyLines (indent : Option Nat) :
    Nat → List Char → Nat → Cursor → Option (List Char × Nat × Cursor)
  | 0, seen, widest, c => some (seen, widest, c)
  | fuel + 1, seen, widest, c =>
    let inside := fun column => match indent with
      | some indent => column < indent
      | none => true
    let spaces := (c.rest.takeWhile (· == ' ')).length
    let c := c.skipMany (match indent with
      | some indent => min spaces (indent - c.column)
      | none => spaces)
    let widest := max widest c.column
    match c.rest with
    | d :: _ =>
      if d == '\t' && inside c.column then none
      else if isBreak d then emptyLines indent fuel (breakChar d :: seen) widest c.skipLine
      else some (seen, widest, c)
    | [] => some (seen, widest, c)

/--
The lines of a block scalar that begin at column `indent`, put before `seen`, with the breaks that
are still open: the one that ended the line before and those of the empty lines behind it.
-/
def blockLines (folded : Bool) (indent : Nat) : Nat → List Char → List Char → List Char → Bool →
    Cursor → Option (List Char × List Char × List Char × Cursor)
  | 0, seen, last, empty, _, c => some (seen, last, empty, c)
  | fuel + 1, seen, last, empty, afterBlank, c =>
    if c.column ≠ indent ∨ c.rest = [] then some (seen, last, empty, c)
    else
      let blank := c.rest.head?.any isBlank
      let joined :=
        if folded && last == ['\n'] && !afterBlank && !blank then
          if empty = [] then [' '] else []
        else last
      let (line, c) := c.takeWhile fun d => !isBreak d
      let ending := (c.rest.head?.map breakChar).toList
      match emptyLines (some indent) (c.rest.length + 1) [] 0 c.skipLine with
      | none => none
      | some (lines, _, c) =>
        blockLines folded indent fuel (line.reverse ++ empty ++ joined ++ seen) ending lines blank c

def blockScalar (folded : Bool) (least : Nat) (c : Cursor) : Option (String × Cursor) := do
  let (header, c) ← readHeader c.skip
  let c ← c.finishLine
  let fuel := c.rest.length + 1
  let given := header.indent.map fun n => if least = 0 then n else least - 1 + n
  let (empty, widest, c) ← emptyLines given fuel [] 0 c
  let indent := given.getD (max (max widest least) 1)
  let (seen, last, empty, c) ← blockLines folded indent fuel [] [] empty false c
  let tail := match header.chomping with
    | .strip => []
    | .clip => last
    | .keep => empty ++ last
  return (String.ofList (tail ++ seen).reverse, c)

end Rollout.Yaml
