import Rollout.Text.Blank
import Rollout.Text.Decimal
import Rollout.Time.Calendar
import Rollout.Time.Instant

/-!
The text of an instant, as in RFC 3339. It is written in UTC with as few groups of three fraction
digits as hold it; it is read with any offset and, more freely, with blanks between its parts.
-/

namespace Rollout.Instant

open Text (isBlank takeDigits ofDigits padded)

def readPart (most : Nat) (s : List Char) : Option (Nat × List Char) :=
  match takeDigits most (s.dropWhile isBlank) with
  | ([], _) => none
  | (digits, rest) => some (ofDigits digits, rest)

/-- A year: four digits, or any number of digits after a sign. -/
def readYear (s : List Char) : Option (Int × List Char) :=
  match s.dropWhile isBlank with
  | '-' :: s => signed s fun n => -n
  | '+' :: s => signed s id
  | s => (readPart 4 s).map fun (n, rest) => (n, rest)
where
  signed (s : List Char) (sign : Int → Int) : Option (Int × List Char) :=
    match takeDigits s.length s with
    | ([], _) => none
    | (digits, rest) => some (sign (ofDigits digits), rest)

def readMark (mark : Char) (s : List Char) : Option (List Char) :=
  match s.dropWhile isBlank with
  | [] => none
  | c :: rest => if c = mark then some rest else none

def readDate (s : List Char) : Option (Date × List Char) := do
  let (year, s) ← readYear s
  let s ← readMark '-' s
  let (month, s) ← readPart 2 s
  let s ← readMark '-' s
  let (day, s) ← readPart 2 s
  let date : Date := ⟨year, month, day⟩
  if date.Valid then some (date, s) else none

/-- Nanoseconds after a point; digits past the ninth do not count. -/
def readNanos : List Char → Option (Nat × List Char)
  | '.' :: s =>
    match takeDigits 9 s with
    | ([], _) => none
    | (digits, rest) =>
      some (ofDigits digits * Nat.pow 10 (9 - digits.length), rest.dropWhile Char.isDigit)
  | s => some (0, s)

/-- Seconds of the day and nanoseconds; second 60 is a leap second. -/
def readClock (s : List Char) : Option ((Nat × Nat) × List Char) := do
  let (hour, s) ← readPart 2 s
  let s ← readMark ':' s
  let (minute, s) ← readPart 2 s
  let s ← readMark ':' s
  let (second, s) ← readPart 2 s
  let (nanos, s) ← readNanos s
  if hour < 24 ∧ minute < 60 ∧ second < 60 then
    some ((hour * 3600 + minute * 60 + second, nanos), s)
  else if hour < 24 ∧ minute < 60 ∧ second = 60 then
    some ((hour * 3600 + minute * 60 + 59, nanos + 1000000000), s)
  else none

def readOffset (s : List Char) : Option (Int × List Char) :=
  match s with
  | 'Z' :: s | 'z' :: s => some (0, s)
  | '+' :: s => hours s fun n => n
  | '-' :: s => hours s fun n => -n
  | '\u2212' :: s => hours s fun n => -n
  | a :: b :: c :: s =>
    if [a, b, c].map Char.toUpper = ['U', 'T', 'C'] then some (0, s) else none
  | _ => none
where
  hours (s : List Char) (sign : Int → Int) : Option (Int × List Char) :=
    match takeDigits 2 s with
    | ([a, b], s) =>
      match takeDigits 2 (s.dropWhile fun c => c == ':' || isBlank c) with
      | ([c, d], s) =>
        let minutes := ofDigits [c, d]
        let offset : Int := ofDigits [a, b] * 3600 + minutes * 60
        if minutes < 60 ∧ offset < 86400 then some (sign offset, s) else none
      | _ => none
    | _ => none

def parse? (text : String) : Option Instant := do
  let (date, s) ← readDate text.toList
  let s ← match s with
    | 'T' :: s | 't' :: s | ' ' :: s => some s
    | _ => none
  let ((seconds, nanos), s) ← readClock s
  let (offset, s) ← readOffset (s.dropWhile isBlank)
  let total := date.toDays * 86400 + seconds - offset
  if s.all isBlank ∧ Date.YearInRange (Date.ofDays (total / 86400)).year then
    some ⟨total, nanos⟩
  else none

def yearText (year : Int) : String :=
  if 0 ≤ year ∧ year ≤ 9999 then padded 4 year.toNat
  else (if year < 0 then "-" else "+") ++ padded 4 year.natAbs

def fractionText (nanos : Nat) : String :=
  if nanos = 0 then ""
  else if nanos % 1000000 = 0 then "." ++ padded 3 (nanos / 1000000)
  else if nanos % 1000 = 0 then "." ++ padded 6 (nanos / 1000)
  else "." ++ padded 9 nanos

def text (t : Instant) : String :=
  let date := Date.ofDays (t.seconds / 86400)
  let ofDay := (t.seconds % 86400).toNat
  let leap := t.nanos / 1000000000
  yearText date.year ++ "-" ++ padded 2 date.month ++ "-" ++ padded 2 date.day ++ "T" ++
    padded 2 (ofDay / 3600) ++ ":" ++ padded 2 (ofDay / 60 % 60) ++ ":" ++
    padded 2 (ofDay % 60 + leap) ++ fractionText (t.nanos % 1000000000) ++ "Z"

end Rollout.Instant
