import Rollout.Text.Split
import Rollout.Url.Basic
import Rollout.Url.Encoding

/-! Paths without dot segments. -/

namespace Rollout.Url.Path

def dropDot? : List Char → Option (List Char)
  | '.' :: s => some s
  | '%' :: '2' :: 'e' :: s => some s
  | '%' :: '2' :: 'E' :: s => some s
  | _ => none

def isDot (segment : List Char) : Bool := dropDot? segment == some []

def isDoubleDot (segment : List Char) : Bool := (dropDot? segment).bind dropDot? == some []

def isDrive : List Char → Bool
  | [c, d] => c.isAlpha && (d == ':' || d == '|')
  | _ => false

def leave : List (List Char) → List (List Char)
  | last :: segments => if isDrive last then last :: segments else segments
  | [] => []

/-- The segments walked so far, in reverse, and whether the first of them was named as a drive. -/
structure Walk where
  seen : List (List Char)
  onDrive : Bool

namespace Walk

def leave (w : Walk) : Walk := { w with seen := Path.leave w.seen }

def enter (kind : SchemeKind) (w : Walk) (segment : List Char) : Walk :=
  match kind, w.seen, segment with
  | .file, [], [c, d] => if isDrive [c, d] then ⟨[[c, ':']], true⟩ else ⟨[[c, d]], w.onDrive⟩
  | .file, [], c :: ':' :: rest =>
    if c.isAlpha then ⟨[rest, [c, ':']], w.onDrive⟩ else ⟨[segment], w.onDrive⟩
  | _, seen, _ => ⟨segment :: seen, w.onDrive⟩

def follow (kind : SchemeKind) (w : Walk) : List (List Char) → Walk
  | [] => w
  | [last] =>
    if isDoubleDot last then w.leave.enter kind []
    else if isDot last then w.enter kind []
    else w.enter kind (encode inPath last)
  | segment :: segments =>
    if isDoubleDot segment then w.leave.follow kind segments
    else if isDot segment then w.follow kind segments
    else (w.enter kind (encode inPath segment)).follow kind segments

end Walk

def segments (kind : SchemeKind) (s : List Char) : List (List Char) :=
  Text.pieces (fun c => c == '/' || (kind.isSpecial && c == '\\')) s

def text (segments : List (List Char)) : String :=
  String.ofList (segments.flatMap ('/' :: ·))

/--
The path whose text follows the first slash, and whether it begins on a drive, which belongs to
no host. The path of a file does not begin with empty segments.
-/
def resolve (kind : SchemeKind) (s : List Char) : String × Bool :=
  let walk := Walk.follow kind ⟨[], false⟩ (segments kind s)
  let path := walk.seen.reverse
  if kind = .file then
    match path.dropWhile (· == []) with
    | [] => ("/", walk.onDrive)
    | path => (text path, walk.onDrive)
  else (text path, walk.onDrive)

end Rollout.Url.Path
