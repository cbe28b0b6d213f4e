/-! Texts in pieces: before and after a character, between separators, around a part. -/

namespace Rollout.Text

def cut? (c : Char) (s : List Char) : Option (List Char × List Char) :=
  match s.span (· != c) with
  | (_, []) => none
  | (before, _ :: after) => some (before, after)

def cutLast? (c : Char) (s : List Char) : Option (List Char × List Char) :=
  (cut? c s.reverse).map fun (after, before) => (before.reverse, after.reverse)

def includes (part : List Char) : List Char → Bool
  | [] => part.isEmpty
  | c :: s => part.isPrefixOf (c :: s) || includes part s

/-- The pieces between the characters that `p` holds of, one more than there are of these. -/
def pieces (p : Char → Bool) (s : List Char) : List (List Char) :=
  s.foldr (fun c parts => if p c then [] :: parts else parts.modifyHead (c :: ·)) [[]]

end Rollout.Text
