import Rollout.Time.Instant

/-! Rows of a table in the order of their creation; of two as old, the one inserted first. -/

namespace Rollout

variable {α : Type}

/-- Puts `row` before the first of `rows` that is no older. -/
def placeByCreation (createdAt : α → Instant) (row : α) : List α → List α
  | [] => [row]
  | r :: rows =>
    if createdAt row ≤ createdAt r then row :: r :: rows
    else r :: placeByCreation createdAt row rows

def sortByCreation (createdAt : α → Instant) : List α → List α
  | [] => []
  | row :: rows => placeByCreation createdAt row (sortByCreation createdAt rows)

def replaceFirst (p : α → Bool) (row : α) : List α → List α
  | [] => []
  | r :: rows => if p r then row :: rows else r :: replaceFirst p row rows

end Rollout
