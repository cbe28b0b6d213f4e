import Rollout.Dictionary
import Rollout.Text.Split

/-! The folder that a program works in, as it sees it. -/

namespace Rollout

/-- What is found at a path. A binary file is one that is not text in UTF-8. -/
inductive FileStatus where
  | missing
  | folder
  | text (content : String)
  | binary
  deriving DecidableEq

abbrev Files := String → FileStatus

inductive FolderEntry where
  | text (content : String)
  | binary (bytes : List UInt8)
  | folder
  deriving DecidableEq

/-- Files by their paths, whose names slashes divide, and folders that have none. -/
structure Folder where
  entries : Dictionary FolderEntry
  deriving DecidableEq

namespace Folder

def joined (names : List String) : String := "/".intercalate names

def isFolder (f : Folder) (names : List String) : Bool :=
  names.isEmpty || f.entries.get? (joined names) == some .folder ||
    f.entries.entries.any fun e => (joined names ++ "/").toList.isPrefixOf e.1.toList

/-- Follows names from the folder `here`; only folders lead on, and nothing leads outside. -/
def locate (f : Folder) (here : List String) : List String → Option (List String)
  | [] => some here
  | name :: names =>
    if !f.isFolder here then none
    else if name = "" ∨ name = "." then f.locate here names
    else if name = ".." then if here.isEmpty then none else f.locate here.dropLast names
    else f.locate (here ++ [name]) names

def names (path : String) : List String :=
  (Text.pieces (· == '/') path.toList).map String.ofList

def status (f : Folder) : Files := fun path =>
  if path = "" ∨ path.toList.head? = some '/' then .missing
  else
    match f.locate [] (names path) with
    | none => .missing
    | some names =>
      if f.isFolder names then .folder
      else
        match f.entries.get? (joined names) with
        | some (.text content) => .text content
        | some (.binary _) => .binary
        | some .folder => .folder
        | none => .missing

def write (f : Folder) (path content : String) : Folder := ⟨f.entries.insert path (.text content)⟩

def files (f : Folder) : List (String × FolderEntry) :=
  f.entries.entries.filter (·.2 ≠ .folder)

end Folder

end Rollout
