/-! The command line out of its arguments. -/

namespace Rollout.Command

inductive Action where
  | init (fileServerUrl : Option String) (force : Bool)
  | check
  | planTask (file : String)
  | planLrp (file : String)
  deriving DecidableEq

structure Invocation where
  verbose : Bool
  config : Option String
  action : Action
  deriving DecidableEq

inductive Request where
  | invoke (invocation : Invocation)
  | version
  | help
  deriving DecidableEq

inductive Level where
  | top
  | init
  | check
  | plan
  | task
  | lrp
  deriving DecidableEq

namespace Level

def commands : Level → List (String × Level)
  | top => [("init", init), ("check", check), ("plan", plan)]
  | plan => [("task", task), ("lrp", lrp)]
  | _ => []

/-- Whether there is help on the command that the words name; help is a command itself. -/
def hasHelp (level : Level) : List String → Bool
  | [] => true
  | word :: words =>
    match level.commands.lookup word with
    | some level => level.hasHelp words
    | none => word == "help" && !level.commands.isEmpty && words.isEmpty

end Level

inductive Switch where
  | verbose
  | config
  | version
  | help
  | fileServerUrl
  | force
  deriving DecidableEq

namespace Switch

def takesValue : Switch → Bool
  | config | fileServerUrl => true
  | _ => false

def all (level : Level) : List (String × Option Char × Switch) :=
  [("verbose", some 'v', verbose), ("config", some 'c', config), ("help", some 'h', help)] ++
    (if level = .top then [("version", some 'V', version)] else []) ++
    if level = .init then [("file-server-url", none, fileServerUrl), ("force", some 'f', force)]
    else []

def long? (level : Level) (name : String) : Option Switch :=
  ((all level).find? (·.1 = name)).map (·.2.2)

def short? (level : Level) (c : Char) : Option Switch :=
  ((all level).find? (·.2.1 = some c)).map (·.2.2)

end Switch

/-- What the arguments so far have said. `seen` are the switches of the level at hand. -/
structure Reading where
  level : Level
  seen : List Switch
  ended : Bool
  verbose : Bool
  config : Option String
  fileServerUrl : Option String
  force : Bool
  file : Option String

/--
What an argument leads to: going on, an answer at once, a value in the next argument, or help on
the command that the arguments behind it name.
-/
inductive Step where
  | next (r : Reading)
  | answer (request : Request)
  | value (r : Reading) (s : Switch)
  | helpOn (level : Level)

namespace Reading

def start : Reading := ⟨.top, [], false, false, none, none, false, none⟩

def note (r : Reading) (s : Switch) : Option Reading :=
  if r.seen.contains s then none else some { r with seen := s :: r.seen }

def assign (r : Reading) (s : Switch) (value : String) : Option Reading := do
  let r ← r.note s
  match s with
  | .config => if value = "" then none else some { r with config := some value }
  | .fileServerUrl => some { r with fileServerUrl := some value }
  | _ => none

def flag (r : Reading) (s : Switch) : Option Step :=
  match s with
  | .help => some (.answer .help)
  | .version => some (.answer .version)
  | .verbose => (r.note s).map fun r => .next { r with verbose := true }
  | .force => (r.note s).map fun r => .next { r with force := true }
  | _ => none

def long (r : Reading) (arg : List Char) : Option Step := do
  let (name, value) := arg.span (· != '=')
  let s ← Switch.long? r.level (String.ofList name)
  match s.takesValue, value with
  | true, [] => some (.value r s)
  | true, _ :: value => (r.assign s (String.ofList value)).map .next
  | false, [] => r.flag s
  | false, _ :: _ => none

def short (r : Reading) : List Char → Option Step
  | [] => some (.next r)
  | c :: rest => do
    let s ← Switch.short? r.level c
    if s.takesValue then
      match rest with
      | [] => some (.value r s)
      | '=' :: value => (r.assign s (String.ofList value)).map .next
      | value => (r.assign s (String.ofList value)).map .next
    else
      match ← r.flag s with
      | .next r => r.short rest
      | step => some step

def word (r : Reading) (arg : String) : Option Step :=
  match r.level with
  | .task | .lrp =>
    if r.file.isNone ∧ arg ≠ "" then some (.next { r with file := some arg }) else none
  | level =>
    if r.ended then none
    else if arg = "help" ∧ level.commands ≠ [] then some (.helpOn level)
    else (level.commands.lookup arg).map fun level => .next { r with level, seen := [] }

def finish (r : Reading) : Option Request := do
  let action ← match r.level with
    | .init => some (.init r.fileServerUrl r.force)
    | .check => some .check
    | .task => r.file.map .planTask
    | .lrp => r.file.map .planLrp
    | .top | .plan => none
  return .invoke ⟨r.verbose, r.config, action⟩

/-- What one argument leads to. Behind two dashes all arguments are words. -/
def argument (r : Reading) (arg : String) : Option Step :=
  match arg.toList with
  | '-' :: '-' :: rest =>
    if r.ended then r.word arg
    else if rest = [] then some (.next { r with ended := true })
    else r.long rest
  | '-' :: c :: rest => if r.ended then r.word arg else r.short (c :: rest)
  | _ => r.word arg

def isValue (arg : String) : Bool :=
  arg.toList.head? ≠ some '-' || arg = "-"

def run (r : Reading) : List String → Option Request
  | [] => r.finish
  | arg :: args =>
    match r.argument arg, args with
    | none, _ => none
    | some (.next r), args => r.run args
    | some (.answer request), _ => some request
    | some (.helpOn level), words => if level.hasHelp words then some .help else none
    | some (.value _ _), [] => none
    | some (.value r s), value :: args =>
      if isValue value then
        match r.assign s value with
        | some r => r.run args
        | none => none
      else none

end Reading

def parse (args : List String) : Option Request := Reading.start.run args

end Rollout.Command
