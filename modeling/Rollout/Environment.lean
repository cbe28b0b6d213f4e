import Rollout.Text.Bytes

/-! The variables that a program is run with. -/

namespace Rollout

/-- The bytes that a process is given for each variable: a name, an equals sign and a value. -/
abbrev Environment := List (List UInt8)

namespace Environment

def entry (name value : String) : List UInt8 := Text.bytes (name ++ "=" ++ value)

/--
What is behind the name and an equals sign in the first entry that begins with these. Nothing is
found for the empty name, nor for one with a NUL, which would end it.
-/
def bytes? (env : Environment) (name : String) : Option (List UInt8) :=
  if name = "" ∨ '\x00' ∈ name.toList then none
  else env.findSome? (Text.bytes (name ++ "=")).isPrefixOf?

/-- The text that is found for a name. A value that is not UTF-8 counts as missing. -/
def get? (env : Environment) (name : String) : Option String :=
  (env.bytes? name).bind Text.ofBytes?

end Environment

end Rollout
