import Rollout.Json.Record
import Rollout.Json.Writer
import Rollout.Text.Quoted

/-! Guids of records. Each carries the kind of record that it names. -/

namespace Rollout

inductive RecordKind where
  | app
  | droplet
  | process
  | deployment
  | revision
  | route
  | routeMapping

structure Guid (kind : RecordKind) where
  text : String
  deriving DecidableEq, Inhabited

abbrev AppGuid := Guid .app
abbrev DropletGuid := Guid .droplet
abbrev ProcessGuid := Guid .process
abbrev DeploymentGuid := Guid .deployment
abbrev RevisionGuid := Guid .revision
abbrev RouteGuid := Guid .route
abbrev RouteMappingGuid := Guid .routeMapping

namespace Guid

variable {kind : RecordKind}

instance lawfulBEq : LawfulBEq (Guid kind) := inferInstance

theorem text_injective {a b : Guid kind} (h : a.text = b.text) : a = b := by
  cases a; cases b; cases h; rfl

def toJson (g : Guid kind) : Json := .string g.text

def ofJson? (j : Json) : Option (Guid kind) := (Json.text? j).map .mk

theorem ofJson?_toJson (g : Guid kind) : ofJson? g.toJson = some g := rfl

def shown (g : Guid kind) : String := "Guid(" ++ Text.quoted g.text ++ ")"

def hexAt (n place : Nat) : Char := Text.hexDigit (n >>> (4 * place) % 16)

/--
A guid of version 4 out of 128 random bits: 32 hexadecimal digits in groups, of which the
thirteenth is the version and the seventeenth, one of four digits, the variant.
-/
def ofRandom (bits : Nat) : Guid kind :=
  let digits := fun first count => (List.range count).map fun i => hexAt bits (first - i)
  .mk <| String.ofList <|
    digits 31 8 ++ ['-'] ++ digits 23 4 ++ ['-', '4'] ++ digits 18 3 ++
      ['-', Text.hexDigit (8 + bits >>> 60 % 4)] ++ digits 14 3 ++ ['-'] ++ digits 11 12

end Guid

end Rollout
