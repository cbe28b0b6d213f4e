import Rollout.Proofs.Store.Integrity

/-! Whole transactions: what is called may depend on the answers so far, and so may the end. -/

namespace Rollout

inductive Script (ε α : Type) where
  | finish (result : Except ε α)
  | call (op : Operation) (next : Except StoreError Answer → Script ε α)

namespace Script

variable {ε α : Type}

def run : Script ε α → Tx ε α
  | finish result => fun t => (result, t)
  | call op next => fun t => (next (op.run t).1).run (op.run t).2

/-- Whatever the answers, only operations among `P` are called. -/
def Calls (P : Operation → Prop) : Script ε α → Prop
  | finish _ => True
  | call op next => P op ∧ ∀ answer, (next answer).Calls P

lemma run_keeps {P : Operation → Prop} {I : Tables → Prop} (hI : Tables.Lasting P I)
    (script : Script ε α) (hs : script.Calls P) : script.run.Keeps I := by
  induction script with
  | finish result => exact fun _ h => h
  | call op next ih =>
    intro t h
    exact ih _ (hs.2 _) _ (hI.run hs.1 h)

def each : List Operation → Script StoreError Unit
  | [] => finish (.ok ())
  | op :: ops => call op fun
    | .ok _ => each ops
    | .error e => finish (.error e)

lemma each_calls {P : Operation → Prop} {ops : List Operation} (h : ∀ op ∈ ops, P op) :
    (each ops).Calls P := by
  induction ops with
  | nil => trivial
  | cons op ops ih =>
    refine ⟨h op List.mem_cons_self, fun answer => ?_⟩
    cases answer with
    | ok _ => exact ih fun o ho => h o (List.mem_cons_of_mem op ho)
    | error _ => trivial

end Script

end Rollout
