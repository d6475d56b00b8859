import Chainwalk.Method.Basic

/-!
# Access

Exported methods may be called by anyone. An `AccessPolicy` says which internal methods
may be called as well.
-/

namespace Chainwalk

/-- Who may call internal methods. -/
inductive AccessPolicy
  /-- Every method may be called. -/
  | trusted
  /-- Internal methods may be called if the path of the class that declares them is
      listed. -/
  | allowing (paths : List String)
  deriving DecidableEq, Repr

namespace AccessPolicy

/-- The policy that lists no class. -/
def exportedOnly : AccessPolicy := allowing []

/-- Whether a method may be called under a policy. -/
def permits (h : Hierarchy) (p : AccessPolicy) (m : Method) : Bool :=
  match m.visibility, p with
  | .exported, _ => true
  | .internal, trusted => true
  | .internal, allowing paths => h.path m.declaring ∈ paths

/-- Whether every method may be called. -/
def isTrusted : AccessPolicy → Bool
  | trusted => true
  | allowing _ => false

theorem permits_of_exported {h : Hierarchy} {p : AccessPolicy} {m : Method}
    (hm : m.visibility = .exported) : p.permits h m := by
  simp [permits, hm]

end AccessPolicy

end Chainwalk
