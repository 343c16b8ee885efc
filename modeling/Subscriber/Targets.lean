import Subscriber.Text.Quoted

/-! The channels or the patterns of a session: a set of names. -/

namespace Subscriber

/-- A set of names, none of them twice. -/
structure Targets where
  names : List Bytes := []
deriving DecidableEq

namespace Targets

def size (targets : Targets) : Nat := targets.names.length

def insert (targets : Targets) (name : Bytes) : Targets :=
  if targets.names.contains name then targets else { names := targets.names ++ [name] }

def erase (targets : Targets) (name : Bytes) : Targets := { names := targets.names.erase name }

def sorted (targets : Targets) : List Bytes := Bytes.sort targets.names

/-- Changes the set by one name after the other and tells its size after each. -/
def change (step : Targets → Bytes → Targets) (targets : Targets) : List Bytes → List (Bytes × Nat) × Targets
  | [] => ([], targets)
  | name :: names =>
    let targets := step targets name
    let (sizes, last) := change step targets names
    ((name, targets.size) :: sizes, last)

/-- The form in which a set of at most one name is shown. -/
def describe (targets : Targets) : String :=
  "Targets(Mutex \x7b data: \x7b" ++ ", ".intercalate (targets.sorted.map Text.quoteBytes) ++
    "\x7d, poisoned: false, .. \x7d)"

end Targets

end Subscriber
