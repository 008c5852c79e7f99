/-! The five causes a command that breaks a rule of its record is refused with. -/

namespace Chronicle

/-- Why the domain refuses a command or a value. -/
inductive DomainError where
  | validation (reason : String)
  | conflict (reason : String)
  | invariant (reason : String)
  | invalidId (reason : String)
  | notFound (reason : String)
  deriving DecidableEq, Inhabited

namespace DomainError

def reason : DomainError → String
  | .validation r | .conflict r | .invariant r | .invalidId r | .notFound r => r

/-- The name of the cause. -/
def kind : DomainError → String
  | .validation _ => "Validation"
  | .conflict _ => "Conflict"
  | .invariant _ => "InvariantViolation"
  | .invalidId _ => "InvalidId"
  | .notFound _ => "NotFound"

/-- The full text: the cause's prefix, then the reason. -/
def message : DomainError → String
  | .validation r => "validation failed: " ++ r
  | .conflict r => "conflict: " ++ r
  | .invariant r => "invariant violated: " ++ r
  | .invalidId r => "invalid identifier: " ++ r
  | .notFound r => "not found: " ++ r

end DomainError

end Chronicle
