import HarnessRepair.Failure
import HarnessRepair.Settings.Variable
import HarnessRepair.Text.Quoted

/-!
# Credentials

The key of the oracle comes from a variable of the environment.  A variable that is
not set and one that holds only blanks are the same.

## Main definitions

* `Credential`, `Credential.fromEnvironment` — the key, and where it comes from.
* `Credential.description` — what may be shown of it.
-/

namespace HarnessRepair

/-- The key to an oracle. -/
structure Credential where
  key : String
  deriving DecidableEq

namespace Credential

/-- The key in a variable, without the blanks around it. -/
def fromEnvironment (env : Environment) (name : String) : Except ConfigurationError Credential :=
  match env.get? name with
  | none => .error (.missingCredential name)
  | some text =>
    if Text.isBlankText text then .error (.missingCredential name) else .ok ⟨Text.trim text⟩

/-- What may be shown of a credential: nothing of its key. -/
def description (_ : Credential) : String :=
  "Credentials \x7b api_key: " ++ Text.quote "[redacted]" ++ " \x7d"

end Credential

end HarnessRepair
