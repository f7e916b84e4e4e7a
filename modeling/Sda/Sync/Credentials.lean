/-
Sda/Sync/Credentials.lean

What the credential parser returns (sync/services/shared/credentials.py).

A text is the list of its characters, and an empty one is what the source takes for false.
-/
import Sda.Lib.Chars

namespace Sda.Sync

/-- The fields of `ParsedCredentials`, in their order. -/
inductive CredentialField
  | login | password | email | emailPassword | emailLoginLink | securityEmail
  | securityEmailPassword
  deriving DecidableEq, Repr

/-- **`ParsedCredentials`**. -/
structure ParsedCredentials where
  login : List Char := []
  password : List Char := []
  email : List Char := []
  emailPassword : List Char := []
  emailLoginLink : List Char := []
  securityEmail : List Char := []
  securityEmailPassword : List Char := []
  deriving DecidableEq, Repr

namespace ParsedCredentials

/-- `getattr`. -/
def get (r : ParsedCredentials) : CredentialField → List Char
  | .login => r.login
  | .password => r.password
  | .email => r.email
  | .emailPassword => r.emailPassword
  | .emailLoginLink => r.emailLoginLink
  | .securityEmail => r.securityEmail
  | .securityEmailPassword => r.securityEmailPassword

/-- `setattr`. -/
def set (r : ParsedCredentials) (f : CredentialField) (value : List Char) : ParsedCredentials :=
  match f with
  | .login => { r with login := value }
  | .password => { r with password := value }
  | .email => { r with email := value }
  | .emailPassword => { r with emailPassword := value }
  | .emailLoginLink => { r with emailLoginLink := value }
  | .securityEmail => { r with securityEmail := value }
  | .securityEmailPassword => { r with securityEmailPassword := value }

theorem get_set (r : ParsedCredentials) (f g : CredentialField) (value : List Char) :
    (r.set f value).get g = if g = f then value else r.get g := by
  cases f <;> cases g <;> rfl

end ParsedCredentials

end Sda.Sync
