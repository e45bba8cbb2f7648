import Upkeep.Machine.Basic
import Upkeep.Text.Blank
import Upkeep.Text.Quoted

/-!
Which machines can be logged in to: one that is reached over SSH needs a destination, a user and
usable credentials. The first violation is reported, machines in the order of their names.
-/

set_option autoImplicit false

namespace Upkeep

inductive CredentialFlaw where
  | noKind
  | noPassword
  | noKey
  deriving DecidableEq, Repr

def CredentialFlaw.message : CredentialFlaw → String
  | .noKind => "auth kind must be specified"
  | .noPassword => "Password must be specified for password authentication"
  | .noKey => "key must be specified for key-file authentication"

inductive MachineFlaw where
  | noDestination
  | noUsername
  /-- In the credential at a position, counted from one. -/
  | credential (position : Nat) (flaw : CredentialFlaw)
  deriving DecidableEq, Repr

def MachineFlaw.message : MachineFlaw → String
  | .noDestination => "destination must be specified for ssh machines"
  | .noUsername => "username must be specified for ssh machines"
  | .credential position flaw => "auth entry " ++ toString position ++ ": " ++ flaw.message

structure FleetFlaw where
  machine : String
  flaw : MachineFlaw
  deriving DecidableEq, Repr

def FleetFlaw.message (f : FleetFlaw) : String :=
  "machine " ++ Text.quoted f.machine ++ ": " ++ f.flaw.message

def Credential.validate (c : Credential) : Except CredentialFlaw Unit :=
  match c.effectiveKind with
  | none => .error .noKind
  | some .password => if c.password = "" then .error .noPassword else .ok ()
  | some .keyFile => if Text.isBlankText c.key then .error .noKey else .ok ()
  | some _ => .ok ()

/-- Credentials of which the first is at `position`. -/
def validateCredentials (position : Nat) : List Credential → Except MachineFlaw Unit
  | [] => .ok ()
  | c :: cs =>
    match c.validate with
    | .error flaw => .error (.credential position flaw)
    | .ok () => validateCredentials (position + 1) cs

def Machine.validate (m : Machine) : Except MachineFlaw Unit :=
  match m.kind with
  | .here => .ok ()
  | .ssh =>
    if Text.isBlankText m.destination then .error .noDestination
    else if Text.isBlankText m.username then .error .noUsername
    else validateCredentials 1 m.auth

def validateMachines : List (String × Machine) → Except FleetFlaw Unit
  | [] => .ok ()
  | (name, m) :: rest =>
    match m.validate with
    | .error flaw => .error ⟨name, flaw⟩
    | .ok () => validateMachines rest

def Fleet.validate (f : Fleet) : Except FleetFlaw Unit := validateMachines f.machines

end Upkeep
