import Upkeep.Files.Access
import Upkeep.Key.Decode
import Upkeep.Machine.Basic
import Upkeep.Note

/-!
The ways to prove who one is that the credentials of a machine amount to, in the order in which they
are tried. Key files are read here, so a file that cannot be used is found out before any connection
is made.
-/

set_option autoImplicit false

namespace Upkeep

inductive AuthMethod where
  | password (password : String)
  /-- Challenges of the server are passed on to somebody who answers them. -/
  | keyboardInteractive
  /-- A password that is asked for. -/
  | passwordPrompt
  /-- A key file, as the whole text of it. -/
  | privateKey (path text : String)
  deriving DecidableEq, Repr

namespace AuthMethod

def protocol : AuthMethod → String
  | .password _ | .passwordPrompt => "password"
  | .keyboardInteractive => "keyboard-interactive"
  | .privateKey .. => "publickey"

def describe : AuthMethod → String
  | .password _ => "Password(<redacted>)"
  | .keyboardInteractive => "KeyboardInteractive"
  | .passwordPrompt => "PasswordPrompt"
  | .privateKey path _ => "PrivateKey(" ++ path ++ ")"

end AuthMethod

def defaultKeyPath : String := "~/.ssh/id_rsa"

/-- A usable key from a file; a fault names the path as it was written. -/
def Disk.loadKey (words : Key.Words) (d : Disk) (path : String) : Except Fault AuthMethod :=
  match d.readText (d.expand path) with
  | .error cause => .error (.keyFile path cause.message)
  | .ok text =>
    match Key.check text with
    | .error flaw => .error (.keyFile path (flaw.message words text))
    | .ok () => .ok (.privateKey (d.expand path) text)

def Credential.methods (words : Key.Words) (d : Disk) (c : Credential) :
    Except Fault (List AuthMethod) :=
  match c.effectiveKind with
  | some .password => .ok [.password c.password]
  | some .prompt => .ok [.keyboardInteractive, .passwordPrompt]
  | some .userKey => (d.loadKey words defaultKeyPath).map fun m => [m]
  | some .keyFile => (d.loadKey words c.key).map fun m => [m]
  | none => .ok []

/-- What credentials amount to, up to the first fault. -/
def authMethods (words : Key.Words) (d : Disk) : List Credential → Except Fault (List AuthMethod)
  | [] => .ok []
  | c :: cs => do
    let first ← c.methods words d
    let rest ← authMethods words d cs
    return first ++ rest

def skippedNote : Note := ⟨.warn, "Skipping auth entry without a kind"⟩

/-- The notes on credentials that amount to nothing, up to the first fault. -/
def authNotes (words : Key.Words) (d : Disk) : List Credential → List Note
  | [] => []
  | c :: cs =>
    match c.methods words d with
    | .error _ => []
    | .ok _ => (if c.effectiveKind.isNone then [skippedNote] else []) ++ authNotes words d cs

end Upkeep
