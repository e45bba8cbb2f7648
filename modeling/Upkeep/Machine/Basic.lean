import Upkeep.Named

/-!
Machines: where they are, how to log in to those that are reached over SSH, and named sets of them.
-/

set_option autoImplicit false

namespace Upkeep

inductive MachineKind where
  /-- The machine the program runs on. -/
  | here
  | ssh
  deriving DecidableEq, Repr

namespace MachineKind

def toString : MachineKind → String
  | .here => "local"
  | .ssh => "ssh"

def ofString? (word : String) : Option MachineKind :=
  if word = "local" then some .here
  else if word = "ssh" then some .ssh
  else none

end MachineKind

inductive AuthKind where
  /-- A fixed password. -/
  | password
  /-- Asked for when it is needed. -/
  | prompt
  /-- The default private key of the user. -/
  | userKey
  /-- A private key in a given file. -/
  | keyFile
  deriving DecidableEq, Repr

namespace AuthKind

def toString : AuthKind → String
  | .password => "password"
  | .prompt => "prompt"
  | .userKey => "user-key"
  | .keyFile => "key-file"

def ofString? (word : String) : Option AuthKind :=
  if word = "password" then some .password
  else if word = "prompt" then some .prompt
  else if word = "user-key" then some .userKey
  else if word = "key-file" then some .keyFile
  else none

end AuthKind

/-- Which keys a server may identify itself with. -/
inductive HostKeyPolicy where
  /-- Those on the user's list of known hosts. -/
  | knownHosts
  | acceptAny
  deriving DecidableEq, Repr

namespace HostKeyPolicy

def toString : HostKeyPolicy → String
  | .knownHosts => "known-hosts"
  | .acceptAny => "accept-any"

def ofString? (word : String) : Option HostKeyPolicy :=
  if word = "known-hosts" then some .knownHosts
  else if word = "accept-any" then some .acceptAny
  else none

end HostKeyPolicy

structure Credential where
  kind : Option AuthKind := none
  password : String := ""
  /-- The path of a private key. -/
  key : String := ""
  deriving DecidableEq, Repr

namespace Credential

def ofPassword (password : String) : Credential := { kind := some .password, password := password }

def ofPrompt : Credential := { kind := some .prompt }

def ofUserKey : Credential := { kind := some .userKey }

def ofKeyFile (key : String) : Credential := { kind := some .keyFile, key := key }

/-- The stated kind; a password without one is a kind of its own accord. -/
def effectiveKind (c : Credential) : Option AuthKind :=
  match c.kind with
  | some kind => some kind
  | none => if c.password = "" then none else some .password

def normalize (c : Credential) : Credential := { c with kind := c.effectiveKind }

end Credential

structure Machine where
  kind : MachineKind := .here
  /-- A host, or a host and a port. -/
  destination : String := ""
  username : String := ""
  /-- Tried in turn. -/
  auth : List Credential := []
  hostKey : HostKeyPolicy := .knownHosts
  /-- A bound in seconds on whatever the connection has to wait for. -/
  timeout : Option UInt64 := none
  deriving DecidableEq, Repr

namespace Machine

def ssh (destination username : String) : Machine :=
  { kind := .ssh, destination := destination, username := username }

def withCredential (m : Machine) (c : Credential) : Machine := { m with auth := m.auth ++ [c] }

def normalize (m : Machine) : Machine := { m with auth := m.auth.map Credential.normalize }

end Machine

structure Fleet where
  name : String
  machines : Named Machine := []
  deriving DecidableEq, Repr

namespace Fleet

def justHere : Fleet := { name := "local", machines := [("local", {})] }

/-- The fleet with one machine more, in place of another of its name. -/
def add (f : Fleet) (name : String) (m : Machine) : Fleet :=
  { f with machines := f.machines.insert name m }

def normalize (f : Fleet) : Fleet :=
  { f with machines := f.machines.map fun (name, m) => (name, m.normalize) }

end Fleet

end Upkeep
