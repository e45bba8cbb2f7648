import Upkeep.Document.Record
import Upkeep.Machine.Basic

/-!
Fleets as documents. Passwords are read and never written; everything else that is written reads
back as it was.
-/

set_option autoImplicit false

namespace Upkeep

/-! ### Writing -/

def Credential.toDocument (c : Credential) : Document :=
  .table (c.kind.toList.map (fun kind => ("kind", .text kind.toString)) ++
    Document.textEntry "key" c.key)

def Machine.toDocument (m : Machine) : Document :=
  .table (("kind", .text m.kind.toString) :: Document.textEntry "destination" m.destination ++
    Document.textEntry "username" m.username ++
    (if m.auth.isEmpty then [] else [("auth", .list (m.auth.map Credential.toDocument))]) ++
    ("host_key", .text m.hostKey.toString) ::
    m.timeout.toList.map fun seconds => ("timeout_secs", .int seconds.toNat))

def Fleet.toDocument (f : Fleet) : Document :=
  .table [("name", .text f.name),
    ("machine", .table (f.machines.map fun (name, m) => (name, m.toDocument)))]

/-! ### Reading -/

def Credential.ofDocument? (dialect : Dialect) (d : Document) : Option Credential := do
  let entries ← d.entries? dialect ["kind", "password", "key"]
  let kind ← Document.field entries "kind" (some none)
    (Document.wordOrNull? dialect AuthKind.ofString?)
  let password ← Document.field entries "password" (some "") Document.text?
  let key ← Document.field entries "key" (some "") Document.text?
  return ⟨kind, password, key⟩

def credentials? (dialect : Dialect) (d : Document) : Option (List Credential) := do
  let d ← d.hold? dialect
  d.oneOrMany? (Credential.ofDocument? .held)

def Machine.ofDocument? (dialect : Dialect) (d : Document) : Option Machine := do
  let entries ← d.entries? dialect
    ["kind", "destination", "username", "auth", "host_key", "timeout_secs"]
  let kind ← Document.field entries "kind" (some .here)
    (Document.word? dialect MachineKind.ofString?)
  let destination ← Document.field entries "destination" (some "") Document.text?
  let username ← Document.field entries "username" (some "") Document.text?
  let auth ← Document.field entries "auth" (some []) (credentials? dialect)
  let hostKey ← Document.field entries "host_key" (some .knownHosts)
    (Document.word? dialect HostKeyPolicy.ofString?)
  let timeout ← Document.field entries "timeout_secs" (some none) Document.count?
  return ⟨kind, destination, username, auth, hostKey, timeout⟩

def Fleet.ofDocument? (dialect : Dialect) (d : Document) : Option Fleet := do
  let entries ← d.entries? dialect ["name", "machine"]
  let name ← Document.field entries "name" none Document.text?
  let machines ← Document.field entries "machine" (some [])
    (Document.named? (Machine.ofDocument? dialect))
  return ⟨name, machines⟩

end Upkeep
