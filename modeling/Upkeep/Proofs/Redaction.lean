import Upkeep.Proofs.RoundTrip
import Upkeep.Spec.Decode

/-!
Fleets written and read back. Nothing is lost but the passwords, whatever the fleet is like: it need
not be in normal form, and it need not be one that can be logged in to.
-/

set_option autoImplicit false

namespace Upkeep

/-! ### Fleets without passwords -/

def Credential.redact (c : Credential) : Credential := { c with password := "" }

def Machine.redact (m : Machine) : Machine := { m with auth := m.auth.map Credential.redact }

def Fleet.redact (f : Fleet) : Fleet :=
  { f with machines := f.machines.map fun (name, m) => (name, m.redact) }

/-! ### Fields -/

namespace Document

@[simp] theorem lookup_optional {α : Type} (o : Option α) (name field : String)
    (write : α → Document) : (o.toList.map fun x => (name, write x)).lookup field =
      if field = name then o.map write else none := by
  cases o with
  | none => simp
  | some x =>
    by_cases hfield : field = name
    · simp [hfield]
    · simp [hfield, List.lookup_cons, beq_eq_false_iff_ne.mpr hfield]

theorem optional_names {α : Type} (o : Option α) (name : String) (write : α → Document) :
    ((o.toList.map fun x => (name, write x)).map (·.1)).Sublist [name] := by
  cases o with
  | none => exact List.nil_sublist [name]
  | some x => exact List.Sublist.refl [name]

theorem count?_toNat (n : UInt64) : count? (.int n.toNat) = some (some n) := by
  have hlt : (n.toNat : Int) < UInt64.size := Int.ofNat_lt.mpr n.toNat_lt
  simp only [count?, value]
  rw [if_pos ⟨Int.natCast_nonneg _, hlt⟩, Int.toNat_natCast, UInt64.ofNat_toNat]

end Document

/-! ### Credentials -/

def Credential.toEntries (c : Credential) : List (String × Document) :=
  c.kind.toList.map (fun kind => ("kind", .text kind.toString)) ++ Document.textEntry "key" c.key

theorem Credential.toEntries_names (c : Credential) :
    (c.toEntries.map (·.1)).Sublist ["kind", "password", "key"] := by
  have hkind := Document.optional_names c.kind "kind" fun kind => .text kind.toString
  have hkey := Document.textEntry_names "key" c.key
  rw [toEntries, List.map_append]
  exact hkind.append (hkey.cons "password")

theorem Credential.field_kind (dialect : Dialect) (c : Credential) :
    Document.field c.toEntries "kind" (some none)
      (Document.wordOrNull? dialect AuthKind.ofString?) = some c.kind := by
  have hlookup : c.toEntries.lookup "kind" = c.kind.map fun kind => .text kind.toString := by
    simp [toEntries, List.lookup_append]
  rw [Document.field, hlookup]
  cases c.kind with
  | none => rfl
  | some kind => cases kind <;> rfl

theorem Credential.ofDocument?_toDocument (dialect : Dialect) (c : Credential) :
    ofDocument? dialect c.toDocument = some c.redact := by
  have hpassword : Document.field c.toEntries "password" (some "") Document.text? = some "" := by
    simp [Document.field, toEntries, List.lookup_append]
  have hkey : Document.field c.toEntries "key" (some "") Document.text? = some c.key := by
    refine Document.field_textEntry ?_
    simp [toEntries, List.lookup_append]
  have hentries : c.toDocument.entries? dialect ["kind", "password", "key"] = some c.toEntries :=
    Document.entries?_table (by decide) c.toEntries_names
  rw [ofDocument?, hentries]
  simp only [Option.bind_eq_bind, Option.bind_some, Option.pure_def, c.field_kind, hpassword, hkey]
  rfl

theorem Credential.plain (c : Credential) : c.toDocument.Plain := by
  refine .table fun e he => ?_
  rcases List.mem_append.mp he with he | he
  · obtain ⟨kind, -, rfl⟩ := List.mem_map.mp he
    exact .text _
  · exact .textEntry he

/-! ### Machines -/

def authEntry (cs : List Credential) : List (String × Document) :=
  if cs.isEmpty then [] else [("auth", .list (cs.map Credential.toDocument))]

def Machine.toEntries (m : Machine) : List (String × Document) :=
  ("kind", .text m.kind.toString) :: Document.textEntry "destination" m.destination ++
    Document.textEntry "username" m.username ++ authEntry m.auth ++
    ("host_key", .text m.hostKey.toString) ::
    m.timeout.toList.map fun seconds => ("timeout_secs", .int seconds.toNat)

theorem Machine.toDocument_eq (m : Machine) : m.toDocument = .table m.toEntries := rfl

@[simp] theorem lookup_authEntry (cs : List Credential) (field : String) :
    (authEntry cs).lookup field =
      if field = "auth" ∧ cs ≠ [] then some (.list (cs.map Credential.toDocument)) else none := by
  cases cs with
  | nil => simp [authEntry]
  | cons c cs =>
    by_cases hfield : field = "auth"
    · simp [authEntry, hfield]
    · simp [authEntry, hfield, List.lookup_cons, beq_eq_false_iff_ne.mpr hfield]

theorem authEntry_names (cs : List Credential) :
    ((authEntry cs).map (·.1)).Sublist ["auth"] := by
  unfold authEntry
  split
  · exact List.nil_sublist ["auth"]
  · exact List.Sublist.refl ["auth"]

theorem Machine.toEntries_names (m : Machine) : (m.toEntries.map (·.1)).Sublist
    ["kind", "destination", "username", "auth", "host_key", "timeout_secs"] := by
  have hdestination := Document.textEntry_names "destination" m.destination
  have husername := Document.textEntry_names "username" m.username
  have hauth := authEntry_names m.auth
  have htimeout := Document.optional_names m.timeout "timeout_secs" fun n => .int n.toNat
  simp only [toEntries, List.map_append, List.map_cons]
  exact (((hdestination.cons_cons "kind").append husername).append hauth).append
    (htimeout.cons_cons "host_key")

theorem credentials_plain (cs : List Credential) :
    (Document.list (cs.map Credential.toDocument)).Plain := by
  refine .list fun d hd => ?_
  obtain ⟨c, -, rfl⟩ := List.mem_map.mp hd
  exact c.plain

theorem Credential.depth_le (c : Credential) : c.toDocument.depth ≤ 1 := by
  refine Document.depth_table_le fun e he => ?_
  rcases List.mem_append.mp he with he | he
  · obtain ⟨kind, -, rfl⟩ := List.mem_map.mp he
    exact Nat.le_refl 0
  · rw [mem_textEntry he]
    exact Nat.le_refl 0

theorem credentials?_map (cs : List Credential) :
    credentials? .json (.list (cs.map Credential.toDocument)) =
      some (cs.map Credential.redact) := by
  have hdepth : (Document.list (cs.map Credential.toDocument)).depth ≤ 2 := by
    refine Document.depth_list_le fun d hd => ?_
    obtain ⟨c, -, rfl⟩ := List.mem_map.mp hd
    exact c.depth_le
  have hhold : (Document.list (cs.map Credential.toDocument)).hold? .json =
      some (.list (cs.map Credential.toDocument)) := by
    simp only [Document.hold?, Dialect.json]
    rw [if_pos (by omega), (credentials_plain cs).settled_eq]
  have hall : (cs.map Credential.toDocument).mapM (Credential.ofDocument? .held) =
      some (cs.map Credential.redact) :=
    mapM_map_eq_map fun c _ => c.ofDocument?_toDocument .held
  rw [credentials?, hhold]
  simp [Document.oneOrMany?, hall]

theorem Machine.field_auth (m : Machine) :
    Document.field m.toEntries "auth" (some []) (credentials? .json) =
      some (m.auth.map Credential.redact) := by
  have hlookup : m.toEntries.lookup "auth" =
      if m.auth ≠ [] then some (.list (m.auth.map Credential.toDocument)) else none := by
    simp [toEntries, List.lookup_append, List.lookup_cons]
  rw [Document.field, hlookup]
  by_cases hauth : m.auth = []
  · simp [hauth]
  · simp [hauth, credentials?_map m.auth]

theorem Machine.field_timeout (m : Machine) :
    Document.field m.toEntries "timeout_secs" (some none) Document.count? = some m.timeout := by
  have hlookup : m.toEntries.lookup "timeout_secs" = m.timeout.map fun n => .int n.toNat := by
    simp [toEntries, List.lookup_append, List.lookup_cons]
  rw [Document.field, hlookup]
  cases m.timeout with
  | none => rfl
  | some n => exact Document.count?_toNat n

theorem Machine.ofDocument?_toDocument (m : Machine) :
    ofDocument? .json m.toDocument = some m.redact := by
  have hkind : Document.field m.toEntries "kind" (some .here)
      (Document.word? .json MachineKind.ofString?) = some m.kind := by
    have hlookup : m.toEntries.lookup "kind" = some (.text m.kind.toString) := rfl
    rw [Document.field, hlookup]
    cases m.kind <;> rfl
  have hhost : Document.field m.toEntries "host_key" (some .knownHosts)
      (Document.word? .json HostKeyPolicy.ofString?) = some m.hostKey := by
    have hlookup : m.toEntries.lookup "host_key" = some (.text m.hostKey.toString) := by
      simp [toEntries, List.lookup_append, List.lookup_cons]
    rw [Document.field, hlookup]
    cases m.hostKey <;> rfl
  have hdestination : Document.field m.toEntries "destination" (some "") Document.text? =
      some m.destination := by
    refine Document.field_textEntry ?_
    simp [toEntries, List.lookup_append, List.lookup_cons]
  have husername : Document.field m.toEntries "username" (some "") Document.text? =
      some m.username := by
    refine Document.field_textEntry ?_
    simp [toEntries, List.lookup_append, List.lookup_cons]
  rw [toDocument_eq, ofDocument?, Document.entries?_table (by decide) m.toEntries_names]
  simp only [Option.bind_eq_bind, Option.bind_some, Option.pure_def, hkind, hdestination,
    husername, m.field_auth, hhost, m.field_timeout]
  rfl

theorem Machine.plain (m : Machine) : m.toDocument.Plain := by
  refine .table fun e he => ?_
  simp only [List.mem_append, List.mem_cons] at he
  rcases he with (((rfl | he) | he) | he) | rfl | he
  · exact .text _
  · exact .textEntry he
  · exact .textEntry he
  · split at he
    · cases he
    · obtain rfl := List.mem_singleton.mp he
      exact credentials_plain m.auth
  · exact .text _
  · obtain ⟨n, -, rfl⟩ := List.mem_map.mp he
    have hmin : Int64.minValue.toInt ≤ 0 := by decide
    have hlt : (n.toNat : Int) < UInt64.size := Int.ofNat_lt.mpr n.toNat_lt
    exact .int (by omega) hlt

/-! ### Fleets -/

namespace Fleet

theorem plain (f : Fleet) : f.toDocument.Plain := by
  refine .table fun e he => ?_
  simp only [List.mem_cons, List.not_mem_nil, or_false] at he
  rcases he with rfl | rfl
  · exact .text _
  · refine .table fun e he => ?_
    obtain ⟨⟨name, m⟩, -, rfl⟩ := List.mem_map.mp he
    exact m.plain

theorem ofDocument?_toDocument {f : Fleet} (hascending : f.machines.Ascending) :
    ofDocument? .json f.toDocument = some f.redact := by
  have hmachines : (Document.table (f.machines.map fun (name, m) => (name, m.toDocument))).named?
      (Machine.ofDocument? .json) = some f.redact.machines :=
    Document.named?_map Machine.redact hascending fun e _ => e.2.ofDocument?_toDocument
  rw [toDocument, ofDocument?, Document.entries?_table (by decide) (by simp)]
  simp [Document.field, List.lookup_cons, Document.text?, hmachines]
  rfl

theorem decode_of_read {f : Fleet} (hascending : f.machines.Ascending) {s : String}
    (hread : Json.read s = some f.toDocument) (path : Option String) :
    decode path .json s = .ok f.redact := by
  have hdocument := ofDocument?_toDocument hascending
  have hread' : Format.json.read s = some f.toDocument := hread
  rw [decode, hread', Option.bind_some]
  simp only [Format.dialect, hdocument]

/-- The JSON text of a fleet, compact or indented, gives the fleet again without its passwords. -/
theorem decode_written {f : Fleet} (hascending : f.machines.Ascending) (path : Option String) :
    decode path .json (Json.compact f.toDocument) = .ok f.redact ∧
      decode path .json (Json.pretty f.toDocument) = .ok f.redact := by
  constructor
  · exact decode_of_read hascending (Json.read_compact f.plain) path
  · exact decode_of_read hascending (Json.read_pretty f.plain) path

/-- Neither in normal form nor complete: a credential has a password and no kind, another has
nothing at all. -/
def lodgers : Fleet where
  name := "f"
  machines := [("a", {}), ("m", {
    kind := .ssh
    destination := "host:22"
    username := "é"
    auth := [{ password := "hunter2" }, {}, .ofKeyFile "~/k"]
    hostKey := .acceptAny
    timeout := some 18446744073709551615 })]

def lodgersJson : String :=
  "\x7b\"name\":\"f\",\"machine\":\x7b\"a\":\x7b\"kind\":\"local\",\"host_key\":\"known-hosts\"\x7d," ++
    "\"m\":\x7b\"kind\":\"ssh\",\"destination\":\"host:22\",\"username\":\"é\"," ++
    "\"auth\":[\x7b\x7d,\x7b\x7d,\x7b\"kind\":\"key-file\",\"key\":\"~/k\"\x7d]," ++
    "\"host_key\":\"accept-any\",\"timeout_secs\":18446744073709551615\x7d\x7d\x7d"

theorem lodgers_written : lodgers.machines.Ascending ∧ lodgers.redact ≠ lodgers ∧
    decode none .json lodgersJson = .ok lodgers.redact := by
  have hascending : lodgers.machines.Ascending :=
    List.pairwise_pair.mpr (by decide +kernel)
  have hjson : Json.compact lodgers.toDocument = lodgersJson := by decide +kernel
  refine ⟨hascending, by decide +kernel, ?_⟩
  rw [← hjson]
  exact (decode_written hascending none).1

end Fleet

end Upkeep
