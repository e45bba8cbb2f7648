import Mathlib.Data.List.Forall2
import Upkeep.Auth.Method
import Upkeep.Machine.Encoding
import Upkeep.Spec.Decode

/-!
What a password says is told to nobody. Fleets that differ only in the text of passwords are judged
alike and written alike, and the ways to log in to their machines look alike, or fail for the same
reason. Whether there is a password at all is not kept secret: it decides what a credential is.
-/

set_option autoImplicit false

namespace Upkeep

/-! ### Fleets that differ in passwords -/

/-- Where one has a password, so has the other. -/
structure Credential.Alike (c c' : Credential) : Prop where
  kind : c.kind = c'.kind
  password : c.password = "" ↔ c'.password = ""
  key : c.key = c'.key

structure Machine.Alike (m m' : Machine) : Prop where
  kind : m.kind = m'.kind
  destination : m.destination = m'.destination
  username : m.username = m'.username
  auth : List.Forall₂ Credential.Alike m.auth m'.auth
  hostKey : m.hostKey = m'.hostKey
  timeout : m.timeout = m'.timeout

structure Fleet.Alike (f f' : Fleet) : Prop where
  name : f.name = f'.name
  machines : List.Forall₂ (fun e e' => e.1 = e'.1 ∧ e.2.Alike e'.2) f.machines f'.machines

/-- The same failure, or results that are related. -/
inductive Agree {ε α β : Type} (related : α → β → Prop) : Except ε α → Except ε β → Prop where
  | error (e : ε) : Agree related (.error e) (.error e)
  | ok {x : α} {y : β} : related x y → Agree related (.ok x) (.ok y)

namespace Agree

variable {ε α β γ δ : Type} {related : α → β → Prop} {related' : γ → δ → Prop}

theorem refl {related : α → α → Prop} (hrefl : ∀ x, related x x) (x : Except ε α) :
    Agree related x x := by
  cases x with
  | error e => exact .error e
  | ok x => exact .ok (hrefl x)

theorem bind {x : Except ε α} {y : Except ε β} {next : α → Except ε γ} {next' : β → Except ε δ}
    (h : Agree related x y) (hnext : ∀ a b, related a b → Agree related' (next a) (next' b)) :
    Agree related' (x >>= next) (y >>= next') := by
  cases h with
  | error e => exact .error e
  | ok hxy => exact hnext _ _ hxy

end Agree

/-! ### Credentials -/

namespace Credential.Alike

variable {c c' : Credential}

theorem effectiveKind (h : c.Alike c') : c.effectiveKind = c'.effectiveKind := by
  simp only [Credential.effectiveKind, h.kind, h.password]

theorem normalize (h : c.Alike c') : c.normalize.Alike c'.normalize where
  kind := h.effectiveKind
  password := h.password
  key := h.key

theorem validate (h : c.Alike c') : c.validate = c'.validate := by
  simp only [Credential.validate, h.effectiveKind, h.password, h.key]

theorem toDocument (h : c.Alike c') : c.toDocument = c'.toDocument := by
  simp only [Credential.toDocument, h.kind, h.key]

end Credential.Alike

/-! ### Ways to log in -/

structure AuthMethod.LooksLike (x y : AuthMethod) : Prop where
  describe : x.describe = y.describe
  protocol : x.protocol = y.protocol

theorem AuthMethod.LooksLike.refl (x : AuthMethod) : x.LooksLike x := ⟨rfl, rfl⟩

theorem AuthMethod.LooksLike.password (p q : String) :
    (AuthMethod.password p).LooksLike (.password q) := ⟨rfl, rfl⟩

/-- Method by method. -/
abbrev LookAlike : List AuthMethod → List AuthMethod → Prop := List.Forall₂ AuthMethod.LooksLike

theorem LookAlike.refl (xs : List AuthMethod) : LookAlike xs xs :=
  List.forall₂_same.mpr fun x _ => .refl x

theorem Credential.Alike.methods {c c' : Credential} (h : c.Alike c') (words : Key.Words)
    (d : Disk) : Agree LookAlike (c.methods words d) (c'.methods words d) := by
  unfold Credential.methods
  rw [← h.effectiveKind, ← h.key]
  split
  · exact .ok (.cons (.password c.password c'.password) .nil)
  all_goals exact .refl LookAlike.refl _

theorem authMethods_alike (words : Key.Words) (d : Disk) {cs cs' : List Credential}
    (h : List.Forall₂ Credential.Alike cs cs') :
    Agree LookAlike (authMethods words d cs) (authMethods words d cs') := by
  induction h with
  | nil => exact .ok .nil
  | cons hc _ ih =>
    refine (hc.methods words d).bind fun first first' hfirst => ?_
    refine ih.bind fun rest rest' hrest => ?_
    exact .ok (List.rel_append hfirst hrest)

/-! ### Machines -/

theorem validateCredentials_alike (position : Nat) {cs cs' : List Credential}
    (h : List.Forall₂ Credential.Alike cs cs') :
    validateCredentials position cs = validateCredentials position cs' := by
  induction h generalizing position with
  | nil => rfl
  | cons hc _ ih => simp only [validateCredentials, hc.validate, ih]

theorem map_eq_of_alike {α β : Type} {related : α → α → Prop} {write : α → β} {xs ys : List α}
    (h : List.Forall₂ related xs ys) (hwrite : ∀ x y, related x y → write x = write y) :
    xs.map write = ys.map write := by
  induction h with
  | nil => rfl
  | cons hxy _ ih => rw [List.map_cons, List.map_cons, hwrite _ _ hxy, ih]

namespace Machine.Alike

variable {m m' : Machine}

theorem normalize (h : m.Alike m') : m.normalize.Alike m'.normalize where
  kind := h.kind
  destination := h.destination
  username := h.username
  auth := List.rel_map (fun _ _ hc => hc.normalize) h.auth
  hostKey := h.hostKey
  timeout := h.timeout

theorem validate (h : m.Alike m') : m.validate = m'.validate := by
  simp only [Machine.validate, h.kind, h.destination, h.username,
    validateCredentials_alike 1 h.auth]

theorem toDocument (h : m.Alike m') : m.toDocument = m'.toDocument := by
  have hauth : m.auth.map Credential.toDocument = m'.auth.map Credential.toDocument :=
    map_eq_of_alike h.auth fun _ _ hc => hc.toDocument
  have hnone : m.auth.isEmpty = m'.auth.isEmpty := by
    rw [← List.isEmpty_map (f := Credential.toDocument), hauth, List.isEmpty_map]
  simp only [Machine.toDocument, h.kind, h.destination, h.username, hnone, hauth, h.hostKey,
    h.timeout]

end Machine.Alike

/-! ### Fleets -/

/-- Nothing that is said about the two fleets tells them apart: what is wrong with them, any text of
the documents they are written as, and for every state of the files the ways to log in to each of
their machines, as they are described, or why there are none. -/
structure Fleet.Indistinct (f f' : Fleet) : Prop where
  judged : f.validate = f'.validate
  written : f.toDocument = f'.toDocument
  methods : ∀ (words : Key.Words) (d : Disk), List.Forall₂
    (fun e e' => e.1 = e'.1 ∧
      Agree LookAlike (authMethods words d e.2.auth) (authMethods words d e'.2.auth))
    f.machines f'.machines

theorem validateMachines_alike {ms ms' : List (String × Machine)}
    (h : List.Forall₂ (fun e e' => e.1 = e'.1 ∧ e.2.Alike e'.2) ms ms') :
    validateMachines ms = validateMachines ms' := by
  induction h with
  | nil => rfl
  | cons he _ ih => simp only [validateMachines, he.1, he.2.validate, ih]

namespace Fleet.Alike

variable {f f' : Fleet}

theorem normalize (h : f.Alike f') : f.normalize.Alike f'.normalize where
  name := h.name
  machines := List.rel_map (fun _ _ he => ⟨he.1, he.2.normalize⟩) h.machines

theorem validate (h : f.Alike f') : f.validate = f'.validate := validateMachines_alike h.machines

theorem toDocument (h : f.Alike f') : f.toDocument = f'.toDocument := by
  have hmachines : f.machines.map (fun e => (e.1, e.2.toDocument)) =
      f'.machines.map fun e => (e.1, e.2.toDocument) :=
    map_eq_of_alike h.machines fun _ _ he => Prod.ext he.1 he.2.toDocument
  rw [Fleet.toDocument, Fleet.toDocument, h.name]
  exact congrArg (fun es => Document.table [("name", .text f'.name), ("machine", .table es)])
    hmachines

theorem indistinct (h : f.Alike f') : f.Indistinct f' where
  judged := h.validate
  written := h.toDocument
  methods words d := h.machines.imp fun _ _ he => ⟨he.1, authMethods_alike words d he.2.auth⟩

theorem prepare (h : f.Alike f') (path : Option String) :
    Agree Fleet.Alike (f.prepare path) (f'.prepare path) := by
  unfold Fleet.prepare
  rw [← h.normalize.validate]
  split
  · exact .ok h.normalize
  · exact .error _

end Fleet.Alike

/-- Neither what is said of two fleets as they are, nor what is said of them in normal form, nor
whether they are accepted, depends on what passwords say. -/
theorem Fleet.passwords_untold {f f' : Fleet} (h : f.Alike f') :
    f.Indistinct f' ∧ f.normalize.Indistinct f'.normalize ∧
      ∀ path, Agree Fleet.Alike (f.prepare path) (f'.prepare path) :=
  ⟨h.indistinct, h.normalize.indistinct, h.prepare⟩

/-- A password alone, one beside a key file that may be missing, and a machine without any. -/
def Fleet.locked (password : String) : Fleet where
  name := "f"
  machines := [("a", {}), ("m", {
    kind := .ssh
    destination := "host"
    username := "u"
    auth := [{ password := password }, .ofPrompt,
      { kind := some .keyFile, password := password }] })]

theorem Fleet.locked_untold : (locked "hunter2").Alike (locked "'; rm") ∧
    locked "hunter2" ≠ locked "'; rm" ∧ (locked "hunter2").Indistinct (locked "'; rm") ∧
    (locked "hunter2").normalize.Indistinct (locked "'; rm").normalize ∧
    ∀ path, Agree Fleet.Alike ((locked "hunter2").prepare path)
      ((locked "'; rm").prepare path) := by
  have hgiven : "hunter2" = "" ↔ "'; rm" = "" := by decide
  have hcredential (kind : Option AuthKind) :
      Credential.Alike { kind := kind, password := "hunter2" }
        { kind := kind, password := "'; rm" } :=
    ⟨rfl, hgiven, rfl⟩
  have hhere : Machine.Alike {} {} := ⟨rfl, rfl, rfl, .nil, rfl, rfl⟩
  have hauth : List.Forall₂ Credential.Alike
      [{ password := "hunter2" }, .ofPrompt, { kind := some .keyFile, password := "hunter2" }]
      [{ password := "'; rm" }, .ofPrompt, { kind := some .keyFile, password := "'; rm" }] :=
    .cons (hcredential none) (.cons ⟨rfl, Iff.rfl, rfl⟩ (.cons (hcredential _) .nil))
  have halike : (locked "hunter2").Alike (locked "'; rm") :=
    ⟨rfl, .cons ⟨rfl, hhere⟩ (.cons ⟨rfl, rfl, rfl, rfl, hauth, rfl, rfl⟩ .nil)⟩
  exact ⟨halike, by decide, passwords_untold halike⟩

end Upkeep
