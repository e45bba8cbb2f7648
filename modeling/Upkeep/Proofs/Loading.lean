import Mathlib.Data.List.Forall2
import Upkeep.CommandLine.Execution

/-!
Loading all the files of an invocation. It fails for the first file that cannot be loaded, that of
the machines before those of the assertions, and otherwise gives what each file holds.

Machines and assertions are loaded alike, so what is said of one file is said of both at once.
-/

set_option autoImplicit false

namespace Upkeep

/-! ### One file -/

/-- What one kind of specification has of its own. -/
structure SpecKind (α φ : Type) where
  decode : Format → String → Option α
  normalize : α → α
  validate : α → Except φ Unit
  flawed : Option String → φ → SpecError

namespace SpecKind

variable {α φ : Type}

/-- Why a file is refused: it cannot be read, its text cannot be decoded, or what the text says is
not valid. -/
inductive Refuses (kind : SpecKind α φ) (d : Disk) (path : String) : SpecError → Prop where
  | unread {cause : IoFault} : d.readText path = .error cause →
      kind.Refuses d path (.unreadable path cause)
  | undecoded {s : String} : d.readText path = .ok s → kind.decode (.ofPath path) s = none →
      kind.Refuses d path (.undecodable (some path) (.ofPath path) s)
  | invalid {s : String} {x : α} {flaw : φ} : d.readText path = .ok s →
      kind.decode (.ofPath path) s = some x → kind.validate (kind.normalize x) = .error flaw →
      kind.Refuses d path (kind.flawed (some path) flaw)

inductive Gives (kind : SpecKind α φ) (d : Disk) (path : String) : α → Prop where
  | valid {s : String} {x : α} : d.readText path = .ok s →
      kind.decode (.ofPath path) s = some x → kind.validate (kind.normalize x) = .ok () →
      kind.Gives d path (kind.normalize x)

def load (kind : SpecKind α φ) (d : Disk) (path : String) : Except SpecError α :=
  match d.readText path with
  | .error cause => .error (.unreadable path cause)
  | .ok s =>
    match kind.decode (.ofPath path) s with
    | none => .error (.undecodable (some path) (.ofPath path) s)
    | some x =>
      match kind.validate (kind.normalize x) with
      | .error flaw => .error (kind.flawed (some path) flaw)
      | .ok () => .ok (kind.normalize x)

theorem load_error_iff {kind : SpecKind α φ} {d : Disk} {path : String} {e : SpecError} :
    kind.load d path = .error e ↔ kind.Refuses d path e := by
  constructor
  · intro h
    unfold load at h
    split at h
    · rename_i hread
      obtain rfl := Except.error.inj h
      exact .unread hread
    · rename_i s hread
      split at h
      · rename_i hdecode
        obtain rfl := Except.error.inj h
        exact .undecoded hread hdecode
      · rename_i x hdecode
        split at h
        · rename_i flaw hflaw
          obtain rfl := Except.error.inj h
          exact .invalid hread hdecode hflaw
        · cases h
  · intro h
    cases h with
    | unread hread => simp only [load, hread]
    | undecoded hread hdecode => simp only [load, hread, hdecode]
    | invalid hread hdecode hflaw => simp only [load, hread, hdecode, hflaw]

theorem load_ok_iff {kind : SpecKind α φ} {d : Disk} {path : String} {x : α} :
    kind.load d path = .ok x ↔ kind.Gives d path x := by
  constructor
  · intro h
    unfold load at h
    split at h
    · cases h
    · rename_i s hread
      split at h
      · cases h
      · rename_i x' hdecode
        split at h
        · cases h
        · rename_i hvalid
          obtain rfl := Except.ok.inj h
          exact .valid hread hdecode hvalid
  · rintro ⟨hread, hdecode, hvalid⟩
    simp only [load, hread, hdecode, hvalid]

theorem Refuses.unique {kind : SpecKind α φ} {d : Disk} {path : String} {e e' : SpecError}
    (h : kind.Refuses d path e) (h' : kind.Refuses d path e') : e' = e := by
  rw [← load_error_iff] at h h'
  exact Except.error.inj (h'.symm.trans h)

theorem Gives.not_refuses {kind : SpecKind α φ} {d : Disk} {path : String} {x : α} {e : SpecError}
    (h : kind.Gives d path x) : ¬ kind.Refuses d path e := by
  rw [← load_ok_iff] at h
  rw [← load_error_iff, h]
  exact nofun

end SpecKind

def Group.specKind : SpecKind Group AssertionFlaw where
  decode format s := (format.read s).bind (Group.ofDocument? format.dialect)
  normalize := Group.normalize
  validate := Group.validate
  flawed := .flawedAssertions

def Fleet.specKind : SpecKind Fleet FleetFlaw where
  decode format s := (format.read s).bind (Fleet.ofDocument? format.dialect)
  normalize := Fleet.normalize
  validate := Fleet.validate
  flawed := .flawedMachines

theorem Group.load_eq (d : Disk) (path : String) : load d path = specKind.load d path := by
  unfold load SpecKind.load
  cases d.readText path with
  | error cause => rfl
  | ok s =>
    simp only [parse, decode, specKind]
    cases ((Format.ofPath path).read s).bind (ofDocument? (Format.ofPath path).dialect) with
    | none => rfl
    | some g =>
      simp only [prepare]
      cases g.normalize.validate <;> rfl

theorem Fleet.load_eq (d : Disk) (path : String) : load d path = specKind.load d path := by
  unfold load SpecKind.load
  cases d.readText path with
  | error cause => rfl
  | ok s =>
    simp only [parse, decode, specKind]
    cases ((Format.ofPath path).read s).bind (ofDocument? (Format.ofPath path).dialect) with
    | none => rfl
    | some f =>
      simp only [prepare]
      cases f.normalize.validate <;> rfl

namespace CommandLine

/-! ### All files -/

inductive Source where
  | targets (path : String)
  | assertions (path : String)

namespace Source

inductive Bad (d : Disk) : Source → Failure → Prop where
  | targets {path : String} {e : SpecError} : Fleet.specKind.Refuses d path e →
      Bad d (.targets path) (.targets path e)
  | assertions {path : String} {e : SpecError} : Group.specKind.Refuses d path e →
      Bad d (.assertions path) (.assertions path e)

def Good (d : Disk) (source : Source) : Prop := ∀ failure, ¬ source.Bad d failure

end Source

/-- Why the first of some files that cannot be loaded cannot be. -/
inductive FirstBad (d : Disk) : List Source → Failure → Prop where
  | here {source : Source} {failure : Failure} (sources : List Source) : source.Bad d failure →
      FirstBad d (source :: sources) failure
  | later {source : Source} {sources : List Source} {failure : Failure} : source.Good d →
      FirstBad d sources failure → FirstBad d (source :: sources) failure

namespace Invocation

/-- The files of an invocation, in the order in which they are loaded. -/
def sources (i : Invocation) : List Source :=
  i.targets.toList.map Source.targets ++ i.files.map Source.assertions

/-- A plan of what the files hold: groups in the order of their files, and the machine at hand if
there is no file of machines. -/
structure Holds (i : Invocation) (d : Disk) (plan : Plan) : Prop where
  fleet : ∀ path, i.targets = some path → Fleet.specKind.Gives d path plan.fleet
  here : i.targets = none →
    plan.fleet = { name := "local", machines := [("local", { kind := .here })] }
  groups : List.Forall₂ (fun path g => Group.specKind.Gives d path g) i.files plan.groups

end Invocation

theorem Source.Bad.unique {d : Disk} {source : Source} {failure failure' : Failure}
    (h : source.Bad d failure) (h' : source.Bad d failure') : failure' = failure := by
  cases h with
  | targets hrefuses =>
    cases h' with
    | targets hrefuses' => rw [hrefuses.unique hrefuses']
  | assertions hrefuses =>
    cases h' with
    | assertions hrefuses' => rw [hrefuses.unique hrefuses']

theorem Source.good_targets {d : Disk} {path : String} {f : Fleet}
    (h : Fleet.specKind.Gives d path f) : (Source.targets path).Good d := by
  intro failure hbad
  cases hbad with
  | targets hrefuses => exact h.not_refuses hrefuses

theorem Source.good_assertions {d : Disk} {path : String} {g : Group}
    (h : Group.specKind.Gives d path g) : (Source.assertions path).Good d := by
  intro failure hbad
  cases hbad with
  | assertions hrefuses => exact h.not_refuses hrefuses

namespace FirstBad

variable {d : Disk} {sources : List Source} {failure : Failure}

theorem exists_bad (h : FirstBad d sources failure) : ∃ source ∈ sources, source.Bad d failure := by
  induction h with
  | here sources hbad => exact ⟨_, .head sources, hbad⟩
  | later _ _ ih =>
    obtain ⟨source, hsource, hbad⟩ := ih
    exact ⟨source, .tail _ hsource, hbad⟩

theorem exists_of_not_good (h : ∃ source ∈ sources, ¬ source.Good d) :
    ∃ failure, FirstBad d sources failure := by
  induction sources with
  | nil =>
    obtain ⟨source, hsource, -⟩ := h
    cases hsource
  | cons source sources ih =>
    by_cases hgood : source.Good d
    · obtain ⟨other, hother, hbad⟩ := h
      rcases List.mem_cons.mp hother with rfl | hother
      · exact absurd hgood hbad
      · obtain ⟨failure, hfirst⟩ := ih ⟨other, hother, hbad⟩
        exact ⟨failure, .later hgood hfirst⟩
    · unfold Source.Good at hgood
      push Not at hgood
      obtain ⟨failure, hbad⟩ := hgood
      exact ⟨failure, .here sources hbad⟩

theorem unique {failure' : Failure} (h : FirstBad d sources failure)
    (h' : FirstBad d sources failure') : failure' = failure := by
  induction h with
  | here sources hbad =>
    cases h' with
    | here _ hbad' => exact hbad.unique hbad'
    | later hgood _ => exact absurd hbad (hgood _)
  | later hgood _ ih =>
    cases h' with
    | here _ hbad => exact absurd hbad (hgood _)
    | later _ hfirst => exact ih hfirst

end FirstBad

/-! ### Loading follows the order of the files -/

/-- How loading some files ends: with the first that is bad, or with what all of them give. -/
def LoadsLike {α : Type} (d : Disk) (sources : List Source) (Result : α → Prop) :
    Except Failure α → Prop
  | .error failure => FirstBad d sources failure
  | .ok x => (∀ source ∈ sources, source.Good d) ∧ Result x

theorem loadGroups_like (d : Disk) (paths : List String) :
    LoadsLike d (paths.map .assertions)
      (List.Forall₂ (fun path g => Group.specKind.Gives d path g) paths) (loadGroups d paths) := by
  induction paths with
  | nil => exact ⟨nofun, .nil⟩
  | cons path paths ih =>
    rw [loadGroups, Group.load_eq]
    cases hload : Group.specKind.load d path with
    | error e => exact .here _ (.assertions (SpecKind.load_error_iff.mp hload))
    | ok g =>
      have hgives := SpecKind.load_ok_iff.mp hload
      have hgood := Source.good_assertions hgives
      cases hrest : loadGroups d paths with
      | error failure =>
        rw [hrest] at ih
        exact .later hgood ih
      | ok gs =>
        rw [hrest] at ih
        exact ⟨List.forall_mem_cons.mpr ⟨hgood, ih.1⟩, .cons hgives ih.2⟩

namespace Invocation

variable {i : Invocation} {d : Disk}

theorem load_like (i : Invocation) (d : Disk) :
    LoadsLike d i.sources (i.Holds d) (i.load d) := by
  have hgroups := loadGroups_like d i.files
  unfold load sources
  cases htargets : i.targets with
  | none =>
    rw [loadFleet]
    cases hrest : loadGroups d i.files with
    | error failure =>
      rw [hrest] at hgroups
      exact hgroups
    | ok gs =>
      rw [hrest] at hgroups
      refine ⟨hgroups.1, ?_, fun _ => rfl, hgroups.2⟩
      intro path hpath
      rw [htargets] at hpath
      cases hpath
  | some path =>
    rw [loadFleet, Fleet.load_eq]
    cases hload : Fleet.specKind.load d path with
    | error e => exact .here _ (.targets (SpecKind.load_error_iff.mp hload))
    | ok f =>
      have hgives := SpecKind.load_ok_iff.mp hload
      have hgood := Source.good_targets hgives
      cases hrest : loadGroups d i.files with
      | error failure =>
        rw [hrest] at hgroups
        exact .later hgood hgroups
      | ok gs =>
        rw [hrest] at hgroups
        refine ⟨List.forall_mem_cons.mpr ⟨hgood, hgroups.1⟩, ?_, ?_, hgroups.2⟩
        · intro path' hpath
          rw [htargets] at hpath
          obtain rfl := Option.some.inj hpath
          exact hgives
        · intro hnone
          rw [htargets] at hnone
          cases hnone

theorem load_error_iff {failure : Failure} :
    i.load d = .error failure ↔ FirstBad d i.sources failure := by
  have hlike := i.load_like d
  cases hload : i.load d with
  | error failure' =>
    rw [hload] at hlike
    rw [Except.error.injEq]
    constructor
    · rintro rfl
      exact hlike
    · intro hfirst
      exact hfirst.unique hlike
  | ok plan =>
    rw [hload] at hlike
    constructor
    · intro h
      cases h
    · intro hfirst
      obtain ⟨source, hsource, hbad⟩ := hfirst.exists_bad
      exact absurd hbad (hlike.1 source hsource failure)

theorem exists_load (hgood : ∀ source ∈ i.sources, source.Good d) :
    ∃ plan, i.load d = .ok plan ∧ i.Holds d plan := by
  have hlike := i.load_like d
  cases hload : i.load d with
  | error failure =>
    obtain ⟨source, hsource, hbad⟩ := (load_error_iff.mp hload).exists_bad
    exact absurd hbad (hgood source hsource failure)
  | ok plan =>
    rw [hload] at hlike
    exact ⟨plan, rfl, hlike.2⟩

theorem good_of_load {plan : Plan} (h : i.load d = .ok plan) :
    ∀ source ∈ i.sources, source.Good d := by
  have hlike := i.load_like d
  rw [h] at hlike
  exact hlike.1

end Invocation

end CommandLine

end Upkeep
