import Upkeep.Run.Backend
import Upkeep.Run.Site

/-!
Where faults come from. A fault of a check or of a copy is one that an operation of the target has
ended with, or one of the few that the evaluator makes itself. Verdicts are among the latter:
neither a machine in memory nor the machine at hand makes any.
-/

set_option autoImplicit false

namespace Upkeep

variable {σ α β : Type}

/-! ### Steps that fail -/

theorem Op.bind_ok {op : Op σ α} {next : α → Op σ β} {s s' : σ} {y : β}
    (h : (op >>= next) s = (.ok y, s')) :
    ∃ x s₁, op s = (.ok x, s₁) ∧ next x s₁ = (.ok y, s') := by
  rw [Op.bind_apply] at h
  rcases hop : op s with ⟨f | x, s₁⟩
  · simp [hop] at h
  · exact ⟨x, s₁, rfl, by simpa [hop] using h⟩

theorem Op.bind_error {op : Op σ α} {next : α → Op σ β} {s s' : σ} {f : Fault}
    (h : (op >>= next) s = (.error f, s')) :
    op s = (.error f, s') ∨ ∃ x s₁, op s = (.ok x, s₁) ∧ next x s₁ = (.error f, s') := by
  rw [Op.bind_apply] at h
  rcases hop : op s with ⟨f' | x, s₁⟩
  · exact Or.inl (by simpa [hop] using h)
  · exact Or.inr ⟨x, s₁, rfl, by simpa [hop] using h⟩

theorem Op.bind_of_ok {op : Op σ α} {next : α → Op σ β} {s : σ} {x : α} (h : (op s).1 = .ok x) :
    (op >>= next) s = next x (op s).2 := by
  have hop : op s = (.ok x, (op s).2) := Prod.ext h rfl
  rw [Op.bind_apply, hop]

theorem Op.bind_of_error {op : Op σ α} {next : α → Op σ β} {s : σ} {f : Fault}
    (h : (op s).1 = .error f) : (op >>= next) s = (.error f, (op s).2) := by
  have hop : op s = (.error f, (op s).2) := Prod.ext h rfl
  rw [Op.bind_apply, hop]

theorem Op.look_bind (f : σ → Except Fault α) (next : α → Op σ β) (s : σ) :
    (Op.look f >>= next) s = match f s with
      | .ok x => next x s
      | .error cause => (.error cause, s) := by
  rw [Op.bind_apply]
  unfold Op.look
  cases f s <;> rfl

theorem Op.bind_pure (op : Op σ α) (g : α → β) (s : σ) :
    (do return g (← op) : Op σ β) s = ((op s).1.map g, (op s).2) := by
  rw [Op.bind_apply]
  rcases op s with ⟨f | x, s'⟩ <;> rfl

theorem Op.look_eq {f : σ → Except Fault α} {s s' : σ} {r : Except Fault α}
    (h : Op.look f s = (r, s')) : f s = r ∧ s = s' := Prod.mk.inj h

/-! ### Faults of a target -/

/-- Some operation on the machine can end with this fault. -/
inductive Target.Raises (t : Target σ) (f : Fault) : Prop where
  | openRead {path : String} {s s' : σ} : t.openRead path s = (.error f, s') → t.Raises f
  | openWrite {path : String} {s s' : σ} : t.openWrite path s = (.error f, s') → t.Raises f
  | write {path : String} {sink : Sink σ} {s₀ s₁ s s' : σ} {block : Bytes} :
      t.openWrite path s₀ = (.ok sink, s₁) → sink.write block s = (.error f, s') → t.Raises f
  | finish {path : String} {sink : Sink σ} {s₀ s₁ s s' : σ} :
      t.openWrite path s₀ = (.ok sink, s₁) → sink.finish s = (.error f, s') → t.Raises f
  | digest {path : String} {s s' : σ} : t.digest path s = (.error f, s') → t.Raises f
  | search {path pattern : String} {s s' : σ} :
      t.search path pattern s = (.error f, s') → t.Raises f
  | close {s s' : σ} : t.close s = (.error f, s') → t.Raises f

/-- Some machine cannot be connected for this reason, or can end an operation with it. -/
inductive Connector.Raises (connector : Connector σ) (f : Fault) : Prop where
  | connect {name : String} {m : Machine} {s s' : σ} {notes : List Note} :
      connector name m s = ⟨.error f, s', notes⟩ → connector.Raises f
  | target {name : String} {m : Machine} {t : Target σ} {s s' : σ} {notes : List Note} :
      connector name m s = ⟨.ok t, s', notes⟩ → t.Raises f → connector.Raises f

/-! ### Faults of checks and copies -/

theorem Disk.digest_error {d : Disk} {path : String} {f : Fault} (h : d.digest path = .error f) :
    (∃ path', f = .notFound path') ∨ ∃ cause, f = .io cause := by
  unfold Disk.digest at h
  split at h
  · rename_i cause _
    obtain rfl := Except.error.inj h
    unfold Fault.ofIo
    split
    · exact Or.inl ⟨path, rfl⟩
    · exact Or.inr ⟨cause, rfl⟩
  · split at h
    · rename_i cause _
      exact Or.inr ⟨cause, (Except.error.inj h).symm⟩
    · cases h

theorem Target.exists_error {t : Target σ} {path : String} {s s' : σ} {f : Fault}
    (h : t.exists path s = (.error f, s')) : t.Raises f := by
  unfold Target.exists at h
  split at h
  · cases h
  · rename_i f' s₁ hopen
    split at h
    · cases h
    · cases h
      exact .openRead hopen

/-- A check fails by the target, by the local reference file or for want of a known kind. -/
theorem Condition.check_error {disk : σ → Disk} {t : Target σ} {c : Condition} {s s' : σ}
    {f : Fault} (h : c.check disk t s = (.error f, s')) :
    t.Raises f ∨ (∃ d : Disk, d.digest c.basePath = .error f) ∨
      ∃ kind, c.kind = .unknown kind ∧ f = .unknownAssertionKind kind := by
  unfold Condition.check at h
  cases hk : c.kind <;> rw [hk] at h
  case fileExists => exact Or.inl (Target.exists_error h)
  case fileAbsent =>
    rcases Op.bind_error h with h | ⟨_, _, _, h⟩
    · exact Or.inl (Target.exists_error h)
    · cases h
  case hashEquals =>
    rcases Op.bind_error h with h | ⟨_, _, _, h⟩
    · exact Or.inl (.digest h)
    · cases h
  case matchesLocalFile =>
    -- The local file is not looked at unless there is one to compare with it.
    rcases Op.bind_error h with h | ⟨there, s₁, _, h⟩
    · exact Or.inl (Target.exists_error h)
    · cases there
      · cases h
      · rcases Op.bind_error h with h | ⟨expected, _, _, h⟩
        · exact Or.inr (Or.inl ⟨disk s₁, (Prod.mk.inj h).1⟩)
        · rcases Op.bind_error h with h | ⟨_, _, _, h⟩
          · exact Or.inl (.digest h)
          · cases h
  case regexMatches => exact Or.inl (.search h)
  case unknown kind =>
    cases h
    exact Or.inr (Or.inr ⟨kind, rfl, rfl⟩)

theorem Sink.send_error {t : Target σ} {path : String} {sink : Sink σ} {s₀ s₁ s s' : σ}
    {blocks : List Bytes} {f : Fault} (hopen : t.openWrite path s₀ = (.ok sink, s₁))
    (h : sink.send blocks s = (.error f, s')) : t.Raises f := by
  induction blocks generalizing s with
  | nil => cases h
  | cons block blocks ih =>
    rcases Op.bind_error h with h | ⟨_, _, _, h⟩
    · exact .write hopen h
    · exact ih h

/-- A copy fails by the target or by the local source. -/
theorem deliver_error {disk : σ → Disk} {t : Target σ} {source destination : String} {s s' : σ}
    {f : Fault} (h : deliver disk t source destination s = (.error f, s')) :
    t.Raises f ∨ ∃ cause, f = .io cause := by
  have hlocal {α : Type} {x : Except IoFault α} (hx : x.mapError Fault.io = .error f) :
      ∃ cause, f = .io cause := by
    cases x with
    | ok _ => cases hx
    | error cause => exact ⟨cause, (Except.error.inj hx).symm⟩
  rcases Op.bind_error h with h | ⟨loc, _, _, h⟩
  · exact Or.inr (hlocal (Prod.mk.inj h).1)
  rcases Op.bind_error h with h | ⟨sink, _, hopen, h⟩
  · exact Or.inl (.openWrite h)
  rcases Op.bind_error h with h | ⟨content, _, _, h⟩
  · exact Or.inr (hlocal (Prod.mk.inj h).1)
  rcases Op.bind_error h with h | ⟨_, _, _, h⟩
  · exact Or.inl (Sink.send_error hopen h)
  rcases Op.bind_error h with h | ⟨_, _, _, h⟩
  · exact Or.inl (.finish hopen h)
  · cases h

/-- Checks fail for this reason only if the target does. -/
theorem Condition.check_ne {disk : σ → Disk} {t : Target σ} (ht : ¬ t.Raises .assertionsFailed)
    {c : Condition} {s s' : σ} : c.check disk t s ≠ (.error .assertionsFailed, s') := by
  intro h
  rcases Condition.check_error h with hraises | ⟨d, hd⟩ | ⟨kind, -, hkind⟩
  · exact ht hraises
  · rcases Disk.digest_error hd with ⟨_, hf⟩ | ⟨_, hf⟩ <;> cases hf
  · cases hkind

theorem deliver_ne {disk : σ → Disk} {t : Target σ} (ht : ¬ t.Raises .assertionsFailed)
    {source destination : String} {s s' : σ} :
    deliver disk t source destination s ≠ (.error .assertionsFailed, s') := by
  intro h
  rcases deliver_error h with hraises | ⟨_, hf⟩
  · exact ht hraises
  · cases hf

/-! ### Machines in memory -/

theorem Target.openWrite_on {τ : Type} {part : τ → σ} {replace : σ → τ → τ} {t : Target σ}
    {path : String} {sink : Sink τ} {x x' : τ}
    (h : (t.on part replace).openWrite path x = (.ok sink, x')) :
    ∃ sink' s', t.openWrite path (part x) = (.ok sink', s') ∧ sink = sink'.on part replace ∧
      x' = replace s' x := by
  obtain ⟨sink', _, hfirst, hsink⟩ := Op.bind_ok h
  cases hsink
  obtain ⟨hresult, rfl⟩ := Prod.mk.inj hfirst
  exact ⟨sink', _, Prod.ext hresult rfl, rfl, rfl⟩

/-- A part of a world has no faults of its own. -/
theorem Target.Raises.of_on {τ : Type} {part : τ → σ} {replace : σ → τ → τ} {t : Target σ}
    {f : Fault} (h : (t.on part replace).Raises f) : t.Raises f := by
  cases h with
  | openRead h =>
    rcases Op.bind_error h with h | ⟨_, _, _, h⟩
    · exact .openRead (Prod.ext (Prod.mk.inj h).1 rfl)
    · cases h
  | openWrite h =>
    rcases Op.bind_error h with h | ⟨_, _, _, h⟩
    · exact .openWrite (Prod.ext (Prod.mk.inj h).1 rfl)
    · cases h
  | write hopen h =>
    obtain ⟨sink', _, hopen', rfl, -⟩ := Target.openWrite_on hopen
    exact .write hopen' (Prod.ext (Prod.mk.inj h).1 rfl)
  | finish hopen h =>
    obtain ⟨sink', _, hopen', rfl, -⟩ := Target.openWrite_on hopen
    exact .finish hopen' (Prod.ext (Prod.mk.inj h).1 rfl)
  | digest h => exact .digest (Prod.ext (Prod.mk.inj h).1 rfl)
  | search h => exact .search (Prod.ext (Prod.mk.inj h).1 rfl)
  | close h => exact .close (Prod.ext (Prod.mk.inj h).1 rfl)

/-- Faults that tell of what is evaluated: the evaluator makes them, and no machine does. -/
def Fault.isVerdict : Fault → Bool
  | .assertionsFailed | .unknownAssertionKind _ | .unrecognisedActionKind _ | .nestingTooDeep _ =>
    true
  | _ => false

theorem Memory.content_fault {m : Memory} {path : String} {f : Fault}
    (h : m.content path = .error f) : f.isVerdict = false := by
  unfold Memory.content Memory.denied at h
  split at h
  · cases h
    rfl
  split at h
  · cases h
  · cases h
    rfl

theorem Memory.digest_fault {m : Memory} {path : String} {f : Fault}
    (h : m.digest path = .error f) : f.isVerdict = false := by
  unfold Memory.digest at h
  split at h
  · cases h
  · rename_i hcontent
    cases h
    exact Memory.content_fault hcontent

theorem Memory.search_fault {matcher : Matcher} {m : Memory} {path pattern : String} {f : Fault}
    (h : m.search matcher path pattern = .error f) : f.isVerdict = false := by
  unfold Memory.search at h
  split at h
  · cases h
    rfl
  split at h
  · cases h
    rfl
  · cases hcontent : m.content path with
    | ok _ =>
      rw [hcontent] at h
      cases h
    | error f' =>
      rw [hcontent] at h
      cases h
      exact Memory.content_fault hcontent

theorem Memory.openWrite_ok {matcher : Matcher} {name path : String} {sink : Sink Memory}
    {m m' : Memory} (h : (Memory.target matcher name).openWrite path m = (.ok sink, m')) :
    sink = Memory.sink path m.buffers.length ∧ m' = { m with buffers := m.buffers ++ [[]] } := by
  simp only [Memory.target] at h
  split at h
  · cases h
  · cases h
    exact ⟨rfl, rfl⟩

/-- Machines in memory leave verdicts to the evaluator. -/
theorem Memory.raises_fault {matcher : Matcher} {name : String} {f : Fault}
    (h : (Memory.target matcher name).Raises f) : f.isVerdict = false := by
  cases h with
  | openRead h =>
    rcases Op.bind_error h with h | ⟨_, _, _, h⟩
    · exact Memory.content_fault (Prod.mk.inj h).1
    · cases h
  | openWrite h =>
    simp only [Memory.target] at h
    split at h
    · cases h
      rfl
    · cases h
  | write hopen h =>
    obtain ⟨rfl, -⟩ := Memory.openWrite_ok hopen
    simp only [Memory.sink] at h
    split at h
    · cases h
      rfl
    · cases h
  | finish hopen h =>
    obtain ⟨rfl, -⟩ := Memory.openWrite_ok hopen
    simp only [Memory.sink] at h
    split at h
    · cases h
      rfl
    · cases h
  | digest h => exact Memory.digest_fault (Prod.mk.inj h).1
  | search h => exact Memory.search_fault (Prod.mk.inj h).1
  | close h =>
    simp only [Memory.target] at h
    split at h
    · cases h
      rfl
    · cases h

namespace Site

variable {matcher : Matcher}

abbrev target (matcher : Matcher) (name : String) : Target Site :=
  (Memory.target matcher name).on (memory name) (setMemory name)

theorem connector_ok {name : String} {m : Machine} {t : Target Site} {s s' : Site}
    {notes : List Note} (h : connector matcher name m s = ⟨.ok t, s', notes⟩) :
    s.memories.names.contains name ∧ t = target matcher name ∧ s' = s := by
  have htarget := congrArg Connection.target h
  simp only [connector] at htarget
  split at htarget
  · rename_i hthere
    exact ⟨hthere, (Except.ok.inj htarget).symm, (congrArg Connection.world h).symm⟩
  · cases htarget

theorem target_fault {name : String} {f : Fault} (h : (target matcher name).Raises f) :
    f.isVerdict = false :=
  Memory.raises_fault h.of_on

theorem connector_fault {f : Fault} (h : (connector matcher).Raises f) :
    f.isVerdict = false := by
  cases h with
  | connect h =>
    have htarget := congrArg Connection.target h
    simp only [connector] at htarget
    split at htarget
    · cases htarget
    · cases htarget
      rfl
  | target h hraises =>
    obtain ⟨-, rfl, -⟩ := connector_ok h
    exact target_fault hraises

theorem target_not_raises (matcher : Matcher) (name : String) :
    ¬ (target matcher name).Raises .assertionsFailed := by
  intro h
  cases target_fault h

theorem connector_not_raises (matcher : Matcher) :
    ¬ (connector matcher).Raises .assertionsFailed := by
  intro h
  cases connector_fault h

end Site

/-! ### The machine at hand, and those that are called -/

theorem Fault.ofIo_isVerdict (cause : IoFault) (path : String) :
    (ofIo cause path).isVerdict = false := by
  unfold ofIo
  split <;> rfl

theorem ok_of_mapError {x : Except IoFault α} {g : IoFault → Fault} {y : α}
    (h : x.mapError g = .ok y) : x = .ok y := by
  cases x with
  | ok x => rw [Except.ok.inj h]
  | error f => cases h

theorem isVerdict_of_mapError {ε : Type} {x : Except ε α} {g : ε → Fault} {f : Fault}
    (hg : ∀ cause, (g cause).isVerdict = false) (h : x.mapError g = .error f) :
    f.isVerdict = false := by
  cases x with
  | ok => cases h
  | error cause =>
    cases h
    exact hg cause

theorem error_of_map {x : Except Fault α} {g : α → β} {f : Fault} (h : x.map g = .error f) :
    x = .error f := by
  cases x with
  | ok => cases h
  | error cause =>
    cases h
    rfl

theorem error_of_bind {x : Except Fault α} {next : α → Except Fault β} {f : Fault}
    (h : (x >>= next) = .error f) : x = .error f ∨ ∃ y, next y = .error f := by
  cases x with
  | ok y => exact Or.inr ⟨y, h⟩
  | error cause =>
    cases h
    exact Or.inl rfl

theorem digestIn_fault {output : Bytes} {f : Fault} (h : digestIn output = .error f) :
    f.isVerdict = false := by
  unfold digestIn at h
  exact isVerdict_of_mapError (fun _ => rfl) h

theorem Disk.checksum_fault {d : Disk} {path : String} {f : Fault}
    (h : d.checksum path = .error f) : f.isVerdict = false := by
  unfold Disk.checksum at h
  split at h
  · cases h
    rfl
  · dsimp only at h
    split at h
    · exact digestIn_fault h
    · cases h
      rfl

theorem Disk.search_fault {d : Disk} {path pattern : String} {f : Fault}
    (h : d.search path pattern = .error f) : f.isVerdict = false := by
  unfold Disk.search at h
  split at h
  · cases h
    rfl
  · dsimp only at h
    split at h
    · cases h
    · cases h
      rfl

theorem localTarget_openWrite {name path : String} {sink : Sink Disk} {d d' : Disk}
    (h : (localTarget name).openWrite path d = (.ok sink, d')) :
    ∃ loc, d.openWrite (d.expand path) = .ok (loc, d') ∧ sink = localSink loc := by
  simp only [localTarget] at h
  split at h
  · rename_i loc d₁ hopen
    cases h
    exact ⟨loc, hopen, rfl⟩
  · cases h

/-- So does the machine at hand. -/
theorem localTarget_fault {name : String} {f : Fault} (h : (localTarget name).Raises f) :
    f.isVerdict = false := by
  cases h with
  | openRead h =>
    rcases Op.bind_error h with h | ⟨_, _, _, h⟩
    · exact isVerdict_of_mapError (fun cause => Fault.ofIo_isVerdict cause _) (Op.look_eq h).1
    · cases h
  | openWrite h =>
    simp only [localTarget] at h
    split at h
    · cases h
    · cases h
      exact Fault.ofIo_isVerdict _ _
  | write hopen h =>
    obtain ⟨loc, -, rfl⟩ := localTarget_openWrite hopen
    simp only [localSink] at h
    split at h
    · cases h
    · cases h
      rfl
  | finish hopen h =>
    obtain ⟨loc, -, rfl⟩ := localTarget_openWrite hopen
    have hsync := (Prod.mk.inj h).1
    exact isVerdict_of_mapError (fun _ => rfl) hsync
  | digest h => exact Disk.checksum_fault (Prod.mk.inj h).1
  | search h => exact Disk.search_fault (Prod.mk.inj h).1
  | close h => cases h

theorem Disk.loadKey_fault {words : Key.Words} {d : Disk} {path : String} {f : Fault}
    (h : d.loadKey words path = .error f) : f.isVerdict = false := by
  unfold Disk.loadKey at h
  split at h
  · cases h
    rfl
  · split at h
    · cases h
      rfl
    · cases h

theorem Credential.methods_fault {words : Key.Words} {d : Disk} {c : Credential} {f : Fault}
    (h : c.methods words d = .error f) : f.isVerdict = false := by
  unfold Credential.methods at h
  split at h
  · cases h
  · cases h
  · exact Disk.loadKey_fault (error_of_map h)
  · exact Disk.loadKey_fault (error_of_map h)
  · cases h

theorem authMethods_fault {words : Key.Words} {d : Disk} {cs : List Credential} {f : Fault}
    (h : authMethods words d cs = .error f) : f.isVerdict = false := by
  induction cs with
  | nil => cases h
  | cons c cs ih =>
    rcases error_of_bind h with hfirst | ⟨first, hrest⟩
    · exact Credential.methods_fault hfirst
    · rcases error_of_bind hrest with hrest | ⟨rest, hlast⟩
      · exact ih hrest
      · cases hlast

theorem Remote.login_fault {words : Key.Words} {d : Disk} {m : Machine} {f : Fault}
    (h : login words d m = .error f) : f.isVerdict = false := by
  rcases error_of_bind h with hmethods | ⟨methods, hrest⟩
  · exact authMethods_fault hmethods
  · rcases error_of_bind hrest with hdestination | ⟨destination, hlast⟩
    · exact isVerdict_of_mapError (fun _ => rfl) hdestination
    · cases hlast

/-- Some server cannot be called for this reason, or ends an operation with it. -/
inductive Caller.Raises (call : Caller) (f : Fault) : Prop where
  | connect {name : String} {login : Remote.Login} {d d' : Disk} :
      call name login d = (.error f, d') → Raises call f
  | target {name : String} {login : Remote.Login} {t : Target Disk} {d d' : Disk} :
      call name login d = (.ok t, d') → t.Raises f → Raises call f

/-- Verdicts that come from a machine come from one that has been called. -/
theorem backend_fault {words : Key.Words} {call : Caller} {f : Fault}
    (h : (backend words call).Raises f) : f.isVerdict = false ∨ call.Raises f := by
  cases h with
  | @connect name m d d' notes h =>
    unfold backend at h
    split at h
    · cases h
    · split at h
      · rename_i hlogin
        cases h
        exact Or.inl (Remote.login_fault hlogin)
      · rename_i login _
        obtain ⟨hcall, -, -⟩ := Connection.mk.inj h
        exact Or.inr (.connect (Prod.ext hcall rfl))
  | @target name m t d d' notes h hraises =>
    unfold backend at h
    split at h
    · cases h
      exact Or.inl (localTarget_fault hraises)
    · split at h
      · cases h
      · obtain ⟨hcall, -, -⟩ := Connection.mk.inj h
        exact Or.inr (.target (Prod.ext hcall rfl) hraises)

theorem backend_not_raises {words : Key.Words} {call : Caller}
    (hcall : ¬ call.Raises .assertionsFailed) :
    ¬ (backend words call).Raises .assertionsFailed := by
  intro h
  rcases backend_fault h with hfault | hraises
  · cases hfault
  · exact hcall hraises

end Upkeep
