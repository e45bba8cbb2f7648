import Upkeep.Proofs.Calls
import Upkeep.Proofs.Names
import Upkeep.Proofs.Raises

/-!
Machines held in memory. Any operation on them can fail at any time, and only one changes what they
hold: when a sink is finished, what has been written to it is there all at once.
-/

set_option autoImplicit false

namespace Upkeep

variable {σ α β : Type}

/-- What a machine holds, and the paths that have been written, in order. -/
structure Holding where
  files : String → Option Bytes
  writes : List String

def Holding.store (path : String) (content : Bytes) (h : Holding) : Holding where
  files other := if other = path then some content else h.files other
  writes := h.writes ++ [path]

/-- What is to be seen of a world: the local files, and what the machine of a name holds. -/
structure View (σ : Type) where
  disk : σ → Disk
  held : (name : String) → σ → Option Holding

namespace View

structure Kept (view : View σ) (s s' : σ) : Prop where
  disk : view.disk s' = view.disk s
  held : ∀ name, view.held name s' = view.held name s

structure Stored (view : View σ) (name path : String) (content : Bytes) (s s' : σ) : Prop where
  disk : view.disk s' = view.disk s
  here : view.held name s' = (view.held name s).map (Holding.store path content)
  elsewhere : ∀ other, other ≠ name → view.held other s' = view.held other s

theorem Kept.refl {view : View σ} (s : σ) : view.Kept s s := ⟨rfl, fun _ => rfl⟩

theorem Kept.trans {view : View σ} {s s₁ s' : σ} (h : view.Kept s s₁) (h' : view.Kept s₁ s') :
    view.Kept s s' :=
  ⟨h'.disk.trans h.disk, fun name => (h'.held name).trans (h.held name)⟩

theorem Kept.stored {view : View σ} {s s₁ s' : σ} {name path : String} {content : Bytes}
    (h : view.Kept s s₁) (h' : view.Stored name path content s₁ s') :
    view.Stored name path content s s' where
  disk := h'.disk.trans h.disk
  here := by rw [h'.here, h.held]
  elsewhere other hne := (h'.elsewhere other hne).trans (h.held other)

end View

namespace Sink

/-- From one world to another a sink has been given these blocks, one after another. -/
inductive Given (sink : Sink σ) : List Bytes → σ → σ → Prop where
  | nil {s : σ} : sink.Given [] s s
  | cons {block : Bytes} {blocks : List Bytes} {s s₁ s' : σ} :
      sink.write block s = (.ok (), s₁) → sink.Given blocks s₁ s' →
      sink.Given (block :: blocks) s s'

theorem given_of_send {sink : Sink σ} {blocks : List Bytes} {s s' : σ}
    (h : sink.send blocks s = (.ok (), s')) : sink.Given blocks s s' := by
  induction blocks generalizing s with
  | nil =>
    obtain rfl : s = s' := (Prod.mk.inj h).2
    exact .nil
  | cons block blocks ih =>
    obtain ⟨_, s₁, hwrite, hrest⟩ := Op.bind_ok h
    exact .cons hwrite (ih hrest)

/-- A content that has been sent has been given in blocks, and is all of them together. -/
theorem given_of_sendAll {sink : Sink σ} {content : Bytes} {s s' : σ}
    (h : sink.sendAll content s = (.ok (), s')) :
    ∃ blocks, sink.Given blocks s s' ∧ blocks.flatten = content :=
  ⟨_, given_of_send h, Bytes.flatten_blocks _ content⟩

end Sink

/-- The machine of this name is held in memory: whatever is done there and however it ends,
everything is kept until a sink has been finished. Then the file holds what the sink has been given
since it was opened. -/
structure Target.InMemory (view : View σ) (name : String) (t : Target σ) : Prop where
  kept : ∀ {call s s'}, t.Performs call s s' → ¬ call.Finishes → view.Kept s s'
  finished : ∀ {path sink s₀ s₁ blocks s s'}, t.openWrite path s₀ = (.ok sink, s₁) →
    sink.Given blocks s₁ s → sink.finish s = (.ok (), s') →
    view.Stored name path blocks.flatten s s'
  unfinished : ∀ {path sink s₀ s₁ s s' f}, t.openWrite path s₀ = (.ok sink, s₁) →
    sink.finish s = (.error f, s') → view.Kept s s'
  closed : ∀ {s s' r}, t.close s = (r, s') → view.Kept s s'

/-- The machines that can be connected are held in memory, each under its name. -/
structure Connector.InMemory (view : View σ) (connector : Connector σ) : Prop where
  kept : ∀ {name m s s' target notes}, connector name m s = ⟨target, s', notes⟩ → view.Kept s s'
  target : ∀ {name m s s' t notes}, connector name m s = ⟨.ok t, s', notes⟩ → t.InMemory view name

namespace Target.InMemory

variable {view : View σ} {name : String} {t : Target σ} {s s' : σ}

theorem kept_of_uses (ht : t.InMemory view name) {op : Op σ α} {x : Except Fault α}
    (hop : op.Uses t (¬ ·.Finishes)) (h : op s = (x, s')) : view.Kept s s' := by
  have hkept : ∀ {call s₁ s₂}, t.Performs call s₁ s₂ → ¬ call.Finishes →
      view.Kept s s₁ → view.Kept s s₂ := fun hcall hne hs => hs.trans (ht.kept hcall hne)
  exact hop.keeps hkept h (.refl s)

/-- A copy that succeeds stores what the source holds. -/
theorem stored_of_deliver (ht : t.InMemory view name) {source destination : String} {size : Nat}
    (h : deliver view.disk t source destination s = (.ok size, s')) :
    ∃ content, (view.disk s).read ((view.disk s).expand source) = .ok content ∧
      view.Stored name destination content s s' := by
  obtain ⟨loc, s₁, hlook, h⟩ := Op.bind_ok h
  obtain ⟨hloc, rfl⟩ := Op.look_eq hlook
  obtain ⟨sink, s₂, hopen, h⟩ := Op.bind_ok h
  obtain ⟨content, s₃, hlook', h⟩ := Op.bind_ok h
  obtain ⟨hcontent, rfl⟩ := Op.look_eq hlook'
  obtain ⟨_, s₄, hsend, h⟩ := Op.bind_ok h
  obtain ⟨_, s₅, hfinish, h⟩ := Op.bind_ok h
  cases h
  have hopened : view.Kept s s₂ := ht.kept_of_uses (.one (.openWrite destination) id) hopen
  have hsent : view.Kept s₂ s₄ := ht.kept_of_uses (.send hopen _) hsend
  obtain ⟨blocks, hgiven, rfl⟩ := Sink.given_of_sendAll hsend
  refine ⟨_, ?_, (hopened.trans hsent).stored (ht.finished hopen hgiven hfinish)⟩
  rw [hopened.disk] at hcontent
  simp only [Disk.read, ok_of_mapError hloc, ok_of_mapError hcontent]

/-- A copy that fails, wherever it does, changes nothing. -/
theorem kept_of_deliver (ht : t.InMemory view name) {source destination : String} {f : Fault}
    (h : deliver view.disk t source destination s = (.error f, s')) : view.Kept s s' := by
  rcases Op.bind_error h with h | ⟨loc, s₁, hlook, h⟩
  · exact ht.kept_of_uses (.look _) h
  obtain ⟨-, rfl⟩ := Op.look_eq hlook
  rcases Op.bind_error h with h | ⟨sink, s₂, hopen, h⟩
  · exact ht.kept_of_uses (.one (.openWrite destination) id) h
  have hopened : view.Kept s s₂ := ht.kept_of_uses (.one (.openWrite destination) id) hopen
  refine hopened.trans ?_
  rcases Op.bind_error h with h | ⟨content, s₃, hlook', h⟩
  · exact ht.kept_of_uses (.look _) h
  obtain ⟨-, rfl⟩ := Op.look_eq hlook'
  rcases Op.bind_error h with h | ⟨_, s₄, hsend, h⟩
  · exact ht.kept_of_uses (.send hopen _) h
  have hsent : view.Kept s₂ s₄ := ht.kept_of_uses (.send hopen _) hsend
  refine hsent.trans ?_
  rcases Op.bind_error h with h | ⟨_, _, _, h⟩
  · exact ht.unfinished hopen h
  · cases h

end Target.InMemory

/-! ### Sites -/

theorem Target.Performs.of_on {τ : Type} {part : τ → σ} {replace : σ → τ → τ} {t : Target σ}
    {call : Call} {x x' : τ} (h : (t.on part replace).Performs call x x') :
    ∃ s', t.Performs call (part x) s' ∧ x' = replace s' x := by
  cases h with
  | openRead path =>
    refine ⟨_, .openRead path _, ?_⟩
    rcases hopen : t.openRead path (part x) with ⟨f | content, s'⟩ <;>
      simp [Target.on, Op.bind_apply, Op.on, Op.pure_apply, hopen]
  | openWrite path =>
    refine ⟨_, .openWrite path _, ?_⟩
    rcases hopen : t.openWrite path (part x) with ⟨f | sink, s'⟩ <;>
      simp [Target.on, Op.bind_apply, Op.on, Op.pure_apply, hopen]
  | write block _ hopen =>
    obtain ⟨sink, _, hopen', rfl, -⟩ := Target.openWrite_on hopen
    exact ⟨_, .write block _ hopen', rfl⟩
  | finish _ hopen =>
    obtain ⟨sink, _, hopen', rfl, -⟩ := Target.openWrite_on hopen
    exact ⟨_, .finish _ hopen', rfl⟩
  | digest path => exact ⟨_, .digest path _, rfl⟩
  | search path pattern => exact ⟨_, .search path pattern _, rfl⟩

namespace Memory

def holding (m : Memory) : Holding := ⟨fun path => m.files.lookup path, m.writes⟩

theorem holding_store (m : Memory) (path : String) (content : Bytes) :
    (m.store path content).holding = m.holding.store path content := by
  simp only [holding, store, Holding.store, Named.lookup_insert]

section Calls

variable {matcher : Matcher} {name path : String} {call : Call} {m m' : Memory}

theorem target_openRead (matcher : Matcher) (name path : String) (m : Memory) :
    (target matcher name).openRead path m =
      ((m.content path).map fun content => pure content, m) := by
  rcases hcontent : m.content path with f | content <;>
    simp [target, Op.bind_apply, Op.look, Op.pure_apply, hcontent, Except.map]

/-- Calls that do not write leave a machine in memory as it is. -/
theorem same_of_performs (h : (target matcher name).Performs call m m') (hcall : ¬ call.Writes) :
    m' = m := by
  cases h with
  | openRead path => rw [target_openRead]
  | digest _ | search _ _ => rfl
  | openWrite _ | write _ _ _ | finish _ _ => exact absurd trivial hcall

/-- Up to the end of a sink, what is written is in its buffer only. -/
theorem holding_of_performs (h : (target matcher name).Performs call m m')
    (hcall : ¬ call.Finishes) : m'.holding = m.holding := by
  by_cases hwrites : call.Writes
  · cases h with
    | openWrite path =>
      simp only [target]
      split <;> rfl
    | write block _ hopen =>
      obtain ⟨rfl, -⟩ := openWrite_ok hopen
      simp only [sink]
      split <;> rfl
    | finish _ hopen => exact absurd trivial hcall
    | openRead | digest | search => exact hwrites.elim
  · rw [same_of_performs h hwrites]

end Calls

section Sinks

variable {path : String} {number : Nat} {blocks : List Bytes} {m m' : Memory}

theorem buffer_of_write {block content : Bytes}
    (h : (sink path number).write block m = (.ok (), m'))
    (hbuffer : m.buffers[number]? = some content) :
    m'.buffers[number]? = some (content ++ block) := by
  simp only [sink] at h
  split at h
  · cases h
  · cases h
    rw [List.getElem?_modify_eq, hbuffer]
    rfl

theorem buffer_of_given (h : (sink path number).Given blocks m m') {content : Bytes}
    (hbuffer : m.buffers[number]? = some content) :
    m'.buffers[number]? = some (content ++ blocks.flatten) := by
  induction h generalizing content with
  | nil => rw [List.flatten_nil, List.append_nil, hbuffer]
  | cons hwrite _ ih =>
    rw [ih (buffer_of_write hwrite hbuffer), List.flatten_cons, List.append_assoc]

theorem finish_ok {content : Bytes} (h : (sink path number).finish m = (.ok (), m'))
    (hbuffer : m.buffers[number]? = some content) : m' = m.store path content := by
  simp only [sink, hbuffer, Option.getD_some] at h
  split at h
  · cases h
  · cases h
    rfl

theorem finish_error {f : Fault} (h : (sink path number).finish m = (.error f, m')) : m' = m := by
  simp only [sink] at h
  split at h
  · cases h
    rfl
  · cases h

/-- What a sink has been given since it was opened is what it stores. -/
theorem finish_given {matcher : Matcher} {name : String} {sink : Sink Memory} {m₀ m₁ : Memory}
    (hopen : (target matcher name).openWrite path m₀ = (.ok sink, m₁))
    (hgiven : sink.Given blocks m₁ m) (h : sink.finish m = (.ok (), m')) :
    m' = m.store path blocks.flatten := by
  obtain ⟨rfl, rfl⟩ := openWrite_ok hopen
  have hbuffer : (m₀.buffers ++ [[]])[m₀.buffers.length]? = some [] := by simp
  exact finish_ok h (buffer_of_given hgiven hbuffer)

end Sinks

theorem holding_close (matcher : Matcher) (name : String) (m : Memory) :
    ((target matcher name).close m).2.holding = m.holding := by
  simp only [target]
  split <;> rfl

end Memory

namespace Site

def view : View Site := ⟨disk, fun name s => (s.memories.lookup name).map Memory.holding⟩

variable {name : String} {m : Memory} {s : Site}

theorem lookup_setMemory (other name : String) (m : Memory) (s : Site) :
    (setMemory name m s).memories.lookup other =
      if other = name then (s.memories.lookup other).map fun _ => m else s.memories.lookup other :=
  Named.lookup_replace other name m s.memories

@[simp] theorem there_setMemory (other name : String) (m : Memory) (s : Site) :
    ((setMemory name m s).memories.lookup other).isSome = (s.memories.lookup other).isSome := by
  rw [lookup_setMemory]
  split <;> simp

theorem memory_setMemory (m : Memory) (hthere : (s.memories.lookup name).isSome) :
    memory name (setMemory name m s) = m := by
  obtain ⟨before, hbefore⟩ := Option.isSome_iff_exists.mp hthere
  simp only [memory, lookup_setMemory, if_pos, hbefore, Option.map_some, Option.getD_some]

theorem kept_setMemory (h : m.holding = (memory name s).holding) :
    view.Kept s (setMemory name m s) where
  disk := rfl
  held other := by
    simp only [view, lookup_setMemory]
    split
    · subst other
      rw [memory] at h
      cases hm : s.memories.lookup name with
      | none => rfl
      | some before => simpa [hm] using h
    · rfl

theorem stored_setMemory {path : String} {content : Bytes}
    (h : (s.memories.lookup name).isSome → m = (memory name s).store path content) :
    view.Stored name path content s (setMemory name m s) where
  disk := rfl
  here := by
    simp only [view, lookup_setMemory, if_pos]
    rw [memory] at h
    cases hm : s.memories.lookup name with
    | none => rfl
    | some before =>
      have hstore := h (by rw [hm, Option.isSome_some])
      simp [hstore, hm, Memory.holding_store]
  elsewhere other hne := by simp only [view, lookup_setMemory, if_neg hne]

/-- A sink on a machine that is there has been given what the sink of that machine has. -/
theorem given_of_on {sink : Sink Memory} {blocks : List Bytes} {s s' : Site}
    (h : (sink.on (memory name) (setMemory name)).Given blocks s s') :
    (s'.memories.lookup name).isSome = (s.memories.lookup name).isSome ∧
      ((s.memories.lookup name).isSome → sink.Given blocks (memory name s) (memory name s')) := by
  induction h with
  | nil => exact ⟨rfl, fun _ => .nil⟩
  | @cons block blocks s s₁ s' hwrite _ ih =>
    obtain ⟨hresult, rfl⟩ := Prod.mk.inj hwrite
    obtain ⟨hsame, hrest⟩ := ih
    rw [there_setMemory] at hsame hrest
    refine ⟨hsame, fun hthere => ?_⟩
    have hrest := hrest hthere
    rw [memory_setMemory _ hthere] at hrest
    exact .cons (Prod.ext hresult rfl) hrest

theorem target_inMemory (matcher : Matcher) (name : String) :
    (target matcher name).InMemory view name where
  kept h hcall := by
    obtain ⟨m', hperforms, rfl⟩ := h.of_on
    exact kept_setMemory (Memory.holding_of_performs hperforms hcall)
  finished hopen hgiven h := by
    obtain ⟨sink, m₁, hopen', rfl, rfl⟩ := Target.openWrite_on hopen
    obtain ⟨hresult, rfl⟩ := Prod.mk.inj h
    obtain ⟨hsame, hgiven⟩ := given_of_on hgiven
    rw [there_setMemory] at hsame hgiven
    refine stored_setMemory fun hthere => ?_
    rw [hsame] at hthere
    have hgiven := hgiven hthere
    rw [memory_setMemory _ hthere] at hgiven
    exact Memory.finish_given hopen' hgiven (Prod.ext hresult rfl)
  unfinished hopen h := by
    obtain ⟨sink, _, hopen', rfl, -⟩ := Target.openWrite_on hopen
    obtain ⟨rfl, -⟩ := Memory.openWrite_ok hopen'
    obtain ⟨hresult, rfl⟩ := Prod.mk.inj h
    exact kept_setMemory (congrArg Memory.holding (Memory.finish_error (Prod.ext hresult rfl)))
  closed h := by
    obtain ⟨-, rfl⟩ := Prod.mk.inj h
    exact kept_setMemory (Memory.holding_close matcher name _)

theorem connector_inMemory (matcher : Matcher) : (connector matcher).InMemory view where
  kept h := by
    obtain rfl := congrArg Connection.world h
    exact .refl _
  target h := by
    obtain ⟨-, rfl, -⟩ := connector_ok h
    exact target_inMemory matcher _

end Site

end Upkeep
