import Upkeep.Proofs.Holdings
import Upkeep.Proofs.Visits

/-!
Machines that have nothing in common but the local files. What is done on one of them depends on its
own state and changes nothing else, wherever it ends.
-/

set_option autoImplicit false

namespace Upkeep

variable {σ κ α β : Type}

/-- What there is to a world: the local files, and a state for each machine. -/
structure Partition (σ κ : Type) where
  disk : σ → Disk
  state : (name : String) → σ → κ

namespace Partition

variable {parts : Partition σ κ} {name : String}

/-- Seen from one machine, two worlds are the same. -/
structure Alike (parts : Partition σ κ) (name : String) (s s' : σ) : Prop where
  disk : parts.disk s = parts.disk s'
  state : parts.state name s = parts.state name s'

/-- On the way from one world to another, nothing but one machine has changed. -/
structure Only (parts : Partition σ κ) (name : String) (s s' : σ) : Prop where
  disk : parts.disk s' = parts.disk s
  elsewhere : ∀ other, other ≠ name → parts.state other s' = parts.state other s

theorem Alike.refl (s : σ) : parts.Alike name s s := ⟨rfl, rfl⟩

theorem Alike.symm {s s' : σ} (h : parts.Alike name s s') : parts.Alike name s' s :=
  ⟨h.disk.symm, h.state.symm⟩

theorem Only.refl (s : σ) : parts.Only name s s := ⟨rfl, fun _ _ => rfl⟩

theorem Only.trans {s s₁ s' : σ} (h : parts.Only name s s₁) (h' : parts.Only name s₁ s') :
    parts.Only name s s' where
  disk := h'.disk.trans h.disk
  elsewhere other hne := (h'.elsewhere other hne).trans (h.elsewhere other hne)

theorem Only.alike {s s₀ s' : σ} (h : parts.Only name s s') {other : String} (hne : other ≠ name)
    (hs : parts.Alike other s₀ s) : parts.Alike other s₀ s' where
  disk := hs.disk.trans h.disk.symm
  state := hs.state.trans (h.elsewhere other hne).symm

/-- A step that goes by the state of one machine and changes nothing else. -/
structure Confines (parts : Partition σ κ) (name : String) (op : Op σ α) : Prop where
  alike : ∀ {s s₀}, parts.Alike name s s₀ →
    (op s).1 = (op s₀).1 ∧ parts.Alike name (op s).2 (op s₀).2
  only : ∀ s, parts.Only name s (op s).2

namespace Confines

theorem pure (x : α) : parts.Confines name (Pure.pure x : Op σ α) where
  alike hs := ⟨rfl, hs⟩
  only s := .refl s

theorem fail (f : Fault) : parts.Confines name (Op.fail f : Op σ α) where
  alike hs := ⟨rfl, hs⟩
  only s := .refl s

theorem look (f : Disk → Except Fault α) :
    parts.Confines name (Op.look fun s => f (parts.disk s)) where
  alike hs := ⟨congrArg f hs.disk, hs⟩
  only s := .refl s

theorem bind {op : Op σ α} {next : α → Op σ β} (hop : parts.Confines name op)
    (hnext : ∀ x s s', op s = (.ok x, s') → parts.Confines name (next x)) :
    parts.Confines name (op >>= next) := by
  constructor
  · intro s s₀ hs
    obtain ⟨hresult, hworlds⟩ := hop.alike hs
    rw [Op.bind_apply, Op.bind_apply]
    rcases h : op s with ⟨r, s₁⟩
    rcases h₀ : op s₀ with ⟨r₀, s₁₀⟩
    rw [h, h₀] at hresult hworlds
    obtain rfl : r = r₀ := hresult
    cases r with
    | error f => exact ⟨rfl, hworlds⟩
    | ok x => exact (hnext x s s₁ h).alike hworlds
  · intro s
    have honly := hop.only s
    rw [Op.bind_apply]
    rcases h : op s with ⟨f | x, s₁⟩
    · rwa [h] at honly
    · rw [h] at honly
      exact honly.trans ((hnext x s s₁ h).only s₁)

theorem transfer {op : Op σ α} (hop : parts.Confines name op) {s s' s₀ : σ} {r : Except Fault α}
    (h : op s = (r, s')) (hs : parts.Alike name s s₀) :
    ∃ s₀', op s₀ = (r, s₀') ∧ parts.Alike name s' s₀' := by
  obtain ⟨hresult, hworlds⟩ := hop.alike hs
  rw [h] at hresult hworlds
  exact ⟨(op s₀).2, Prod.ext hresult.symm rfl, hworlds⟩

theorem only_of_eq {op : Op σ α} (hop : parts.Confines name op) {s s' : σ} {r : Except Fault α}
    (h : op s = (r, s')) : parts.Only name s s' := by
  have honly := hop.only s
  rwa [h] at honly

end Confines

end Partition

/-- All that can be done on the machine of this name is confined to it. -/
structure Target.Confined (parts : Partition σ κ) (name : String) (t : Target σ) : Prop where
  openRead : ∀ path, parts.Confines name (t.openRead path)
  openWrite : ∀ path, parts.Confines name (t.openWrite path)
  write : ∀ {path sink s s'}, t.openWrite path s = (.ok sink, s') → ∀ block,
    parts.Confines name (sink.write block)
  finish : ∀ {path sink s s'}, t.openWrite path s = (.ok sink, s') →
    parts.Confines name sink.finish
  digest : ∀ path, parts.Confines name (t.digest path)
  search : ∀ path pattern, parts.Confines name (t.search path pattern)
  close : parts.Confines name t.close

/-- Every machine has a state of its own, and so has the way to connect to it. -/
structure Connector.Separate (parts : Partition σ κ) (connector : Connector σ) : Prop where
  connect : ∀ name m,
    parts.Confines name fun s => ((connector name m s).target, (connector name m s).world)
  target : ∀ {name m s s' t notes}, connector name m s = ⟨.ok t, s', notes⟩ →
    t.Confined parts name

/-! ### One machine -/

namespace Target.Confined

variable {parts : Partition σ κ} {name : String} {t : Target σ}

theorem present (ht : t.Confined parts name) (path : String) :
    parts.Confines name (t.exists path) := by
  have hopen := ht.openRead path
  constructor
  · intro s s₀ hs
    obtain ⟨hresult, hworlds⟩ := hopen.alike hs
    unfold Target.exists
    rcases h : t.openRead path s with ⟨r, s₁⟩
    rcases h₀ : t.openRead path s₀ with ⟨r₀, s₁₀⟩
    rw [h, h₀] at hresult hworlds
    obtain rfl : r = r₀ := hresult
    cases r <;> exact ⟨rfl, hworlds⟩
  · intro s
    have honly := hopen.only s
    unfold Target.exists
    rcases h : t.openRead path s with ⟨f | _, s₁⟩ <;> rwa [h] at honly

theorem send (ht : t.Confined parts name) {path : String} {sink : Sink σ} {s s' : σ}
    (hopen : t.openWrite path s = (.ok sink, s')) (blocks : List Bytes) :
    parts.Confines name (sink.send blocks) := by
  induction blocks with
  | nil => exact .pure ()
  | cons block blocks ih => exact .bind (ht.write hopen block) fun _ _ _ _ => ih

theorem check (ht : t.Confined parts name) (c : Condition) :
    parts.Confines name (c.check parts.disk t) := by
  unfold Condition.check
  cases c.kind with
  | fileExists => exact ht.present c.filePath
  | fileAbsent => exact .bind (ht.present c.filePath) fun _ _ _ _ => .pure _
  | hashEquals => exact .bind (ht.digest c.filePath) fun _ _ _ _ => .pure _
  | matchesLocalFile =>
    refine .bind (ht.present c.filePath) fun there _ _ _ => ?_
    cases there with
    | true =>
      refine .bind (.look fun disk => disk.digest c.basePath) fun _ _ _ _ => ?_
      exact .bind (ht.digest c.filePath) fun _ _ _ _ => .pure _
    | false => exact .pure _
  | regexMatches => exact ht.search c.filePath c.regex
  | unknown kind => exact .fail _

theorem deliver (ht : t.Confined parts name) (source destination : String) :
    parts.Confines name (Upkeep.deliver parts.disk t source destination) := by
  refine .bind (.look fun disk => (disk.openRead (disk.expand source)).mapError .io)
    fun loc _ _ _ => ?_
  refine .bind (ht.openWrite destination) fun sink _ _ hopen => ?_
  refine .bind (.look fun disk => (disk.contentAt loc).mapError .io) fun content _ _ _ => ?_
  refine .bind (ht.send hopen _) fun _ _ _ _ => ?_
  exact .bind (ht.finish hopen) fun _ _ _ _ => .pure _

end Target.Confined

section Records

variable {parts : Partition σ κ} {name : String} {t : Target σ} {d : Nat} {task : Task}
  {s s' : σ} {record : Record} {r : Except Fault Unit}

/-- Where the machine is in the same state, a task leaves the same record. -/
theorem Recorded.alike (ht : t.Confined parts name)
    (h : Recorded parts.disk t d task s record r s') {s₀ : σ} (hs : parts.Alike name s s₀) :
    ∃ s₀', Recorded parts.disk t d task s₀ record r s₀' ∧ parts.Alike name s' s₀' := by
  induction h generalizing s₀ with
  | done => exact ⟨s₀, .done, hs⟩
  | next _ _ ihFirst ihRest =>
    obtain ⟨s₁, hfirst, hs₁⟩ := ihFirst hs
    obtain ⟨s₀', hrest, hs'⟩ := ihRest hs₁
    exact ⟨s₀', .next hfirst hrest, hs'⟩
  | stop _ ih =>
    obtain ⟨s₀', hstop, hs'⟩ := ih hs
    exact ⟨s₀', .stop hstop, hs'⟩
  | unanswered hc =>
    obtain ⟨s₀', hc', hs'⟩ := (ht.check _).transfer hc hs
    exact ⟨s₀', .unanswered hc', hs'⟩
  | holds hc =>
    obtain ⟨s₀', hc', hs'⟩ := (ht.check _).transfer hc hs
    exact ⟨s₀', .holds hc', hs'⟩
  | remedied hc _ ih =>
    obtain ⟨s₁, hc', hs₁⟩ := (ht.check _).transfer hc hs
    obtain ⟨s₀', hremedy, hs'⟩ := ih hs₁
    exact ⟨s₀', .remedied hc' hremedy, hs'⟩
  | unset => exact ⟨s₀, .unset, hs⟩
  | fail => exact ⟨s₀, .fail, hs⟩
  | copied hc =>
    obtain ⟨s₀', hc', hs'⟩ := (ht.deliver _ _).transfer hc hs
    exact ⟨s₀', .copied hc', hs'⟩
  | notCopied hc =>
    obtain ⟨s₀', hc', hs'⟩ := (ht.deliver _ _).transfer hc hs
    exact ⟨s₀', .notCopied hc', hs'⟩
  | nested hd _ ih =>
    obtain ⟨s₀', hset, hs'⟩ := ih hs
    exact ⟨s₀', .nested hd hset, hs'⟩
  | tooDeep hd => exact ⟨s₀, .tooDeep hd, hs⟩
  | unrecognised => exact ⟨s₀, .unrecognised, hs⟩

theorem Recorded.only (ht : t.Confined parts name)
    (h : Recorded parts.disk t d task s record r s') : parts.Only name s s' := by
  induction h with
  | done | unset | fail | tooDeep _ | unrecognised => exact .refl _
  | next _ _ ihFirst ihRest => exact ihFirst.trans ihRest
  | stop _ ih | nested _ _ ih => exact ih
  | unanswered hc | holds hc => exact (ht.check _).only_of_eq hc
  | remedied hc _ ih => exact ((ht.check _).only_of_eq hc).trans ih
  | copied hc | notCopied hc => exact (ht.deliver _ _).only_of_eq hc

end Records

section Stays

variable {parts : Partition σ κ} {connector : Connector σ} {groups : List Group}
  {stay : Stay σ} {s s' : σ}

/-- A machine can be stayed at in one way only. -/
theorem Stay.Happened.unique {disk : σ → Disk} {stay' : Stay σ} {s'' : σ}
    (h : stay.Happened disk connector groups s s')
    (h' : stay'.Happened disk connector groups s s'') (hmachine : stay.machine = stay'.machine) :
    stay = stay' ∧ s' = s'' := by
  cases h with
  | refused hc =>
    cases h' with
    | refused hc' =>
      cases hmachine
      cases hc.symm.trans hc'
      exact ⟨rfl, rfl⟩
    | served hc' _ _ =>
      cases hmachine
      cases hc.symm.trans hc'
  | served hc hrec hclose =>
    cases h' with
    | refused hc' =>
      cases hmachine
      cases hc.symm.trans hc'
    | served hc' hrec' hclose' =>
      cases hmachine
      cases hc.symm.trans hc'
      obtain ⟨rfl, rfl, rfl⟩ := hrec.unique hrec'
      cases hclose.symm.trans hclose'
      exact ⟨rfl, rfl⟩

theorem Connector.Separate.transfer (hc : connector.Separate parts) {name : String} {m : Machine}
    {target : Except Fault (Target σ)} {notes : List Note} {s₀ : σ}
    (h : connector name m s = ⟨target, s', notes⟩) (hs : parts.Alike name s s₀) :
    (∃ s₀' notes', connector name m s₀ = ⟨target, s₀', notes'⟩ ∧ parts.Alike name s' s₀') ∧
      parts.Only name s s' := by
  have hconnect := hc.connect name m
  have honly := hconnect.only s
  obtain ⟨hresult, hworlds⟩ := hconnect.alike hs
  simp only [h] at hresult hworlds honly
  refine ⟨⟨_, (connector name m s₀).notes, ?_, hworlds⟩, honly⟩
  rw [hresult]

theorem Stay.Happened.alike (hc : connector.Separate parts)
    (h : stay.Happened parts.disk connector groups s s') {s₀ : σ}
    (hs : parts.Alike stay.machine.1 s s₀) :
    ∃ s₀', stay.Happened parts.disk connector groups s₀ s₀' ∧
      parts.Alike stay.machine.1 s' s₀' := by
  cases h with
  | refused hconnect =>
    obtain ⟨⟨s₀', notes', hconnect', hs'⟩, -⟩ := hc.transfer hconnect hs
    exact ⟨s₀', .refused hconnect', hs'⟩
  | served hconnect hrec hclose =>
    have ht := hc.target hconnect
    obtain ⟨⟨s₁, notes', hconnect', hs₁⟩, -⟩ := hc.transfer hconnect hs
    obtain ⟨s₂, hrec', hs₂⟩ := hrec.alike ht hs₁
    obtain ⟨s₀', hclose', hs'⟩ := ht.close.transfer hclose hs₂
    exact ⟨s₀', .served hconnect' hrec' hclose', hs'⟩

theorem Stay.Happened.only (hc : connector.Separate parts)
    (h : stay.Happened parts.disk connector groups s s') :
    parts.Only stay.machine.1 s s' := by
  cases h with
  | refused hconnect => exact (hc.transfer hconnect (.refl s)).2
  | served hconnect hrec hclose =>
    have ht := hc.target hconnect
    have hconnected := (hc.transfer hconnect (.refl s)).2
    exact (hconnected.trans (hrec.only ht)).trans (ht.close.only_of_eq hclose)

end Stays

/-! ### Sites -/

namespace Named

theorem contains_names (name : String) (m : Named α) :
    m.names.contains name = (m.lookup name).isSome := by
  induction m with
  | nil => rfl
  | cons first rest ih =>
    obtain ⟨other, x⟩ := first
    rw [lookup_cons]
    by_cases h : name = other
    · simp [names, h]
    · rw [if_neg h, ← ih]
      simp [names, h]

end Named

namespace Site

/-- Each machine of a site is held in a memory of its own. -/
def parts : Partition Site (Option Memory) := ⟨disk, fun name s => s.memories.lookup name⟩

theorem confines_on {name : String} (op : Op Memory α) :
    parts.Confines name (op.on (memory name) (setMemory name)) where
  alike := by
    intro s s₀ hs
    have hlookup : s.memories.lookup name = s₀.memories.lookup name := hs.state
    have hmemory : memory name s = memory name s₀ := by simp only [memory, hlookup]
    refine ⟨by simp only [Op.on, hmemory], hs.disk, ?_⟩
    simp only [parts, Op.on, lookup_setMemory, if_pos, hmemory, hlookup]
  only s := ⟨rfl, fun other hne => by simp only [parts, Op.on, lookup_setMemory, if_neg hne]⟩

theorem target_confined (matcher : Matcher) (name : String) :
    (target matcher name).Confined parts name where
  openRead path := .bind (confines_on _) fun _ _ _ _ => .pure _
  openWrite path := .bind (confines_on _) fun _ _ _ _ => .pure _
  write hopen block := by
    obtain ⟨sink, _, _, rfl, -⟩ := Target.openWrite_on hopen
    exact confines_on _
  finish hopen := by
    obtain ⟨sink, _, _, rfl, -⟩ := Target.openWrite_on hopen
    exact confines_on _
  digest path := confines_on _
  search path pattern := confines_on _
  close := confines_on _

theorem connector_separate (matcher : Matcher) : (connector matcher).Separate parts where
  connect name m := by
    constructor
    · intro s s₀ hs
      have hlookup : s.memories.lookup name = s₀.memories.lookup name := hs.state
      refine ⟨?_, hs⟩
      simp only [connector, Named.contains_names, hlookup]
    · exact fun s => .refl s
  target h := by
    obtain ⟨-, rfl, -⟩ := connector_ok h
    exact target_confined matcher _

end Site

end Upkeep
