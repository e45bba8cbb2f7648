import Mathlib.Data.List.Basic
import Upkeep.Proofs.Deliveries
import Upkeep.Proofs.Digests
import Upkeep.Proofs.Inquiries
import Upkeep.Proofs.Order
import Upkeep.Proofs.Within

/-!
Applying a group twice. Where each assertion brings a file of its own, and what it brings last is
what it asks for, a group that has been applied without a fault holds: applied once more, it changes
nothing.
-/

set_option autoImplicit false

namespace Upkeep

variable {σ : Type}

/-! ### Machines on which nothing fails -/

def Holding.content (held : Holding) (path : String) : Except Fault Bytes :=
  match held.files path with
  | some content => .ok content
  | none => .error (.notFound path)

/-- In this world the machine answers from what it holds: it opens the files that are there, gives
their digests, and tells what patterns find in them. -/
structure Target.Answers (t : Target σ) (matcher : Matcher) (held : Holding) (s : σ) : Prop where
  opened : ∀ path, (t.openRead path s).1.map (fun _ => ()) = (held.content path).map fun _ => ()
  digest : ∀ path, (t.digest path s).1 = (held.content path).map MD5.digest
  search : ∀ path pattern, (t.search path pattern s).1 =
    match matcher pattern with
    | .error cause => .error (.io cause)
    | .ok finds => (held.content path).map finds

/-- However the machine of this name is used from here on, it answers from what it then holds. -/
def Target.Truthful (t : Target σ) (view : View σ) (name : String) (matcher : Matcher) (s : σ) :
    Prop :=
  ∀ calls s' held, t.PerformsAll calls s s' → view.held name s' = some held →
    t.Answers matcher held s'

namespace Target.Truthful

variable {α : Type} {t : Target σ} {view : View σ} {name : String} {matcher : Matcher} {s s' : σ}

theorem answers {held : Holding} (h : t.Truthful view name matcher s)
    (hheld : view.held name s = some held) : t.Answers matcher held s :=
  h [] s held .nil hheld

theorem of_performs {call : Call} (hcall : t.Performs call s s')
    (h : t.Truthful view name matcher s) : t.Truthful view name matcher s' :=
  fun calls _ held hcalls hheld => h (call :: calls) _ held (.cons hcall hcalls) hheld

theorem of_uses {allowed : Call → Prop} {op : Op σ α} (hop : op.Uses t allowed)
    {r : Except Fault α} (hr : op s = (r, s')) (h : t.Truthful view name matcher s) :
    t.Truthful view name matcher s' := by
  have hkeeps : ∀ {call s s'}, t.Performs call s s' → allowed call →
      t.Truthful view name matcher s → t.Truthful view name matcher s' :=
    fun hcall _ hs => of_performs hcall hs
  exact hop.keeps hkeeps hr h

end Target.Truthful

namespace Memory

/-- No operation has been made to fail, and all digests are the true ones. -/
structure Faultless (m : Memory) : Prop where
  broken : m.broken = []
  readOnly : m.readOnly = []
  full : m.full = []
  unfinishable : m.unfinishable = []
  badPatterns : m.badPatterns = []
  digests : m.digests = []

namespace Faultless

variable {m m' : Memory}

theorem empty : Faultless {} := ⟨rfl, rfl, rfl, rfl, rfl, rfl⟩

theorem buffered (h : m.Faultless) (buffers : List Bytes) :
    { m with buffers := buffers }.Faultless :=
  ⟨h.broken, h.readOnly, h.full, h.unfinishable, h.badPatterns, h.digests⟩

theorem store (h : m.Faultless) (path : String) (content : Bytes) :
    (m.store path content).Faultless :=
  ⟨h.broken, h.readOnly, h.full, h.unfinishable, h.badPatterns, h.digests⟩

theorem performs {matcher : Matcher} {name : String} {call : Call} (h : m.Faultless)
    (hcall : (target matcher name).Performs call m m') : m'.Faultless := by
  by_cases hwrites : call.Writes
  · cases hcall with
    | openWrite path =>
      simp only [target]
      split
      · exact h
      · exact h.buffered _
    | write block _ hopen =>
      obtain ⟨rfl, -⟩ := openWrite_ok hopen
      simp only [sink]
      split
      · exact h
      · exact h.buffered _
    | finish _ hopen =>
      obtain ⟨rfl, -⟩ := openWrite_ok hopen
      simp only [sink]
      split
      · exact h
      · exact h.store _ _
    | openRead | digest | search => exact hwrites.elim
  · rwa [same_of_performs hcall hwrites]

theorem content_eq (h : m.Faultless) (path : String) : m.content path = m.holding.content path := by
  unfold Memory.content Holding.content
  rw [h.broken]
  rfl

theorem answers (h : m.Faultless) (matcher : Matcher) (name : String) :
    (target matcher name).Answers matcher m.holding m where
  opened path := by
    rw [target_openRead, h.content_eq]
    cases m.holding.content path <;> rfl
  digest path := by
    change m.digest path = _
    unfold Memory.digest
    rw [h.content_eq, h.digests]
    cases m.holding.content path <;> rfl
  search path pattern := by
    change m.search matcher path pattern = _
    unfold Memory.search
    rw [h.content_eq, h.badPatterns]
    rfl

end Faultless

end Memory

namespace Site

variable {matcher : Matcher} {name : String} {s s' : Site}

theorem memory_eq_of_held {held : Holding} (h : view.held name s = some held) :
    (s.memories.lookup name).isSome ∧ held = (memory name s).holding := by
  obtain ⟨m, hm, rfl⟩ := Option.map_eq_some_iff.mp h
  exact ⟨by rw [hm, Option.isSome_some], by rw [memory, hm, Option.getD_some]⟩

theorem faultless_of_performs {call : Call} (h : (target matcher name).Performs call s s')
    (hs : (memory name s).Faultless) : (memory name s').Faultless := by
  obtain ⟨m', hperforms, rfl⟩ := h.of_on
  cases hm : s.memories.lookup name with
  | none =>
    simp only [memory, lookup_setMemory, if_pos, hm, Option.map_none]
    exact .empty
  | some m =>
    rw [memory_setMemory _ (Option.isSome_iff_exists.mpr ⟨m, hm⟩)]
    exact hs.performs hperforms

theorem answers_of_memory {held : Holding}
    (h : (Memory.target matcher name).Answers matcher held (memory name s)) :
    (target matcher name).Answers matcher held s where
  opened path := by
    rw [← h.opened path]
    rcases hopen : (Memory.target matcher name).openRead path (memory name s) with ⟨f | _, m'⟩ <;>
      simp [Target.on, Op.bind_apply, Op.on, Op.pure_apply, hopen, Except.map]
  digest := h.digest
  search := h.search

/-- A machine of a site is truthful as long as nothing has been made to fail there. -/
theorem target_truthful (matcher : Matcher) (hs : (memory name s).Faultless) :
    (target matcher name).Truthful view name matcher s := by
  intro calls s' held hcalls hheld
  have hs' : (memory name s').Faultless := by
    clear hheld
    induction hcalls with
    | nil => exact hs
    | cons hcall _ ih => exact ih (faultless_of_performs hcall hs)
  obtain ⟨-, rfl⟩ := memory_eq_of_held hheld
  exact answers_of_memory (hs'.answers matcher name)

end Site

/-! ### What is asked for -/

/-- What must be true of a file for a condition to hold of it. -/
def Condition.HoldsOf (matcher : Matcher) (d : Disk) (c : Condition) (file : Option Bytes) : Prop :=
  match c.kind with
  | .fileExists => file.isSome
  | .fileAbsent => file = none
  | .hashEquals => ∃ content, file = some content ∧
    Hex.decode (Text.trim c.hash) = .ok (MD5.digest content)
  | .matchesLocalFile => ∃ content, file = some content ∧
    d.digest c.basePath = .ok (MD5.digest content)
  | .regexMatches => ∃ content, file = some content ∧
    ∃ finds, matcher c.regex = .ok finds ∧ finds content
  | .unknown _ => False

/-- What must be true of a content for the file to be as a condition asks. -/
def Condition.MetBy (matcher : Matcher) (d : Disk) (c : Condition) (content : Bytes) : Prop :=
  match c.kind with
  | .fileExists => True
  | .hashEquals => Hex.decode (Text.trim c.hash) = .ok (MD5.digest content)
  | .matchesLocalFile => d.read (d.expand c.basePath) = .ok content
  | .regexMatches => ∃ finds, matcher c.regex = .ok finds ∧ finds content
  | .fileAbsent | .unknown _ => False

theorem Condition.holdsOf_of_metBy {matcher : Matcher} {d : Disk} {c : Condition} {content : Bytes}
    (h : c.MetBy matcher d content) : c.HoldsOf matcher d (some content) := by
  unfold MetBy at h
  unfold HoldsOf
  cases hk : c.kind <;> simp only [hk] at h ⊢
  case fileExists => rfl
  case hashEquals => exact ⟨content, rfl, h⟩
  case matchesLocalFile => exact ⟨content, rfl, Disk.digest_of_read h⟩
  case regexMatches => exact ⟨content, rfl, h⟩

section Machines

variable {view : View σ} {name : String} {matcher : Matcher} {t : Target σ} {s s' : σ}
  {held : Holding}

theorem Target.Answers.present (h : t.Answers matcher held s) (path : String) :
    (t.exists path s).1 = .ok (held.files path).isSome := by
  rcases hopen : t.openRead path s with ⟨told, s'⟩
  have hopened := congrArg presence (h.opened path)
  rw [hopen, presence_map, presence_map] at hopened
  rw [Target.exists_eq hopen, hopened]
  unfold Holding.content
  cases held.files path <;> rfl

/-- What a machine answers once it has been looked whether a file is there. -/
theorem Target.Truthful.after_present (ht : t.InMemory view name)
    (h : t.Truthful view name matcher s) (hheld : view.held name s = some held) (path : String) :
    t.Answers matcher held (t.exists path s).2 ∧ view.disk (t.exists path s).2 = view.disk s := by
  rcases hpresent : t.exists path s with ⟨r, s₁⟩
  have hkept := ht.kept_of_uses (Op.Uses.present path).quiet hpresent
  have hafter := h.of_uses (.present path) hpresent
  exact ⟨hafter.answers ((hkept.held name).trans hheld), hkept.disk⟩

theorem Condition.check_iff (ht : t.InMemory view name) (h : t.Truthful view name matcher s)
    (hheld : view.held name s = some held) (c : Condition) :
    (c.check view.disk t s).1 = .ok true ↔
      c.HoldsOf matcher (view.disk s) (held.files c.filePath) := by
  have hanswers := h.answers hheld
  have hpresent := hanswers.present c.filePath
  have hdigest := hanswers.digest c.filePath
  have hsearch := hanswers.search c.filePath c.regex
  obtain ⟨hlater, hdisk⟩ := h.after_present ht hheld c.filePath
  have hafter := hlater.digest c.filePath
  unfold Condition.check Condition.HoldsOf
  unfold Holding.content at hdigest hsearch hafter
  cases hfile : held.files c.filePath with
  | none =>
    rw [hfile] at hpresent hdigest hsearch
    cases c.kind with
    | fileExists => simp [hpresent]
    | fileAbsent => simp [Op.bind_of_ok hpresent, Op.pure_apply]
    | hashEquals => simp [Op.bind_of_error hdigest]
    | matchesLocalFile => simp [Op.bind_of_ok hpresent, Op.pure_apply]
    | regexMatches =>
      cases hpattern : matcher c.regex <;> rw [hpattern] at hsearch <;>
        simp [hsearch, Except.map]
    | unknown kind => simp [Op.fail]
  | some content =>
    rw [hfile] at hpresent hdigest hsearch hafter
    cases c.kind with
    | fileExists => simp [hpresent]
    | fileAbsent => simp [Op.bind_of_ok hpresent, Op.pure_apply]
    | hashEquals => simp [Op.bind_of_ok hdigest, Op.pure_apply, isDigestOf_iff]
    | matchesLocalFile =>
      cases hlocal : (view.disk s).digest c.basePath with
      | error f => simp [Op.bind_of_ok hpresent, Op.look_bind, hdisk, hlocal]
      | ok expected =>
        simpa [Op.bind_of_ok hpresent, Op.look_bind, hdisk, hlocal, Op.bind_of_ok hafter,
          Op.pure_apply] using eq_comm
    | regexMatches =>
      cases hpattern : matcher c.regex <;> rw [hpattern] at hsearch <;>
        simp [hsearch, Except.map]
    | unknown kind => simp [Op.fail]

end Machines

/-! ### Remedies -/

/-- With the files of a disk, an assertion brings nothing but its own file, and what it brings last
is as it asks. -/
structure Assertion.Settling (matcher : Matcher) (d : Disk) (a : Assertion) : Prop where
  flat : ∀ assertions, .assert assertions ∉ a.actions
  own : ∀ source destination, .copyFile source destination ∈ a.actions →
    destination = a.condition.filePath
  last : ∀ before source destination after,
    a.actions = before ++ .copyFile source destination :: after →
    (∀ source' destination', .copyFile source' destination' ∉ after) →
    ∃ content, d.read (d.expand source) = .ok content ∧ a.condition.MetBy matcher d content

/-- Actions that are all taken, and among which there is no set, are copies. -/
theorem Recorded.actions_eq_copies {disk : σ → Disk} {t : Target σ} {d : Nat} {parent : String}
    {xs : List Action} {s s' : σ} {record : Record}
    (h : Recorded disk t d (.inTurn (xs.map (.action parent))) s record (.ok ()) s')
    (hflat : ∀ assertions, .assert assertions ∉ xs) (hset : .unset ∉ xs)
    (owner : Option Verdict) :
    xs = (record.deliveries owner).map fun c => .copyFile c.source c.destination := by
  induction xs generalizing s record with
  | nil =>
    cases h
    rfl
  | cons x xs ih =>
    cases h with
    | next hfirst hrest =>
      have htail := ih hrest (fun assertions hx => hflat assertions (.tail x hx))
        (fun hx => hset (.tail x hx))
      rw [Record.deliveries_append, List.map_append, ← htail]
      cases hfirst with
      | unset => exact absurd (.head _) hset
      | copied => rfl
      | nested => exact absurd (.head _) (hflat _)

/-- Once copies have been all of the actions, the assertion holds. -/
theorem Took.settles {matcher : Matcher} {d : Disk} {copies : List Delivery}
    {before after : Holding} {a : Assertion} (htook : Took d copies before after)
    (ha : a.Settling matcher d) (hacts : a.actions ≠ [])
    (hcopies : a.actions = copies.map fun c => .copyFile c.source c.destination) :
    a.condition.HoldsOf matcher d (after.files a.condition.filePath) ∧
      ∀ path, a.condition.filePath ≠ path → after.files path = before.files path := by
  have hown : ∀ c ∈ copies, c.destination = a.condition.filePath := by
    intro c hc
    apply ha.own c.source
    rw [hcopies]
    exact List.mem_map.mpr ⟨c, hc, rfl⟩
  constructor
  · rcases List.eq_nil_or_concat copies with rfl | ⟨earlier, c, rfl⟩
    · exact absurd hcopies hacts
    have hlast : a.actions = earlier.map (fun c => .copyFile c.source c.destination) ++
        .copyFile c.source c.destination :: [] := by
      rw [hcopies, List.concat_eq_append, List.map_append, List.map_singleton]
    obtain ⟨content, hread, hmet⟩ := ha.last _ _ _ _ hlast (by simp)
    obtain ⟨content', hread', hfile⟩ :=
      htook.last earlier c [] (List.concat_eq_append ..) (by simp)
    obtain rfl : content = content' := Except.ok.inj (hread.symm.trans hread')
    rw [← hown c (by simp), hfile]
    exact Condition.holdsOf_of_metBy hmet
  · intro path hne
    apply htook.untouched path
    intro c hc
    rwa [hown c hc]

section Records

variable {view : View σ} {name : String} {matcher : Matcher} {t : Target σ} {d : Nat}
  {group : String} {s s' : σ} {record : Record} {before : Holding}

/-- An assertion that has passed holds, whatever it was before, and other files are as they were. -/
theorem Recorded.settles {n : String} {a : Assertion} (ht : t.InMemory view name)
    (hs : t.Truthful view name matcher s) (hbefore : view.held name s = some before)
    (h : Recorded view.disk t d (.assertion group n a) s record (.ok ()) s')
    (ha : a.Settling matcher (view.disk s)) (hnormal : a.normalize = a) :
    ∃ after, view.held name s' = some after ∧
      a.condition.HoldsOf matcher (view.disk s) (after.files a.condition.filePath) ∧
      ∀ path, a.condition.filePath ≠ path → after.files path = before.files path := by
  have hdelivered := h.delivered ht none
  obtain ⟨after, hafter, htook⟩ := hdelivered.here before hbefore
  refine ⟨after, hafter, ?_⟩
  cases h with
  | holds hc =>
    have hfiles : after.files = before.files := by
      funext path
      exact htook.untouched path (by simp [Record.deliveries])
    have hholds := (Condition.check_iff ht hs hbefore a.condition).mp (by rw [hc])
    rw [hfiles]
    exact ⟨hholds, fun _ _ => rfl⟩
  | remedied hc hremedy =>
    rw [Record.deliveries, Record.deliveries, List.append_nil] at htook
    refine htook.settles ha ?_ (hremedy.actions_eq_copies ha.flat ?_ _)
    · rw [← hnormal]
      exact a.normalize_actions_ne_nil
    · rw [← hnormal]
      exact a.unset_not_mem_normalize

/-- The file of each assertion is left alone by the others. -/
theorem Recorded.all_settle {as : List (String × Assertion)} (ht : t.InMemory view name)
    (hs : t.Truthful view name matcher s) (hbefore : view.held name s = some before)
    (h : Recorded view.disk t d
      (.inTurn (as.map fun e => .assertion group e.1 e.2)) s record (.ok ()) s')
    (has : ∀ e ∈ as, e.2.Settling matcher (view.disk s) ∧ e.2.normalize = e.2)
    (hpaths : (as.map fun e => e.2.condition.filePath).Nodup) :
    ∃ after, view.held name s' = some after ∧
      (∀ e ∈ as,
        e.2.condition.HoldsOf matcher (view.disk s) (after.files e.2.condition.filePath)) ∧
      ∀ path, (∀ e ∈ as, e.2.condition.filePath ≠ path) → after.files path = before.files path := by
  induction as generalizing s record before with
  | nil =>
    cases h
    exact ⟨before, hbefore, by simp, fun _ _ => rfl⟩
  | cons e as ih =>
    cases h with
    | @next _ _ _ _ s₁ _ _ _ _ hfirst hrest =>
      obtain ⟨⟨ha, hnormal⟩, has⟩ := List.forall_mem_cons.mp has
      obtain ⟨hhead, hpaths⟩ := List.nodup_cons.mp hpaths
      obtain ⟨between, hbetween, hholds, hothers⟩ := hfirst.settles ht hs hbefore ha hnormal
      have hs₁ := hfirst.keeps Target.Truthful.of_performs hs
      have hdisk : view.disk s₁ = view.disk s := (hfirst.delivered ht none).disk
      rw [← hdisk] at has
      obtain ⟨after, hafter, hall, hkept⟩ := ih hs₁ hbetween hrest has hpaths
      rw [hdisk] at hall
      -- No later assertion has the path of the first, whose file is as the first has left it.
      have hapart : ∀ e' ∈ as, e'.2.condition.filePath ≠ e.2.condition.filePath := by
        intro e' he' heq
        exact hhead (List.mem_map.mpr ⟨e', he', heq⟩)
      refine ⟨after, hafter, List.forall_mem_cons.mpr ⟨?_, hall⟩, ?_⟩
      · rwa [hkept _ hapart]
      · intro path hpath
        obtain ⟨hne, hpath⟩ := List.forall_mem_cons.mp hpath
        rw [hkept path hpath, hothers path hne]

/-- Where all assertions hold, nothing is done. -/
theorem Recorded.of_holding {as : List (String × Assertion)} (ht : t.InMemory view name)
    (hs : t.Truthful view name matcher s) (hbefore : view.held name s = some before)
    (has : ∀ e ∈ as,
      e.2.condition.HoldsOf matcher (view.disk s) (before.files e.2.condition.filePath))
    (d : Nat) (group : String) :
    ∃ record s', Recorded view.disk t d
        (.inTurn (as.map fun e => .assertion group e.1 e.2)) s record (.ok ()) s' ∧
      record.events =
        as.flatMap (fun e => [.started group e.1, .ended group e.1 ⟨.noop, none⟩]) ∧
      view.Kept s s' := by
  induction as generalizing s with
  | nil => exact ⟨.nothing, s, .done, rfl, .refl s⟩
  | cons e as ih =>
    obtain ⟨hfirst, hrest⟩ := List.forall_mem_cons.mp has
    have hanswer := (Condition.check_iff ht hs hbefore e.2.condition).mpr hfirst
    rcases hc : e.2.condition.check view.disk t s with ⟨r, s₁⟩
    rw [hc] at hanswer
    obtain rfl : r = .ok true := hanswer
    have hkept : view.Kept s s₁ := ht.kept_of_uses (Op.Uses.check _ _).quiet hc
    have hs₁ := hs.of_uses (.check _ _) hc
    rw [← hkept.disk] at hrest
    obtain ⟨record, s', hrec, hevents, hkept'⟩ :=
      ih hs₁ ((hkept.held name).trans hbefore) hrest
    refine ⟨_, s', .next (.holds hc) hrec, ?_, hkept.trans hkept'⟩
    rw [Record.events_append, hevents]
    rfl

end Records

/-! ### Groups -/

/-- Each assertion of a group brings a file of its own, and in the end the one that it asks for. -/
structure Group.Settling (matcher : Matcher) (d : Disk) (g : Group) : Prop where
  normal : g.normalize = g
  apart : (g.assertions.map fun e => e.2.condition.filePath).Nodup
  each : ∀ e ∈ g.assertions, e.2.Settling matcher d

theorem normalize_eq_of_mem {assertions : Named Assertion}
    (h : normalizeAll assertions = assertions) {e : String × Assertion} (he : e ∈ assertions) :
    e.2.normalize = e.2 := by
  rw [← h] at he
  obtain ⟨a, -, ha⟩ := mem_normalizeAll.mp he
  rw [← ha, a.normalize_normalize]

/-- On a machine in memory that answers from what it holds, a group that has been applied without a
fault can be applied again: every assertion holds then, and nothing is changed. -/
theorem evaluateAll_converges (view : View σ) (name : String) (matcher : Matcher) (t : Target σ)
    (ht : t.InMemory view name) (g : Group) (p q : Progress σ) {before : Holding}
    (hthere : view.held name p.world = some before)
    (htruthful : t.Truthful view name matcher p.world)
    (hg : g.Settling matcher (view.disk p.world))
    (hfirst : (evaluateAll view.disk t g.name g.assertions p).1 = .ok ())
    (hagain : q.world = (evaluateAll view.disk t g.name g.assertions p).2.world) :
    (evaluateAll view.disk t g.name g.assertions q).1 = .ok () ∧
      (evaluateAll view.disk t g.name g.assertions q).2.events =
        q.events ++ (sorted g.assertions).flatMap
          (fun e => [.started g.name e.1, .ended g.name e.1 ⟨.noop, none⟩]) ∧
      view.Kept q.world (evaluateAll view.disk t g.name g.assertions q).2.world := by
  have hperm := sorted_perm g.assertions
  have heach : ∀ e ∈ sorted g.assertions,
      e.2.Settling matcher (view.disk p.world) ∧ e.2.normalize = e.2 := by
    intro e he
    have hmem := hperm.mem_iff.mp he
    exact ⟨hg.each e hmem, normalize_eq_of_mem (congrArg Group.assertions hg.normal) hmem⟩
  have hpaths := (hperm.map fun e => e.2.condition.filePath).nodup_iff.mpr hg.apart
  have hfollows : ∀ d, Step.Follows view.disk t d (.set g.name g.assertions)
      (evaluateAll view.disk t g.name g.assertions) :=
    fun _ => .evaluateAll g.name g.assertions
  obtain ⟨record, r, s', notes', hrec, hstep⟩ := hfollows p.depth p.world p.events p.notes
  rw [hstep] at hfirst hagain
  obtain rfl : r = .ok () := hfirst
  obtain rfl : q.world = s' := hagain
  obtain ⟨after, hafter, hall, -⟩ := Recorded.all_settle ht htruthful hthere hrec heach hpaths
  have hlater := hrec.keeps Target.Truthful.of_performs htruthful
  have hdisk : view.disk q.world = view.disk p.world := (hrec.delivered ht none).disk
  rw [← hdisk] at hall
  obtain ⟨noops, s'', hnoops, hevents, hkept⟩ :=
    Recorded.of_holding ht hlater hafter hall q.depth g.name
  obtain ⟨record', r', s₂, notes₂, hrec', hstep'⟩ := hfollows q.depth q.world q.events q.notes
  obtain ⟨rfl, rfl, rfl⟩ := hrec'.unique hnoops
  rw [hstep', hevents]
  exact ⟨rfl, rfl, hkept⟩

/-- Copies of local files onto one path, one after another. -/
def bringAll (sources : List String) (filePath : String) : List Action :=
  sources.map fun source => .copyFile source filePath

/-- Where all actions are copies onto the file of the assertion, the last of them decides. -/
theorem Assertion.Settling.of_copies {matcher : Matcher} {d : Disk} {a : Assertion}
    {content : Bytes} (earlier : List String) (source : String)
    (hacts : a.actions = bringAll (earlier ++ [source]) a.condition.filePath)
    (hread : d.read (d.expand source) = .ok content)
    (hmet : a.condition.MetBy matcher d content) : a.Settling matcher d where
  flat assertions := by simp [hacts, bringAll]
  own source' destination hcopy := by
    rw [hacts] at hcopy
    obtain ⟨_, -, heq⟩ := List.mem_map.mp hcopy
    exact (Action.copyFile.inj heq).2.symm
  last before source' destination after heq hnone := by
    rw [hacts, bringAll, List.map_append] at heq
    rcases append_split heq with ⟨rest, -, rfl⟩ | ⟨front, -, hlast⟩
    · exact absurd (by simp) (hnone source a.condition.filePath)
    · cases front with
      | nil =>
        obtain ⟨hcopy, -⟩ := List.cons.inj hlast
        obtain ⟨rfl, -⟩ := Action.copyFile.inj hcopy
        exact ⟨content, hread, hmet⟩
      | cons _ _ => simp at hlast

theorem Assertion.Settling.of_fail {matcher : Matcher} {d : Disk} {a : Assertion}
    (hacts : a.actions = [.fail]) : a.Settling matcher d where
  flat assertions := by simp [hacts]
  own source destination hcopy := by simp [hacts] at hcopy
  last before source destination after heq _ := by
    have hcopy : .copyFile source destination ∈ a.actions := by simp [heq]
    simp [hacts] at hcopy

/-- An assertion of each kind. -/
def furnished : Group where
  name := "base"
  assertions :=
    [("conf", ⟨⟨.matchesLocalFile, "/etc/conf", "", "/conf", ""⟩, some 1000,
        bringAll ["/draft", "/conf"] "/etc/conf"⟩),
      ("key", ⟨⟨.hashEquals, "/etc/key", " 0CC175B9C0F1B6A831C399E269772661", "", ""⟩, some 1000,
        bringAll ["/key"] "/etc/key"⟩),
      ("log", ⟨⟨.fileExists, "/etc/log", "", "", ""⟩, some 1000, bringAll ["/draft"] "/etc/log"⟩),
      ("motd", ⟨⟨.regexMatches, "/etc/motd", "", "", "ab"⟩, some 1000,
        bringAll ["/conf"] "/etc/motd"⟩),
      ("old", ⟨⟨.fileAbsent, "/etc/old", "", "", ""⟩, some 1000, [.fail]⟩)]

def staleMemory : Memory := { files := [("/etc/key", [98]), ("/etc/motd", [99])] }

def furnishingSite : Site :=
  ⟨⟨[(["conf"], .file [97, 98]), (["draft"], .file [1]), (["key"], .file [97])], [], ""⟩,
    [("a", staleMemory)]⟩

theorem furnished_settling : furnished.Settling .literal furnishingSite.disk := by
  have hconf : furnishingSite.disk.read (furnishingSite.disk.expand "/conf") = .ok [97, 98] := by
    decide +kernel
  have hdraft : furnishingSite.disk.read (furnishingSite.disk.expand "/draft") = .ok [1] := by
    decide +kernel
  have hkey : furnishingSite.disk.read (furnishingSite.disk.expand "/key") = .ok [97] := by
    decide +kernel
  have hdigest : Hex.decode (Text.trim " 0CC175B9C0F1B6A831C399E269772661") =
      .ok (MD5.digest [97]) := by
    decide +kernel
  have hfinds : ∃ finds, Matcher.literal "ab" = .ok finds ∧ finds [97, 98] = true :=
    ⟨_, rfl, by decide +kernel⟩
  refine ⟨rfl, by decide +kernel, ?_⟩
  simp only [furnished, List.forall_mem_cons]
  refine ⟨.of_copies ["/draft"] "/conf" rfl hconf hconf, .of_copies [] "/key" rfl hkey hdigest,
    .of_copies [] "/draft" rfl hdraft trivial, .of_copies [] "/conf" rfl hconf hfinds,
    .of_fail rfl, by simp⟩

abbrev furnishedTarget : Target Site := Site.target .literal "a"

/-- The site after some files have been brought. -/
def furnishedOnce : Except Fault Unit × Progress Site :=
  evaluateAll Site.disk furnishedTarget furnished.name furnished.assertions
    { world := furnishingSite }

theorem furnished_converges :
    (furnishedTarget.InMemory Site.view "a" ∧
      Site.view.held "a" furnishingSite = some staleMemory.holding ∧
      furnishedTarget.Truthful Site.view "a" .literal furnishingSite ∧
      furnished.Settling .literal furnishingSite.disk ∧ furnishedOnce.1 = .ok ()) ∧
    (furnishedOnce.2.world.memories.lookup "a").map Memory.writes =
      some ["/etc/conf", "/etc/conf", "/etc/key", "/etc/log", "/etc/motd"] ∧
    (evaluateAll Site.disk furnishedTarget furnished.name furnished.assertions
        furnishedOnce.2).1 = .ok () ∧
      (evaluateAll Site.disk furnishedTarget furnished.name furnished.assertions
        furnishedOnce.2).2.events =
        furnishedOnce.2.events ++ (sorted furnished.assertions).flatMap
          (fun e => [.started "base" e.1, .ended "base" e.1 ⟨.noop, none⟩]) ∧
      Site.view.Kept furnishedOnce.2.world
        (evaluateAll Site.disk furnishedTarget furnished.name furnished.assertions
          furnishedOnce.2).2.world := by
  have hmemory : furnishedTarget.InMemory Site.view "a" := Site.target_inMemory .literal "a"
  have htruthful : furnishedTarget.Truthful Site.view "a" .literal furnishingSite :=
    Site.target_truthful .literal ⟨rfl, rfl, rfl, rfl, rfl, rfl⟩
  have hsorted : sorted furnished.assertions = furnished.assertions :=
    List.mergeSort_of_pairwise (by decide +kernel)
  have honce : furnishedOnce =
      evaluateAllWith (evaluateNested Site.disk furnishedTarget maxNesting) Site.disk
        furnishedTarget "base" furnished.assertions { world := furnishingSite } := by
    unfold furnishedOnce evaluateAll
    rw [hsorted]
    rfl
  have hfirst : furnishedOnce.1 = .ok () := by
    rw [honce]
    decide +kernel
  have hwrites : (furnishedOnce.2.world.memories.lookup "a").map Memory.writes =
      some ["/etc/conf", "/etc/conf", "/etc/key", "/etc/log", "/etc/motd"] := by
    rw [honce]
    decide +kernel
  exact ⟨⟨hmemory, rfl, htruthful, furnished_settling, hfirst⟩, hwrites,
    evaluateAll_converges Site.view "a" .literal furnishedTarget hmemory furnished
      { world := furnishingSite } furnishedOnce.2 rfl htruthful furnished_settling hfirst rfl⟩

end Upkeep
