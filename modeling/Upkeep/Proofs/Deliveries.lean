import Upkeep.Proofs.Holdings
import Upkeep.Proofs.Verdicts

/-!
What runs leave on machines held in memory. Each path holds what the last completed copy has brought
there, everything else is as it was before, and no copy is made but for an assertion that did not
hold.
-/

set_option autoImplicit false

namespace Upkeep

variable {σ : Type}

/-! ### Copies of a record -/

/-- A copy that has been completed, and the assertion among whose actions it was. -/
structure Delivery where
  source : String
  destination : String
  owner : Option Verdict

def Deed.Completes (x : Deed) (c : Delivery) : Prop :=
  x.action = .copyFile c.source c.destination ∧ x.result = .ok ()

def Deed.deliveries (x : Deed) (owner : Option Verdict) : List Delivery :=
  match x.action, x.result with
  | .copyFile source destination, .ok () => [⟨source, destination, owner⟩]
  | _, _ => []

/-- All copies that were completed, at whatever depth, in the order in which they were dispatched.
Actions without an assertion around them are those of `owner`. -/
def Record.deliveries : Record → (owner : Option Verdict) → List Delivery
  | .nothing, _ => []
  | .assertion group name a answer remedy e rest, owner =>
    remedy.deliveries (some ⟨group, name, a, answer, remedy, e⟩) ++ rest.deliveries owner
  | .action parent x within result rest, owner =>
    Deed.deliveries ⟨parent, x, within, result⟩ owner ++ within.deliveries none ++
      rest.deliveries owner

@[simp] theorem Record.deliveries_append (first after : Record) (owner : Option Verdict) :
    (first ++ after).deliveries owner = first.deliveries owner ++ after.deliveries owner := by
  induction first with
  | nothing => rfl
  | assertion group name a answer remedy e rest _ ih => simp [deliveries, ih]
  | action parent x within result rest _ ih => simp [deliveries, ih]

theorem Deed.completes_of_mem {x : Deed} {owner : Option Verdict} {c : Delivery}
    (hc : c ∈ x.deliveries owner) : c.owner = owner ∧ x.Completes c := by
  obtain ⟨parent, x, within, result⟩ := x
  unfold Deed.deliveries at hc
  split at hc
  · rename_i hx hresult
    obtain rfl := List.mem_singleton.mp hc
    exact ⟨rfl, hx, hresult⟩
  · cases hc

theorem Recorded.deeds_of_announced {disk : σ → Disk} {t : Target σ} {d : Nat} {task : Task}
    {s s' : σ} {record : Record} {r : Except Fault Unit}
    (h : Recorded disk t d task s record r s') (htask : task.Announced) : record.deeds = [] := by
  induction h with
  | done | unanswered | holds | remedied => rfl
  | next _ _ ihFirst ihRest =>
    cases htask with
    | inTurn htasks =>
      have hfirst := ihFirst (htasks _ (.head _))
      have hrest := ihRest (.inTurn fun task h => htasks task (.tail _ h))
      rw [Record.deeds_append, hfirst, hrest, List.append_nil]
  | stop _ ih =>
    cases htask with
    | inTurn htasks => exact ih (htasks _ (.head _))
  | unset | fail | copied | notCopied | nested | tooDeep | unrecognised => cases htask

/-- Every copy is an action of its owner, which did not hold. -/
theorem Recorded.of_delivery {disk : σ → Disk} {t : Target σ} {d : Nat} {task : Task} {s s' : σ}
    {record : Record} {r : Except Fault Unit} (h : Recorded disk t d task s record r s')
    {owner : Option Verdict} {c : Delivery} (hc : c ∈ record.deliveries owner) :
    (c.owner = owner ∧ ∃ x ∈ record.deeds, x.Completes c) ∨
      ∃ v ∈ record.verdicts, c.owner = some v ∧ v.answer = .ok false ∧
        ∃ x ∈ v.remedy.deeds, x.Completes c := by
  induction h generalizing owner with
  | done | unset | fail | notCopied | tooDeep | unrecognised | unanswered | holds =>
    simp [Record.deliveries, Deed.deliveries] at hc
  | next _ _ ihFirst ihRest =>
    rw [Record.deliveries_append] at hc
    rw [Record.deeds_append, Record.verdicts_append]
    rcases List.mem_append.mp hc with hc | hc
    · rcases ihFirst hc with ⟨howner, x, hx, hcx⟩ | ⟨v, hv, h⟩
      · exact Or.inl ⟨howner, x, List.mem_append_left _ hx, hcx⟩
      · exact Or.inr ⟨v, List.mem_append_left _ hv, h⟩
    · rcases ihRest hc with ⟨howner, x, hx, hcx⟩ | ⟨v, hv, h⟩
      · exact Or.inl ⟨howner, x, List.mem_append_right _ hx, hcx⟩
      · exact Or.inr ⟨v, List.mem_append_right _ hv, h⟩
  | stop _ ih => exact ih hc
  | remedied _ _ ih =>
    simp only [Record.deliveries, List.append_nil] at hc
    -- What has no owner further in is an action of this assertion itself.
    rcases ih hc with ⟨howner, hx⟩ | ⟨v, hv, h⟩
    · exact Or.inr ⟨_, List.mem_append_right _ List.mem_cons_self, howner, rfl, hx⟩
    · exact Or.inr ⟨v, List.mem_append_left _ hv, h⟩
  | copied =>
    simp only [Record.deliveries, List.append_nil] at hc
    obtain ⟨howner, hcx⟩ := Deed.completes_of_mem hc
    exact Or.inl ⟨howner, _, List.mem_cons_self, hcx⟩
  | nested _ hset ih =>
    simp only [Record.deliveries, Deed.deliveries, List.nil_append, List.append_nil] at hc
    rcases ih hc with ⟨-, x, hx, -⟩ | ⟨v, hv, h⟩
    · rw [hset.deeds_of_announced (.set _ _)] at hx
      cases hx
    · exact Or.inr ⟨v, List.mem_append_left _ hv, h⟩

/-! ### What the copies leave -/

/-- With the files of a disk, the copies have made one holding into another. -/
structure Took (d : Disk) (copies : List Delivery) (before after : Holding) : Prop where
  writes : after.writes = before.writes ++ copies.map Delivery.destination
  /-- Where something has been copied to, the last of it is what is there. -/
  last : ∀ earlier c later, copies = earlier ++ c :: later →
    (∀ c' ∈ later, c'.destination ≠ c.destination) →
    ∃ content, d.read (d.expand c.source) = .ok content ∧
      after.files c.destination = some content
  untouched : ∀ path, (∀ c ∈ copies, c.destination ≠ path) → after.files path = before.files path

namespace Took

variable {d : Disk} {before between after : Holding}

theorem nothing (before : Holding) : Took d [] before before where
  writes := by simp
  last := by simp
  untouched _ _ := rfl

theorem one {c : Delivery} {content : Bytes} (hread : d.read (d.expand c.source) = .ok content)
    (before : Holding) : Took d [c] before (before.store c.destination content) where
  writes := rfl
  last earlier c' later heq _ := by
    have hmem : c' ∈ [c] := by simp [heq]
    obtain rfl := List.mem_singleton.mp hmem
    exact ⟨content, hread, if_pos rfl⟩
  untouched path hne := if_neg (hne c List.mem_cons_self).symm

theorem append {copies copies' : List Delivery} (h : Took d copies before between)
    (h' : Took d copies' between after) : Took d (copies ++ copies') before after where
  writes := by rw [h'.writes, h.writes, List.map_append, List.append_assoc]
  last earlier c later heq hlater := by
    -- The last copy to a path is either among the later ones, or they leave that path alone.
    rcases append_split heq with ⟨rest, hcopies, rfl⟩ | ⟨front, -, hcopies'⟩
    · obtain ⟨content, hread, hfiles⟩ := h.last earlier c rest hcopies
        fun c' hc' => hlater c' (List.mem_append_left _ hc')
      refine ⟨content, hread, ?_⟩
      rw [h'.untouched _ fun c' hc' => hlater c' (List.mem_append_right _ hc'), hfiles]
    · exact h'.last front c later hcopies' hlater
  untouched path hne := by
    rw [h'.untouched path fun c hc => hne c (List.mem_append_right _ hc),
      h.untouched path fun c hc => hne c (List.mem_append_left _ hc)]

end Took

/-- On the way from one world to another, these copies have come to the machine of this name, and
nothing else has changed. -/
structure View.Delivered (view : View σ) (name : String) (copies : List Delivery) (s s' : σ) :
    Prop where
  disk : view.disk s' = view.disk s
  here : ∀ before, view.held name s = some before →
    ∃ after, view.held name s' = some after ∧ Took (view.disk s) copies before after
  elsewhere : ∀ other, other ≠ name → view.held other s' = view.held other s

theorem View.Kept.delivered {view : View σ} {s s' : σ} (h : view.Kept s s') (name : String) :
    view.Delivered name [] s s' where
  disk := h.disk
  here before hbefore := ⟨before, by rw [h.held, hbefore], .nothing before⟩
  elsewhere other _ := h.held other

namespace View.Delivered

variable {view : View σ} {name : String} {s s₁ s' : σ}

theorem of_stored {c : Delivery} {content : Bytes}
    (hread : (view.disk s).read ((view.disk s).expand c.source) = .ok content)
    (h : view.Stored name c.destination content s s') : view.Delivered name [c] s s' where
  disk := h.disk
  here before hbefore := ⟨_, by rw [h.here, hbefore]; rfl, .one hread before⟩
  elsewhere := h.elsewhere

theorem append {copies copies' : List Delivery} (h : view.Delivered name copies s s₁)
    (h' : view.Delivered name copies' s₁ s') : view.Delivered name (copies ++ copies') s s' where
  disk := h'.disk.trans h.disk
  here before hbefore := by
    obtain ⟨between, hbetween, htook⟩ := h.here before hbefore
    obtain ⟨after, hafter, htook'⟩ := h'.here between hbetween
    rw [h.disk] at htook'
    exact ⟨after, hafter, htook.append htook'⟩
  elsewhere other hne := (h'.elsewhere other hne).trans (h.elsewhere other hne)

/-- To any other machine nothing has come. -/
theorem seen {copies : List Delivery} (h : view.Delivered name copies s s') (other : String)
    (before : Holding) (hbefore : view.held other s = some before) :
    ∃ after, view.held other s' = some after ∧
      Took (view.disk s) (if name = other then copies else []) before after := by
  split
  · subst other
    exact h.here before hbefore
  · rename_i hne
    exact ⟨before, by rw [h.elsewhere other (Ne.symm hne), hbefore], .nothing before⟩

end View.Delivered

/-! ### Runs -/

section Runs

variable {view : View σ} {name : String}

theorem Recorded.delivered {t : Target σ} (ht : t.InMemory view name) {d : Nat} {task : Task}
    {s s' : σ} {record : Record} {r : Except Fault Unit}
    (h : Recorded view.disk t d task s record r s') (owner : Option Verdict) :
    view.Delivered name (record.deliveries owner) s s' := by
  induction h generalizing owner with
  | done | unset | fail | tooDeep | unrecognised => exact (View.Kept.refl _).delivered name
  | next _ _ ihFirst ihRest =>
    rw [Record.deliveries_append]
    exact (ihFirst owner).append (ihRest owner)
  | stop _ ih => exact ih owner
  | unanswered hc | holds hc => exact (ht.kept_of_uses (Op.Uses.check _ _).quiet hc).delivered name
  | remedied hc _ ih =>
    have hchecked := (ht.kept_of_uses (Op.Uses.check _ _).quiet hc).delivered name
    simpa [Record.deliveries] using hchecked.append (ih _)
  | copied hc =>
    obtain ⟨content, hread, hstored⟩ := ht.stored_of_deliver hc
    exact .of_stored (c := ⟨_, _, owner⟩) hread hstored
  | notCopied hc => exact (ht.kept_of_deliver hc).delivered name
  | nested _ _ ih => simpa [Record.deliveries, Deed.deliveries] using ih none

theorem Stay.Happened.delivered {connector : Connector σ} (hc : connector.InMemory view)
    {groups : List Group} {stay : Stay σ} {s s' : σ}
    (h : stay.Happened view.disk connector groups s s') :
    view.Delivered stay.machine.1 (stay.record.deliveries none) s s' := by
  cases h with
  | refused hconnect => exact (hc.kept hconnect).delivered _
  | @served name _ _ _ _ _ _ _ _ _ _ hconnect hrec hclose =>
    have ht := hc.target hconnect
    have hconnected := (hc.kept hconnect).delivered name
    have hclosed := (ht.closed hclose).delivered name
    simpa [Stay.machine, Stay.record] using
      hconnected.append ((hrec.delivered ht none).append hclosed)

def deliveriesTo (name : String) : List (Stay σ) → List Delivery
  | [] => []
  | stay :: stays =>
    (if stay.machine.1 = name then stay.record.deliveries none else []) ++ deliveriesTo name stays

theorem Tour.delivered {connector : Connector σ} (hc : connector.InMemory view)
    {groups : List Group} {machines : List (String × Machine)} {stays : List (Stay σ)} {s s' : σ}
    {r : Except Fault Unit} (h : Tour view.disk connector groups machines s stays r s') :
    view.disk s' = view.disk s ∧ ∀ name before, view.held name s = some before →
      ∃ after, view.held name s' = some after ∧
        Took (view.disk s) (deliveriesTo name stays) before after := by
  induction h with
  | done => exact ⟨rfl, fun name before hbefore => ⟨before, hbefore, .nothing before⟩⟩
  | next _ hhappened _ _ ih =>
    have hdisk := (hhappened.delivered hc).disk
    obtain ⟨hrest, ih⟩ := ih
    refine ⟨hrest.trans hdisk, fun name before hbefore => ?_⟩
    obtain ⟨between, hbetween, htook⟩ := (hhappened.delivered hc).seen name before hbefore
    obtain ⟨after, hafter, htook'⟩ := ih name between hbetween
    rw [hdisk] at htook'
    exact ⟨after, hafter, htook.append htook'⟩
  | stop _ hhappened _ =>
    refine ⟨(hhappened.delivered hc).disk, fun name before hbefore => ?_⟩
    simpa [deliveriesTo] using (hhappened.delivered hc).seen name before hbefore

theorem Stay.Happened.of_delivery {connector : Connector σ} {groups : List Group} {stay : Stay σ}
    {s s' : σ} (h : stay.Happened view.disk connector groups s s') {c : Delivery}
    (hc : c ∈ stay.record.deliveries none) :
    ∃ v ∈ stay.record.verdicts, c.owner = some v ∧ v.answer = .ok false ∧
      ∃ x ∈ v.remedy.deeds, x.Completes c := by
  cases h with
  | refused _ => cases hc
  | served _ hrec _ =>
    rcases hrec.of_delivery hc with ⟨-, x, hx, -⟩ | h
    · rw [hrec.deeds_of_announced (.groups groups)] at hx
      cases hx
    · exact h

theorem mem_deliveriesTo {stays : List (Stay σ)} {c : Delivery} :
    c ∈ deliveriesTo name stays ↔
      ∃ stay ∈ stays, stay.machine.1 = name ∧ c ∈ stay.record.deliveries none := by
  induction stays with
  | nil => simp [deliveriesTo]
  | cons stay stays ih =>
    rw [deliveriesTo, List.mem_append, ih]
    split <;> simp_all

end Runs

theorem Record.started_of_verdict {record : Record} {v : Verdict} (hv : v ∈ record.verdicts) :
    .started v.group v.name ∈ record.events := by
  induction record with
  | nothing => cases hv
  | assertion group name a answer remedy e rest ihRemedy ih =>
    rcases List.mem_append.mp hv with hv | hv
    · simp [events, ihRemedy hv]
    · rcases List.mem_cons.mp hv with rfl | hv
      · exact List.mem_cons_self
      · simp [events, ih hv]
  | action parent x within result rest ihWithin ih =>
    rcases List.mem_append.mp hv with hv | hv
    · exact List.mem_append_left _ (ihWithin hv)
    · exact List.mem_append_right _ (ih hv)

theorem Stay.started_of_verdict {stay : Stay σ} {v : Verdict} (hv : v ∈ stay.record.verdicts) :
    .started v.group v.name ∈ stay.events := by
  cases stay with
  | refused => cases hv
  | served =>
    exact List.mem_cons_of_mem _ (List.mem_cons_of_mem _ (Record.started_of_verdict hv))

/-- What a run comes to on machines in memory. The local files stay as they are; and whatever a
machine has come to hold by copies, an assertion has called for that was started there and did not
hold. -/
structure Plan.Delivers (plan : Plan) (view : View σ) (connector : Connector σ) (s : σ)
    (r : Except Fault Unit) (p : Progress σ) (stays : List (Stay σ)) : Prop where
  tour : Tour view.disk connector plan.groups plan.fleet.machines s stays r p.world
  disk : view.disk p.world = view.disk s
  took : ∀ name before, view.held name s = some before →
    ∃ after, view.held name p.world = some after ∧
      Took (view.disk s) (deliveriesTo name stays) before after
  owned : ∀ name, ∀ c ∈ deliveriesTo name stays, ∃ stay ∈ stays, stay.machine.1 = name ∧
    ∃ v ∈ stay.record.verdicts, c.owner = some v ∧ v.answer = .ok false ∧
      .started v.group v.name ∈ p.events ∧ ∃ x ∈ v.remedy.deeds, x.Completes c

theorem Plan.run_delivers (plan : Plan) (view : View σ) (connector : Connector σ)
    (hc : connector.InMemory view) (s : σ) :
    ∃ stays, plan.Delivers view connector s (plan.run view.disk connector s).1
      (plan.run view.disk connector s).2 stays := by
  obtain ⟨stays, htour, hevents⟩ := plan.run_tours view.disk connector s
  obtain ⟨hdisk, htook⟩ := htour.delivered hc
  refine ⟨stays, htour, hdisk, htook, fun name c hcopy => ?_⟩
  obtain ⟨stay, hstay, hname, hcopy⟩ := mem_deliveriesTo.mp hcopy
  obtain ⟨_, _, hhappened⟩ := htour.happened hstay
  obtain ⟨v, hv, howner, hanswer, hx⟩ := hhappened.of_delivery hcopy
  have hstarted : .started v.group v.name ∈ (plan.run view.disk connector s).2.events := by
    rw [hevents]
    exact List.mem_flatMap.mpr ⟨stay, hstay, Stay.started_of_verdict hv⟩
  exact ⟨stay, hstay, hname, v, hv, howner, hanswer, hstarted, hx⟩

/-- A file that is brought twice, the second time from within a nested set. -/
def bringing : Plan where
  fleet := ⟨"one", [("a", {})]⟩
  groups := [⟨"base", [("motd", ⟨{ kind := .fileExists, filePath := "/etc/motd" }, none,
    [.copyFile "/old" "/etc/motd",
      .assert [("issue", ⟨{ kind := .fileExists, filePath := "/etc/issue" }, none,
        [.copyFile "/new" "/etc/motd", .copyFile "/none" "/etc/issue"]⟩)]]⟩)]⟩]

def stockedSite : Site :=
  ⟨⟨[(["old"], .file [1]), (["new"], .file [2])], [], ""⟩,
    [("a", { files := [("/etc/hosts", [3])], full := ["/etc/issue"] })]⟩

theorem bringing_delivers :
    (Site.connector .literal).InMemory Site.view ∧
      ∃ stays, bringing.Delivers Site.view (Site.connector .literal) stockedSite
        (bringing.run Site.disk (Site.connector .literal) stockedSite).1
        (bringing.run Site.disk (Site.connector .literal) stockedSite).2 stays :=
  ⟨Site.connector_inMemory .literal,
    Plan.run_delivers bringing Site.view (Site.connector .literal)
      (Site.connector_inMemory .literal) stockedSite⟩

end Upkeep
