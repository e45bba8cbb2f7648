import Upkeep.Proofs.Calls
import Upkeep.Proofs.Checksums
import Upkeep.Proofs.Raises
import Upkeep.Proofs.WellFormed

/-!
What a check asks, and what it makes of the answers. A check asks for one thing after another, up to
the first that it gets no answer to. That a file to be opened does not exist is an answer; any other
fault is what the check ends with. From the answers alone follows whether the condition holds.
-/

set_option autoImplicit false

namespace Upkeep

variable {σ α β : Type}

/-! ### Inquiries -/

/-- A thing that a check asks for, with what it is told. -/
inductive Inquiry where
  /-- Whether a file can be opened. -/
  | opening (path : String) (told : Except Fault Unit)
  | digest (path : String) (told : Except Fault Bytes)
  | search (path pattern : String) (told : Except Fault Bool)
  /-- The digest of a local file. -/
  | reference (path : String) (told : Except Fault Bytes)

namespace Inquiry

/-- The fault that leaves an inquiry without an answer. -/
def fault? : Inquiry → Option Fault
  | .opening _ (.error f) => if f.isNotFound then none else some f
  | .opening _ (.ok ()) => none
  | .digest _ told | .reference _ told => faultOf told
  | .search _ _ told => faultOf told

/-- What is called on the target for it. -/
def call? : Inquiry → Option Call
  | .opening path _ => some (.openRead path)
  | .digest path _ => some (.digest path)
  | .search path pattern _ => some (.search path pattern)
  | .reference _ _ => none

end Inquiry

/-- What comes of digesting a local file: the digest of its bytes, or why they cannot be had. A file
that is not there is told by its path as it was written. -/
inductive Disk.Digested (d : Disk) (path : String) : Except Fault Bytes → Prop where
  | bytes {content : Bytes} : d.read (d.expand path) = .ok content →
      d.Digested path (.ok (MD5.digest content))
  | missing : d.openRead (d.expand path) = .error .noEntry →
      d.Digested path (.error (.notFound path))
  | unopened {cause : IoFault} : d.openRead (d.expand path) = .error cause → cause ≠ .noEntry →
      d.Digested path (.error (.io cause))
  | unread {loc : Location} {cause : IoFault} : d.openRead (d.expand path) = .ok loc →
      d.contentAt loc = .error cause → d.Digested path (.error (.io cause))

theorem Disk.digest_of_read {d : Disk} {path : String} {content : Bytes}
    (h : d.read (d.expand path) = .ok content) : d.digest path = .ok (MD5.digest content) := by
  unfold Disk.read at h
  unfold Disk.digest
  split at h
  · rename_i loc hopen
    simp only [hopen, h]
  · cases h

theorem Disk.digested (d : Disk) (path : String) : d.Digested path (d.digest path) := by
  cases hopen : d.openRead (d.expand path) with
  | error cause =>
    by_cases hcause : cause = .noEntry
    · subst hcause
      have hdigest : d.digest path = .error (.notFound path) := by
        simp only [Disk.digest, hopen, Fault.ofIo, if_pos]
      rw [hdigest]
      exact .missing hopen
    · have hdigest : d.digest path = .error (.io cause) := by
        simp only [Disk.digest, hopen, Fault.ofIo, if_neg hcause]
      rw [hdigest]
      exact .unopened hopen hcause
  | ok loc =>
    cases hcontent : d.contentAt loc with
    | error cause =>
      have hdigest : d.digest path = .error (.io cause) := by
        simp only [Disk.digest, hopen, hcontent]
      rw [hdigest]
      exact .unread hopen hcontent
    | ok content =>
      have hread : d.read (d.expand path) = .ok content := by
        simp only [Disk.read, hopen, hcontent]
      rw [Disk.digest_of_read hread]
      exact .bytes hread

namespace Target

/-- In a world this is asked for and told, and that world is left for the other. -/
inductive Asks (disk : σ → Disk) (t : Target σ) : Inquiry → σ → σ → Prop where
  | opening {path : String} {s s' : σ} {told : Except Fault (Op σ Bytes)} :
      t.openRead path s = (told, s') → t.Asks disk (.opening path (told.map fun _ => ())) s s'
  | digest {path : String} {s s' : σ} {told : Except Fault Bytes} :
      t.digest path s = (told, s') → t.Asks disk (.digest path told) s s'
  | search {path pattern : String} {s s' : σ} {told : Except Fault Bool} :
      t.search path pattern s = (told, s') → t.Asks disk (.search path pattern told) s s'
  | reference {path : String} {s : σ} {told : Except Fault Bytes} :
      (disk s).Digested path told → t.Asks disk (.reference path told) s s

inductive AsksAll (disk : σ → Disk) (t : Target σ) : List Inquiry → σ → σ → Prop where
  | nil {s : σ} : t.AsksAll disk [] s s
  | cons {x : Inquiry} {asked : List Inquiry} {s s₁ s' : σ} :
      t.Asks disk x s s₁ → t.AsksAll disk asked s₁ s' → t.AsksAll disk (x :: asked) s s'

variable {disk : σ → Disk} {t : Target σ}

theorem Asks.single {x : Inquiry} {s s' : σ} (h : t.Asks disk x s s') :
    t.AsksAll disk [x] s s' := .cons h .nil

/-- Only calls that do not write are made. -/
theorem AsksAll.performs {asked : List Inquiry} {s s' : σ} (h : t.AsksAll disk asked s s') :
    t.PerformsAll (asked.filterMap Inquiry.call?) s s' := by
  induction h with
  | nil => exact .nil
  | @cons x asked s s₁ s' hasks _ ih =>
    cases hasks with
    | @opening path _ _ told hopen =>
      have hcall := Performs.openRead (t := t) path s
      rw [hopen] at hcall
      exact .cons hcall ih
    | @digest path _ _ told hdigest =>
      have hcall := Performs.digest (t := t) path s
      rw [hdigest] at hcall
      exact .cons hcall ih
    | @search path pattern _ _ told hsearch =>
      have hcall := Performs.search (t := t) path pattern s
      rw [hsearch] at hcall
      exact .cons hcall ih
    | reference => exact ih

end Target

theorem Inquiry.not_writes_of_call {x : Inquiry} {call : Call} (h : x.call? = some call) :
    ¬ call.Writes := by
  cases x with
  | opening | digest | search =>
    cases h
    exact id
  | reference => cases h

/-! ### Whether a file is there -/

/-- Whether there is a file, from what came of opening it. -/
def presence : Except Fault α → Except Fault Bool
  | .ok _ => .ok true
  | .error f => if f.isNotFound then .ok false else .error f

theorem Target.exists_eq {t : Target σ} {path : String} {s s' : σ}
    {told : Except Fault (Op σ Bytes)} (h : t.openRead path s = (told, s')) :
    t.exists path s = (presence told, s') := by
  unfold Target.exists
  rw [h]
  cases told with
  | ok => rfl
  | error f => rfl

theorem presence_map (told : Except Fault α) (g : α → β) :
    presence (told.map g) = presence told := by
  cases told <;> rfl

theorem presence_eq_true_iff {told : Except Fault Unit} :
    presence told = .ok true ↔ told = .ok () := by
  cases told with
  | ok => simp [presence]
  | error f => cases hf : f.isNotFound <;> simp [presence, hf]

theorem presence_eq_false_iff {told : Except Fault Unit} :
    presence told = .ok false ↔ ∃ path, told = .error (.notFound path) := by
  cases told with
  | ok => simp [presence]
  | error f => cases f <;> simp [presence, Fault.isNotFound]

theorem Inquiry.fault?_opening (path : String) (told : Except Fault Unit) :
    (Inquiry.opening path told).fault? = faultOf (presence told) := by
  cases told with
  | ok => rfl
  | error f => cases hf : f.isNotFound <;> simp [Inquiry.fault?, presence, faultOf, hf]

/-- Whether a file is missing is asked in the same way as whether it is there, and told the other
way round. -/
theorem Condition.check_fileAbsent {disk : σ → Disk} {t : Target σ} (c : Condition) (s : σ) :
    { c with kind := .fileAbsent }.check disk t s =
      (({ c with kind := .fileExists }.check disk t s).1.map (!·),
        ({ c with kind := .fileExists }.check disk t s).2) := by
  exact Op.bind_pure (t.exists c.filePath) (!·) s

/-! ### What is asked for each kind, and what is required -/

namespace Condition

/-- What is asked for, as far as the answers go. The local reference file is looked at only when
there is a file to compare with it. -/
def Inquires (c : Condition) (asked : List Inquiry) : Prop :=
  match c.kind with
  | .fileExists | .fileAbsent => ∃ told, asked = [.opening c.filePath told]
  | .hashEquals => ∃ told, asked = [.digest c.filePath told]
  | .matchesLocalFile =>
    (∃ f, asked = [.opening c.filePath (.error f)]) ∨
    (∃ f, asked = [.opening c.filePath (.ok ()), .reference c.basePath (.error f)]) ∨
    ∃ expected told, asked = [.opening c.filePath (.ok ()), .reference c.basePath (.ok expected),
      .digest c.filePath told]
  | .regexMatches => ∃ told, asked = [.search c.filePath c.regex told]
  | .unknown _ => asked = []

/-- The digits of a digest are the given ones, blanks around them and the case of letters apart. -/
def Spells (hash : String) (digest : Bytes) : Prop :=
  (Hex.encodeChars digest).map Char.toLower = (Text.trimChars hash.toList).map Char.toLower

theorem isDigestOf_iff_spells {hash : String} {digest : Bytes} :
    isDigestOf hash digest = true ↔ Spells hash digest := by
  rw [isDigestOf, beq_iff_eq, Spells, Hex.encodeChars_toLower]

/-- The answers with which a condition holds. -/
def HoldsBy (c : Condition) (asked : List Inquiry) : Prop :=
  match c.kind with
  | .fileExists => asked = [.opening c.filePath (.ok ())]
  | .fileAbsent => ∃ path, asked = [.opening c.filePath (.error (.notFound path))]
  | .hashEquals => ∃ digest, asked = [.digest c.filePath (.ok digest)] ∧ Spells c.hash digest
  | .matchesLocalFile => ∃ digest, asked = [.opening c.filePath (.ok ()),
      .reference c.basePath (.ok digest), .digest c.filePath (.ok digest)]
  | .regexMatches => asked = [.search c.filePath c.regex (.ok true)]
  | .unknown _ => False

/-- How a check comes out after what it has asked for. -/
structure Comes (c : Condition) (asked : List Inquiry) (r : Except Fault Bool) : Prop where
  plan : c.Inquires asked
  /-- Nothing has been left without an answer but what the check ends with. -/
  faults : asked.filterMap Inquiry.fault? = (faultOf r).toList
  stops : ∀ x ∈ asked.dropLast, x.fault? = none
  noop : r.map Outcome.ofCheck = .ok .noop ↔ c.HoldsBy asked
  applied : r.map Outcome.ofCheck = .ok .applied ↔
    (∀ x ∈ asked, x.fault? = none) ∧ ¬ c.HoldsBy asked

theorem faultOf_map (r : Except Fault α) (g : α → β) :
    faultOf (r.map g) = faultOf r := by
  cases r <;> rfl

theorem faultOf_eq_none_iff {r : Except Fault α} :
    faultOf r = none ↔ ∃ x, r = .ok x := by
  cases r <;> simp [faultOf]

/-- That a condition does not hold follows from the rest. -/
theorem Comes.of_holds {c : Condition} {asked : List Inquiry} {r : Except Fault Bool}
    (plan : c.Inquires asked) (faults : asked.filterMap Inquiry.fault? = (faultOf r).toList)
    (stops : ∀ x ∈ asked.dropLast, x.fault? = none) (holds : r = .ok true ↔ c.HoldsBy asked) :
    c.Comes asked r where
  plan := plan
  faults := faults
  stops := stops
  noop := by
    rw [← holds]
    rcases r with f | _ | _ <;> simp [Except.map, Outcome.ofCheck]
  applied := by
    have hanswered : (∀ x ∈ asked, x.fault? = none) ↔ ∃ there, r = .ok there := by
      rw [← List.filterMap_eq_nil_iff, faults, Option.toList_eq_nil_iff, faultOf_eq_none_iff]
    rw [hanswered, ← holds]
    rcases r with f | _ | _ <;> simp [Except.map, Outcome.ofCheck]

theorem Comes.of_single {c : Condition} {x : Inquiry} {r : Except Fault Bool}
    (plan : c.Inquires [x]) (fault : x.fault? = faultOf r) (holds : r = .ok true ↔ c.HoldsBy [x]) :
    c.Comes [x] r := by
  apply Comes.of_holds plan ?_ (by simp) holds
  cases hx : x.fault? <;> simp [← fault, hx]

/-! ### Checks -/

variable {disk : σ → Disk} {t : Target σ} {c : Condition}

theorem comes_present (hkind : c.kind = .fileExists) (told : Except Fault Unit) :
    c.Comes [.opening c.filePath told] (presence told) := by
  apply Comes.of_single
  · simp [Inquires, hkind]
  · exact Inquiry.fault?_opening _ told
  · rw [presence_eq_true_iff]
    simp [HoldsBy, hkind]

theorem comes_absent (hkind : c.kind = .fileAbsent) (told : Except Fault Unit) :
    c.Comes [.opening c.filePath told] ((presence told).map (!·)) := by
  apply Comes.of_single
  · simp [Inquires, hkind]
  · rw [faultOf_map]
    exact Inquiry.fault?_opening _ told
  · have hflip : (presence told).map (!·) = .ok true ↔ presence told = .ok false := by
      rcases presence told with f | _ | _ <;> simp [Except.map]
    rw [hflip, presence_eq_false_iff]
    simp [HoldsBy, hkind]

theorem comes_spelled (hkind : c.kind = .hashEquals) (told : Except Fault Bytes) :
    c.Comes [.digest c.filePath told] (told.map (isDigestOf c.hash)) := by
  apply Comes.of_single
  · simp [Inquires, hkind]
  · exact (faultOf_map told _).symm
  · cases told <;> simp [HoldsBy, hkind, Except.map, isDigestOf_iff_spells]

theorem comes_found (hkind : c.kind = .regexMatches) (told : Except Fault Bool) :
    c.Comes [.search c.filePath c.regex told] told := by
  apply Comes.of_single
  · simp [Inquires, hkind]
  · rfl
  · simp [HoldsBy, hkind]

theorem comes_missing (hkind : c.kind = .matchesLocalFile) (f : Fault) :
    c.Comes [.opening c.filePath (.error f)] (presence (.error f : Except Fault Unit)) := by
  apply Comes.of_single
  · simp [Inquires, hkind]
  · exact Inquiry.fault?_opening _ _
  · rw [presence_eq_true_iff]
    simp [HoldsBy, hkind]

theorem comes_unmatched (hkind : c.kind = .matchesLocalFile) (f : Fault) :
    c.Comes [.opening c.filePath (.ok ()), .reference c.basePath (.error f)] (.error f) := by
  apply Comes.of_holds
  · simp [Inquires, hkind]
  · rfl
  · simp [Inquiry.fault?]
  · simp [HoldsBy, hkind]

theorem comes_compared (hkind : c.kind = .matchesLocalFile) (expected : Bytes)
    (told : Except Fault Bytes) :
    c.Comes [.opening c.filePath (.ok ()), .reference c.basePath (.ok expected),
      .digest c.filePath told] (told.map (· == expected)) := by
  apply Comes.of_holds
  · simp [Inquires, hkind]
  · cases told <;> rfl
  · simp [Inquiry.fault?, faultOf]
  · cases told with
    | error f => simp [HoldsBy, hkind, Except.map]
    | ok digest => simp [HoldsBy, hkind, Except.map]

theorem check_matches (hkind : c.kind = .matchesLocalFile) (s : σ) :
    ∃ asked, t.AsksAll disk asked s (c.check disk t s).2 ∧ c.Comes asked (c.check disk t s).1 := by
  simp only [check, hkind]
  rcases hopen : t.openRead c.filePath s with ⟨f | read, s'⟩
  · have hpresent := Target.exists_eq hopen
    have hasks : t.AsksAll disk _ s s' := (Target.Asks.opening hopen).single
    have hcomes := comes_missing hkind f
    rw [Op.bind_apply, hpresent]
    cases hf : f.isNotFound with
    | true =>
      simp only [presence, hf, if_pos] at hcomes ⊢
      exact ⟨_, hasks, hcomes⟩
    | false =>
      simp only [presence, hf] at hcomes ⊢
      exact ⟨_, hasks, hcomes⟩
  · have hpresent : (t.exists c.filePath s).1 = .ok true := by
      rw [Target.exists_eq hopen]
      rfl
    have hworld : (t.exists c.filePath s).2 = s' := by
      rw [Target.exists_eq hopen]
    have hasks : t.Asks disk _ s s' := .opening hopen
    rw [Op.bind_of_ok hpresent, hworld, if_pos rfl, Op.look_bind]
    have hdigested := (disk s').digested c.basePath
    cases hreference : (disk s').digest c.basePath with
    | error f =>
      rw [hreference] at hdigested
      exact ⟨_, .cons hasks (Target.Asks.reference hdigested).single, comes_unmatched hkind f⟩
    | ok expected =>
      rw [hreference] at hdigested
      rcases hdigest : t.digest c.filePath s' with ⟨told, s''⟩
      dsimp only
      rw [Op.bind_pure, hdigest]
      exact ⟨_, .cons hasks (.cons (.reference hdigested) (Target.Asks.digest hdigest).single),
        comes_compared hkind expected told⟩

theorem check_comes (disk : σ → Disk) (t : Target σ) (hknown : ∀ kind, c.kind ≠ .unknown kind)
    (s : σ) :
    ∃ asked, t.AsksAll disk asked s (c.check disk t s).2 ∧ c.Comes asked (c.check disk t s).1 := by
  cases hkind : c.kind with
  | unknown kind => exact absurd hkind (hknown kind)
  | matchesLocalFile => exact check_matches hkind s
  | fileExists =>
    rcases hopen : t.openRead c.filePath s with ⟨told, s'⟩
    have hcomes := comes_present hkind (told.map fun _ => ())
    rw [presence_map] at hcomes
    simp only [check, hkind]
    rw [Target.exists_eq hopen]
    exact ⟨_, (Target.Asks.opening hopen).single, hcomes⟩
  | fileAbsent =>
    rcases hopen : t.openRead c.filePath s with ⟨told, s'⟩
    have hcomes := comes_absent hkind (told.map fun _ => ())
    rw [presence_map] at hcomes
    simp only [check, hkind]
    rw [Op.bind_pure, Target.exists_eq hopen]
    exact ⟨_, (Target.Asks.opening hopen).single, hcomes⟩
  | hashEquals =>
    rcases hdigest : t.digest c.filePath s with ⟨told, s'⟩
    simp only [check, hkind]
    rw [Op.bind_pure, hdigest]
    exact ⟨_, (Target.Asks.digest hdigest).single, comes_spelled hkind told⟩
  | regexMatches =>
    rcases hsearch : t.search c.filePath c.regex s with ⟨told, s'⟩
    simp only [check, hkind]
    rw [hsearch]
    exact ⟨_, (Target.Asks.search hsearch).single, comes_found hkind told⟩

/-- A check of a known kind is a row of inquiries that write nothing, and comes out as they have been
answered. Whether a file is there and whether it is missing are opposite answers, or the same
fault. -/
theorem check_answers (disk : σ → Disk) (t : Target σ) (c : Condition)
    (hknown : ∀ kind, c.kind ≠ .unknown kind) (s : σ) :
    (∃ asked, t.AsksAll disk asked s (c.check disk t s).2 ∧ c.Comes asked (c.check disk t s).1 ∧
      t.PerformsAll (asked.filterMap Inquiry.call?) s (c.check disk t s).2 ∧
      ∀ call ∈ asked.filterMap Inquiry.call?, ¬ call.Writes) ∧
    { c with kind := .fileAbsent }.check disk t s =
      (({ c with kind := .fileExists }.check disk t s).1.map (!·),
        ({ c with kind := .fileExists }.check disk t s).2) := by
  obtain ⟨asked, hasks, hcomes⟩ := check_comes disk t hknown s
  refine ⟨⟨asked, hasks, hcomes, hasks.performs, ?_⟩, check_fileAbsent c s⟩
  intro call hcall
  obtain ⟨x, -, hx⟩ := List.mem_filterMap.mp hcall
  exact Inquiry.not_writes_of_call hx

/-- A file that is there, and a local reference file that is not. -/
def unreferenced : Condition :=
  { kind := .matchesLocalFile, filePath := "-", basePath := "/missing" }

theorem unreferenced_answers :
    (∀ kind, unreferenced.kind ≠ .unknown kind) ∧
      (unreferenced.check id (localTarget "local") Disk.shelf).1 = .error (.notFound "/missing") ∧
      ∃ asked, (localTarget "local").AsksAll id asked Disk.shelf
          (unreferenced.check id (localTarget "local") Disk.shelf).2 ∧
        unreferenced.Comes asked (.error (.notFound "/missing")) := by
  have hmissing : (unreferenced.check id (localTarget "local") Disk.shelf).1 =
      .error (.notFound "/missing") := by
    decide +kernel
  have hknown : ∀ kind, unreferenced.kind ≠ .unknown kind := by
    simp [unreferenced]
  obtain ⟨⟨asked, hasks, hcomes, -, -⟩, -⟩ :=
    check_answers id (localTarget "local") unreferenced hknown Disk.shelf
  rw [hmissing] at hcomes
  exact ⟨hknown, hmissing, asked, hasks, hcomes⟩

end Condition

/-! ### Digests that are asked for -/

theorem Condition.wholeDigest_of_validate {c : Condition} (hvalid : c.validate = .ok ())
    (hkind : c.kind = .hashEquals) : WholeDigest c.hash := by
  have hsupplied := (Condition.validate_ok_iff.mp hvalid).2
  simp only [Condition.Supplied, hkind] at hsupplied
  exact hsupplied.2

/-- The hash of an assertion that is accepted is the spelling of one digest, of sixteen bytes. Of
all the digests that a target may give for the file, that is the one with which it holds. -/
theorem Assertion.accepted_digest {a : Assertion} (hvalid : a.validate = .ok ())
    (hkind : a.condition.kind = .hashEquals) :
    ∃ expected : Bytes, expected.length = 16 ∧
      Hex.decode (Text.trim a.condition.hash) = .ok expected ∧
      (∀ digest, isDigestOf a.condition.hash digest = true ↔ digest = expected) ∧
      ∀ {σ : Type} (disk : σ → Disk) (t : Target σ) (s s' : σ) (digest : Bytes),
        t.digest a.condition.filePath s = (.ok digest, s') →
        (a.condition.check disk t s).1.map Outcome.ofCheck =
            .ok (if digest = expected then .noop else .applied) ∧
          (a.condition.check disk t s).2 = s' := by
  have hcondition := (Assertion.validate_ok_iff.mp hvalid).1
  obtain ⟨expected, hlength, hdecode⟩ :=
    (Condition.wholeDigest_of_validate hcondition hkind).exists_decode
  have honly : ∀ digest, isDigestOf a.condition.hash digest = true ↔ digest = expected := by
    intro digest
    rw [isDigestOf_iff, hdecode, Except.ok.injEq, eq_comm]
  refine ⟨expected, hlength, hdecode, honly, ?_⟩
  intro σ disk t s s' digest htold
  simp only [Condition.check, hkind]
  rw [Op.bind_pure, htold]
  refine ⟨?_, rfl⟩
  by_cases hdigest : digest = expected
  · have hholds := (honly digest).mpr hdigest
    rw [if_pos hdigest]
    simp [Except.map, hholds, Outcome.ofCheck]
  · have hdiffers := Bool.eq_false_iff.mpr (mt (honly digest).mp hdigest)
    rw [if_neg hdigest]
    simp [Except.map, hdiffers, Outcome.ofCheck]

/-- Digits in either case, between blanks that are not those of a keyboard. -/
def Assertion.spelled : Assertion where
  condition :=
    { kind := .hashEquals, filePath := "-n \u00e9",
      hash := "\u2003B1946AC92492d2347c6235b4d2611184 \u00a0" }

theorem Assertion.spelled_holds :
    spelled.validate = .ok () ∧ spelled.condition.kind = .hashEquals ∧
      (spelled.condition.check id (localTarget "local") Disk.shelf).1.map Outcome.ofCheck =
        .ok .noop := by
  have hvalid : spelled.validate = .ok () := by decide +kernel
  have htold : (localTarget "local").digest "-n \u00e9" Disk.shelf =
      (.ok (MD5.digest greeting), Disk.shelf) := by
    decide +kernel
  have hspelled : Hex.decode (Text.trim spelled.condition.hash) = .ok (MD5.digest greeting) := by
    decide +kernel
  obtain ⟨expected, -, hdecode, -, hcheck⟩ := accepted_digest hvalid rfl
  have hexpected : MD5.digest greeting = expected := by
    rw [hspelled] at hdecode
    exact Except.ok.inj hdecode
  have hresult := (hcheck id (localTarget "local") Disk.shelf Disk.shelf _ htold).1
  rw [if_pos hexpected] at hresult
  exact ⟨hvalid, rfl, hresult⟩

end Upkeep
