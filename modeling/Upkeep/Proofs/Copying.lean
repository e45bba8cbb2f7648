import Upkeep.Proofs.Paths
import Upkeep.Proofs.Raises

/-!
Copies on the machine at hand. The destination is emptied between the opening of the source and the
reading of it. A copy that succeeds leaves there what the source held, unless the two are the same
file; a copy whose source cannot be opened leaves everything as it was.
-/

set_option autoImplicit false

namespace Upkeep

namespace Disk

/-! ### Opening -/

/-- What is open for writing is where the path leads: a file, empty now, or a device. -/
theorem openWrite_ok {d d' : Disk} (hd : d.Sound) {path : String} {loc : Location}
    (h : d.openWrite path = .ok (loc, d')) :
    (∃ place, d.Leads true path ⟨place, false⟩ ∧ place.location = loc) ∧
      ((d.Stored loc [] d' ∧ d.Takes loc) ∨
        (d' = d ∧ (d.find? loc = some .nullDevice ∨ d.find? loc = some .fullDevice))) := by
  unfold openWrite at h
  cases hlocate : d.locate true path with
  | error cause =>
    rw [hlocate] at h
    cases h
  | ok a =>
    have hleads := locate_ok_iff.mp hlocate
    have hfits := hleads.fits hd
    rw [hlocate] at h
    cases hfits with
    | @missing parent name hparent hnone =>
      cases h
      refine ⟨⟨_, hleads, rfl⟩, Or.inl ⟨.put d [] (by simp), ?_, Or.inl hnone⟩⟩
      rwa [List.dropLast_concat]
    | @there loc' e asDirectory hentry hlink hdirectory =>
      have hplain : e ≠ .directory → asDirectory = false := fun hne => by
        cases asDirectory with
        | false => rfl
        | true => exact absurd (hdirectory rfl) hne
      simp only [hentry] at h
      cases e with
      | file content =>
        cases h
        rw [hplain (by simp)] at hleads
        have hne := ne_root_of_find? (d := d) (by simp [hentry] : d.find? loc ≠ _)
        exact ⟨⟨_, hleads, rfl⟩, Or.inl ⟨.put d [] hne, hd.takes hentry⟩⟩
      | directory => cases h
      | link target => exact absurd rfl (hlink target)
      | nullDevice =>
        cases h
        rw [hplain (by simp)] at hleads
        exact ⟨⟨_, hleads, rfl⟩, Or.inr ⟨rfl, Or.inl hentry⟩⟩
      | fullDevice =>
        cases h
        rw [hplain (by simp)] at hleads
        exact ⟨⟨_, hleads, rfl⟩, Or.inr ⟨rfl, Or.inr hentry⟩⟩

/-- Where a file has been stored by way of a path, the path leads to it. -/
theorem openRead_of_leads {d d' : Disk} {path : String} {place : Place}
    (h : d.Leads true path ⟨place, false⟩) {content : Bytes}
    (hstored : d.Stored place.location content d') (htakes : d.Takes place.location) :
    d'.openRead path = .ok place.location := by
  have hagain := h.again (hstored.keeps htakes) hstored.here hstored.there
  have hlocate := locate_ok_iff.mpr hagain
  rw [openRead, hlocate]
  rfl

theorem contentAt_of_stored {d d' : Disk} {src dst : Location} (h : d.Stored dst [] d')
    (hne : src ≠ dst) : d'.contentAt src = d.contentAt src := by
  rw [contentAt, contentAt, h.elsewhere src hne]

theorem Takes.contentAt {d : Disk} {loc : Location} (h : d.Takes loc) :
    ∃ content, d.contentAt loc = .ok content := by
  unfold Disk.contentAt
  rcases h.entry with hnone | ⟨content, hfile⟩
  · exact ⟨[], by rw [hnone]⟩
  · exact ⟨content, by rw [hfile]⟩

/-- What is read once the destination has been emptied. -/
theorem contentAt_emptied {d d' : Disk} {src dst : Location} {content : Bytes}
    (h : d.Stored dst [] d') (htakes : d.Takes dst) (hread : d'.contentAt src = .ok content) :
    ∃ before, d.contentAt src = .ok before ∧ content = if src = dst then [] else before := by
  by_cases hsame : src = dst
  · subst hsame
    obtain ⟨before, hbefore⟩ := htakes.contentAt
    rw [Disk.contentAt, h.there] at hread
    exact ⟨before, hbefore, by rw [if_pos rfl, Except.ok.inj hread]⟩
  · rw [contentAt_of_stored h hsame] at hread
    exact ⟨content, hread, (if_neg hsame).symm⟩

end Disk

/-! ### Writing -/

theorem localSink_write {loc : Location} {d : Disk} {content : Bytes}
    (h : d.find? loc = some (.file content)) (block : Bytes) :
    (localSink loc).write block d = (.ok (), d.put loc (.file (content ++ block))) := by
  simp only [localSink, Disk.appendAt, h]

/-- What is sent to a file is put at its end. -/
theorem send_stores {loc : Location} {d : Disk} {content : Bytes}
    (h : d.find? loc = some (.file content)) (blocks : List Bytes) :
    ∃ d', (localSink loc).send blocks d = (.ok (), d') ∧
      d.Stored loc (content ++ blocks.flatten) d' := by
  induction blocks generalizing d content with
  | nil =>
    refine ⟨d, rfl, ?_, fun _ _ => rfl, rfl, rfl⟩
    simpa using h
  | cons block rest ih =>
    have hne : loc ≠ [] := Disk.ne_root_of_find? (d := d) (by simp [h])
    have hput := Disk.Stored.put d (content ++ block) hne
    obtain ⟨d', hsend, hstored⟩ := ih hput.there
    have hwrite := localSink_write h block
    refine ⟨d', ?_, ?_⟩
    · rw [Sink.send, Op.bind_apply, hwrite]
      exact hsend
    · rw [List.append_assoc, ← List.flatten_cons] at hstored
      exact hput.trans hstored

theorem appendAt_device {loc : Location} {d d' : Disk} {bs : Bytes}
    (h : ∀ content, d.find? loc ≠ some (.file content)) (happend : d.appendAt loc bs = .ok d') :
    d' = d := by
  unfold Disk.appendAt at happend
  split at happend
  · rename_i content hfile
    exact absurd hfile (h content)
  · split at happend
    · exact (Except.ok.inj happend).symm
    · cases happend
  · exact (Except.ok.inj happend).symm

/-- What is sent to a device is gone. -/
theorem send_device {loc : Location} {d d' : Disk}
    (h : ∀ content, d.find? loc ≠ some (.file content)) {blocks : List Bytes}
    (hsend : (localSink loc).send blocks d = (.ok (), d')) : d' = d := by
  induction blocks with
  | nil => exact (Prod.mk.inj hsend).2.symm
  | cons block rest ih =>
    obtain ⟨_, d₁, hwrite, hrest⟩ := Op.bind_ok hsend
    simp only [localSink] at hwrite
    split at hwrite
    · rename_i d₂ happend
      cases hwrite
      obtain rfl := appendAt_device h happend
      exact ih hrest
    · cases hwrite

/-! ### Copies that succeed -/

/-- From one state to another a copy has been made: the source held this content, the destination
leads to a file with it, or to an empty one if it is the source itself, and nothing else has
changed. -/
structure Disk.Copied (source destination : String) (src dst : Location) (content : Bytes)
    (d d' : Disk) : Prop where
  opened : d.openRead (d.expand source) = .ok src
  held : d.contentAt src = .ok content
  leads : d'.openRead (d'.expand destination) = .ok dst
  stored : d.Stored dst (if src = dst then [] else content) d'
  sound : d'.Sound

theorem Disk.Copied.read_source {source destination : String} {src dst : Location}
    {content : Bytes} {d d' : Disk} (h : d.Copied source destination src dst content d') :
    d.read (d.expand source) = .ok content := by
  rw [read, h.opened]
  exact h.held

theorem Disk.Copied.read_destination {source destination : String} {src dst : Location}
    {content : Bytes} {d d' : Disk} (h : d.Copied source destination src dst content d') :
    d'.read (d'.expand destination) = .ok (if src = dst then [] else content) := by
  rw [read, h.leads]
  show d'.contentAt dst = _
  rw [contentAt, h.stored.there]

theorem Disk.Copied.same_bytes {source destination : String} {src dst : Location}
    {content : Bytes} {d d' : Disk} (h : d.Copied source destination src dst content d')
    (hsame : src = dst → content = []) :
    d'.read (d'.expand destination) = d.read (d.expand source) := by
  rw [h.read_source, h.read_destination]
  split
  · rename_i heq
    rw [hsame heq]
  · rfl

theorem deliver_copied {name source destination : String} {size : Nat} {d d' : Disk}
    (hd : d.Sound)
    (h : deliver id (localTarget name) source destination d = (.ok size, d')) :
    ∃ src dst content, d.Copied source destination src dst content d' := by
  obtain ⟨src, d₁, hlook, h⟩ := Op.bind_ok h
  obtain ⟨hsource, rfl⟩ := Op.look_eq hlook
  obtain ⟨sink, d₂, hopen, h⟩ := Op.bind_ok h
  obtain ⟨content, d₃, hlook, h⟩ := Op.bind_ok h
  obtain ⟨hcontent, rfl⟩ := Op.look_eq hlook
  obtain ⟨_, d₄, hsend, h⟩ := Op.bind_ok h
  obtain ⟨_, d₅, hfinish, h⟩ := Op.bind_ok h
  cases h
  obtain ⟨dst, hdst, rfl⟩ := localTarget_openWrite hopen
  obtain ⟨hsync, hsame⟩ := Prod.mk.inj hfinish
  subst hsame
  obtain ⟨⟨place, hleads, rfl⟩, ⟨hemptied, htakes⟩ | ⟨rfl, hdevice⟩⟩ := Disk.openWrite_ok hd hdst
  · obtain ⟨before, hbefore, rfl⟩ :=
      Disk.contentAt_emptied hemptied htakes (ok_of_mapError hcontent)
    obtain ⟨d₆, hsent, hstored⟩ := send_stores hemptied.there
      (Bytes.blocks (blockSize - 1) (if src = place.location then [] else before))
    rw [Sink.sendAll, hsent] at hsend
    cases hsend
    rw [List.nil_append, Bytes.flatten_blocks] at hstored
    have hcopied := hemptied.trans hstored
    have hhome : d₄.expand destination = d.expand destination := by
      rw [Disk.expand, Disk.expand, hcopied.home]
    refine ⟨src, place.location, before, ok_of_mapError hsource, hbefore, ?_, hcopied,
      hcopied.sound hd htakes⟩
    rw [hhome]
    exact Disk.openRead_of_leads hleads hcopied htakes
  · -- Neither device takes for good what is written.
    have hplain : ∀ content, d₂.find? place.location ≠ some (.file content) := by
      rcases hdevice with hnull | hfull <;> simp [*]
    obtain rfl := send_device hplain hsend
    rcases hdevice with hnull | hfull
    · simp [Disk.syncAt, hnull, Except.mapError] at hsync
    · simp [Disk.syncAt, hfull, Except.mapError] at hsync

/-- A copying action that succeeds has copied: where the source was not the destination itself, or
was empty, the destination reads as the source did. -/
theorem Action.copyFile_copied {name parent source destination : String} {p p' : Progress Disk}
    (hsound : p.world.Sound)
    (h : (Action.copyFile source destination).take id (localTarget name) parent p = (.ok (), p')) :
    ∃ src dst content, p.world.Copied source destination src dst content p'.world ∧
      ((src = dst → content = []) → p'.world.read (p'.world.expand destination) =
        p.world.read (p.world.expand source)) := by
  obtain ⟨size, p₁, hdeliver, hnote⟩ := Op.bind_ok h
  cases hnote
  obtain ⟨hresult, rfl⟩ := Prod.mk.inj hdeliver
  obtain ⟨src, dst, content, hcopied⟩ := deliver_copied hsound (Prod.ext hresult rfl)
  exact ⟨src, dst, content, hcopied, hcopied.same_bytes⟩

/-- A file, a link to it and a directory. -/
def Disk.workbench : Disk where
  entries := [(["a"], .file [104, 101, 108, 108, 111]), (["d"], .directory), (["l"], .link "a")]
  here := []
  home := "/d"

theorem Disk.workbench_sound : Disk.workbench.Sound :=
  .of_entries rfl (by decide)

/-- A copy by way of a link, to a path below the home directory. -/
theorem Action.copyFile_linked :
    ∃ p' src dst content,
      (Action.copyFile "l" "~/b").take id (localTarget "local") "g" ⟨Disk.workbench, 0, [], []⟩ =
        (.ok (), p') ∧
      Disk.workbench.Copied "l" "~/b" src dst content p'.world ∧
      p'.world.read "/d/b" = .ok [104, 101, 108, 108, 111] := by
  have hrun : ((Action.copyFile "l" "~/b").take id (localTarget "local") "g"
      ⟨Disk.workbench, 0, [], []⟩).1 = .ok () := by decide +kernel
  have hread : ((Action.copyFile "l" "~/b").take id (localTarget "local") "g"
      ⟨Disk.workbench, 0, [], []⟩).2.world.read "/d/b" = .ok [104, 101, 108, 108, 111] := by
    decide +kernel
  obtain ⟨src, dst, content, hcopied, -⟩ :=
    Action.copyFile_copied Disk.workbench_sound (Prod.ext hrun rfl)
  exact ⟨_, src, dst, content, Prod.ext hrun rfl, hcopied, hread⟩

/-- A file copied onto itself is lost, and the action succeeds. -/
theorem Action.copyFile_onto_itself :
    ∃ p', (Action.copyFile "a" "a").take id (localTarget "local") "g" ⟨Disk.workbench, 0, [], []⟩ =
        (.ok (), p') ∧
      Disk.workbench.read (Disk.workbench.expand "a") = .ok [104, 101, 108, 108, 111] ∧
      p'.world.read (p'.world.expand "a") = .ok [] := by
  refine ⟨_, Prod.ext (?_ : _ = Except.ok ()) rfl, ?_, ?_⟩
  · decide +kernel
  · decide +kernel
  · decide +kernel

/-! ### Copies of what cannot be read -/

theorem localTarget_openWrite_eq (name path : String) (d : Disk) :
    (localTarget name).openWrite path d = match d.openWrite (d.expand path) with
      | .ok (loc, d') => (.ok (localSink loc), d')
      | .error cause => (.error (.ofIo cause path), d) := rfl

theorem Disk.openRead_of_read_error {d : Disk} {path : String} {cause : IoFault}
    (h : d.read path = .error cause) :
    d.openRead path = .error cause ∨
      ∃ src, d.openRead path = .ok src ∧ d.contentAt src = .error cause := by
  unfold Disk.read at h
  split at h
  · rename_i src hopen
    exact Or.inr ⟨src, hopen, h⟩
  · rename_i hopen
    rw [hopen]
    exact Or.inl (congrArg Except.error (Except.error.inj h))

/-- Only directories can be opened and not read, and opening a file for writing makes none. -/
theorem Disk.contentAt_error {d : Disk} {loc : Location} {cause : IoFault}
    (h : d.contentAt loc = .error cause) :
    d.find? loc = some .directory ∧ cause = .isDirectory := by
  unfold Disk.contentAt at h
  split at h
  · cases h
  · rename_i hdirectory
    exact ⟨hdirectory, (Except.error.inj h).symm⟩
  · cases h

theorem Disk.contentAt_opened {d d' : Disk} (hd : d.Sound) {path : String} {src dst : Location}
    {cause : IoFault} (hopen : d.openWrite path = .ok (dst, d'))
    (h : d.contentAt src = .error cause) : d'.contentAt src = .error cause := by
  obtain ⟨hdirectory, rfl⟩ := Disk.contentAt_error h
  rcases (Disk.openWrite_ok hd hopen).2 with ⟨hemptied, htakes⟩ | ⟨rfl, -⟩
  · have hstill := (hemptied.keeps htakes).directory hdirectory
    rw [Disk.contentAt, hstill]
  · exact h

theorem deliver_unreadable (name destination : String) {source : String} {d : Disk}
    {cause : IoFault} (hd : d.Sound) (h : d.read (d.expand source) = .error cause) :
    deliver id (localTarget name) source destination d =
      match d.openRead (d.expand source), d.openWrite (d.expand destination) with
      | .error _, _ => (.error (.io cause), d)
      | .ok _, .error refusal => (.error (.ofIo refusal destination), d)
      | .ok _, .ok (_, emptied) => (.error (.io cause), emptied) := by
  unfold deliver
  rw [Op.look_bind]
  rcases Disk.openRead_of_read_error h with hsource | ⟨src, hsource, hcontent⟩
  · simp [hsource, Except.mapError]
  · simp only [id_eq, hsource, Except.mapError]
    rw [Op.bind_apply, localTarget_openWrite_eq]
    cases hopen : d.openWrite (d.expand destination) with
    | error refusal => rfl
    | ok opened =>
      obtain ⟨dst, emptied⟩ := opened
      have hlate := Disk.contentAt_opened hd hopen hcontent
      dsimp only
      rw [Op.look_bind, hlate]

/-- A copying action whose source cannot be opened fails for that reason and leaves everything as it
was. A directory can be opened and is found out when it is read, and the destination, where it is
not refused, is an empty file by then. -/
theorem Action.copyFile_unreadable {name parent source destination : String} {p : Progress Disk}
    {cause : IoFault} (hsound : p.world.Sound)
    (h : p.world.read (p.world.expand source) = .error cause) :
    (p.world.openRead (p.world.expand source) = .error cause →
      (Action.copyFile source destination).take id (localTarget name) parent p =
        (.error (.io cause), p)) ∧
    ∀ src, p.world.openRead (p.world.expand source) = .ok src →
      p.world.find? src = some .directory ∧ cause = .isDirectory ∧
      (Action.copyFile source destination).take id (localTarget name) parent p =
        match p.world.openWrite (p.world.expand destination) with
        | .error refusal => (.error (.ofIo refusal destination), p)
        | .ok (_, emptied) => (.error (.io .isDirectory), { p with world := emptied }) := by
  have hdeliver := deliver_unreadable name destination hsound h
  have htake {f : Fault} {d' : Disk}
      (hcopy : deliver id (localTarget name) source destination p.world = (.error f, d')) :
      (Action.copyFile source destination).take id (localTarget name) parent p =
        (.error f, { p with world := d' }) := by
    simp only [Action.take, Action.takeWith, Step.ofOp]
    rw [Op.bind_apply, Op.on, hcopy]
  constructor
  · intro hsource
    rw [hsource] at hdeliver
    exact htake hdeliver
  · intro src hsource
    rcases Disk.openRead_of_read_error h with hrefused | ⟨src', hsource', hcontent⟩
    · rw [hsource] at hrefused
      cases hrefused
    obtain rfl : src' = src := by
      rw [hsource] at hsource'
      exact (Except.ok.inj hsource').symm
    obtain ⟨hdirectory, rfl⟩ := Disk.contentAt_error hcontent
    refine ⟨hdirectory, rfl, ?_⟩
    rw [hsource] at hdeliver
    cases hopen : p.world.openWrite (p.world.expand destination) with
    | error refusal =>
      rw [hopen] at hdeliver
      exact htake hdeliver
    | ok opened =>
      rw [hopen] at hdeliver
      exact htake hdeliver

/-- What is missing is not copied, and the file it was to replace stays. -/
theorem Action.copyFile_missing :
    (Action.copyFile "b" "a").take id (localTarget "local") "g" ⟨Disk.workbench, 0, [], []⟩ =
      (.error (.io .noEntry), ⟨Disk.workbench, 0, [], []⟩) := by
  have hread : Disk.workbench.read (Disk.workbench.expand "b") = .error .noEntry := by
    decide +kernel
  have hopen : Disk.workbench.openRead (Disk.workbench.expand "b") = .error .noEntry := by
    decide +kernel
  exact (Action.copyFile_unreadable Disk.workbench_sound hread).1 hopen

/-- A directory is not copied, but the file it was to replace is emptied. -/
theorem Action.copyFile_directory_empties :
    ∃ p', (Action.copyFile "d" "a").take id (localTarget "local") "g" ⟨Disk.workbench, 0, [], []⟩ =
        (.error (.io .isDirectory), p') ∧
      Disk.workbench.read (Disk.workbench.expand "d") = .error .isDirectory ∧
      Disk.workbench.read "a" = .ok [104, 101, 108, 108, 111] ∧ p'.world.read "a" = .ok [] := by
  refine ⟨_, Prod.ext (?_ : _ = Except.error (Fault.io .isDirectory)) rfl, ?_, ?_, ?_⟩
  · decide +kernel
  · decide +kernel
  · decide +kernel
  · decide +kernel

end Upkeep
