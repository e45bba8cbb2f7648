import Mathlib.Data.List.Basic
import Upkeep.Files.Access

/-!
Where paths lead. A walk along the names of a path is a relation between where it stands and where
it arrives, and the walk that is computed is that relation. In a file system in which everything
lies in a directory a walk arrives at something or beside it, and it arrives at the same place again
after a file there has been written or created.
-/

set_option autoImplicit false

namespace Upkeep

namespace Disk

/-! ### File systems and how they change -/

/-- Everything lies in a directory, and the working directory is one. -/
structure Sound (d : Disk) : Prop where
  here : d.find? d.here = some .directory
  above : ∀ loc name e, d.find? (loc ++ [name]) = some e → d.find? loc = some .directory

theorem lookup_mem {es : List (Location × Entry)} {loc : Location} {e : Entry}
    (h : es.lookup loc = some e) : (loc, e) ∈ es := by
  induction es with
  | nil => cases h
  | cons head rest ih =>
    obtain ⟨other, f⟩ := head
    rw [lookup_cons_eq] at h
    split at h
    · rename_i hsame
      cases h
      subst hsame
      exact List.mem_cons_self
    · exact List.mem_cons_of_mem _ (ih h)

theorem Sound.of_entries {d : Disk} (here : d.find? d.here = some .directory)
    (above : ∀ entry ∈ d.entries, d.find? entry.1.dropLast = some .directory) : d.Sound where
  here := here
  above loc name e he := by
    rw [find?, if_neg (by simp)] at he
    have hparent := above _ (lookup_mem he)
    rwa [List.dropLast_concat] at hparent

/-- From the first state to the second a file has come to hold this content, and nothing else has
changed. -/
structure Stored (loc : Location) (content : Bytes) (d d' : Disk) : Prop where
  there : d'.find? loc = some (.file content)
  elsewhere : ∀ other, other ≠ loc → d'.find? other = d.find? other
  here : d'.here = d.here
  home : d'.home = d.home

@[simp] theorem find?_root (d : Disk) : d.find? [] = some .directory := by
  simp [find?]

theorem ne_root_of_find? {d : Disk} {loc : Location} (h : d.find? loc ≠ some .directory) :
    loc ≠ [] := by
  rintro rfl
  exact h d.find?_root

theorem Stored.put (d : Disk) {loc : Location} (content : Bytes) (hne : loc ≠ []) :
    d.Stored loc content (d.put loc (.file content)) where
  there := by rw [find?_put d loc _ hne, if_pos rfl]
  elsewhere other hother := by rw [find?_put d other _ hne, if_neg hother]
  here := rfl
  home := rfl

theorem Stored.trans {loc : Location} {content content' : Bytes} {d d₁ d' : Disk}
    (h : d.Stored loc content d₁) (h' : d₁.Stored loc content' d') : d.Stored loc content' d' where
  there := h'.there
  elsewhere other hother := (h'.elsewhere other hother).trans (h.elsewhere other hother)
  here := h'.here.trans h.here
  home := h'.home.trans h.home

theorem Sound.dropLast {d : Disk} (hd : d.Sound) {loc : Location}
    (h : d.find? loc = some .directory) : d.find? loc.dropLast = some .directory := by
  rcases List.eq_nil_or_concat loc with rfl | ⟨parent, name, rfl⟩
  · exact h
  · rw [List.concat_eq_append] at h ⊢
    rw [List.dropLast_concat]
    exact hd.above parent name _ h

/-- There is a file, or room for one in a directory. -/
structure Takes (d : Disk) (loc : Location) : Prop where
  parent : d.find? loc.dropLast = some .directory
  entry : d.find? loc = none ∨ ∃ content, d.find? loc = some (.file content)

theorem Takes.not_directory {d : Disk} {loc : Location} (h : d.Takes loc) :
    d.find? loc ≠ some .directory := by
  rcases h.entry with hnone | ⟨content, hfile⟩
  · simp [hnone]
  · simp [hfile]

theorem Sound.takes {d : Disk} (hd : d.Sound) {loc : Location} {content : Bytes}
    (h : d.find? loc = some (.file content)) : d.Takes loc where
  parent := by
    rcases List.eq_nil_or_concat loc with rfl | ⟨parent, name, rfl⟩
    · simp at h
    · rw [List.concat_eq_append] at h ⊢
      rw [List.dropLast_concat]
      exact hd.above parent name _ h
  entry := Or.inr ⟨content, h⟩

theorem Stored.sound {d d' : Disk} {loc : Location} {content : Bytes}
    (h : d.Stored loc content d') (hd : d.Sound) (hloc : d.Takes loc) : d'.Sound where
  here := by
    have hne : d.here ≠ loc := by
      rintro rfl
      exact hloc.not_directory hd.here
    rw [h.here, h.elsewhere d.here hne]
    exact hd.here
  above parent name e he := by
    have hdirectory : d.find? parent = some .directory := by
      by_cases heq : parent ++ [name] = loc
      · have hparent := hloc.parent
        rw [← heq, List.dropLast_concat] at hparent
        exact hparent
      · rw [h.elsewhere _ heq] at he
        exact hd.above parent name e he
    have hne : parent ≠ loc := by
      rintro rfl
      exact hloc.not_directory hdirectory
    rw [h.elsewhere parent hne]
    exact hdirectory

/-- What is somewhere is there again; a file may have another content. -/
def Keeps (d d' : Disk) : Prop :=
  ∀ loc e, d.find? loc = some e →
    d'.find? loc = some e ∨ ∃ c c', e = .file c ∧ d'.find? loc = some (.file c')

theorem Stored.keeps {d d' : Disk} {loc : Location} {content : Bytes}
    (h : d.Stored loc content d') (hloc : d.Takes loc) : d.Keeps d' := by
  intro other e he
  by_cases hother : other = loc
  · subst hother
    rcases hloc.entry with hnone | ⟨before, hfile⟩
    · rw [hnone] at he
      cases he
    · rw [hfile] at he
      exact Or.inr ⟨before, content, (Option.some.inj he).symm, h.there⟩
  · left
    rw [h.elsewhere other hother, he]

/-! ### Walks -/

/-- A name can be looked up: it is a name in a directory, not too long, and where the walk may
create what it ends at, not the last before a closing slash. -/
structure Looks (d : Disk) (creating : Bool) (loc : Location) (name : String) (rest : List String)
    (asDirectory : Bool) : Prop where
  directory : d.find? loc = some .directory
  not_self : name ≠ "."
  not_parent : name ≠ ".."
  allowed : (creating && asDirectory && rest.isEmpty) = false
  short : name.utf8ByteSize ≤ maxNameLength

/-- A walk with so many links left to follow. -/
inductive Walks (d : Disk) (creating : Bool) :
    Nat → Location → List String → Bool → Arrival → Prop where
  | stop (links : Nat) (loc : Location) (asDirectory : Bool) :
      Walks d creating links loc [] asDirectory ⟨.there loc, asDirectory⟩
  | stay {links : Nat} {loc : Location} {rest : List String} {asDirectory : Bool} {a : Arrival} :
      d.find? loc = some .directory → Walks d creating links loc rest asDirectory a →
      Walks d creating links loc ("." :: rest) asDirectory a
  | leave {links : Nat} {loc : Location} {rest : List String} {asDirectory : Bool} {a : Arrival} :
      d.find? loc = some .directory → Walks d creating links loc.dropLast rest asDirectory a →
      Walks d creating links loc (".." :: rest) asDirectory a
  | miss (links : Nat) {loc : Location} {name : String} {asDirectory : Bool} :
      d.Looks creating loc name [] asDirectory → d.find? (loc ++ [name]) = none →
      Walks d creating links loc [name] asDirectory ⟨.missing loc name, asDirectory⟩
  | follow {links : Nat} {loc : Location} {name target : String} {rest : List String}
      {asDirectory : Bool} {a : Arrival} :
      d.Looks creating loc name rest asDirectory →
      d.find? (loc ++ [name]) = some (.link target) →
      Walks d creating links (if isAbsolute target then [] else loc) (pathNames target ++ rest)
        (asDirectory || (rest.isEmpty && endsInSlash target)) a →
      Walks d creating (links + 1) loc (name :: rest) asDirectory a
  | enter {links : Nat} {loc : Location} {name : String} {rest : List String} {asDirectory : Bool}
      {a : Arrival} {e : Entry} :
      d.Looks creating loc name rest asDirectory → d.find? (loc ++ [name]) = some e →
      (∀ target, e ≠ .link target) → Walks d creating links (loc ++ [name]) rest asDirectory a →
      Walks d creating links loc (name :: rest) asDirectory a

/-- What is done at a link when so many are left. -/
def atLink (d : Disk) (creating : Bool) :
    Nat → Location → List String → Bool → Except IoFault Arrival
  | 0 => fun _ _ _ => .error .tooManyLinks
  | links + 1 => d.walk creating links

theorem walk_eq (d : Disk) (creating : Bool) (links : Nat) :
    d.walk creating links = d.walkNames creating (d.atLink creating links) := by
  cases links <;> rfl

theorem Walks.of_walkNames {d : Disk} {creating : Bool} {links : Nat}
    {follow : Location → List String → Bool → Except IoFault Arrival}
    (hfollow : ∀ {loc names asDirectory a}, follow loc names asDirectory = .ok a →
      ∃ left, links = left + 1 ∧ d.Walks creating left loc names asDirectory a)
    {loc : Location} {names : List String} {asDirectory : Bool} {a : Arrival}
    (h : d.walkNames creating follow loc names asDirectory = .ok a) :
    d.Walks creating links loc names asDirectory a := by
  induction names generalizing loc asDirectory with
  | nil =>
    cases h
    exact .stop links loc asDirectory
  | cons name rest ih =>
    rw [walkNames] at h
    split at h
    · cases h
    rename_i hdirectory
    have hdirectory := not_not.mp hdirectory
    split at h
    · subst name
      exact .stay hdirectory (ih h)
    rename_i hself
    split at h
    · subst name
      exact .leave hdirectory (ih h)
    rename_i hparent
    split at h
    · cases h
    rename_i hallowed
    split at h
    · cases h
    rename_i hlong
    have hlooks : d.Looks creating loc name rest asDirectory :=
      ⟨hdirectory, hself, hparent, Bool.eq_false_iff.mpr hallowed, Nat.not_lt.mp hlong⟩
    split at h
    · rename_i hnone
      split at h
      · rename_i hlast
        cases h
        obtain rfl := List.isEmpty_iff.mp hlast
        exact .miss links hlooks hnone
      · cases h
    · rename_i target hlink
      obtain ⟨left, rfl, hwalk⟩ := hfollow h
      exact .follow hlooks hlink hwalk
    · rename_i e hne hentry
      exact .enter hlooks hentry hne (ih h)

theorem Walks.of_walk {d : Disk} {creating : Bool} {links : Nat} {loc : Location}
    {names : List String} {asDirectory : Bool} {a : Arrival}
    (h : d.walk creating links loc names asDirectory = .ok a) :
    d.Walks creating links loc names asDirectory a := by
  induction links generalizing loc names asDirectory a with
  | zero =>
    rw [walk_eq] at h
    exact .of_walkNames (fun hnone => by cases hnone) h
  | succ links ih =>
    rw [walk_eq] at h
    exact .of_walkNames (fun hwalk => ⟨links, rfl, ih hwalk⟩) h

theorem Looks.walkNames {d : Disk} {creating : Bool} {loc : Location} {name : String}
    {rest : List String} {asDirectory : Bool} (h : d.Looks creating loc name rest asDirectory)
    (follow : Location → List String → Bool → Except IoFault Arrival) :
    d.walkNames creating follow loc (name :: rest) asDirectory =
      match d.find? (loc ++ [name]) with
      | none => if rest.isEmpty then .ok ⟨.missing loc name, asDirectory⟩ else .error .noEntry
      | some (.link target) =>
        follow (if isAbsolute target then [] else loc) (pathNames target ++ rest)
          (asDirectory || (rest.isEmpty && endsInSlash target))
      | some _ => d.walkNames creating follow (loc ++ [name]) rest asDirectory := by
  have hshort : ¬ maxNameLength < name.utf8ByteSize := Nat.not_lt.mpr h.short
  rw [Disk.walkNames, if_neg (not_not.mpr h.directory), if_neg h.not_self, if_neg h.not_parent,
    if_neg (Bool.eq_false_iff.mp h.allowed)]
  exact if_neg hshort

theorem Walks.walk {d : Disk} {creating : Bool} {links : Nat} {loc : Location}
    {names : List String} {asDirectory : Bool} {a : Arrival}
    (h : d.Walks creating links loc names asDirectory a) :
    d.walk creating links loc names asDirectory = .ok a := by
  induction h with
  | stop links loc asDirectory =>
    rw [walk_eq]
    rfl
  | stay hdirectory _ ih =>
    rw [walk_eq] at ih ⊢
    rw [walkNames, if_neg (not_not.mpr hdirectory), if_pos rfl, ih]
  | leave hdirectory _ ih =>
    rw [walk_eq] at ih ⊢
    rw [walkNames, if_neg (not_not.mpr hdirectory), if_neg (by decide), if_pos rfl, ih]
  | miss links hlooks hnone =>
    rw [walk_eq, hlooks.walkNames]
    simp [hnone]
  | follow hlooks hlink _ ih =>
    rw [walk_eq, hlooks.walkNames]
    simp only [hlink]
    exact ih
  | @enter links loc name rest asDirectory a e hlooks hentry hne _ ih =>
    rw [walk_eq] at ih ⊢
    rw [hlooks.walkNames, ← ih]
    cases e with
    | link target => exact absurd rfl (hne target)
    | file | directory | nullDevice | fullDevice => simp only [hentry]

/-! ### Where walks arrive -/

/-- A walk that may create what it ends at arrives at something that is no link, and if a directory
is wanted, at one; or beside everything, in a directory. -/
inductive Fits (d : Disk) : Arrival → Prop where
  | there {loc : Location} {e : Entry} {asDirectory : Bool} : d.find? loc = some e →
      (∀ target, e ≠ .link target) → (asDirectory = true → e = .directory) →
      Fits d ⟨.there loc, asDirectory⟩
  | missing {parent : Location} {name : String} : d.find? parent = some .directory →
      d.find? (parent ++ [name]) = none → Fits d ⟨.missing parent name, false⟩

theorem Walks.fits {d : Disk} (hd : d.Sound) {links : Nat} {loc : Location} {names : List String}
    {asDirectory : Bool} {a : Arrival} (h : d.Walks true links loc names asDirectory a)
    {e : Entry} (he : d.find? loc = some e) (hlink : ∀ target, e ≠ .link target)
    (hlast : names = [] → asDirectory = true → e = .directory) : d.Fits a := by
  have hdirectory {names' : List String} {asDirectory' : Bool} :
      names' = [] → asDirectory' = true → Entry.directory = .directory := fun _ _ => rfl
  induction h generalizing e with
  | stop => exact .there he hlink (hlast rfl)
  | stay hhere _ ih => exact ih hhere (by simp) hdirectory
  | leave hhere _ ih => exact ih (hd.dropLast hhere) (by simp) hdirectory
  | @miss links loc name asDirectory hlooks hnone =>
    have hplain : asDirectory = false := by simpa using hlooks.allowed
    rw [hplain]
    exact .missing hlooks.directory hnone
  | @follow links loc name target rest asDirectory a hlooks _ _ ih =>
    have hstart : d.find? (if isAbsolute target then [] else loc) = some .directory := by
      split
      · exact d.find?_root
      · exact hlooks.directory
    exact ih hstart (by simp) hdirectory
  | enter hlooks hentry hne _ ih =>
    refine ih hentry hne ?_
    rintro rfl rfl
    cases hlooks.allowed

end Disk

/-- Where something is, or would be once it is created. -/
def Place.location : Place → Location
  | .there loc => loc
  | .missing parent name => parent ++ [name]

namespace Disk

theorem Keeps.directory {d d' : Disk} (h : d.Keeps d') {loc : Location}
    (hloc : d.find? loc = some .directory) : d'.find? loc = some .directory := by
  rcases h loc _ hloc with hsame | ⟨_, _, hfile, -⟩
  · exact hsame
  · cases hfile

theorem Looks.keeps {d d' : Disk} (hkeeps : d.Keeps d') {creating : Bool} {loc : Location}
    {name : String} {rest : List String} {asDirectory : Bool}
    (h : d.Looks creating loc name rest asDirectory) : d'.Looks false loc name rest asDirectory :=
  ⟨hkeeps.directory h.directory, h.not_self, h.not_parent, rfl, h.short⟩

/-- The same walk in a later state, in which there is a file where it has arrived. -/
theorem Walks.again {d d' : Disk} (hkeeps : d.Keeps d') {creating : Bool} {links : Nat}
    {loc : Location} {names : List String} {asDirectory : Bool} {a : Arrival}
    (h : d.Walks creating links loc names asDirectory a) {content : Bytes}
    (hfile : d'.find? a.place.location = some (.file content)) :
    d'.Walks false links loc names asDirectory ⟨.there a.place.location, a.asDirectory⟩ := by
  induction h with
  | stop links loc asDirectory => exact .stop links loc asDirectory
  | stay hhere _ ih => exact .stay (hkeeps.directory hhere) (ih hfile)
  | leave hhere _ ih => exact .leave (hkeeps.directory hhere) (ih hfile)
  | miss links hlooks _ =>
    exact .enter (hlooks.keeps hkeeps) hfile (by simp) (.stop links _ _)
  | follow hlooks hlink _ ih =>
    rcases hkeeps _ _ hlink with hsame | ⟨_, _, hne, -⟩
    · exact .follow (hlooks.keeps hkeeps) hsame (ih hfile)
    · cases hne
  | enter hlooks hentry hne _ ih =>
    rcases hkeeps _ _ hentry with hsame | ⟨_, _, -, hchanged⟩
    · exact .enter (hlooks.keeps hkeeps) hsame hne (ih hfile)
    · exact .enter (hlooks.keeps hkeeps) hchanged (by simp) (ih hfile)

/-! ### Paths -/

/-- A path that can be walked at all, and where the walk arrives. -/
structure Leads (d : Disk) (creating : Bool) (path : String) (a : Arrival) : Prop where
  no_nul : path.toList.contains '\x00' = false
  nonempty : path ≠ ""
  short : path.utf8ByteSize < pathLengthLimit
  walks : d.Walks creating maxLinks (if isAbsolute path then [] else d.here) (pathNames path)
    (endsInSlash path) a

theorem locate_ok_iff {d : Disk} {creating : Bool} {path : String} {a : Arrival} :
    d.locate creating path = .ok a ↔ d.Leads creating path a := by
  unfold locate
  constructor
  · intro h
    split at h
    · cases h
    rename_i hnul
    split at h
    · cases h
    rename_i hempty
    split at h
    · cases h
    rename_i hlong
    exact ⟨Bool.eq_false_iff.mpr hnul, hempty, Nat.not_le.mp hlong, .of_walk h⟩
  · intro h
    rw [if_neg (Bool.eq_false_iff.mp h.no_nul), if_neg h.nonempty, if_neg (Nat.not_le.mpr h.short)]
    exact h.walks.walk

theorem Leads.fits {d : Disk} (hd : d.Sound) {path : String} {a : Arrival}
    (h : d.Leads true path a) : d.Fits a := by
  have hstart : d.find? (if isAbsolute path then [] else d.here) = some .directory := by
    split
    · exact d.find?_root
    · exact hd.here
  exact h.walks.fits hd hstart (by simp) fun _ _ => rfl

theorem Leads.again {d d' : Disk} (hkeeps : d.Keeps d') (hhere : d'.here = d.here)
    {creating : Bool} {path : String} {a : Arrival} (h : d.Leads creating path a) {content : Bytes}
    (hfile : d'.find? a.place.location = some (.file content)) :
    d'.Leads false path ⟨.there a.place.location, a.asDirectory⟩ where
  no_nul := h.no_nul
  nonempty := h.nonempty
  short := h.short
  walks := by
    rw [hhere]
    exact h.walks.again hkeeps hfile

end Disk

end Upkeep
