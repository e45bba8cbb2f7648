import Upkeep.Files.Walk
import Upkeep.Files.Home
import Upkeep.Proofs.Quoting

/-!
The home directory on either side. A quoted path comes out of a shell as the path that it has when
it is expanded here, up to slashes that do not matter. The tilde alone is the one exception: it is
the home directory here, and a file of that name to a shell that has it between quotation marks.
-/

set_option autoImplicit false

namespace Upkeep

/-! ### Names in paths -/

/-- Whether two paths differ at most in slashes that are repeated or at the end. -/
def SamePath (a b : String) : Prop := isAbsolute a = isAbsolute b ∧ pathNames a = pathNames b

instance (a b : String) : Decidable (SamePath a b) :=
  inferInstanceAs (Decidable (isAbsolute a = isAbsolute b ∧ pathNames a = pathNames b))

theorem SamePath.refl (a : String) : SamePath a a := ⟨rfl, rfl⟩

theorem SamePath.symm {a b : String} (h : SamePath a b) : SamePath b a := ⟨h.1.symm, h.2.symm⟩

theorem pathNames_append (before after : List Char) :
    pathNames (String.ofList (before ++ '/' :: after)) =
      pathNames (String.ofList before) ++ pathNames (String.ofList after) := by
  simp only [pathNames, String.toList_ofList, Text.splitAt_append, List.filter_append,
    List.map_append]

theorem pathNames_slash (cs : List Char) :
    pathNames (String.ofList ('/' :: cs)) = pathNames (String.ofList cs) :=
  pathNames_append [] cs

theorem pathNames_dropSlashes (cs : List Char) :
    pathNames (String.ofList (cs.dropWhile (· = '/'))) = pathNames (String.ofList cs) := by
  induction cs with
  | nil => rfl
  | cons c cs ih =>
    by_cases hc : c = '/'
    · subst hc
      rw [pathNames_slash, ← ih]
      rfl
    · rw [List.dropWhile_cons_of_neg (by simpa using hc)]

theorem pathNames_join (directory path : List Char) :
    pathNames (String.ofList (join directory path)) =
      pathNames (String.ofList directory) ++ pathNames (String.ofList path) := by
  unfold join
  split
  · rename_i hlast
    -- The slash at the end of the directory is the one between the two.
    obtain ⟨front, rfl⟩ := List.getLast?_eq_some_iff.mp hlast
    rw [List.append_assoc, List.singleton_append, pathNames_append, pathNames_append front []]
    exact congrArg (· ++ _) (List.append_nil _).symm
  · exact pathNames_append directory path

theorem isAbsolute_append {before : List Char} (h : isAbsolute (String.ofList before) = true)
    (after : List Char) : isAbsolute (String.ofList (before ++ after)) = true := by
  simp only [isAbsolute, String.toList_ofList] at h ⊢
  cases before with
  | nil => cases h
  | cons c before => exact h

theorem isAbsolute_join {directory : List Char} (h : isAbsolute (String.ofList directory) = true)
    (path : List Char) : isAbsolute (String.ofList (join directory path)) = true := by
  unfold join
  split <;> exact isAbsolute_append h _

/-! ### Paths in the home directory -/

variable {home : String}

theorem ne_empty_of_isAbsolute (h : isAbsolute home = true) : home ≠ "" := by
  rintro rfl
  cases h

theorem expand_tilde (hhome : isAbsolute home = true) : expand home "~" = home := by
  rw [expand, if_neg (ne_empty_of_isAbsolute hhome)]
  rfl

/-- However many slashes come after the tilde. -/
theorem expand_below (hhome : isAbsolute home = true) (rest : String) :
    SamePath (expand home ("~/" ++ rest)) (home ++ "/" ++ rest) := by
  have hlist : ("~/" ++ rest).toList = '~' :: '/' :: rest.toList := by simp
  have hwhole : home ++ "/" ++ rest = String.ofList (home.toList ++ '/' :: rest.toList) := by
    simp [← String.toList_inj]
  have hnames := pathNames_dropSlashes rest.toList
  have habsolute : isAbsolute (String.ofList home.toList) = true := by
    rwa [String.ofList_toList]
  rw [expand, if_neg (ne_empty_of_isAbsolute hhome), hlist, hwhole]
  simp only
  split
  · rename_i hnil
    rw [hnil] at hnames
    constructor
    · rw [hhome, isAbsolute_append habsolute]
    · rw [pathNames_append, ← hnames, String.ofList_toList]
      exact (List.append_nil _).symm
  · rename_i hrest
    constructor
    · rw [isAbsolute_join habsolute, isAbsolute_append habsolute]
    · rw [pathNames_join, pathNames_append, hnames]

theorem expand_elsewhere {path : String} (hne : path ≠ "~")
    (hbelow : ∀ rest, path.toList ≠ '~' :: '/' :: rest) : expand home path = path := by
  have htilde : path.toList ≠ ['~'] := by
    intro htilde
    exact hne (String.toList_inj.mp htilde)
  unfold expand
  generalize (if home = "" then accountHome else home) = directory
  split
  · exact absurd ‹_› htilde
  · exact absurd ‹_› (hbelow _)
  · rfl

/-! ### Quoted paths -/

open Shell

theorem arguments?_quote (home path : String) :
    arguments? home (quote path) = some [fromHome home path] := by
  have htokens : tokens? (quote path) = some [.word (glyphs path.toList)] := by
    rw [tokens?, toList_quote, Scanner.scan_quoteChars_none]
    rfl
  have hpath : Token.argument? home (.word (glyphs path.toList)) = some (fromHome home path) :=
    argument?_glyphs home path
  simp [arguments?, htokens, hpath]

theorem fromHome_below (home rest : String) :
    fromHome home ("~/" ++ rest) = home ++ "/" ++ rest := by
  have hlist : ("~/" ++ rest).toList = '~' :: '/' :: rest.toList := by simp
  rw [fromHome, hlist]
  simp only [String.ofList_toList]

theorem fromHome_elsewhere (home : String) {path : String}
    (hbelow : ∀ rest, path.toList ≠ '~' :: '/' :: rest) : fromHome home path = path := by
  have hpath := fromHome_of_ne home hbelow
  rwa [String.ofList_toList] at hpath

/-- A shell and the expansion of paths agree on every path but the tilde alone. -/
theorem samePath_fromHome_expand_iff (hhome : isAbsolute home = true) (path : String) :
    SamePath (fromHome home path) (expand home path) ↔ path ≠ "~" := by
  constructor
  · rintro hsame rfl
    have hname : fromHome home "~" = "~" := fromHome_elsewhere home (by simp)
    rw [hname, expand_tilde hhome] at hsame
    exact absurd (hsame.1.trans hhome) (by decide)
  · intro hne
    by_cases hbelow : ∃ rest, path.toList = '~' :: '/' :: rest
    · obtain ⟨rest, hrest⟩ := hbelow
      have hpath : path = "~/" ++ String.ofList rest := by
        rw [← String.toList_inj, hrest]
        simp
      rw [hpath, fromHome_below]
      exact (expand_below hhome _).symm
    · have hbelow' : ∀ rest, path.toList ≠ '~' :: '/' :: rest := by
        intro rest hrest
        exact hbelow ⟨rest, hrest⟩
      rw [fromHome_elsewhere home hbelow', expand_elsewhere hne hbelow']
      exact .refl path

/-- A shell takes the quoted path for one name. That is where the path leads when it is expanded
here, unless the path is the tilde alone, and below a tilde both are in the home directory. -/
theorem Shell.quote_expands (hhome : isAbsolute home = true) (path : String) :
    ∃ name, arguments? home (quote path) = some [name] ∧
      (SamePath name (expand home path) ↔ path ≠ "~") ∧
      ∀ rest, path = "~/" ++ rest →
        SamePath name (home ++ "/" ++ rest) ∧
          SamePath (expand home path) (home ++ "/" ++ rest) := by
  refine ⟨_, arguments?_quote home path, samePath_fromHome_expand_iff hhome path, ?_⟩
  rintro rest rfl
  constructor
  · rw [fromHome_below]
    exact .refl _
  · exact expand_below hhome rest

theorem Shell.quote_expands_slashes :
    isAbsolute "/home/u/" = true ∧
      arguments? "/home/u/" (quote "~//~/a b") = some ["/home/u///~/a b"] ∧
      SamePath "/home/u///~/a b" (expand "/home/u/" "~//~/a b") := by
  have hhome : isAbsolute "/home/u/" = true := by decide
  obtain ⟨name, hname, hiff, -⟩ := Shell.quote_expands hhome "~//~/a b"
  have hword : arguments? "/home/u/" (quote "~//~/a b") = some ["/home/u///~/a b"] := by
    decide +kernel
  obtain rfl : "/home/u///~/a b" = name := by simpa using hword.symm.trans hname
  exact ⟨hhome, hword, hiff.mpr (by decide)⟩

/-- The home directory itself, as a file in the directory where the shell is. -/
theorem Shell.quote_tilde_alone :
    isAbsolute "/home/u" = true ∧ arguments? "/home/u" (quote "~") = some ["~"] ∧
      expand "/home/u" "~" = "/home/u" ∧ ¬ SamePath "~" "/home/u" := by
  decide +kernel

end Upkeep
