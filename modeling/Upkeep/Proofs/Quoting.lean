import Upkeep.Proofs.Tokens
import Upkeep.Remote.Command

/-!
Quoted words under a shell. Whatever a word is, a shell reads its quoted form as one word, and takes
that for the word itself, except for the home directory in place of a tilde before a slash. That is
right for paths. The pattern of a search is quoted like a path, and is not always taken for itself.
-/

set_option autoImplicit false

namespace Upkeep

namespace Shell

/-! ### One word -/

def bareGlyphs (cs : List Char) : List Glyph := cs.map fun c => ⟨c, .bare⟩

def fullGlyphs (cs : List Char) : List Glyph := cs.map fun c => ⟨c, .full⟩

@[simp] theorem bareGlyphs_cons (c : Char) (cs : List Char) :
    bareGlyphs (c :: cs) = ⟨c, .bare⟩ :: bareGlyphs cs := rfl

@[simp] theorem fullGlyphs_cons (c : Char) (cs : List Char) :
    fullGlyphs (c :: cs) = ⟨c, .full⟩ :: fullGlyphs cs := rfl

@[simp] theorem bareGlyphs_chars (cs : List Char) : (bareGlyphs cs).map Glyph.char = cs := by
  simp [bareGlyphs, Function.comp_def]

@[simp] theorem fullGlyphs_chars (cs : List Char) : (fullGlyphs cs).map Glyph.char = cs := by
  simp [fullGlyphs, Function.comp_def]

/-- How a quoted word is read. -/
def glyphs : List Char → List Glyph
  | '~' :: '/' :: rest => ⟨'~', .bare⟩ :: ⟨'/', .bare⟩ :: glyphs rest
  | word => if !word.isEmpty && word.all isPlain then bareGlyphs word else fullGlyphs word

theorem toList_quote (word : String) : (quote word).toList = quoteChars word.toList :=
  String.toList_ofList

theorem glyphs_chars (word : List Char) : (glyphs word).map Glyph.char = word := by
  fun_induction glyphs word with
  | case1 rest ih => simp [ih]
  | case2 word _ _ => exact bareGlyphs_chars word
  | case3 word _ _ => exact fullGlyphs_chars word

theorem isPlain_of_head {c : Char} {cs : List Char}
    (h : (!(c :: cs).isEmpty && (c :: cs).all isPlain) = true) : isPlain c = true := by
  simp only [List.isEmpty_cons, Bool.not_false, List.all_cons, Bool.true_and,
    Bool.and_eq_true] at h
  exact h.1

theorem not_mem_of_isPlain {c : Char} (h : isPlain c = true) {cs : List Char}
    (hcs : cs.any isPlain = false) : c ∉ cs := by
  intro hc
  have hplain : cs.any isPlain = true := List.any_eq_true.mpr ⟨c, hc, h⟩
  rw [hcs] at hplain
  cases hplain

namespace Scanner

variable {ts : List Token} {gs : List Glyph}

/-- A plain character goes to a word, whatever comes before it but an operator. -/
theorem step_plain {c : Char} (h : isPlain c = true) {current : Option Token}
    (hcurrent : ∀ chars, current ≠ some (.operator chars)) :
    step ⟨.bare, ts, current⟩ c = put ⟨.bare, ts, current⟩ ⟨c, .bare⟩ := by
  have hc : c ∉ ['\\', '\x27', '\x22', ' ', '\t', '&', '(', ')', ';', '|', '<', '>', '\n', '#'] :=
    not_mem_of_isPlain h rfl
  simp only [List.mem_cons, List.not_mem_nil, or_false, not_or] at hc
  have hlonger : longer? ⟨.bare, ts, current⟩ c = none := by
    unfold longer?
    split
    · exact absurd ‹_› (hcurrent _)
    · rfl
  simp [step, stepBare, hlonger, isOperator, operators, hc]

theorem scan_plain {cs : List Char} (h : cs.all isPlain = true) :
    scan ⟨.bare, ts, some (.word gs)⟩ cs =
      ⟨.bare, ts, some (.word (gs ++ bareGlyphs cs))⟩ := by
  induction cs generalizing gs with
  | nil => simp [bareGlyphs]
  | cons c cs ih =>
    rw [List.all_cons, Bool.and_eq_true] at h
    rw [scan_cons, step_plain h.1 (by simp), put, ih h.2]
    simp

/-- Between single marks nothing has a meaning. A mark in the word leaves them and enters again. -/
theorem scan_quoteChar (c : Char) :
    scan ⟨.single, ts, some (.word gs)⟩ (quoteChar c) =
      ⟨.single, ts, some (.word (gs ++ [⟨c, .full⟩]))⟩ := by
  by_cases hc : c = '\x27'
  · subst hc
    rfl
  · simp [quoteChar, hc, step, put]

theorem scan_marked (cs : List Char) :
    scan ⟨.single, ts, some (.word gs)⟩ (cs.flatMap quoteChar ++ ['\x27']) =
      ⟨.bare, ts, some (.word (gs ++ fullGlyphs cs))⟩ := by
  induction cs generalizing gs with
  | nil => simp [fullGlyphs, step]
  | cons c cs ih =>
    rw [List.flatMap_cons, List.append_assoc, scan_append, scan_quoteChar, ih]
    simp

/-- A quoted word goes on with the word at hand. -/
theorem scan_quoteChars (word : List Char) :
    scan ⟨.bare, ts, some (.word gs)⟩ (quoteChars word) =
      ⟨.bare, ts, some (.word (gs ++ glyphs word))⟩ := by
  fun_induction quoteChars word generalizing gs with
  | case1 rest ih =>
    have htilde : step ⟨.bare, ts, some (.word gs)⟩ '~' =
        ⟨.bare, ts, some (.word (gs ++ [⟨'~', .bare⟩]))⟩ := rfl
    rw [scan_cons, htilde, scan_cons, step_plain (by decide) (by simp), put, ih]
    simp [glyphs]
  | case2 word hhome hplain =>
    rw [glyphs, if_pos hplain]
    · exact scan_plain (Bool.and_eq_true _ _ ▸ hplain).2
    · exact hhome
  | case3 word hhome hplain =>
    have hmark : step ⟨.bare, ts, some (.word gs)⟩ '\x27' = ⟨.single, ts, some (.word gs)⟩ := rfl
    rw [glyphs, if_neg hplain]
    · rw [scan_cons, hmark, scan_marked]
    · exact hhome

/-- A quoted word begins a word where there is none. -/
theorem scan_quoteChars_none (word : List Char) :
    scan ⟨.bare, ts, none⟩ (quoteChars word) = ⟨.bare, ts, some (.word (glyphs word))⟩ := by
  -- The first character begins a word, as if there were an empty one already.
  have hbegin : scan ⟨.bare, ts, none⟩ (quoteChars word) =
      scan ⟨.bare, ts, some (.word [])⟩ (quoteChars word) := by
    fun_cases quoteChars word with
    | case1 rest =>
      have htilde : step ⟨.bare, ts, none⟩ '~' = step ⟨.bare, ts, some (.word [])⟩ '~' := by
        simp [step, stepBare, longer?, isOperator, operators, put, delimit]
      simp only [scan_cons, htilde]
    | case2 _ _ hplain =>
      cases word with
      | nil => simp at hplain
      | cons c cs =>
        have hc := isPlain_of_head hplain
        have hfirst : step ⟨.bare, ts, none⟩ c = step ⟨.bare, ts, some (.word [])⟩ c := by
          rw [step_plain hc (by simp), step_plain hc (by simp)]
          simp [put, delimit]
        simp only [scan_cons, hfirst]
    | case3 _ _ _ =>
      have hmark : step ⟨.bare, ts, none⟩ '\x27' = step ⟨.bare, ts, some (.word [])⟩ '\x27' := by
        simp [step, stepBare, longer?, enter, delimit]
      simp only [scan_cons, hmark]
  rw [hbegin, scan_quoteChars, List.nil_append]

end Scanner

/-! ### What a word stands for -/

/-- The home directory in place of a tilde before a slash. -/
def fromHome (home path : String) : String :=
  match path.toList with
  | '~' :: '/' :: rest => home ++ "/" ++ String.ofList rest
  | _ => path

theorem isInert_of_isPlain {c : Char} (h : isPlain c = true) : Glyph.isInert ⟨c, .bare⟩ = true := by
  have hc : c ∉ ['$', '\x60', '*', '?', '['] := not_mem_of_isPlain h rfl
  simp only [List.mem_cons, List.not_mem_nil, or_false, not_or] at hc
  simp [Glyph.isInert, hc]

theorem all_isInert_glyphs (word : List Char) : (glyphs word).all Glyph.isInert = true := by
  fun_induction glyphs word with
  | case1 rest ih => simp [Glyph.isInert, ih]
  | case2 word _ hplain =>
    rw [Bool.and_eq_true, List.all_eq_true] at hplain
    rw [List.all_eq_true]
    intro g hg
    obtain ⟨c, hc, rfl⟩ := List.mem_map.mp hg
    exact isInert_of_isPlain (hplain.2 c hc)
  | case3 word _ _ =>
    rw [List.all_eq_true]
    intro g hg
    obtain ⟨c, -, rfl⟩ := List.mem_map.mp hg
    rfl

theorem fromHome_of_ne (home : String) {cs : List Char} (h : ∀ rest, cs ≠ '~' :: '/' :: rest) :
    fromHome home (String.ofList cs) = String.ofList cs := by
  unfold fromHome
  rw [String.toList_ofList]
  split
  · exact absurd rfl (h _)
  · rfl

theorem withHome?_glyphs (home : String) (cs : List Char) :
    withHome? home (glyphs cs) = some (fromHome home (String.ofList cs)) := by
  fun_cases glyphs cs with
  | case1 rest =>
    simp [withHome?, Glyph.isBare, plainText, glyphs_chars, fromHome, String.append_assoc,
      String.ofList_cons]
  | case2 _ hhome hplain =>
    rw [fromHome_of_ne home hhome]
    cases cs with
    | nil => simp at hplain
    | cons c cs =>
      -- The tilde is not plain, so none can be at the start.
      have hc := isPlain_of_head hplain
      have hne : c ≠ '~' := by
        rintro rfl
        simp [isPlain, Char.isAlphanum] at hc
      simp [withHome?, Glyph.isBare, hne, plainText]
  | case3 _ hhome _ =>
    rw [fromHome_of_ne home hhome]
    cases cs with
    | nil => rfl
    | cons c cs => simp [withHome?, Glyph.isBare, plainText]

/-- A shell takes a quoted word for the word itself, but for the home directory. -/
theorem argument?_glyphs (home word : String) :
    argument? home (glyphs word.toList) = some (fromHome home word) := by
  rw [argument?, if_pos (all_isInert_glyphs _), withHome?_glyphs, String.ofList_toList]

/-- A plain word stands for itself. -/
theorem argument?_bareGlyphs (home : String) {word : String}
    (h : (!word.toList.isEmpty && word.toList.all isPlain) = true) :
    argument? home (bareGlyphs word.toList) = some word := by
  have hhome : ∀ rest, word.toList ≠ '~' :: '/' :: rest := by
    intro rest hrest
    rw [hrest] at h
    simp [isPlain, Char.isAlphanum] at h
  have hglyphs : bareGlyphs word.toList = glyphs word.toList := by
    rw [glyphs, if_pos h]
    exact hhome
  have hword := fromHome_of_ne home hhome
  rw [String.ofList_toList] at hword
  rw [hglyphs, argument?_glyphs, hword]

theorem mapM_argument?_bareGlyphs (home : String) {words : List String}
    (h : ∀ word ∈ words, (!word.toList.isEmpty && word.toList.all isPlain) = true) :
    (words.map fun word => Token.word (bareGlyphs word.toList)).mapM (Token.argument? home) =
      some words := by
  induction words with
  | nil => rfl
  | cons word words ih =>
    rw [List.map_cons, List.mapM_cons, ih fun word hword => h word (.tail _ hword),
      Token.argument?, argument?_bareGlyphs home (h word (.head _))]
    rfl

end Shell

/-! ### Searches -/

open Shell

theorem tokens?_search (path pattern : String) :
    tokens? (Remote.Command.search path pattern).line =
      some ((["grep", "-q", "-E", "-e"].map fun word => .word (bareGlyphs word.toList)) ++
        [.word (glyphs pattern.toList)] ++
        (["--"].map fun word => .word (bareGlyphs word.toList)) ++
        [.word (glyphs path.toList)]) := by
  have hstart : Scanner.scan {} "grep -q -E -e ".toList =
      ⟨.bare, ["grep", "-q", "-E", "-e"].map fun word => .word (bareGlyphs word.toList), none⟩ := by
    decide +kernel
  have hbetween (ts : List Token) (gs : List Glyph) :
      Scanner.scan ⟨.bare, ts, some (.word gs)⟩ " -- ".toList =
        ⟨.bare, ts ++ [.word gs] ++ ["--"].map fun word => .word (bareGlyphs word.toList),
          none⟩ := by
    simp [Scanner.step, Scanner.stepBare, Scanner.longer?, Scanner.delimit, Scanner.put,
      isOperator, operators, bareGlyphs]
  rw [tokens?, Remote.Command.line, String.toList_append, String.toList_append,
    String.toList_append, toList_quote, toList_quote, Scanner.scan_append, Scanner.scan_append,
    Scanner.scan_append, hstart, Scanner.scan_quoteChars_none, hbetween,
    Scanner.scan_quoteChars_none]
  rfl

theorem fromHome_eq_self_iff {home pattern : String} :
    fromHome home pattern = pattern ↔ ¬ ['~', '/'] <+: pattern.toList ∨ home = "~" := by
  unfold fromHome
  split
  · rename_i rest hrest
    have hpattern : pattern = "~" ++ "/" ++ String.ofList rest := by
      rw [← String.toList_inj, hrest]
      simp
    have hhome : home ++ "/" = "~/" ↔ home = "~" := by
      rw [← String.toList_inj, ← String.toList_inj, String.toList_append]
      have hlist : home.toList ++ ['/'] = ['~'] ++ ['/'] ↔ home.toList = ['~'] :=
        List.append_left_inj ['/']
      simpa using hlist
    rw [hpattern]
    simpa using hhome
  · rename_i hhome
    have htilde : ¬ ['~', '/'] <+: pattern.toList := by
      rintro ⟨rest, hrest⟩
      exact hhome rest hrest.symm
    simp [htilde]

/-- A search has the home directory put into its path and into its pattern alike. Into the pattern,
which is to be looked for as it is, that is once too often. -/
theorem Remote.Command.search_arguments (home path pattern : String) :
    arguments? home (Command.search path pattern).line =
        some ["grep", "-q", "-E", "-e", fromHome home pattern, "--", fromHome home path] ∧
      (arguments? home (Command.search path pattern).line =
          some ["grep", "-q", "-E", "-e", pattern, "--", fromHome home path] ↔
        ¬ ['~', '/'] <+: pattern.toList ∨ home = "~") := by
  have hpattern : Token.argument? home (.word (glyphs pattern.toList)) =
      some (fromHome home pattern) := argument?_glyphs home pattern
  have hpath : Token.argument? home (.word (glyphs path.toList)) = some (fromHome home path) :=
    argument?_glyphs home path
  have harguments : arguments? home (Command.search path pattern).line =
      some ["grep", "-q", "-E", "-e", fromHome home pattern, "--", fromHome home path] := by
    rw [arguments?, tokens?_search, Option.bind_some, List.mapM_append, List.mapM_append,
      List.mapM_append, mapM_argument?_bareGlyphs home (by decide),
      mapM_argument?_bareGlyphs home (by decide)]
    simp [hpattern, hpath]
  refine ⟨harguments, ?_⟩
  rw [harguments, ← fromHome_eq_self_iff]
  simp

/-- A pattern with a home directory that nobody wrote. -/
theorem Remote.Command.search_tilde_pattern :
    arguments? "/root" (Command.search "/etc/motd" "~/x").line =
        some ["grep", "-q", "-E", "-e", "/root/x", "--", "/etc/motd"] ∧
      arguments? "/root" (Command.search "/etc/motd" "~/x").line ≠
        some ["grep", "-q", "-E", "-e", "~/x", "--", "/etc/motd"] := by
  decide +kernel

end Upkeep
