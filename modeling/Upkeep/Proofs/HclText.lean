import Upkeep.Hcl.Reader
import Upkeep.Proofs.JsonText

/-!
Texts and numbers of HCL. A text that has been quoted is read as itself, whether as a value or as
the label of a block, and so is an integer of 64 bits.
-/

set_option autoImplicit false

namespace Upkeep.Hcl

/-! ### Escapes -/

/-- A character that opens a template if a brace follows it. -/
def IsMark (c : Char) : Prop := c = '$' ∨ c = '%'

/-- A text and how it stands inside quotation marks. Marks are doubled before a brace, and no other
mark comes to stand before one. -/
inductive Escaped : List Char → List Char → Prop where
  | nil : Escaped [] []
  | mark {m : Char} {cs es : List Char} : IsMark m → Escaped cs es →
      Escaped (m :: '\x7b' :: cs) (m :: m :: '\x7b' :: es)
  | letter {c e : Char} {digits cs es : List Char} :
      (∀ rest, escape? (e :: (digits ++ rest)) = some (c, rest)) →
      (∀ d ∈ digits, d.isAlphanum = true) → Escaped cs es →
      Escaped (c :: cs) ('\\' :: e :: (digits ++ es))
  | plain {c : Char} {cs es : List Char} : c ≠ '\x22' → c ≠ '\\' →
      (IsMark c → ∀ rest, es ≠ '\x7b' :: rest) → Escaped cs es → Escaped (c :: cs) (c :: es)

theorem control_digits : ∀ n < 0x20,
    let digits := ['0', '0', hexDigitChar (n / 16), hexDigitChar (n % 16)]
    Number.ofDigits 16 digits = n ∧ digits.all Number.isHexDigit = true ∧
      digits.all Char.isAlphanum = true := by decide

theorem codePoint_control {n : Nat} (h : n < 0x20) (rest : List Char) :
    codePoint? 4 ('0' :: '0' :: hexDigitChar (n / 16) :: hexDigitChar (n % 16) :: rest) =
      some (Char.ofNat n, rest) := by
  obtain ⟨hvalue, hhex, -⟩ := control_digits n h
  have hvalid : Nat.isValidChar n := Or.inl (by omega)
  simp only [codePoint?, List.take_succ_cons, List.take_zero, List.drop_succ_cons, List.drop_zero,
    hvalue, hhex]
  simp [hvalid]

/-- A character is escaped by a letter and perhaps a number, or not at all. -/
theorem escapeChar_cases (c : Char) :
    (∃ e digits, escapeChar c = '\\' :: e :: digits ∧ ¬ IsMark e ∧
      (∀ rest, escape? (e :: (digits ++ rest)) = some (c, rest)) ∧
      ∀ d ∈ digits, d.isAlphanum = true) ∨
    (escapeChar c = [c] ∧ c ≠ '\x22' ∧ c ≠ '\\') := by
  unfold escapeChar
  split_ifs with hquote hbackslash _ _ _ _ _ hcontrol
  iterate 7
    subst c
    exact Or.inl ⟨_, [], rfl, by simp [IsMark], fun _ => rfl, by simp⟩
  · obtain ⟨-, -, hdigits⟩ := control_digits c.toNat hcontrol
    refine Or.inl ⟨'u', _, rfl, by simp [IsMark], fun rest => ?_, List.all_eq_true.mp hdigits⟩
    have hread := codePoint_control hcontrol rest
    rw [Char.ofNat_toNat] at hread
    exact hread
  · exact Or.inr ⟨rfl, hquote, hbackslash⟩

theorem escapeMarks_cons {c : Char} {cs : List Char}
    (h : IsMark c → ∀ rest, cs ≠ '\x7b' :: rest) : escapeMarks (c :: cs) = c :: escapeMarks cs := by
  rw [escapeMarks.eq_def]
  split
  · rename_i heq
    obtain ⟨rfl, rfl⟩ := List.cons.inj heq
    exact absurd rfl (h (Or.inl rfl) _)
  · rename_i heq
    obtain ⟨rfl, rfl⟩ := List.cons.inj heq
    exact absurd rfl (h (Or.inr rfl) _)
  · rename_i heq
    obtain ⟨rfl, rfl⟩ := List.cons.inj heq
    rfl
  · rename_i heq
    cases heq

theorem escapeMarks_append {ds : List Char} (h : ∀ d ∈ ds, ¬ IsMark d) (cs : List Char) :
    escapeMarks (ds ++ cs) = ds ++ escapeMarks cs := by
  induction ds with
  | nil => rfl
  | cons d ds ih =>
    rw [List.cons_append, escapeMarks_cons fun hmark => absurd hmark (h d (.head ds)),
      ih fun d' hd' => h d' (.tail d hd'), List.cons_append]

theorem not_isMark_of_isAlphanum {c : Char} (h : c.isAlphanum = true) : ¬ IsMark c := by
  rintro (rfl | rfl) <;> cases h

theorem flatMap_escapeChar_ne {cs : List Char} (h : ∀ rest, cs ≠ '\x7b' :: rest)
    (rest : List Char) : cs.flatMap escapeChar ≠ '\x7b' :: rest := by
  cases cs with
  | nil => simp
  | cons c cs =>
    intro heq
    rw [List.flatMap_cons] at heq
    rcases escapeChar_cases c with ⟨e, digits, hescape, -⟩ | ⟨hescape, -⟩
    · rw [hescape] at heq
      cases heq
    · rw [hescape] at heq
      obtain ⟨rfl, -⟩ := List.cons.inj heq
      exact h cs rfl

theorem escapeMarks_ne {cs : List Char} (h : ∀ rest, cs ≠ '\x7b' :: rest) (rest : List Char) :
    escapeMarks cs ≠ '\x7b' :: rest := by
  rw [escapeMarks.eq_def]
  split
  · simp
  · simp
  · rintro ⟨⟩
    exact h _ rfl
  · simp

theorem escaped_char {c : Char} {cs : List Char} (hbrace : IsMark c → ∀ rest, cs ≠ '\x7b' :: rest)
    (h : Escaped cs (escape cs)) : Escaped (c :: cs) (escape (c :: cs)) := by
  rw [escape, List.flatMap_cons]
  rcases escapeChar_cases c with ⟨e, digits, hescape, hletter, hread, hdigits⟩ |
    ⟨hescape, hquote, hbackslash⟩
  · have hmarks : ∀ d ∈ '\\' :: e :: digits, ¬ IsMark d := by
      simp only [List.mem_cons]
      rintro d (rfl | rfl | hd)
      · simp [IsMark]
      · exact hletter
      · exact not_isMark_of_isAlphanum (hdigits d hd)
    rw [hescape, escapeMarks_append hmarks]
    exact .letter hread hdigits h
  · have hnext : IsMark c → ∀ rest, cs.flatMap escapeChar ≠ '\x7b' :: rest :=
      fun hmark => flatMap_escapeChar_ne (hbrace hmark)
    rw [hescape, List.singleton_append, escapeMarks_cons hnext]
    exact .plain hquote hbackslash (fun hmark => escapeMarks_ne (hnext hmark)) h

theorem escaped (cs : List Char) : Escaped cs (escape cs) := by
  induction cs using List.twoStepInduction with
  | nil => exact .nil
  | singleton c => exact escaped_char (by simp) .nil
  | cons_cons c d cs ih ihd =>
    by_cases hopens : IsMark c ∧ d = '\x7b'
    · obtain ⟨hmark, rfl⟩ := hopens
      have hescape : escape (c :: '\x7b' :: cs) = c :: c :: '\x7b' :: escape cs := by
        rcases hmark with rfl | rfl <;> rfl
      rw [hescape]
      exact .mark hmark ih
    · refine escaped_char (fun hmark rest heq => ?_) (ihd d)
      obtain ⟨rfl, -⟩ := List.cons.inj heq
      exact hopens ⟨hmark, rfl⟩

/-! ### Reading them -/

/-- No mark stands before a brace that is not doubled. -/
theorem Escaped.ne_mark {cs es : List Char} (h : Escaped cs es) {m : Char} (hm : IsMark m)
    (rest rest' : List Char) : es ++ '\x22' :: rest ≠ m :: '\x7b' :: rest' := by
  cases h with
  | nil =>
    intro heq
    cases heq
    rcases hm with hm | hm <;> cases hm
  | mark hmark _ =>
    intro heq
    cases heq
    rcases hm with hm | hm <;> cases hm
  | letter _ _ _ =>
    intro heq
    cases heq
    rcases hm with hm | hm <;> cases hm
  | @plain c cs es _ _ hbrace _ =>
    intro heq
    obtain ⟨rfl, hrest⟩ := List.cons.inj heq
    cases es with
    | nil => cases hrest
    | cons e es =>
      obtain ⟨rfl, -⟩ := List.cons.inj hrest
      exact hbrace hm es rfl

theorem Escaped.ne_brace {c : Char} {es : List Char}
    (h : IsMark c → ∀ rest, es ≠ '\x7b' :: rest) (hmark : IsMark c) (rest rest' : List Char) :
    es ++ '\x22' :: rest ≠ '\x7b' :: rest' := by
  cases es with
  | nil =>
    intro heq
    cases heq
  | cons e es =>
    intro heq
    obtain ⟨rfl, -⟩ := List.cons.inj heq
    exact h hmark es rfl

/-- A character that neither ends a literal part nor begins something. -/
theorem scanLiteral_plain {c : Char} {cs : List Char} (hquote : c ≠ '\x22') (hbackslash : c ≠ '\\')
    (hbrace : IsMark c → ∀ rest, cs ≠ '\x7b' :: rest)
    (hmark : IsMark c → ∀ rest, cs ≠ c :: '\x7b' :: rest) :
    scanLiteral true (c :: cs) = (c :: (scanLiteral true cs).1, (scanLiteral true cs).2) := by
  rw [scanLiteral.eq_def]
  split
  · rename_i heq
    obtain ⟨rfl, rfl⟩ := List.cons.inj heq
    exact absurd rfl (hmark (Or.inl rfl) _)
  · rename_i heq
    obtain ⟨rfl, rfl⟩ := List.cons.inj heq
    exact absurd rfl (hmark (Or.inr rfl) _)
  · rename_i heq
    obtain ⟨rfl, rfl⟩ := List.cons.inj heq
    exact absurd rfl (hbrace (Or.inl rfl) _)
  · rename_i heq
    obtain ⟨rfl, rfl⟩ := List.cons.inj heq
    exact absurd rfl (hbrace (Or.inr rfl) _)
  · rename_i heq
    exact absurd (List.cons.inj heq).1 hbackslash
  · rename_i heq
    obtain ⟨rfl, rfl⟩ := List.cons.inj heq
    simp [hquote]
  · rename_i heq
    cases heq

theorem ne_of_isAlphanum {c : Char} (h : c.isAlphanum = true) {e : Char}
    (he : e.isAlphanum = false) : c ≠ e := by
  rintro rfl
  rw [h] at he
  cases he

theorem scanLiteral_digits {ds : List Char} (h : ∀ d ∈ ds, d.isAlphanum = true) (cs : List Char) :
    scanLiteral true (ds ++ cs) = (ds ++ (scanLiteral true cs).1, (scanLiteral true cs).2) := by
  induction ds with
  | nil => rfl
  | cons d ds ih =>
    have hd := h d (.head ds)
    have hmark := not_isMark_of_isAlphanum hd
    rw [List.cons_append, scanLiteral_plain (ne_of_isAlphanum hd rfl) (ne_of_isAlphanum hd rfl)
      (absurd · hmark) (absurd · hmark), ih fun d' hd' => h d' (.tail d hd')]
    rfl

theorem Escaped.scanLiteral {cs es : List Char} (h : Escaped cs es) (rest : List Char) :
    scanLiteral true (es ++ '\x22' :: rest) = (es, '\x22' :: rest) := by
  induction h with
  | nil => simp [Hcl.scanLiteral]
  | mark hmark _ ih => rcases hmark with rfl | rfl <;> simp [Hcl.scanLiteral, ih]
  | letter _ hdigits _ ih =>
    simp only [List.cons_append, List.append_assoc, Hcl.scanLiteral, if_true,
      scanLiteral_digits hdigits, ih]
  | @plain c cs es hquote hbackslash hbrace h ih =>
    have hopens := fun hmark : IsMark c => ne_brace hbrace hmark rest
    have hdoubles := fun hmark : IsMark c => h.ne_mark hmark rest
    rw [List.cons_append, scanLiteral_plain hquote hbackslash hopens hdoubles, ih]

theorem Escaped.unescape {cs es : List Char} (h : Escaped cs es) {n : Nat} (hn : es.length ≤ n) :
    unescape n es = cs := by
  induction h generalizing n with
  | nil => cases n <;> rfl
  | @mark m cs es hmark _ ih =>
    simp only [List.length_cons] at hn
    obtain ⟨n, rfl⟩ : ∃ k, n = k + 1 := ⟨n - 1, by omega⟩
    rcases hmark with rfl | rfl <;> simp [Hcl.unescape, ih (n := n) (by omega)]
  | @letter c e digits cs es hread _ _ ih =>
    simp only [List.length_cons, List.length_append] at hn
    obtain ⟨n, rfl⟩ : ∃ k, n = k + 1 := ⟨n - 1, by omega⟩
    simp only [Hcl.unescape, hread, ih (n := n) (by omega)]
  | @plain c cs es _ hbackslash hbrace h ih =>
    simp only [List.length_cons] at hn
    obtain ⟨n, rfl⟩ : ∃ k, n = k + 1 := ⟨n - 1, by omega⟩
    have hmark : IsMark c → ∀ rest, es ≠ c :: '\x7b' :: rest := by
      rintro hmark rest rfl
      exact h.ne_mark hmark [] (rest ++ ['\x22']) rfl
    rw [Hcl.unescape.eq_def]
    split
    · rename_i heq
      exact absurd (List.cons.inj heq).1 hbackslash
    · rename_i heq
      obtain ⟨rfl, rfl⟩ := List.cons.inj heq
      exact absurd rfl (hmark (Or.inl rfl) _)
    · rename_i heq
      obtain ⟨rfl, rfl⟩ := List.cons.inj heq
      exact absurd rfl (hmark (Or.inr rfl) _)
    · rename_i hn' heq
      obtain ⟨rfl, rfl⟩ := List.cons.inj heq
      obtain rfl := Nat.succ.inj hn'
      rw [ih (by omega)]
    · rename_i hnot
      exact absurd rfl (hnot n c es rfl)

theorem scanLabel_plain {c : Char} (hquote : c ≠ '\x22') (hbackslash : c ≠ '\\') (n : Nat)
    (cs : List Char) :
    scanLabel (n + 1) (c :: cs) = (scanLabel n cs).map fun (part, rest) => (c :: part, rest) := by
  rw [scanLabel.eq_def]
  split
  · rename_i heq
    exact absurd (List.cons.inj heq).1 hbackslash
  · rename_i hn heq
    obtain ⟨rfl, rfl⟩ := List.cons.inj heq
    obtain rfl := Nat.succ.inj hn
    rw [if_neg hquote]
    cases scanLabel n cs <;> rfl
  · rename_i hnot
    exact absurd rfl (hnot n c cs rfl)

theorem scanLabel_digits {ds : List Char} (h : ∀ d ∈ ds, d.isAlphanum = true) (n : Nat)
    (cs : List Char) :
    scanLabel (n + ds.length) (ds ++ cs) =
      (scanLabel n cs).map fun (part, rest) => (ds ++ part, rest) := by
  induction ds with
  | nil => simp
  | cons d ds ih =>
    have hd := h d (.head ds)
    rw [List.cons_append, List.length_cons, ← Nat.add_assoc,
      scanLabel_plain (ne_of_isAlphanum hd rfl) (ne_of_isAlphanum hd rfl),
      ih fun d' hd' => h d' (.tail d hd'), Option.map_map]
    rfl

theorem Escaped.scanLabel {cs es : List Char} (h : Escaped cs es) {n : Nat} (hn : es.length < n)
    (rest : List Char) : scanLabel n (es ++ '\x22' :: rest) = some (es, rest) := by
  induction h generalizing n with
  | nil =>
    obtain ⟨n, rfl⟩ : ∃ k, n = k + 1 := ⟨n - 1, by simp at hn; omega⟩
    simp [Hcl.scanLabel]
  | @mark m cs es hmark _ ih =>
    simp only [List.length_cons] at hn
    obtain ⟨n, rfl⟩ : ∃ k, n = k + 3 := ⟨n - 3, by omega⟩
    have hm : m ≠ '\x22' ∧ m ≠ '\\' := by rcases hmark with rfl | rfl <;> decide
    simp only [List.cons_append]
    rw [scanLabel_plain hm.1 hm.2, scanLabel_plain hm.1 hm.2,
      scanLabel_plain (by decide) (by decide), ih (by omega)]
    rfl
  | @letter c e digits cs es _ hdigits _ ih =>
    simp only [List.length_cons, List.length_append] at hn
    obtain ⟨n, rfl⟩ : ∃ k, n = k + digits.length + 1 := ⟨n - digits.length - 1, by omega⟩
    simp only [List.cons_append, List.append_assoc, Hcl.scanLabel, scanLabel_digits hdigits,
      ih (n := n) (by omega)]
    rfl
  | @plain c cs es hquote hbackslash _ _ ih =>
    simp only [List.length_cons] at hn
    obtain ⟨n, rfl⟩ : ∃ k, n = k + 1 := ⟨n - 1, by omega⟩
    rw [List.cons_append, scanLabel_plain hquote hbackslash, ih (by omega)]
    rfl

/-! ### Blanks -/

def blanks (n : Nat) : List Char := List.replicate n ' '

/-- Neither a blank nor a comment begins with it. -/
structure Solid (c : Char) : Prop where
  space : isSpace c = false
  slash : c ≠ '/'
  hash : c ≠ '#'
  newline : c ≠ '\n'
  carriage : c ≠ '\r'

theorem skipSpace_blanks {c : Char} (hspace : isSpace c = false) (hslash : c ≠ '/') {k n : Nat}
    (hn : k ≤ n) (cs : List Char) : skipSpace n (blanks k ++ c :: cs) = c :: cs := by
  induction k generalizing n with
  | zero =>
    cases n with
    | zero => rfl
    | succ n =>
      rw [blanks, List.replicate_zero, List.nil_append, skipSpace]
      · simp [hspace]
      · exact fun _ heq _ => hslash heq
  | succ k ih =>
    obtain ⟨n, rfl⟩ : ∃ m, n = m + 1 := ⟨n - 1, by omega⟩
    rw [blanks, List.replicate_succ, List.cons_append, skipSpace]
    · simp only [show isSpace ' ' = true from rfl, if_true]
      exact ih (by omega)
    · simp

theorem length_blanks_append (k : Nat) (cs : List Char) : k ≤ (blanks k ++ cs).length := by
  simp [blanks]

theorem skip_blanks {c : Char} (hc : Solid c) (k : Nat) (cs : List Char) :
    skip false (blanks k ++ c :: cs) = c :: cs := by
  rw [skip, if_neg (by decide)]
  exact skipSpace_blanks hc.space hc.slash (length_blanks_append k _) cs

theorem skip_solid {c : Char} (hc : Solid c) (cs : List Char) : skip false (c :: cs) = c :: cs :=
  skip_blanks hc 0 cs

theorem skip_newline (cs : List Char) : skip false ('\n' :: cs) = '\n' :: cs :=
  skipSpace_blanks (k := 0) rfl (by decide) (Nat.zero_le _) cs

theorem Solid.skipLineComment {c : Char} (hc : Solid c) (cs : List Char) :
    skipLineComment (c :: cs) = c :: cs := by
  rw [Hcl.skipLineComment]
  · exact fun _ heq => hc.hash (List.cons.inj heq).1
  · exact fun _ heq => hc.slash (List.cons.inj heq).1

theorem Solid.newline? {c : Char} (hc : Solid c) (cs : List Char) : newline? (c :: cs) = none := by
  rw [Hcl.newline?]
  · exact fun _ heq => hc.newline (List.cons.inj heq).1
  · exact fun _ heq => hc.carriage (List.cons.inj heq).1

theorem skipLines_blanks {c : Char} (hc : Solid c) (gap k : Nat) {n : Nat} (hn : gap < n)
    (cs : List Char) :
    skipLines n (List.replicate gap '\n' ++ (blanks k ++ c :: cs)) = c :: cs := by
  obtain ⟨n, rfl⟩ : ∃ m, n = m + 1 := ⟨n - 1, by omega⟩
  induction gap generalizing n with
  | zero =>
    have hskip := skipSpace_blanks hc.space hc.slash (length_blanks_append k (c :: cs)) cs
    rw [List.replicate_zero, List.nil_append, skipLines, hskip, hc.skipLineComment]
    simp [hc.newline?]
  | succ gap ih =>
    obtain ⟨n, rfl⟩ : ∃ m, n = m + 1 := ⟨n - 1, by omega⟩
    have hskip (cs : List Char) :
        skipLineComment (skipSpace ('\n' :: cs).length ('\n' :: cs)) = '\n' :: cs := by
      rw [show skipSpace ('\n' :: cs).length ('\n' :: cs) = _ from skip_newline cs]
      rfl
    have hnewline (cs : List Char) : newline? ('\n' :: cs) = some cs := rfl
    rw [List.replicate_succ, List.cons_append, skipLines, hskip]
    simp only [hnewline, ih n (by omega)]

theorem skip_lines {c : Char} (hc : Solid c) (gap k : Nat) (cs : List Char) :
    skip true (List.replicate gap '\n' ++ (blanks k ++ c :: cs)) = c :: cs := by
  have hlength : gap < (List.replicate gap '\n' ++ (blanks k ++ c :: cs)).length := by
    simp only [List.length_append, List.length_replicate, List.length_cons]
    omega
  rw [skip, if_pos rfl, skipLines_blanks hc gap k hlength]

/-! ### Values -/

theorem readPostfix_newline (n : Nat) (t : Term) (cs : List Char) :
    readPostfix (n + 1) false t ('\n' :: cs) = some (t, '\n' :: cs) := by
  rw [readPostfix, skip_newline]
  rfl

theorem readOperators_newline (n : Nat) (t : Term) (cs : List Char) :
    readOperators (n + 1) false t ('\n' :: cs) = some (t, '\n' :: cs) := by
  rw [readOperators, skip_newline]
  rfl

/-- An operand at the end of a line is the whole expression. -/
theorem readExpression_operand {n : Nat} {t : Term} {cs rest : List Char}
    (h : readOperand (n + 1) false (skip false cs) = some (t, '\n' :: rest)) :
    readExpression (n + 2) false cs = some (t, '\n' :: rest) := by
  rw [readExpression, h]
  simp [readOperators_newline, skip_newline]

theorem readTemplate_quote (n : Nat) (cs rest : List Char) :
    readTemplate (n + 1) true [] true [] (escape cs ++ '\x22' :: rest) =
      some (Term.text cs, rest) := by
  have hscan := (escaped cs).scanLiteral rest
  have htext := (escaped cs).unescape (Nat.le_refl _)
  rw [readTemplate, hscan]
  simp only [htext]
  by_cases hempty : escape cs = []
  · have hnil : cs = [] := by
      rw [← htext, hempty]
      rfl
    subst hnil
    simp [hempty, templateTerm]
  · simp [hempty, templateTerm]

theorem readOperand_quote (n : Nat) (cs rest : List Char) :
    readOperand (n + 3) false (quote cs ++ '\n' :: rest) =
      some (Term.text cs, '\n' :: rest) := by
  rw [quote, List.cons_append, List.append_assoc, readOperand, readPrimary]
  · simp [readTemplate_quote, readPostfix_newline]
  · simp
  · simp

theorem readNumber_digits {n : Nat} (hn : n ≤ greatestCount) (rest : List Char) :
    readNumber (Number.digits n ++ '\n' :: rest) =
      some ((Number.digits n, .int n), '\n' :: rest) := by
  have hends : Json.Ends ('\n' :: rest) := by
    rintro c cs ⟨⟩
    simp [Json.isBlank]
  have hspan := Json.span_digits (fun c hc => Number.isDigit_of_mem_digits (n := n) hc) hends
  rw [readNumber, hspan]
  simp [Number.digits_ne_nil, readNumber.exponentOf, Number.ofDigits_digits, hn]

theorem digit_starts_no_name : ∀ n < 58, 48 ≤ n →
    (Text.isIdentifierStart (Char.ofNat n) || Char.ofNat n = '_') = false := by decide

theorem readName_digit {c : Char} (h : c.isDigit = true) (cs : List Char) :
    readName (c :: cs) = none := by
  rw [Char.isDigit, Bool.and_eq_true, decide_eq_true_eq, decide_eq_true_eq] at h
  have hmin : 48 ≤ c.toNat := UInt32.le_iff_toNat_le.mp h.1
  have hmax : c.toNat ≤ 57 := UInt32.le_iff_toNat_le.mp h.2
  have hstart := digit_starts_no_name c.toNat (by omega) hmin
  rw [Char.ofNat_toNat] at hstart
  simp [readName, hstart]

/-- A number without a sign is told from all else by its first digit. -/
theorem readOperand_count {n : Nat} (hn : n ≤ greatestCount) (k : Nat) (rest : List Char) :
    readOperand (k + 2) false (Number.digits n ++ '\n' :: rest) =
      some (Term.number (Number.digits n, .int n), '\n' :: rest) := by
  obtain ⟨c, cs, hcs⟩ := List.exists_cons_of_ne_nil (Number.digits_ne_nil n)
  have hc : c.isDigit = true := Number.isDigit_of_mem_digits (n := n) (by simp [hcs])
  have hne : ∀ e : Char, e.isDigit = false → c ≠ e := by
    rintro e he rfl
    rw [hc] at he
    cases he
  have hnumber := readNumber_digits hn rest
  rw [hcs] at hnumber ⊢
  have hprimary : readPrimary (k + 1) (c :: (cs ++ '\n' :: rest)) =
      some (Term.number (c :: cs, .int n), '\n' :: rest) := by
    rw [List.cons_append] at hnumber
    rw [readPrimary, readName_digit hc]
    · simp [hnumber]
    all_goals
      intro rest heq
      exact hne _ (by decide) (List.cons.inj heq).1
  rw [List.cons_append, readOperand, hprimary]
  · simp [readPostfix_newline]
  all_goals
    intro rest heq
    exact hne _ (by decide) (List.cons.inj heq).1

theorem solid_of_isDigit {c : Char} (h : c.isDigit = true) : Solid c := by
  have hne : ∀ e : Char, e.isDigit = false → c ≠ e := by
    rintro e he rfl
    rw [h] at he
    cases he
  have hspace : isSpace c = false := by
    simp [isSpace, hne]
  constructor
  · exact hspace
  all_goals exact hne _ rfl

theorem skip_digits (n : Nat) (cs : List Char) :
    skip false (Number.digits n ++ cs) = Number.digits n ++ cs := by
  obtain ⟨d, ds, hds⟩ := List.exists_cons_of_ne_nil (Number.digits_ne_nil n)
  rw [hds]
  exact skip_solid (solid_of_isDigit (Number.isDigit_of_mem_digits (n := n) (by simp [hds]))) _

/-- What is written as the value of an attribute. -/
inductive Value where
  | text (s : String)
  | int (i : Int64)

namespace Value

def chars : Value → List Char
  | text s => quote s.toList
  | int i => Number.intDigits i.toInt

def toDocument : Value → Document
  | text s => .text s
  | int i => (Term.number (Number.intDigits i.toInt, .int i.toInt)).value

theorem readOperand_int (i : Int64) (n : Nat) (rest : List Char) :
    readOperand (n + 2) false (Number.intDigits i.toInt ++ '\n' :: rest) =
      some (Term.number (Number.intDigits i.toInt, .int i.toInt), '\n' :: rest) := by
  have hmin : -(2 ^ 63) ≤ i.toInt := i.minValue_le_toInt
  have hmax := i.toInt_lt
  have hgreatest : greatestCount = 2 ^ 64 - 1 := rfl
  rw [Number.intDigits]
  split
  · have hnumber := readNumber_digits (n := i.toInt.natAbs) (by omega) rest
    have hnegate : negate (Number.digits i.toInt.natAbs, .int i.toInt.natAbs) =
        ('-' :: Number.digits i.toInt.natAbs, .int i.toInt) := by
      have hne : (i.toInt.natAbs : Int) ≠ 0 := by omega
      have hcast : -(i.toInt.natAbs : Int) = i.toInt := by omega
      simp only [negate, if_neg hne, hcast]
    rw [List.cons_append, readOperand]
    simp only [skip_digits, hnumber, hnegate]
    exact readPostfix_newline n _ rest
  · have hread := readOperand_count (n := i.toInt.natAbs) (by omega) n rest
    have hcast : (i.toInt.natAbs : Int) = i.toInt := by omega
    rwa [hcast] at hread

theorem chars_solid (v : Value) : ∃ c cs, v.chars = c :: cs ∧ Solid c := by
  cases v with
  | text s => exact ⟨_, _, rfl, by constructor <;> decide⟩
  | int i =>
    rw [chars, Number.intDigits]
    split
    · exact ⟨_, _, rfl, by constructor <;> decide⟩
    · obtain ⟨c, cs, hcs⟩ := List.exists_cons_of_ne_nil (Number.digits_ne_nil i.toInt.natAbs)
      refine ⟨c, cs, hcs, solid_of_isDigit ?_⟩
      exact Number.isDigit_of_mem_digits (n := i.toInt.natAbs) (by simp [hcs])

/-- A value after the sign of its attribute. -/
theorem readValue_chars (v : Value) (rest : List Char) :
    readValue (' ' :: (v.chars ++ '\n' :: rest)) = some (v.toDocument, '\n' :: rest) := by
  have hoperand : ∃ t : Term, t.value = v.toDocument ∧ ∀ n,
      readOperand (n + 3) false (v.chars ++ '\n' :: rest) = some (t, '\n' :: rest) := by
    cases v with
    | text s => exact ⟨Term.text s.toList, by simp [Term.text, toDocument], fun n =>
        readOperand_quote n s.toList rest⟩
    | int i => exact ⟨_, rfl, fun n => readOperand_int i (n + 1) rest⟩
  obtain ⟨t, ht, hread⟩ := hoperand
  have hskip : skip false (' ' :: (v.chars ++ '\n' :: rest)) = v.chars ++ '\n' :: rest := by
    obtain ⟨c, cs, hcs, hc⟩ := v.chars_solid
    rw [hcs]
    exact skip_blanks hc 1 _
  obtain ⟨n, hn⟩ : ∃ n, 8 * (' ' :: (v.chars ++ '\n' :: rest)).length + 8 = n + 4 :=
    ⟨_, rfl⟩
  have hexpression := readExpression_operand (n := n + 2) (hskip.symm ▸ hread n)
  rw [readValue, hn, hexpression, ← ht]
  rfl

end Value

end Upkeep.Hcl
