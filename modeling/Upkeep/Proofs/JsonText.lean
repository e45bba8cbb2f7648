import Mathlib.Data.List.Basic
import Mathlib.Data.List.DropRight
import Mathlib.Data.List.TakeDrop
import Upkeep.Json.Printer
import Upkeep.Json.Reader

/-!
JSON text is read as the document that it was written from, compact or indented, if that holds only
what JSON has a form for: no expressions, and no numbers but integers of 64 bits. The two ways to
write differ in blanks alone, and the reader passes over blanks.
-/

set_option autoImplicit false

namespace Upkeep

/-! ### Lists -/

theorem mapM_map_eq_map {α β γ : Type} {f : β → Option γ} {g : α → β} {h : α → γ} {xs : List α}
    (hread : ∀ x ∈ xs, f (g x) = some (h x)) : (xs.map g).mapM f = some (xs.map h) := by
  induction xs with
  | nil => rfl
  | cons x xs ih =>
    rw [List.map_cons, List.mapM_cons, hread x (.head xs), ih fun y hy => hread y (.tail x hy)]
    rfl

theorem mapM_map_eq_some {α β : Type} {f : β → Option α} {g : α → β} {xs : List α}
    (h : ∀ x ∈ xs, f (g x) = some x) : (xs.map g).mapM f = some xs := by
  rw [mapM_map_eq_map h, List.map_id']

/-! ### Numbers -/

namespace Number

theorem digitChar_isDigit : ∀ n < 10, (digitChar n).isDigit = true := by decide

theorem digitValue_digitChar : ∀ n < 10, digitValue (digitChar n) = n := by decide

theorem digitChar_ne_zero : ∀ n < 10, n ≠ 0 → digitChar n ≠ '0' := by decide

theorem digits_ne_nil (n : Nat) : digits n ≠ [] := by
  rw [digits]
  split <;> simp

theorem isDigit_of_mem_digits {n : Nat} {c : Char} (hc : c ∈ digits n) : c.isDigit = true := by
  induction n using digits.induct with
  | case1 n hn =>
    rw [digits, if_pos hn] at hc
    obtain rfl := List.mem_singleton.mp hc
    exact digitChar_isDigit n hn
  | case2 n hn ih =>
    rw [digits, if_neg hn] at hc
    rcases List.mem_append.mp hc with hc | hc
    · exact ih hc
    · obtain rfl := List.mem_singleton.mp hc
      exact digitChar_isDigit (n % 10) (Nat.mod_lt n (by omega))

theorem ofDigits_append_singleton (cs : List Char) (c : Char) :
    ofDigits 10 (cs ++ [c]) = 10 * ofDigits 10 cs + digitValue c := by
  simp [ofDigits]

theorem ofDigits_digits (n : Nat) : ofDigits 10 (digits n) = n := by
  induction n using digits.induct with
  | case1 n hn =>
    rw [digits, if_pos hn]
    simp [ofDigits, digitValue_digitChar n hn]
  | case2 n hn ih =>
    rw [digits, if_neg hn, ofDigits_append_singleton, ih,
      digitValue_digitChar (n % 10) (Nat.mod_lt n (by omega))]
    omega

/-- Only zero itself begins with a zero. -/
theorem digits_head {n : Nat} (hn : n ≠ 0) : (digits n).head? ≠ some '0' := by
  induction n using digits.induct with
  | case1 n hlt =>
    rw [digits, if_pos hlt]
    simpa using digitChar_ne_zero n hlt hn
  | case2 n hge ih =>
    rw [digits, if_neg hge, List.head?_append_of_ne_nil (digits (n / 10)) (digits_ne_nil (n / 10))]
    exact ih (by omega)

theorem digits_plain (n : Nat) :
    ((digits n).isEmpty || ((digits n).head? = some '0' && 1 < (digits n).length)) = false := by
  rcases Nat.eq_zero_or_pos n with rfl | hn
  · rw [digits]
    rfl
  · have hhead := digits_head (Nat.pos_iff_ne_zero.mp hn)
    simp [digits_ne_nil, hhead]

end Number

namespace Json

open Number

/-- What can follow a value that stands within another, or at the end. -/
def Ends (rest : List Char) : Prop :=
  ∀ c cs, rest = c :: cs → c = ',' ∨ c = ']' ∨ c = '\x7d' ∨ isBlank c = true

theorem Ends.nil : Ends [] := by
  intro c cs h
  cases h

theorem Ends.cons {c : Char} (cs : List Char) (hc : c = ',' ∨ c = ']' ∨ c = '\x7d') :
    Ends (c :: cs) := by
  rintro c' cs' ⟨⟩
  rcases hc with hc | hc | hc <;> simp [hc]

/-- No number goes on with it. -/
theorem Ends.head_ne {c : Char} {cs : List Char} (h : Ends (c :: cs)) :
    c.isDigit = false ∧ c ≠ '.' ∧ c ≠ 'e' ∧ c ≠ 'E' := by
  rcases h c cs rfl with rfl | rfl | rfl | hblank
  · decide
  · decide
  · decide
  · simp only [isBlank, Bool.or_eq_true, decide_eq_true_eq] at hblank
    rcases hblank with ((rfl | rfl) | rfl) | rfl <;> decide

theorem span_digits {ds rest : List Char} (hds : ∀ c ∈ ds, c.isDigit = true) (hrest : Ends rest) :
    (ds ++ rest).span Char.isDigit = (ds, rest) := by
  rw [List.span_eq_takeWhile_dropWhile, List.takeWhile_append_of_pos hds,
    List.dropWhile_append_of_pos hds]
  cases rest with
  | nil => simp
  | cons c cs => simp [hrest.head_ne.1]

theorem readFraction_ends {rest : List Char} (h : Ends rest) :
    readFraction rest = some ([], rest) := by
  cases rest with
  | nil => rfl
  | cons c cs =>
    obtain ⟨-, hpoint, -, -⟩ := h.head_ne
    simp [readFraction, hpoint]

theorem readExponent_ends {rest : List Char} (h : Ends rest) :
    readExponent rest = some (none, rest) := by
  cases rest with
  | nil => rfl
  | cons c cs =>
    obtain ⟨-, -, hlower, hupper⟩ := h.head_ne
    simp [readExponent, hlower, hupper]

theorem readNumber_digits (negative : Bool) (n : Nat) {rest : List Char} (h : Ends rest) :
    readNumber negative (digits n ++ rest) = some (wholeNumber negative (digits n), rest) := by
  have hdigits : ∀ c ∈ digits n, c.isDigit = true := fun c hc => isDigit_of_mem_digits hc
  have hspan := span_digits hdigits h
  unfold readNumber
  simp only [hspan, digits_plain, Bool.false_eq_true, if_false]
  rw [readFraction_ends h]
  simp [readExponent_ends h]

theorem wholeNumber_digits {i : Int} (hmin : Int64.minValue.toInt ≤ i) (hmax : i < UInt64.size) :
    wholeNumber (decide (i < 0)) (digits i.natAbs) = .int i := by
  have hmin' : -(2 ^ 63) ≤ i := hmin
  have hsize : UInt64.size = 2 ^ 64 := rfl
  simp only [wholeNumber, ofDigits_digits]
  rw [if_neg, if_neg]
  · by_cases hi : i < 0
    · simp only [hi, decide_true, signed, if_true]
      congr 1
      omega
    · simp only [hi, decide_false, signed]
      congr 1
      simp
      omega
  · simp only [decide_eq_true_eq]
    omega
  · simp only [Bool.and_eq_true, Bool.or_eq_true, decide_eq_true_eq, beq_iff_eq]
    omega

/-! ### Strings -/

theorem hexCode_digits : ∀ n < 0x20,
    hexCode? '0' '0' (lowerHexDigit (n / 16)) (lowerHexDigit (n % 16)) = some n := by decide

/-- A character is escaped by a letter, by its number or not at all. -/
theorem escape_cases (c : Char) :
    (∃ e, escape c = ['\\', e] ∧ escaped? e = some c) ∨
      (c.toNat < 0x20 ∧ escape c = ['\\', 'u', '0', '0', lowerHexDigit (c.toNat / 16),
        lowerHexDigit (c.toNat % 16)]) ∨
      (escape c = [c] ∧ c ≠ '\x22' ∧ c ≠ '\\' ∧ ¬ c.toNat < 0x20) := by
  unfold escape
  split_ifs with hquote hbackslash _ _ _ _ _ hcontrol
  iterate 7
    subst c
    exact Or.inl ⟨_, rfl, rfl⟩
  · exact Or.inr (Or.inl ⟨hcontrol, rfl⟩)
  · exact Or.inr (Or.inr ⟨rfl, hquote, hbackslash, hcontrol⟩)

theorem scanString_letter {e c : Char} (h : escaped? e = some c) (cs : List Char) :
    scanString ('\\' :: e :: cs) = (scanString cs).map fun (ps, rest) => (.char c :: ps, rest) := by
  have hu : e ≠ 'u' := by
    rintro rfl
    cases h
  rw [scanString.eq_def]
  cases hcs : scanString cs <;> simp [hu, h, hcs]

theorem scanString_number {n : Nat} (hn : n < 0x20) (cs : List Char) :
    scanString ('\\' :: 'u' :: '0' :: '0' :: lowerHexDigit (n / 16) :: lowerHexDigit (n % 16) ::
        cs) =
      (scanString cs).map fun (ps, rest) => (.code n :: ps, rest) := by
  rw [scanString, hexCode_digits n hn]
  cases scanString cs <;> rfl

theorem scanString_self {c : Char} (hquote : c ≠ '\x22') (hbackslash : c ≠ '\\')
    (hcontrol : ¬ c.toNat < 0x20) (cs : List Char) :
    scanString (c :: cs) = (scanString cs).map fun (ps, rest) => (.char c :: ps, rest) := by
  rw [scanString.eq_def]
  cases hcs : scanString cs <;> simp [hbackslash, hcontrol, hcs]

theorem joinPieces_number {c : Char} (h : c.toNat < 0x20) (ps : List Piece) :
    joinPieces (.code c.toNat :: ps) = (joinPieces ps).map (c :: ·) := by
  have hlow : isLowSurrogate c.toNat = false := by
    simp [isLowSurrogate]
    omega
  have hhigh : isHighSurrogate c.toNat = false := by
    simp [isHighSurrogate]
    omega
  rw [joinPieces.eq_def]
  simp [hlow, hhigh]

/-- A character is read as one piece, and that is joined to the character. -/
theorem scanString_escape (c : Char) : ∃ p,
    (∀ cs, scanString (escape c ++ cs) = (scanString cs).map fun (ps, rest) => (p :: ps, rest)) ∧
      ∀ ps, joinPieces (p :: ps) = (joinPieces ps).map (c :: ·) := by
  rcases escape_cases c with
    ⟨e, hescape, he⟩ | ⟨hcontrol, hescape⟩ | ⟨hescape, hquote, hbackslash, hcontrol⟩
  all_goals rw [hescape]
  · exact ⟨.char c, scanString_letter he, fun _ => rfl⟩
  · exact ⟨.code c.toNat, scanString_number hcontrol, joinPieces_number hcontrol⟩
  · exact ⟨.char c, scanString_self hquote hbackslash hcontrol, fun _ => rfl⟩

theorem readString_quote (s : String) (rest : List Char) :
    readString (s.toList.flatMap escape ++ '\x22' :: rest) = some (some s, rest) := by
  have hscan : ∀ cs, ∃ ps, scanString (cs.flatMap escape ++ '\x22' :: rest) = some (ps, rest) ∧
      joinPieces ps = some cs := by
    intro cs
    induction cs with
    | nil => exact ⟨[], by simp [scanString], rfl⟩
    | cons c cs ih =>
      obtain ⟨ps, hps, hjoin⟩ := ih
      obtain ⟨p, hp, hc⟩ := scanString_escape c
      refine ⟨p :: ps, ?_, by rw [hc, hjoin, Option.map_some]⟩
      rw [List.flatMap_cons, List.append_assoc, hp, hps, Option.map_some]
  obtain ⟨ps, hps, hjoin⟩ := hscan s.toList
  rw [readString, hps]
  simp [hjoin]

end Json

/-! ### Documents -/

/-- A document that JSON has a form for. -/
inductive Document.Plain : Document → Prop where
  | null : Plain .null
  | bool (b : Bool) : Plain (.bool b)
  | int {i : Int} : Int64.minValue.toInt ≤ i → i < UInt64.size → Plain (.int i)
  | text (s : String) : Plain (.text s)
  | list {ds : List Document} : (∀ d ∈ ds, Plain d) → Plain (.list ds)
  | table {es : List (String × Document)} : (∀ e ∈ es, Plain e.2) → Plain (.table es)

namespace Json

open Number

theorem isBlank_of_isDigit {c : Char} (h : c.isDigit = true) : isBlank c = false := by
  simp only [isBlank, Bool.or_eq_false_iff, decide_eq_false_iff_not]
  refine ⟨⟨⟨?_, ?_⟩, ?_⟩, ?_⟩ <;> (rintro rfl; cases h)

theorem skipBlanks_cons {c : Char} (h : isBlank c = false) (cs : List Char) :
    skipBlanks (c :: cs) = c :: cs := by
  simp [skipBlanks, h]

theorem skipBlanks_append {bs : List Char} (h : ∀ c ∈ bs, isBlank c = true) (cs : List Char) :
    skipBlanks (bs ++ cs) = skipBlanks cs :=
  List.dropWhile_append_of_pos h

theorem skipBlanks_skipBlanks (cs : List Char) : skipBlanks (skipBlanks cs) = skipBlanks cs :=
  List.dropWhile_idempotent isBlank cs

/-- A number begins with a digit, so it is told from all else by what it begins with. -/
theorem readValue_digits {c : Char} (hc : c.isDigit = true) (n : Nat) (cs : List Char) :
    readValue (n + 1) (c :: cs) = readNumber false (c :: cs) := by
  have hne : ∀ e : Char, e.isDigit = false → c ≠ e := by
    rintro e he rfl
    rw [hc] at he
    cases he
  rw [readValue, skipBlanks_cons (isBlank_of_isDigit hc)]
  simp [hne]

/-! ### Texts with blanks -/

/-- With work for each of its characters, a text is read off the front as the document. -/
def Reads (cs : List Char) (d : Document) : Prop :=
  ∀ n rest, cs.length ≤ n → Ends rest → readValue (n + 1) (cs ++ rest) = some (d, rest)

/-- What follows the first item of a list is read as the items after it. -/
structure ReadsItems (cs : List Char) (ds : List Document) : Prop where
  ends : ∀ rest, Ends (cs ++ rest)
  reads : ∀ n rest, cs.length ≤ n → readItems (n + 1) (cs ++ rest) = some (ds, rest)

def ReadsEntry (cs : List Char) (e : String × Document) : Prop :=
  ∀ n rest, cs.length ≤ n → Ends rest →
    readEntry (n + 1) (cs ++ rest) = some ((some e.1, e.2), rest)

structure ReadsEntries (cs : List Char) (es : List (String × Document)) : Prop where
  ends : ∀ rest, Ends (cs ++ rest)
  reads : ∀ n rest, cs.length ≤ n →
    readEntries (n + 1) (cs ++ rest) = some (es.map fun e => (some e.1, e.2), rest)

section Blanks

variable {bs cs : List Char} (hbs : ∀ c ∈ bs, isBlank c = true)

include hbs

theorem Ends.blanks {rest : List Char} (h : Ends rest) : Ends (bs ++ rest) := by
  cases bs with
  | nil => exact h
  | cons b bs =>
    rintro c cs' ⟨⟩
    exact Or.inr (Or.inr (Or.inr (hbs b (.head bs))))

theorem Reads.blanks {d : Document} (h : Reads cs d) : Reads (bs ++ cs) d := by
  intro n rest hn hrest
  have hread := h n rest (by simp at hn; omega) hrest
  rw [readValue] at hread ⊢
  rwa [List.append_assoc, skipBlanks_append hbs]

theorem ReadsItems.blanks {ds : List Document} (h : ReadsItems cs ds) :
    ReadsItems (bs ++ cs) ds where
  ends rest := by
    rw [List.append_assoc]
    exact .blanks hbs (h.ends rest)
  reads n rest hn := by
    have hread := h.reads n rest (by simp at hn; omega)
    rw [readItems] at hread ⊢
    rwa [List.append_assoc, skipBlanks_append hbs]

theorem ReadsEntry.blanks {e : String × Document} (h : ReadsEntry cs e) :
    ReadsEntry (bs ++ cs) e := by
  intro n rest hn hrest
  have hread := h n rest (by simp at hn; omega) hrest
  rw [readEntry] at hread ⊢
  rwa [List.append_assoc, skipBlanks_append hbs]

theorem ReadsEntries.blanks {es : List (String × Document)} (h : ReadsEntries cs es) :
    ReadsEntries (bs ++ cs) es where
  ends rest := by
    rw [List.append_assoc]
    exact .blanks hbs (h.ends rest)
  reads n rest hn := by
    have hread := h.reads n rest (by simp at hn; omega)
    rw [readEntries] at hread ⊢
    rwa [List.append_assoc, skipBlanks_append hbs]

end Blanks

theorem readValue_skipBlanks (n : Nat) (cs : List Char) :
    readValue n (skipBlanks cs) = readValue n cs := by
  cases n with
  | zero => rfl
  | succ n => rw [readValue, readValue, skipBlanks_skipBlanks]

theorem readEntry_skipBlanks (n : Nat) (cs : List Char) :
    readEntry n (skipBlanks cs) = readEntry n cs := by
  cases n with
  | zero => rfl
  | succ n => rw [readEntry, readEntry, skipBlanks_skipBlanks]

/-- No value begins with what ends a list. -/
theorem Reads.not_closed {cs : List Char} {d : Document} (h : Reads cs d) {rest : List Char}
    (hrest : Ends rest) (tail : List Char) : skipBlanks (cs ++ rest) ≠ ']' :: tail := by
  intro hclosed
  have hread := h cs.length rest (Nat.le_refl _) hrest
  rw [readValue, hclosed] at hread
  cases hread

theorem ReadsEntry.not_closed {cs : List Char} {e : String × Document} (h : ReadsEntry cs e)
    {rest : List Char} (hrest : Ends rest) (tail : List Char) :
    skipBlanks (cs ++ rest) ≠ '\x7d' :: tail := by
  intro hclosed
  have hread := h cs.length rest (Nat.le_refl _) hrest
  rw [readEntry, hclosed] at hread
  cases hread

theorem Reads.null : Reads ['n', 'u', 'l', 'l'] .null := by
  intro n rest _ _
  simp [readValue, skipBlanks, isBlank]

theorem Reads.bool (b : Bool) : Reads (compactChars (.bool b)) (.bool b) := by
  intro n rest _ _
  cases b <;> simp [compactChars, readValue, skipBlanks, isBlank]

theorem Reads.int {i : Int} (hmin : Int64.minValue.toInt ≤ i) (hmax : i < UInt64.size) :
    Reads (intDigits i) (.int i) := by
  intro n rest _ hrest
  have hwhole := wholeNumber_digits hmin hmax
  rw [intDigits]
  by_cases hi : i < 0
  · simp only [hi, if_true, decide_true] at hwhole ⊢
    rw [List.cons_append, readValue, skipBlanks_cons rfl]
    simp only [readNumber_digits true i.natAbs hrest, hwhole]
  · simp only [hi, if_false, decide_false] at hwhole ⊢
    obtain ⟨c, cs, hcs⟩ := List.exists_cons_of_ne_nil (digits_ne_nil i.natAbs)
    have hc : c.isDigit = true := isDigit_of_mem_digits (n := i.natAbs) (by simp [hcs])
    have hnumber := readNumber_digits false i.natAbs hrest
    rw [hwhole] at hnumber
    rw [← hnumber, hcs]
    exact readValue_digits hc n (cs ++ rest)

theorem Reads.text (s : String) : Reads (quote s) (.text s) := by
  intro n rest _ _
  rw [quote, List.cons_append, List.append_assoc, readValue, skipBlanks_cons rfl]
  simp [readString_quote]

theorem ReadsItems.nil : ReadsItems [']'] [] where
  ends rest := .cons rest (by decide)
  reads n rest _ := by
    rw [List.cons_append, readItems, skipBlanks_cons rfl]
    rfl

theorem ReadsItems.cons {cs is : List Char} {d : Document} {ds : List Document} (hd : Reads cs d)
    (hds : ReadsItems is ds) : ReadsItems (',' :: (cs ++ is)) (d :: ds) where
  ends rest := .cons _ (by decide)
  reads n rest hn := by
    simp only [List.length_cons, List.length_append] at hn
    obtain ⟨n, rfl⟩ : ∃ m, n = m + 1 := ⟨n - 1, by omega⟩
    have hfirst := hd n (is ++ rest) (by omega) (hds.ends rest)
    have hrest := hds.reads n rest (by omega)
    rw [List.cons_append, List.append_assoc, readItems, skipBlanks_cons rfl]
    simp [hfirst, hrest]

theorem Reads.list {cs is : List Char} {d : Document} {ds : List Document} (hd : Reads cs d)
    (hds : ReadsItems is ds) : Reads ('[' :: (cs ++ is)) (.list (d :: ds)) := by
  intro n rest hn _
  simp only [List.length_cons, List.length_append] at hn
  obtain ⟨n, rfl⟩ : ∃ m, n = m + 1 := ⟨n - 1, by omega⟩
  have hfirst := hd n (is ++ rest) (by omega) (hds.ends rest)
  have hrest := hds.reads n rest (by omega)
  have hopen := hd.not_closed (hds.ends rest)
  rw [List.cons_append, List.append_assoc, readValue, skipBlanks_cons rfl]
  simp [readValue_skipBlanks, hfirst, hrest]

theorem ReadsEntry.of_reads {cs : List Char} {d : Document} (name : String) (hd : Reads cs d) :
    ReadsEntry (quote name ++ ':' :: cs) (name, d) := by
  intro n rest hn hrest
  simp only [List.length_cons, List.length_append] at hn
  obtain ⟨n, rfl⟩ : ∃ m, n = m + 1 := ⟨n - 1, by omega⟩
  have hread := hd n rest (by omega) hrest
  rw [List.append_assoc, quote, List.cons_append, List.append_assoc, readEntry, skipBlanks_cons rfl]
  simp only [List.cons_append, List.nil_append, readString_quote]
  rw [skipBlanks_cons rfl]
  simp only [hread]

theorem ReadsEntries.nil : ReadsEntries ['\x7d'] [] where
  ends rest := .cons rest (by decide)
  reads n rest _ := by
    rw [List.cons_append, readEntries, skipBlanks_cons rfl]
    rfl

theorem ReadsEntries.cons {cs is : List Char} {e : String × Document}
    {es : List (String × Document)} (he : ReadsEntry cs e) (hes : ReadsEntries is es) :
    ReadsEntries (',' :: (cs ++ is)) (e :: es) where
  ends rest := .cons _ (by decide)
  reads n rest hn := by
    simp only [List.length_cons, List.length_append] at hn
    obtain ⟨n, rfl⟩ : ∃ m, n = m + 1 := ⟨n - 1, by omega⟩
    have hfirst := he n (is ++ rest) (by omega) (hes.ends rest)
    have hrest := hes.reads n rest (by omega)
    rw [List.cons_append, List.append_assoc, readEntries, skipBlanks_cons rfl]
    simp [hfirst, hrest]

theorem tableOf_named (es : List (String × Document)) :
    tableOf (es.map fun e => (some e.1, e.2)) = .table es := by
  have hall : (es.map fun e => (some e.1, e.2)).mapM (fun e => e.1.map (·, e.2)) = some es :=
    mapM_map_eq_some fun _ _ => rfl
  rw [tableOf, hall]

theorem Reads.table {cs is : List Char} {e : String × Document} {es : List (String × Document)}
    (he : ReadsEntry cs e) (hes : ReadsEntries is es) :
    Reads ('\x7b' :: (cs ++ is)) (.table (e :: es)) := by
  intro n rest hn _
  simp only [List.length_cons, List.length_append] at hn
  obtain ⟨n, rfl⟩ : ∃ m, n = m + 1 := ⟨n - 1, by omega⟩
  have hfirst := he n (is ++ rest) (by omega) (hes.ends rest)
  have hrest := hes.reads n rest (by omega)
  have hopen := he.not_closed (hes.ends rest)
  have htable := tableOf_named (e :: es)
  rw [List.map_cons] at htable
  rw [List.cons_append, List.append_assoc, readValue, skipBlanks_cons rfl]
  simp [readEntry_skipBlanks, hfirst, hrest, htable]

theorem read_of_reads {cs : List Char} {d : Document} (h : Reads cs d) :
    read (String.ofList cs) = some d := by
  have hread := h (2 * cs.length + 1) [] (by omega) .nil
  rw [List.append_nil] at hread
  simp [read, hread, skipBlanks]

/-! ### The two printers -/

theorem Reads.list_nil : Reads ['[', ']'] (.list []) := by
  intro n rest _ _
  simp [readValue, skipBlanks, isBlank]

theorem Reads.table_nil : Reads ['\x7b', '\x7d'] (.table []) := by
  intro n rest _ _
  simp [readValue, skipBlanks, isBlank]

theorem readsItems_compact {ds : List Document} (hds : ∀ d ∈ ds, Reads (compactChars d) d) :
    ReadsItems (compactChars.items ds) ds := by
  induction ds with
  | nil => exact .nil
  | cons d ds ih => exact .cons (hds d (.head ds)) (ih fun d' h => hds d' (.tail d h))

theorem readsEntries_compact {es : List (String × Document)}
    (hes : ∀ e ∈ es, Reads (compactChars e.2) e.2) : ReadsEntries (compactChars.entries es) es := by
  induction es with
  | nil => exact .nil
  | cons e es ih =>
    obtain ⟨name, d⟩ := e
    have hentry := ReadsEntry.of_reads name (hes (name, d) (.head es))
    have hentries := ReadsEntries.cons hentry (ih fun e' h => hes e' (.tail _ h))
    rw [List.append_assoc] at hentries
    exact hentries

theorem Reads.compact {d : Document} (hd : d.Plain) : Reads (compactChars d) d := by
  induction hd with
  | null => exact .null
  | bool b => exact .bool b
  | int hmin hmax => exact .int hmin hmax
  | text s => exact .text s
  | @list ds _ ih =>
    cases ds with
    | nil => exact .list_nil
    | cons d ds => exact .list (ih d (.head ds)) (readsItems_compact fun d' h => ih d' (.tail d h))
  | @table es _ ih =>
    cases es with
    | nil => exact .table_nil
    | cons e es =>
      obtain ⟨name, d⟩ := e
      have hentry := ReadsEntry.of_reads name (ih (name, d) (.head es))
      have htable := Reads.table hentry (readsEntries_compact fun e' h => ih e' (.tail _ h))
      rw [List.append_assoc] at htable
      exact htable

theorem newline_blank (level : Nat) : ∀ c ∈ newline level, isBlank c = true := by
  intro c h
  rcases List.mem_cons.mp h with rfl | h
  · rfl
  · rw [List.eq_of_mem_replicate h]
    rfl

theorem readsItems_pretty {ds : List Document} (level : Nat)
    (hds : ∀ d ∈ ds, Reads (prettyChars (level + 1) d) d) :
    ReadsItems (prettyChars.items level ds) ds := by
  induction ds with
  | nil => exact .blanks (newline_blank level) .nil
  | cons d ds ih =>
    have hd := Reads.blanks (newline_blank (level + 1)) (hds d (.head ds))
    exact .cons hd (ih fun d' h => hds d' (.tail d h))

theorem ReadsEntry.pretty {level : Nat} {d : Document} (name : String)
    (hd : Reads (prettyChars level d) d) :
    ReadsEntry (newline level ++ quote name ++ [':', ' '] ++ prettyChars level d) (name, d) := by
  have hspace : ∀ c ∈ [' '], isBlank c = true := List.forall_mem_singleton.mpr rfl
  have hentry := ReadsEntry.of_reads name (Reads.blanks hspace hd)
  have hlaid := ReadsEntry.blanks (newline_blank level) hentry
  simpa using hlaid

theorem readsEntries_pretty {es : List (String × Document)} (level : Nat)
    (hes : ∀ e ∈ es, Reads (prettyChars (level + 1) e.2) e.2) :
    ReadsEntries (prettyChars.entries level es) es := by
  induction es with
  | nil => exact .blanks (newline_blank level) .nil
  | cons e es ih =>
    obtain ⟨name, d⟩ := e
    exact .cons (.pretty name (hes (name, d) (.head es))) (ih fun e' h => hes e' (.tail _ h))

theorem Reads.pretty {d : Document} (hd : d.Plain) (level : Nat) :
    Reads (prettyChars level d) d := by
  induction hd generalizing level with
  | null => exact .null
  | bool b => exact .bool b
  | int hmin hmax => exact .int hmin hmax
  | text s => exact .text s
  | @list ds _ ih =>
    cases ds with
    | nil => exact .list_nil
    | cons d ds =>
      have hd := Reads.blanks (newline_blank (level + 1)) (ih d (.head ds) (level + 1))
      exact .list hd (readsItems_pretty level fun d' h => ih d' (.tail d h) (level + 1))
  | @table es _ ih =>
    cases es with
    | nil => exact .table_nil
    | cons e es =>
      obtain ⟨name, d⟩ := e
      have hentry := ReadsEntry.pretty name (ih (name, d) (.head es) (level + 1))
      exact .table hentry (readsEntries_pretty level fun e' h => ih e' (.tail _ h) (level + 1))

/-- The compact text of a document is read as that document. -/
theorem read_compact {d : Document} (hd : d.Plain) : read (compact d) = some d :=
  read_of_reads (.compact hd)

/-- So is the text with a line for each item and entry. -/
theorem read_pretty {d : Document} (hd : d.Plain) : read (pretty d) = some d :=
  read_of_reads (.pretty hd 0)

end Json

end Upkeep
