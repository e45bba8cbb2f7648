import Mathlib.Data.List.Basic
import Mathlib.Data.List.TakeWhile
import Upkeep.Remote.Destination

/-!
The destinations that can be read. A text is cut at its last colon, if it has one. What comes after
that has to be a port, or else the text is refused for it, whatever comes before. Every text has one
outcome, and a host and a port that are written out are read back.
-/

set_option autoImplicit false

namespace Upkeep

/-! ### Cutting -/

namespace Text

theorem splitLast?_append {sep : Char} {before after : List Char} (h : sep ∉ after) :
    splitLast? sep (before ++ sep :: after) = some (before, after) := by
  have hplain : ∀ c ∈ after.reverse, (c != sep) = true := by
    intro c hc
    rw [bne_iff_ne]
    rintro rfl
    exact h (List.mem_reverse.mp hc)
  have htail : (before ++ sep :: after).reverse.takeWhile (· != sep) = after.reverse := by
    rw [List.reverse_append, List.reverse_cons, List.append_assoc,
      List.takeWhile_append_of_pos hplain]
    simp
  have hlength : (before ++ sep :: after).length - after.reverse.length - 1 = before.length := by
    rw [List.length_append, List.length_cons, List.length_reverse]
    omega
  unfold splitLast?
  simp only [htail, hlength, List.reverse_reverse, List.take_left']
  rw [if_pos]
  rw [List.length_append, List.length_cons, List.length_reverse]
  omega

theorem splitLast?_of_not_mem {sep : Char} {cs : List Char} (h : sep ∉ cs) :
    splitLast? sep cs = none := by
  have htail : cs.reverse.takeWhile (· != sep) = cs.reverse := by
    apply List.takeWhile_eq_self_iff.mpr
    intro c hc
    rw [bne_iff_ne]
    rintro rfl
    exact h (List.mem_reverse.mp hc)
  simp [splitLast?, htail]

theorem exists_last {sep : Char} {cs : List Char} (h : sep ∈ cs) :
    ∃ before after, cs = before ++ sep :: after ∧ sep ∉ after := by
  obtain ⟨first, rest, hreverse, hfirst⟩ :=
    List.eq_append_cons_of_mem (List.mem_reverse.mpr h)
  refine ⟨rest.reverse, first.reverse, ?_, ?_⟩
  · rw [← List.reverse_reverse cs, hreverse]
    simp
  · rwa [List.mem_reverse]

/-- Nothing is taken off a text that neither begins nor ends with a blank. -/
theorem trimChars_eq_self {cs : List Char} (hhead : ∀ c, cs.head? = some c → isBlank c = false)
    (hlast : ∀ c, cs.getLast? = some c → isBlank c = false) : trimChars cs = cs := by
  have hfront : cs.dropWhile isBlank = cs := by
    cases cs with
    | nil => rfl
    | cons c cs => rw [List.dropWhile_cons_of_neg (by simp [hhead c rfl])]
  have hback : cs.reverse.dropWhile isBlank = cs.reverse := by
    cases hcs : cs.reverse with
    | nil => rfl
    | cons c rest =>
      have hc : cs.getLast? = some c := by
        rw [List.getLast?_eq_head?_reverse, hcs]
        rfl
      rw [List.dropWhile_cons_of_neg (by simp [hlast c hc])]
  rw [trimChars, dropEndWhile, hfront, hback, List.reverse_reverse]

theorem isBlank_of_isDigit {c : Char} (h : c.isDigit = true) : isBlank c = false := by
  have hrange : 48 ≤ c.toNat ∧ c.toNat ≤ 57 := by
    simpa [Char.isDigit, UInt32.le_iff_toNat_le] using h
  unfold isBlank
  simp only [Bool.or_eq_false_iff, Bool.and_eq_false_iff, decide_eq_false_iff_not,
    beq_eq_false_iff_ne]
  omega

end Text

namespace Remote.Destination

/-! ### Ports -/

/-- Decimal digits that stand for a number. -/
def Decimal (digits : List Char) (n : Nat) : Prop :=
  digits ≠ [] ∧ (∀ c ∈ digits, c.isDigit = true) ∧ Nat.ofDigitChars 10 digits 0 = n

/-- A port is written as its digits, with a plus sign before them or without. -/
def WritesPort (text : List Char) (port : UInt16) : Prop :=
  Decimal text port.toNat ∨ ∃ digits, text = '+' :: digits ∧ Decimal digits port.toNat

theorem number?_eq_some_iff {digits : List Char} {n : Nat} :
    number? digits = some n ↔ Decimal digits n := by
  have hvalue : digits.foldl (fun n c => 10 * n + (c.toNat - 0x30)) 0 =
      Nat.ofDigitChars 10 digits 0 := rfl
  have hdigits : (!digits.isEmpty && digits.all Char.isDigit) = true ↔
      digits ≠ [] ∧ ∀ c ∈ digits, c.isDigit = true := by
    simp
  unfold number? Decimal
  rw [hvalue, ← and_assoc, ← hdigits]
  split_ifs with h
  · rw [Option.some.injEq]
    exact (and_iff_right h).symm
  · exact iff_of_false (fun hn => (nomatch hn)) fun hn => h hn.1

theorem limited_eq_some_iff {n : Nat} {port : UInt16} :
    (if n < 65536 then some (UInt16.ofNat n) else none) = some port ↔ n = port.toNat := by
  have hport : port.toNat < 65536 := port.toNat_lt
  split_ifs with h
  · rw [Option.some.injEq, ← UInt16.toNat_inj, UInt16.toNat_ofNat']
    omega
  · refine iff_of_false (fun hn => (nomatch hn)) ?_
    omega

/-- A port that is read is neither wrapped nor cut off. -/
theorem port?_eq_some_iff {text : List Char} {port : UInt16} :
    port? text = some port ↔ WritesPort text port := by
  have hread : ∀ digits, ((number? digits).bind fun n =>
      if n < 65536 then some (UInt16.ofNat n) else none) = some port ↔
        Decimal digits port.toNat := by
    intro digits
    simp only [Option.bind_eq_some_iff, number?_eq_some_iff, limited_eq_some_iff]
    constructor
    · rintro ⟨n, hn, rfl⟩
      exact hn
    · intro hn
      exact ⟨_, hn, rfl⟩
  unfold port?
  split
  · rename_i digits
    apply (hread digits).trans
    constructor
    · intro h
      exact Or.inr ⟨digits, rfl, h⟩
    · rintro (h | ⟨_, hsame, h⟩)
      · exact absurd (h.2.1 '+' List.mem_cons_self) (by decide)
      · cases hsame
        exact h
  · rename_i hunsigned
    apply (hread text).trans
    constructor
    · exact Or.inl
    · rintro (h | ⟨digits, hsigned, _⟩)
      · exact h
      · exact absurd hsigned (hunsigned digits)

theorem port?_eq_none_iff {text : List Char} :
    port? text = none ↔ ∀ port, ¬ WritesPort text port := by
  simp only [Option.eq_none_iff_forall_ne_some, ne_eq, port?_eq_some_iff]

theorem toList_toString (port : UInt16) : (toString port).toList = Nat.toDigits 10 port.toNat := by
  have hport : toString port = toString port.toNat := rfl
  rw [hport, Nat.toString_eq_repr, Nat.toList_repr]

theorem isDigit_of_mem_toString {port : UInt16} {c : Char} (h : c ∈ (toString port).toList) :
    c.isDigit = true := by
  rw [toList_toString] at h
  exact Nat.isDigit_of_mem_toDigits (by decide) (by decide) h

theorem writesPort_toString (port : UInt16) : WritesPort (toString port).toList port := by
  refine Or.inl ⟨?_, fun c => isDigit_of_mem_toString, ?_⟩
  · rw [toList_toString]
    exact Nat.toDigits_ne_nil
  · rw [toList_toString]
    exact Nat.ofDigitChars_toDigits (by decide) (by decide)

/-! ### Texts -/

/-- What becomes of a text around which there are no blanks. -/
inductive Comes : List Char → Except Flaw Destination → Prop where
  | host {host : List Char} :
      host ≠ [] → ':' ∉ host → Comes host (.ok ⟨String.ofList host, 22⟩)
  | hostPort {host text : List Char} {port : UInt16} :
      host ≠ [] → ':' ∉ text → WritesPort text port →
      Comes (host ++ ':' :: text) (.ok ⟨String.ofList host, port⟩)
  | badPort {host text : List Char} :
      ':' ∉ text → (∀ port, ¬ WritesPort text port) →
      Comes (host ++ ':' :: text) (.error .badPort)
  | noHost {text : List Char} {port : UInt16} :
      ':' ∉ text → WritesPort text port → Comes (':' :: text) (.error .missingHost)
  | nothing : Comes [] (.error .missingHost)

theorem read_eq_iff {s : String} {r : Except Flaw Destination} :
    read s = r ↔ Comes (Text.trimChars s.toList) r := by
  unfold read
  generalize Text.trimChars s.toList = cs
  dsimp only
  constructor
  · rintro rfl
    by_cases hcolon : ':' ∈ cs
    · obtain ⟨host, text, rfl, htext⟩ := Text.exists_last hcolon
      rw [Text.splitLast?_append htext]
      dsimp only
      cases hport : port? text with
      | none => exact .badPort htext (port?_eq_none_iff.mp hport)
      | some port =>
        have hwritten := port?_eq_some_iff.mp hport
        cases host with
        | nil => exact .noHost htext hwritten
        | cons c host => exact .hostPort (List.cons_ne_nil c host) htext hwritten
    · rw [Text.splitLast?_of_not_mem hcolon]
      cases cs with
      | nil => exact .nothing
      | cons c cs => exact .host (List.cons_ne_nil c cs) hcolon
  · intro h
    cases h with
    | host hne hcolon =>
      rw [Text.splitLast?_of_not_mem hcolon]
      simp [hne, defaultPort]
    | @hostPort host text port hne htext hwritten =>
      rw [Text.splitLast?_append htext]
      simp [port?_eq_some_iff.mpr hwritten, hne]
    | badPort htext hunwritten =>
      rw [Text.splitLast?_append htext]
      simp [port?_eq_none_iff.mpr hunwritten]
    | @noHost text port htext hwritten =>
      have hsplit : Text.splitLast? ':' (':' :: text) = some ([], text) :=
        @Text.splitLast?_append ':' [] text htext
      rw [hsplit]
      simp [port?_eq_some_iff.mpr hwritten]
    | nothing => rfl

def reason : Flaw → String
  | .badPort => "bad port"
  | .missingHost => "missing host"

/-- What is reported of a text that is refused. -/
def refusal (s : String) (flaw : Flaw) : Fault :=
  .io (.custom s!"invalid destination {Text.quoted s}: {reason flaw}")

theorem message_eq_reason (flaw : Flaw) : flaw.message = reason flaw := by
  cases flaw <;> rfl

theorem parse_ok_iff {s : String} {d : Destination} :
    parse s = .ok d ↔ Comes (Text.trimChars s.toList) (.ok d) := by
  rw [← read_eq_iff, parse]
  cases read s <;> simp [Except.mapError]

theorem parse_error_iff {s : String} {f : Fault} :
    parse s = .error f ↔
      ∃ flaw, Comes (Text.trimChars s.toList) (.error flaw) ∧ f = refusal s flaw := by
  simp only [← read_eq_iff, parse]
  cases read s with
  | ok d => simp [Except.mapError]
  | error flaw =>
    simp only [Except.mapError, Except.error.injEq, message_eq_reason]
    constructor
    · intro h
      exact ⟨flaw, rfl, h.symm⟩
    · rintro ⟨_, rfl, h⟩
      exact h.symm

/-! ### Written destinations -/

/-- A written destination begins as its host does, and ends with a digit. -/
theorem trimChars_written {host : String} {port : UInt16} (hne : host ≠ "")
    (hhead : ∀ c, host.toList.head? = some c → Text.isBlank c = false) :
    Text.trimChars (host ++ ":" ++ toString port).toList =
      host.toList ++ ':' :: (toString port).toList := by
  have hchars : (host ++ ":" ++ toString port).toList =
      host.toList ++ ':' :: (toString port).toList := by
    simp
  have hport : (toString port).toList ≠ [] := by
    rw [toList_toString]
    exact Nat.toDigits_ne_nil
  have hhost : host.toList ≠ [] := by
    simpa using hne
  rw [hchars]
  apply Text.trimChars_eq_self
  · intro c hc
    obtain ⟨first, rest, hfirst⟩ := List.exists_cons_of_ne_nil hhost
    apply hhead c
    rw [hfirst] at hc ⊢
    exact hc
  · intro c hc
    rw [List.getLast?_append_cons, List.getLast?_cons_of_ne_nil hport] at hc
    exact Text.isBlank_of_isDigit (isDigit_of_mem_toString (List.mem_of_getLast? hc))

theorem comes_written {host : String} {port : UInt16} (hne : host ≠ "")
    (hhead : ∀ c, host.toList.head? = some c → Text.isBlank c = false) :
    Comes (Text.trimChars (host ++ ":" ++ toString port).toList) (.ok ⟨host, port⟩) := by
  have hhost : host.toList ≠ [] := by
    simpa using hne
  have hcolon : ':' ∉ (toString port).toList := by
    intro h
    exact absurd (isDigit_of_mem_toString h) (by decide)
  have hcomes := Comes.hostPort hhost hcolon (writesPort_toString port)
  rwa [String.ofList_toList, ← trimChars_written hne hhead] at hcomes

/-- A text is read as a host, or as a host and a port, or refused, as its last colon has it; and
nothing that is written out is lost. -/
theorem parse_settled (s : String) :
    (∀ d, parse s = .ok d ↔ Comes (Text.trimChars s.toList) (.ok d)) ∧
    (∀ f, parse s = .error f ↔
      ∃ flaw, Comes (Text.trimChars s.toList) (.error flaw) ∧ f = refusal s flaw) ∧
    ∀ host port, host ≠ "" → (∀ c, host.toList.head? = some c → Text.isBlank c = false) →
      parse (host ++ ":" ++ toString port) = .ok ⟨host, port⟩ := by
  refine ⟨fun d => parse_ok_iff, fun f => parse_error_iff, ?_⟩
  intro host port hne hhead
  exact parse_ok_iff.mpr (comes_written hne hhead)

theorem parse_settled_bracketed :
    parse ("[fe80::1]" ++ ":" ++ toString (65535 : UInt16)) = .ok ⟨"[fe80::1]", 65535⟩ := by
  have hne : "[fe80::1]" ≠ "" := by decide
  have hhead : ∀ c, "[fe80::1]".toList.head? = some c → Text.isBlank c = false := by
    intro c hc
    cases hc
    decide
  exact (parse_settled "").2.2 "[fe80::1]" 65535 hne hhead

example : parse " [fe80::1]:+00065535\t" = .ok ⟨"[fe80::1]", 65535⟩ := by decide +kernel

example : parse ":65536" = .error (refusal ":65536" .badPort) := by decide +kernel

end Remote.Destination

end Upkeep
