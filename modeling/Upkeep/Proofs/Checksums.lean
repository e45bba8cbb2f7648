import Upkeep.Proofs.Digests
import Upkeep.Proofs.Paths
import Upkeep.Target.Local

/-!
Digests by way of a command. A file is read from where its path leads, but its digest is what the
first word of a printed line is decoded to, and the command is given the path as an operand. The
digest is that of the file unless the operand is a lone hyphen, which stands for an empty input, or
has a character that is escaped in the line, for then the line begins with a mark.
-/

set_option autoImplicit false

namespace Upkeep

/-! ### The first word of a line -/

namespace Bytes

theorem length_ofString_of_ascii {cs : List Char} (h : ∀ c ∈ cs, c.toNat < 128) :
    (ofString (String.ofList cs)).length = cs.length := by
  rw [ofString_ofList]
  induction cs with
  | nil => rfl
  | cons c cs ih =>
    obtain ⟨hc, hcs⟩ := List.forall_mem_cons.mp h
    simp [Hex.utf8EncodeChar_of_ascii hc, ih hcs]

end Bytes

theorem Text.firstWord_of_toList {s : String} {word rest : List Char} {c : Char}
    (hs : s.toList = word ++ c :: rest) (hne : word ≠ [])
    (hword : ∀ x ∈ word, isBlank x = false) (hc : isBlank c = true) :
    firstWord s = String.ofList word := by
  have hdrop : s.toList.dropWhile isBlank = s.toList := by
    obtain ⟨first, others, rfl⟩ := List.exists_cons_of_ne_nil hne
    have hfirst : ¬ isBlank first = true := by
      rw [hword first List.mem_cons_self]
      exact Bool.false_ne_true
    rw [hs, List.cons_append, List.dropWhile_cons_of_neg hfirst]
  have htake : ∀ x ∈ word, (!isBlank x) = true := by
    intro x hx
    rw [hword x hx]
    rfl
  rw [firstWord, hdrop, hs, List.takeWhile_append_of_pos htake, List.takeWhile_cons_of_neg,
    List.append_nil]
  rw [hc]
  exact Bool.false_ne_true

/-- Only the first word of what has been printed is decoded. -/
theorem digestIn_word {word rest : List Char} (hne : word ≠ [])
    (hword : ∀ c ∈ word, Text.isBlank c = false) :
    digestIn (Bytes.ofString (String.ofList (word ++ ' ' :: rest))) =
      (Hex.decode (String.ofList word)).mapError
        (.hashOutput (Text.trim (String.ofList (word ++ ' ' :: rest)))) := by
  have hfirst : Text.firstWord (String.ofList (word ++ ' ' :: rest)) = String.ofList word :=
    Text.firstWord_of_toList String.toList_ofList hne hword (by decide)
  rw [digestIn, Bytes.lossyText_ofString, hfirst]

/-! ### Digits as a word -/

theorem Hex.encodeChars_solid {bs : Bytes} {c : Char} (h : c ∈ encodeChars bs) :
    c.toNat < 128 ∧ Text.isBlank c = false := by
  have htable : ∀ n : Fin 16, (digit n).toNat < 128 ∧ Text.isBlank (digit n) = false := by
    decide
  obtain ⟨n, hn, rfl⟩ := digit_of_mem_encodeChars h
  exact htable ⟨n, hn⟩

theorem MD5.length_digest (message : Bytes) : (digest message).length = 16 := by
  simp [digest, bytesOf]

/-! ### Lines of the checksum command -/

/-- No character of the operand is escaped where it is printed. -/
def PlainOperand (operand : String) : Prop :=
  ∀ c ∈ operand.toList, c ≠ '\\' ∧ c ≠ '\n' ∧ c ≠ '\r'

instance : DecidablePred PlainOperand := fun operand => List.decidableBAll _ operand.toList

namespace Disk

theorem length_le_flatMap_escapeName (cs : List Char) :
    cs.length ≤ (cs.flatMap escapeName).length := by
  induction cs with
  | nil => simp
  | cons c cs ih =>
    have hc : 1 ≤ (escapeName c).length := by
      unfold escapeName
      split_ifs <;> simp
    rw [List.flatMap_cons, List.length_append, List.length_cons]
    omega

theorem escapeName_eq_self_iff {c : Char} :
    escapeName c = [c] ↔ c ≠ '\\' ∧ c ≠ '\n' ∧ c ≠ '\r' := by
  unfold escapeName
  split_ifs with hmark hfeed hreturn <;> simp [*]

theorem escaped_eq_self_iff {operand : String} :
    operand.toList.flatMap escapeName = operand.toList ↔ PlainOperand operand := by
  unfold PlainOperand
  simp only [← escapeName_eq_self_iff]
  induction operand.toList with
  | nil => simp
  | cons c cs ih =>
    rw [List.flatMap_cons, List.forall_mem_cons, ← ih]
    constructor
    · intro h
      -- Every escape is longer than what it stands for, so the rest would have to be shorter.
      have hc : escapeName c = [c] := by
        have hlength := congrArg List.length h
        have hrest := length_le_flatMap_escapeName cs
        rw [List.length_append, List.length_cons] at hlength
        have hshort : (escapeName c).length ≤ 1 := by omega
        unfold escapeName at hshort ⊢
        split_ifs at hshort ⊢ <;> simp at hshort ⊢
      rw [hc] at h
      exact ⟨hc, List.append_cancel_left h⟩
    · rintro ⟨hc, hcs⟩
      rw [hc, hcs]
      rfl

theorem checksumLine_plain {operand : String} (h : PlainOperand operand) (digest : Bytes) :
    checksumLine digest operand =
      Hex.encodeChars digest ++ ' ' :: ' ' :: (operand.toList ++ ['\n']) := by
  have hsame := escaped_eq_self_iff.mpr h
  simp [checksumLine, hsame]

theorem checksumLine_escaped {operand : String} (h : ¬ PlainOperand operand) (digest : Bytes) :
    checksumLine digest operand =
      ('\\' :: Hex.encodeChars digest) ++
        ' ' :: ' ' :: (operand.toList.flatMap escapeName ++ ['\n']) := by
  have hother := mt escaped_eq_self_iff.mp h
  simp [checksumLine, hother]

end Disk

/-- What is read off the line that is printed for a content. -/
def lineDigest (content : Bytes) (operand : String) : Except Fault Bytes :=
  digestIn (Bytes.ofString (String.ofList (Disk.checksumLine (MD5.digest content) operand)))

theorem lineDigest_plain {operand : String} (h : PlainOperand operand) (content : Bytes) :
    lineDigest content operand = .ok (MD5.digest content) := by
  have hne : Hex.encodeChars (MD5.digest content) ≠ [] := by
    apply List.ne_nil_of_length_pos
    rw [Hex.length_encodeChars, MD5.length_digest]
    decide
  rw [lineDigest, Disk.checksumLine_plain h,
    digestIn_word hne fun _ hc => (Hex.encodeChars_solid hc).2, Hex.decode_encodeChars]
  rfl

/-- The mark before the digits makes their number odd. -/
theorem lineDigest_escaped {operand : String} (h : ¬ PlainOperand operand) (content : Bytes) :
    ∃ output, lineDigest content operand = .error (.hashOutput output .oddLength) := by
  have hword : ∀ c ∈ '\\' :: Hex.encodeChars (MD5.digest content),
      c.toNat < 128 ∧ Text.isBlank c = false := by
    rw [List.forall_mem_cons]
    exact ⟨by decide, fun _ hc => Hex.encodeChars_solid hc⟩
  have hlength := Bytes.length_ofString_of_ascii fun c hc => (hword c hc).1
  rw [List.length_cons, Hex.length_encodeChars] at hlength
  have hodd : Hex.decode (String.ofList ('\\' :: Hex.encodeChars (MD5.digest content))) =
      .error .oddLength := by
    unfold Hex.decode
    exact if_pos (by omega)
  rw [lineDigest, Disk.checksumLine_escaped h, digestIn_word (List.cons_ne_nil _ _) fun c hc => (hword c hc).2, hodd]
  exact ⟨_, rfl⟩

/-! ### Digests of files -/

namespace Disk

/-- There is a file with this content where the path leads. -/
def Finds (d : Disk) (path : String) (content : Bytes) : Prop :=
  ∃ loc, d.openRead (d.expand path) = .ok loc ∧ d.find? loc = some (.file content)

variable {d : Disk} {path : String} {content : Bytes}

theorem Finds.opened (h : d.Finds path content) (name : String) :
    ∃ read, (localTarget name).openRead path d = (.ok read, d) ∧ read d = (.ok content, d) := by
  obtain ⟨loc, hopen, hfile⟩ := h
  have hread : d.contentAt loc = .ok content := by
    rw [contentAt, hfile]
  refine ⟨Op.look fun d => (d.contentAt loc).mapError .io, ?_, ?_⟩
  · simp only [localTarget]
    rw [Op.bind_apply, Op.look, hopen]
    rfl
  · rw [Op.look, hread]
    rfl

theorem Finds.read (h : d.Finds path content) : d.read (d.expand path) = .ok content := by
  obtain ⟨loc, hopen, hfile⟩ := h
  rw [Disk.read, hopen]
  simp only [contentAt, hfile]

/-- What can be opened can be an argument of a command. -/
theorem checkArguments_of_openRead {loc : Location} (h : d.openRead path = .ok loc) :
    checkArguments [path] = .ok () := by
  unfold openRead at h
  cases hlocate : d.locate false path with
  | error cause =>
    rw [hlocate] at h
    cases h
  | ok a =>
    obtain ⟨hnul, -, hshort, -⟩ := locate_ok_iff.mp hlocate
    have hlimit : ¬ argumentLengthLimit ≤ path.utf8ByteSize := by
      unfold pathLengthLimit at hshort
      unfold argumentLengthLimit
      omega
    simp only [checkArguments, List.any_cons, List.any_nil, hnul, hlimit, decide_false,
      Bool.or_self]
    rfl

theorem Finds.checksum (h : d.Finds path content) : d.checksum path =
    lineDigest (if d.expand path = inputOperand then [] else content) (d.expand path) := by
  obtain ⟨loc, hopen, -⟩ := id h
  have hoperand : d.readOperand (d.expand path) =
      .ok (if d.expand path = inputOperand then [] else content) := by
    rw [readOperand, h.read]
    split_ifs <;> rfl
  simp only [Disk.checksum, checkArguments_of_openRead hopen, runChecksum, hoperand]
  rfl

end Disk

/-- The digest of a file is found for every path that the command takes as it is. For a lone hyphen
it is the digest of nothing, and for a path with a character that is escaped there is none. -/
theorem localTarget_digest {d : Disk} {path : String} {content : Bytes}
    (h : d.Finds path content) (name : String) :
    (d.expand path ≠ inputOperand → PlainOperand (d.expand path) →
      (localTarget name).digest path d = (.ok (MD5.digest content), d)) ∧
    (d.expand path = inputOperand →
      (localTarget name).digest path d = (.ok (MD5.digest []), d)) ∧
    (¬ PlainOperand (d.expand path) → ∃ output,
      (localTarget name).digest path d = (.error (.hashOutput output .oddLength), d)) := by
  have hdigest : (localTarget name).digest path d =
      (lineDigest (if d.expand path = inputOperand then [] else content) (d.expand path), d) := by
    rw [← h.checksum]
    rfl
  rw [hdigest]
  refine ⟨?_, ?_, ?_⟩
  · intro hfile hplain
    rw [if_neg hfile, lineDigest_plain hplain]
  · intro hinput
    have hplain : PlainOperand inputOperand := by
      decide
    rw [if_pos hinput, hinput, lineDigest_plain hplain]
  · intro hescaped
    obtain ⟨output, houtput⟩ := lineDigest_escaped hescaped _
    exact ⟨output, by rw [houtput]⟩

def greeting : Bytes := [104, 101, 108, 108, 111, 10]

/-- Files with names that look like options, stand for the input or have to be escaped. -/
def Disk.shelf : Disk where
  entries := [(["-n \u00e9"], .file greeting), (["-"], .file greeting), (["a\\b"], .file greeting)]
  here := []
  home := "/d"

theorem localTarget_digest_option :
    Disk.shelf.Finds "-n \u00e9" greeting ∧
      (localTarget "local").digest "-n \u00e9" Disk.shelf =
        (.ok (MD5.digest greeting), Disk.shelf) := by
  have hfinds : Disk.shelf.Finds "-n \u00e9" greeting :=
    ⟨["-n \u00e9"], by decide +kernel, rfl⟩
  exact ⟨hfinds, (localTarget_digest hfinds "local").1 (by decide) (by decide)⟩

/-- Two files that are read as they should be and digested otherwise: one gets the digest of
nothing, the other none. -/
theorem localTarget_digest_hyphen :
    ((∃ read, (localTarget "local").openRead "-" Disk.shelf = (.ok read, Disk.shelf) ∧
        read Disk.shelf = (.ok greeting, Disk.shelf)) ∧
      (localTarget "local").digest "-" Disk.shelf ≠ (.ok (MD5.digest greeting), Disk.shelf)) ∧
    (∃ read, (localTarget "local").openRead "a\\b" Disk.shelf = (.ok read, Disk.shelf) ∧
        read Disk.shelf = (.ok greeting, Disk.shelf)) ∧
      ∃ f, (localTarget "local").digest "a\\b" Disk.shelf = (.error f, Disk.shelf) := by
  have hhyphen : Disk.shelf.Finds "-" greeting := ⟨["-"], by decide +kernel, rfl⟩
  have hmark : Disk.shelf.Finds "a\\b" greeting := ⟨["a\\b"], by decide +kernel, rfl⟩
  refine ⟨⟨hhyphen.opened "local", ?_⟩, hmark.opened "local", ?_⟩
  · intro h
    have hresult : Disk.shelf.checksum "-" = .ok (MD5.digest greeting) := (Prod.mk.inj h).1
    rw [hhyphen.checksum, if_pos (by decide), lineDigest_plain (by decide)] at hresult
    exact absurd hresult (by decide +kernel)
  · have hnone : ¬ PlainOperand (Disk.shelf.expand "a\\b") := by decide
    obtain ⟨output, houtput⟩ := lineDigest_escaped hnone
      (if Disk.shelf.expand "a\\b" = inputOperand then [] else greeting)
    rw [← hmark.checksum] at houtput
    exact ⟨_, Prod.ext houtput rfl⟩

end Upkeep
