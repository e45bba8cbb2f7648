import Upkeep.Assertion.Validity
import Upkeep.Document.Number
import Upkeep.Proofs.Characters
import Upkeep.Run.Check

/-!
Digests as texts. The digits of a digest, in either case and with blanks around them, are read back
as that digest, and nothing else is. That a text is of such digits can be seen from its characters.
-/

set_option autoImplicit false

namespace Upkeep

namespace Hex

/-! ### Digits -/

/-- The upper and the lower half of each byte. -/
def nibbles (bs : Bytes) : List Nat := bs.flatMap fun b => [b.toNat / 16, b.toNat % 16]

theorem lt_of_mem_nibbles {bs : Bytes} {n : Nat} (h : n ∈ nibbles bs) : n < 16 := by
  obtain ⟨b, -, hb⟩ := List.mem_flatMap.mp h
  have hlt := b.toNat_lt
  simp only [List.mem_cons, List.not_mem_nil, or_false] at hb
  omega

theorem encodeChars_eq (bs : Bytes) : encodeChars bs = (nibbles bs).map digit := by
  rw [encodeChars, nibbles, List.map_flatMap]
  rfl

theorem value?_lt {b : UInt8} {n : Nat} (h : value? b = some n) : n < 16 := by
  unfold value? at h
  simp only [Bool.and_eq_true, decide_eq_true_eq, UInt8.le_iff_toNat_le] at h
  grind

theorem value?_of_not_ascii {b : UInt8} (h : 128 ≤ b.toNat) : value? b = none := by
  unfold value?
  simp only [Bool.and_eq_true, decide_eq_true_eq, UInt8.le_iff_toNat_le]
  grind

/-- Among the characters of one byte, a digit is known by its lower case. -/
theorem value?_iff {c : Char} (hc : c.toNat < 128) {n : Nat} (hn : n < 16) :
    value? (UInt8.ofNat c.toNat) = some n ↔ c.toLower = digit n := by
  have htable : ∀ k : Fin 128, ∀ n : Fin 16,
      value? (UInt8.ofNat k) = some n.val ↔ (Char.ofNat k).toLower = digit n := by
    decide +kernel
  have h := htable ⟨c.toNat, hc⟩ ⟨n, hn⟩
  rwa [Char.ofNat_toNat] at h

theorem toLower_ne_digit {c : Char} (hc : 128 ≤ c.toNat) {n : Nat} (hn : n < 16) :
    c.toLower ≠ digit n := by
  have hlt : ∀ n : Fin 16, (digit n).toNat < 128 := by decide
  have hsame : c.toLower = c := by
    unfold Char.toLower
    rw [dif_neg]
    rintro ⟨-, hle⟩
    have : c.toNat ≤ 90 := hle
    omega
  intro heq
  have h := hlt ⟨n, hn⟩
  rw [← heq, hsame] at h
  omega

theorem utf8EncodeChar_of_not_ascii {c : Char} (hc : 128 ≤ c.toNat) :
    ∃ b bs, String.utf8EncodeChar c = b :: bs ∧ 128 ≤ b.toNat := by
  unfold String.utf8EncodeChar
  have hval : c.val.toNat = c.toNat := rfl
  simp only [hval]
  rw [if_neg (by omega)]
  split
  · refine ⟨_, _, rfl, ?_⟩
    rw [UInt8.toNat_ofNat']
    omega
  split
  · refine ⟨_, _, rfl, ?_⟩
    rw [UInt8.toNat_ofNat']
    omega
  · refine ⟨_, _, rfl, ?_⟩
    rw [UInt8.toNat_ofNat']
    omega

theorem utf8EncodeChar_of_ascii {c : Char} (hc : c.toNat < 128) :
    String.utf8EncodeChar c = [UInt8.ofNat c.toNat] := by
  unfold String.utf8EncodeChar
  have hval : c.val.toNat = c.toNat := rfl
  simp only [hval]
  rw [if_pos (by omega)]

/-- A text has these digits, whichever case they are in, if its bytes have. -/
theorem map_value?_iff (cs : List Char) {ns : List Nat} (hns : ∀ n ∈ ns, n < 16) :
    (Bytes.ofString (String.ofList cs)).map value? = ns.map some ↔
      cs.map Char.toLower = ns.map digit := by
  rw [Bytes.ofString_ofList]
  induction cs generalizing ns with
  | nil => cases ns <;> simp
  | cons c cs ih =>
    rcases Nat.lt_or_ge c.toNat 128 with hc | hc
    · cases ns with
      | nil => simp [utf8EncodeChar_of_ascii hc]
      | cons n ns =>
        obtain ⟨hn, hns⟩ := List.forall_mem_cons.mp hns
        simp [utf8EncodeChar_of_ascii hc, ih hns, value?_iff hc hn]
    · obtain ⟨b, bs, hencode, hb⟩ := utf8EncodeChar_of_not_ascii hc
      cases ns with
      | nil => simp [hencode]
      | cons n ns =>
        have hn : n < 16 := hns n List.mem_cons_self
        simp [hencode, value?_of_not_ascii hb, toLower_ne_digit hc hn]

/-! ### Pairs of digits -/

theorem nibbles_cons (b : UInt8) (bs : Bytes) :
    nibbles (b :: bs) = b.toNat / 16 :: b.toNat % 16 :: nibbles bs := rfl

theorem length_nibbles (bs : Bytes) : (nibbles bs).length = 2 * bs.length := by
  induction bs with
  | nil => rfl
  | cons b bs ih =>
    rw [nibbles_cons, List.length_cons, List.length_cons, ih, List.length_cons]
    omega

theorem ofNat_eq_iff {x y : Nat} (hx : x < 16) (hy : y < 16) (b : UInt8) :
    UInt8.ofNat (16 * x + y) = b ↔ x = b.toNat / 16 ∧ y = b.toNat % 16 := by
  have hb := b.toNat_lt
  rw [← UInt8.toNat_inj, UInt8.toNat_ofNat']
  omega

theorem decodePairs_ok_iff {index : Nat} {bs out : Bytes} :
    decodePairs index bs = .ok out ↔ bs.map value? = (nibbles out).map some := by
  fun_induction decodePairs index bs generalizing out with
  | case1 => cases out <;> simp [nibbles]
  | case2 => cases out <;> simp [nibbles]
  | case3 index a b rest ha => cases out <;> simp [nibbles, ha]
  | case4 index a b rest x ha hb => cases out <;> simp [nibbles, ha, hb]
  | case5 index a b rest x y hb ha ih =>
    have hmap : (decodePairs (index + 2) rest).map (UInt8.ofNat (16 * x + y) :: ·) = .ok out ↔
        ∃ tail, decodePairs (index + 2) rest = .ok tail ∧
          UInt8.ofNat (16 * x + y) :: tail = out := by
      cases decodePairs (index + 2) rest <;> simp [Except.map]
    rw [hmap]
    cases out with
    | nil => simp [nibbles]
    | cons first out =>
      have hfirst := ofNat_eq_iff (value?_lt ha) (value?_lt hb) first
      simp only [ih, nibbles_cons, List.map_cons, ha, hb, List.cons.injEq, Option.some.injEq,
        hfirst]
      constructor
      · rintro ⟨tail, htail, ⟨hx, hy⟩, rfl⟩
        exact ⟨hx, hy, htail⟩
      · rintro ⟨hx, hy, htail⟩
        exact ⟨out, htail, ⟨hx, hy⟩, rfl⟩

/-- An odd length, which is reported first, could not be read in pairs. -/
theorem decode_ok_iff {s : String} {out : Bytes} :
    decode s = .ok out ↔ (Bytes.ofString s).map value? = (nibbles out).map some := by
  simp only [decode]
  split
  · rename_i hodd
    refine ⟨fun h => (nomatch h), fun h => ?_⟩
    have hlength := congrArg List.length h
    rw [List.length_map, List.length_map, length_nibbles] at hlength
    omega
  · exact decodePairs_ok_iff

/-! ### Written digits -/

theorem digit_of_mem_encodeChars {bs : Bytes} {c : Char} (h : c ∈ encodeChars bs) :
    ∃ n < 16, c = digit n := by
  rw [encodeChars_eq] at h
  obtain ⟨n, hn, rfl⟩ := List.mem_map.mp h
  exact ⟨n, lt_of_mem_nibbles hn, rfl⟩

theorem encodeChars_toLower (bs : Bytes) : (encodeChars bs).map Char.toLower = encodeChars bs := by
  have htable : ∀ n : Fin 16, (digit n).toLower = digit n := by
    decide
  have hsame : ∀ c ∈ encodeChars bs, c.toLower = id c := by
    intro c hc
    obtain ⟨n, hn, rfl⟩ := digit_of_mem_encodeChars hc
    exact htable ⟨n, hn⟩
  rw [List.map_congr_left hsame, List.map_id]

theorem length_encodeChars (bs : Bytes) : (encodeChars bs).length = 2 * bs.length := by
  rw [encodeChars_eq, List.length_map, length_nibbles]

/-- Decoding undoes encoding. -/
theorem decode_encodeChars (bs : Bytes) : decode (String.ofList (encodeChars bs)) = .ok bs := by
  rw [decode_ok_iff, map_value?_iff _ fun _ => lt_of_mem_nibbles, encodeChars_toLower,
    encodeChars_eq]

theorem length_of_decode {cs : List Char} {out : Bytes}
    (h : decode (String.ofList cs) = .ok out) : cs.length = 2 * out.length := by
  rw [decode_ok_iff, map_value?_iff cs fun _ => lt_of_mem_nibbles] at h
  have hlength := congrArg List.length h
  rwa [List.length_map, List.length_map, length_nibbles] at hlength

/-! ### Texts of digits -/

/-- Digits in pairs are those of some bytes. -/
theorem exists_nibbles_eq : ∀ {ns : List Nat}, (∀ n ∈ ns, n < 16) → ns.length % 2 = 0 →
    ∃ bs, nibbles bs = ns
  | [], _, _ => ⟨[], rfl⟩
  | [n], _, heven => by simp at heven
  | x :: y :: ns, hns, heven => by
    obtain ⟨hx, hy, hns⟩ : x < 16 ∧ y < 16 ∧ ∀ n ∈ ns, n < 16 := by simpa using hns
    rw [List.length_cons, List.length_cons] at heven
    obtain ⟨bs, rfl⟩ := exists_nibbles_eq hns (by omega)
    obtain ⟨hhigh, hlow⟩ := (ofNat_eq_iff hx hy _).mp rfl
    exact ⟨UInt8.ofNat (16 * x + y) :: bs, by rw [nibbles_cons, ← hhigh, ← hlow]⟩

theorem isHexDigit_iff {c : Char} :
    Number.isHexDigit c = true ↔ ∃ n < 16, c.toLower = digit n := by
  rcases Nat.lt_or_ge c.toNat 128 with hc | hc
  · have htable : ∀ k : Fin 128, Number.isHexDigit (Char.ofNat k) = true ↔
        ∃ n : Fin 16, (Char.ofNat k).toLower = digit n := by
      decide +kernel
    have h := htable ⟨c.toNat, hc⟩
    rw [Char.ofNat_toNat] at h
    rw [h, Fin.exists_iff]
    simp
  · refine iff_of_false ?_ ?_
    · have hle : ∀ e : Char, e.toNat < 128 → ¬ c ≤ e := by
        intro e he hce
        have : c.toNat ≤ e.toNat := hce
        omega
      have h9 : ¬ c.val ≤ 57 := hle '9' (by decide)
      have hf := hle 'f' (by decide)
      have hF := hle 'F' (by decide)
      simp [Number.isHexDigit, Char.isDigit, h9, hf, hF]
    · rintro ⟨n, hn, heq⟩
      exact toLower_ne_digit hc hn heq

theorem exists_digits_eq {cs : List Char} (h : ∀ c ∈ cs, Number.isHexDigit c = true) :
    ∃ ns : List Nat, (∀ n ∈ ns, n < 16) ∧ cs.map Char.toLower = ns.map digit := by
  induction cs with
  | nil => exact ⟨[], by simp, rfl⟩
  | cons c cs ih =>
    obtain ⟨hc, hcs⟩ := List.forall_mem_cons.mp h
    obtain ⟨n, hn, hdigit⟩ := isHexDigit_iff.mp hc
    obtain ⟨ns, hns, hdigits⟩ := ih hcs
    exact ⟨n :: ns, List.forall_mem_cons.mpr ⟨hn, hns⟩, by simp [hdigit, hdigits]⟩

/-- A text is decoded if it is of digits, and of an even number of them. -/
theorem exists_decode_iff {cs : List Char} :
    (∃ out, decode (String.ofList cs) = .ok out) ↔
      cs.length % 2 = 0 ∧ ∀ c ∈ cs, Number.isHexDigit c = true := by
  have hdecode : ∀ out, decode (String.ofList cs) = .ok out ↔
      cs.map Char.toLower = (nibbles out).map digit := by
    intro out
    rw [decode_ok_iff, map_value?_iff cs fun _ => lt_of_mem_nibbles]
  simp only [hdecode]
  constructor
  · rintro ⟨out, h⟩
    constructor
    · have hlength := congrArg List.length h
      rw [List.length_map, List.length_map, length_nibbles] at hlength
      omega
    · intro c hc
      have hmem : c.toLower ∈ (nibbles out).map digit := by
        rw [← h]
        exact List.mem_map_of_mem hc
      obtain ⟨n, hn, heq⟩ := List.mem_map.mp hmem
      exact isHexDigit_iff.mpr ⟨n, lt_of_mem_nibbles hn, heq.symm⟩
  · rintro ⟨heven, hdigits⟩
    obtain ⟨ns, hns, hsame⟩ := exists_digits_eq hdigits
    have hlength := congrArg List.length hsame
    rw [List.length_map, List.length_map] at hlength
    obtain ⟨out, rfl⟩ := exists_nibbles_eq hns (by omega)
    exact ⟨out, hsame⟩

/-- Each digit is one byte. -/
theorem utf8ByteSize_of_decode {cs : List Char} {out : Bytes}
    (h : decode (String.ofList cs) = .ok out) : (String.ofList cs).utf8ByteSize = cs.length := by
  have hchars := length_of_decode h
  rw [decode_ok_iff] at h
  have hbytes := congrArg List.length h
  have hsize : (Bytes.ofString (String.ofList cs)).length = (String.ofList cs).utf8ByteSize :=
    Array.length_toList
  rw [List.length_map, List.length_map, length_nibbles] at hbytes
  omega

end Hex

/-- A digest is the one that the digits around which there may be blanks are decoded to. -/
theorem isDigestOf_iff {digits : String} {digest : Bytes} :
    isDigestOf digits digest = true ↔ Hex.decode (Text.trim digits) = .ok digest := by
  rw [Hex.decode_ok_iff, Text.trim, Hex.map_value?_iff _ fun _ => Hex.lt_of_mem_nibbles, isDigestOf,
    beq_iff_eq, Hex.encodeChars_eq, eq_comm]

/-- Hexadecimal digits of an MD5 digest; there may be blanks around them. -/
def WholeDigest (hash : String) : Prop :=
  (Text.trimChars hash.toList).length = 32 ∧
    ∀ c ∈ Text.trimChars hash.toList, Number.isHexDigit c = true

theorem WholeDigest.exists_decode {hash : String} (h : WholeDigest hash) :
    ∃ digest : Bytes, digest.length = 16 ∧ Hex.decode (Text.trim hash) = .ok digest := by
  obtain ⟨hlength, hdigits⟩ := h
  have heven : (Text.trimChars hash.toList).length % 2 = 0 := by rw [hlength]
  obtain ⟨digest, hdigest⟩ := Hex.exists_decode_iff.mpr ⟨heven, hdigits⟩
  have hdouble := Hex.length_of_decode hdigest
  refine ⟨digest, ?_, hdigest⟩
  omega

theorem isDigest_iff {hash : String} : isDigest hash = true ↔ WholeDigest hash := by
  have hsome : (Hex.decode (Text.trim hash)).toOption.isSome = true ↔
      ∃ out, Hex.decode (Text.trim hash) = .ok out := by
    cases Hex.decode (Text.trim hash) <;> simp [Except.toOption]
  simp only [isDigest, Bool.and_eq_true, decide_eq_true_eq, hsome]
  rw [Text.trim]
  constructor
  · rintro ⟨hsize, out, hout⟩
    rw [Hex.utf8ByteSize_of_decode hout] at hsize
    exact ⟨hsize, (Hex.exists_decode_iff.mp ⟨out, hout⟩).2⟩
  · rintro ⟨hlength, hdigits⟩
    have heven : (Text.trimChars hash.toList).length % 2 = 0 := by rw [hlength]
    obtain ⟨out, hout⟩ := Hex.exists_decode_iff.mpr ⟨heven, hdigits⟩
    rw [Hex.utf8ByteSize_of_decode hout]
    exact ⟨hlength, out, hout⟩

end Upkeep
