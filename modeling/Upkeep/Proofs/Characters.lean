import Mathlib.Tactic.SplitIfs
import Upkeep.Bytes.Basic

/-!
Which bytes are a text. The characters that are read are those that have been written, and bytes in
which all characters are whole have been written from these.
-/

set_option autoImplicit false

namespace Upkeep.Bytes

theorem ofString_ofList (cs : List Char) :
    ofString (String.ofList cs) = cs.flatMap String.utf8EncodeChar := by
  simp [ofString, List.utf8Encode]

/-! ### Leading bytes -/

/-- The cases of `lead` by the number of the byte. -/
theorem lead_toNat (b : UInt8) :
    lead b =
      if b.toNat < 0x80 then .whole (Char.ofNat b.toNat)
      else if b.toNat < 0xc2 then .bad
      else if b.toNat < 0xe0 then .part { bits := b.toNat - 0xc0, left := 1 }
      else if b.toNat = 0xe0 then .part { bits := 0, left := 2, lo := 0xa0 }
      else if b.toNat = 0xed then .part { bits := 13, left := 2, hi := 0x9f }
      else if b.toNat < 0xf0 then .part { bits := b.toNat - 0xe0, left := 2 }
      else if b.toNat = 0xf0 then .part { bits := 0, left := 3, lo := 0x90 }
      else if b.toNat = 0xf4 then .part { bits := 4, left := 3, hi := 0x8f }
      else if b.toNat < 0xf4 then .part { bits := b.toNat - 0xf0, left := 3 }
      else .bad := by
  unfold lead
  simp only [← UInt8.toNat_inj, UInt8.lt_iff_toNat_lt, UInt8.reduceToNat]

theorem lead_of_lt {b : UInt8} (h : b.toNat < 0x80) : lead b = .whole (Char.ofNat b.toNat) := by
  rw [lead_toNat, if_pos h]

theorem lead_of_two {b : UInt8} (h : 0xc2 ≤ b.toNat) (h' : b.toNat < 0xe0) :
    lead b = .part ⟨b.toNat - 0xc0, 1, 0x80, 0xbf⟩ := by
  rw [lead_toNat, if_neg (by omega), if_neg (by omega), if_pos h']

theorem lead_of_three {b : UInt8} (h : 0xe0 ≤ b.toNat) (h' : b.toNat < 0xf0) :
    lead b = .part ⟨b.toNat - 0xe0, 2, if b.toNat = 0xe0 then 0xa0 else 0x80,
      if b.toNat = 0xed then 0x9f else 0xbf⟩ := by
  rw [lead_toNat, if_neg (by omega), if_neg (by omega), if_neg (by omega)]
  split_ifs <;> first | omega | simp [*]

theorem lead_of_four {b : UInt8} (h : 0xf0 ≤ b.toNat) (h' : b.toNat < 0xf5) :
    lead b = .part ⟨b.toNat - 0xf0, 3, if b.toNat = 0xf0 then 0x90 else 0x80,
      if b.toNat = 0xf4 then 0x8f else 0xbf⟩ := by
  rw [lead_toNat, if_neg (by omega), if_neg (by omega), if_neg (by omega), if_neg (by omega),
    if_neg (by omega), if_neg (by omega)]
  split_ifs <;> first | omega | simp [*]

theorem lead_of_bad {b : UInt8} (h : 0x80 ≤ b.toNat) (h' : b.toNat < 0xc2 ∨ 0xf5 ≤ b.toNat) :
    lead b = .bad := by
  rw [lead_toNat, if_neg (by omega)]
  split_ifs <;> first | omega | rfl

/-! ### Characters one by one -/

theorem charactersAfter_some_iff {u : Unfinished} {bs : Bytes} {c : Char}
    {cs : List (Option Char)} :
    charactersAfter (some u) bs = some c :: cs ↔
      ∃ b rest, bs = b :: rest ∧ u.lo.toNat ≤ b.toNat ∧ b.toNat ≤ u.hi.toNat ∧
        (if u.left ≤ 1 then
          some (Char.ofNat (u.bits * 64 + b.toNat % 64)) :: charactersAfter none rest
        else
          charactersAfter (some ⟨u.bits * 64 + b.toNat % 64, u.left - 1, 0x80, 0xbf⟩) rest) =
            some c :: cs := by
  cases bs with
  | nil => simp [charactersAfter]
  | cons b rest =>
    simp only [← UInt8.le_iff_toNat_le]
    rw [charactersAfter]
    by_cases hb : u.lo ≤ b ∧ b ≤ u.hi
    · rw [if_pos (by simpa using hb)]
      constructor
      · intro h
        exact ⟨b, rest, rfl, hb.1, hb.2, h⟩
      · rintro ⟨_, _, he, -, -, h⟩
        cases he
        exact h
    · rw [if_neg (by simpa using hb)]
      constructor
      · intro h
        cases hlead : lead b <;> rw [hlead] at h <;> cases h
      · rintro ⟨_, _, he, hlo, hhi, -⟩
        cases he
        exact absurd ⟨hlo, hhi⟩ hb

section

variable {bits left : Nat} {lo hi : UInt8} {bs : Bytes} {c : Char} {cs : List (Option Char)}

theorem charactersAfter_more_iff :
    charactersAfter (some ⟨bits, left + 2, lo, hi⟩) bs = some c :: cs ↔
      ∃ b rest, bs = b :: rest ∧ lo.toNat ≤ b.toNat ∧ b.toNat ≤ hi.toNat ∧
        charactersAfter (some ⟨bits * 64 + b.toNat % 64, left + 1, 0x80, 0xbf⟩) rest =
          some c :: cs := by
  simp [charactersAfter_some_iff]

theorem charactersAfter_last_iff :
    charactersAfter (some ⟨bits, 1, lo, hi⟩) bs = some c :: cs ↔
      ∃ b rest, bs = b :: rest ∧ lo.toNat ≤ b.toNat ∧ b.toNat ≤ hi.toNat ∧
        Char.ofNat (bits * 64 + b.toNat % 64) = c ∧ characters rest = cs := by
  simp [charactersAfter_some_iff, characters]

end

theorem toNat_byte {n : Nat} (h : n < 256) : (UInt8.ofNat n).toNat = n := by
  rw [UInt8.toNat_ofNat']
  exact Nat.mod_eq_of_lt h

theorem toNat_continuation (n : Nat) : (UInt8.ofNat (n % 64 + 128)).toNat = n % 64 + 128 :=
  toNat_byte (by omega)

/-- A character is read where its bytes are. -/
theorem characters_encoded (c : Char) (rest : Bytes) :
    characters (String.utf8EncodeChar c ++ rest) = some c :: characters rest := by
  have hval : c.val.toNat = c.toNat := rfl
  have hvalid : c.toNat < 0xd800 ∨ 0xdfff < c.toNat ∧ c.toNat < 0x110000 := c.valid
  have hc := Char.ofNat_toNat c
  unfold String.utf8EncodeChar
  simp only [hval, characters]
  generalize c.toNat = n at hvalid hc ⊢
  -- one case for each number of bytes that a character can have
  split_ifs with h₁ h₂ h₃
  · have hb := toNat_byte (n := n) (by omega)
    rw [List.cons_append, charactersAfter, lead_of_lt (by omega), hb, hc]
    rfl
  · have hb := toNat_byte (n := n / 64 % 32 + 192) (by omega)
    have hb₁ := toNat_continuation n
    rw [List.cons_append, charactersAfter, lead_of_two (by omega) (by omega)]
    refine charactersAfter_last_iff.mpr ⟨_, _, rfl, ?_, ?_, ?_, rfl⟩
    · simp; omega
    · simp; omega
    · rw [hb, hb₁, ← hc]
      congr 1
      omega
  · have hb := toNat_byte (n := n / 4096 % 16 + 224) (by omega)
    have hb₁ := toNat_continuation (n / 64)
    have hb₂ := toNat_continuation n
    rw [List.cons_append, charactersAfter, lead_of_three (by omega) (by omega)]
    refine charactersAfter_more_iff.mpr ⟨_, _, rfl, ?_, ?_,
      charactersAfter_last_iff.mpr ⟨_, _, rfl, ?_, ?_, ?_, rfl⟩⟩
    · split_ifs <;> simp <;> omega
    · split_ifs <;> simp <;> omega
    · simp; omega
    · simp; omega
    · rw [hb, hb₁, hb₂, ← hc]
      congr 1
      omega
  · have hb := toNat_byte (n := n / 262144 % 8 + 240) (by omega)
    have hb₁ := toNat_continuation (n / 4096)
    have hb₂ := toNat_continuation (n / 64)
    have hb₃ := toNat_continuation n
    rw [List.cons_append, charactersAfter, lead_of_four (by omega) (by omega)]
    refine charactersAfter_more_iff.mpr ⟨_, _, rfl, ?_, ?_,
      charactersAfter_more_iff.mpr ⟨_, _, rfl, ?_, ?_,
        charactersAfter_last_iff.mpr ⟨_, _, rfl, ?_, ?_, ?_, rfl⟩⟩⟩
    · split_ifs <;> simp <;> omega
    · split_ifs <;> simp <;> omega
    · simp; omega
    · simp; omega
    · simp; omega
    · simp; omega
    · rw [hb, hb₁, hb₂, hb₃, ← hc]
      congr 1
      omega

theorem utf8EncodeChar_ofNat {n : Nat} (h : n.isValidChar) :
    String.utf8EncodeChar (Char.ofNat n) =
      if n ≤ 0x7f then [.ofNat n]
      else if n ≤ 0x7ff then [.ofNat (n / 64 % 32 + 192), .ofNat (n % 64 + 128)]
      else if n ≤ 0xffff then
        [.ofNat (n / 4096 % 16 + 224), .ofNat (n / 64 % 64 + 128), .ofNat (n % 64 + 128)]
      else [.ofNat (n / 262144 % 8 + 240), .ofNat (n / 4096 % 64 + 128),
        .ofNat (n / 64 % 64 + 128), .ofNat (n % 64 + 128)] := by
  have hval : (Char.ofNat n).val.toNat = n := by
    rw [Char.ofNat, dif_pos h]
    rfl
  simp only [String.utf8EncodeChar, hval]

section

variable {b b₁ b₂ b₃ : UInt8}

theorem encoded_one (h : b.toNat < 0x80) : String.utf8EncodeChar (Char.ofNat b.toNat) = [b] := by
  rw [utf8EncodeChar_ofNat (Or.inl (by omega)), if_pos (by omega), UInt8.ofNat_toNat]

theorem encoded_two (h : 0xc2 ≤ b.toNat ∧ b.toNat < 0xe0) (h₁ : 0x80 ≤ b₁.toNat ∧ b₁.toNat ≤ 0xbf) :
    String.utf8EncodeChar (Char.ofNat ((b.toNat - 0xc0) * 64 + b₁.toNat % 64)) = [b, b₁] := by
  rw [utf8EncodeChar_ofNat (Or.inl (by omega)), if_neg (by omega), if_pos (by omega)]
  simp only [List.cons.injEq, ← UInt8.toNat_inj, UInt8.toNat_ofNat', and_true]
  omega

theorem encoded_three (h : 0xe0 ≤ b.toNat ∧ b.toNat < 0xf0) (h₁ : 0x80 ≤ b₁.toNat ∧ b₁.toNat ≤ 0xbf)
    (hlow : b.toNat = 0xe0 → 0xa0 ≤ b₁.toNat) (hhigh : b.toNat = 0xed → b₁.toNat ≤ 0x9f)
    (h₂ : 0x80 ≤ b₂.toNat ∧ b₂.toNat ≤ 0xbf) :
    String.utf8EncodeChar
      (Char.ofNat (((b.toNat - 0xe0) * 64 + b₁.toNat % 64) * 64 + b₂.toNat % 64)) = [b, b₁, b₂] := by
  rw [utf8EncodeChar_ofNat (by rw [Nat.isValidChar]; omega), if_neg (by omega), if_neg (by omega),
    if_pos (by omega)]
  simp only [List.cons.injEq, ← UInt8.toNat_inj, UInt8.toNat_ofNat', and_true]
  omega

theorem encoded_four (h : 0xf0 ≤ b.toNat ∧ b.toNat < 0xf5) (h₁ : 0x80 ≤ b₁.toNat ∧ b₁.toNat ≤ 0xbf)
    (hlow : b.toNat = 0xf0 → 0x90 ≤ b₁.toNat) (hhigh : b.toNat = 0xf4 → b₁.toNat ≤ 0x8f)
    (h₂ : 0x80 ≤ b₂.toNat ∧ b₂.toNat ≤ 0xbf) (h₃ : 0x80 ≤ b₃.toNat ∧ b₃.toNat ≤ 0xbf) :
    String.utf8EncodeChar (Char.ofNat
      ((((b.toNat - 0xf0) * 64 + b₁.toNat % 64) * 64 + b₂.toNat % 64) * 64 + b₃.toNat % 64)) =
        [b, b₁, b₂, b₃] := by
  rw [utf8EncodeChar_ofNat (by rw [Nat.isValidChar]; omega), if_neg (by omega), if_neg (by omega),
    if_neg (by omega)]
  simp only [List.cons.injEq, ← UInt8.toNat_inj, UInt8.toNat_ofNat', and_true]
  omega

end

/-- Where a whole character is read, its bytes are. -/
theorem encoded_of_characters {bs : Bytes} {c : Char} {cs : List (Option Char)}
    (h : characters bs = some c :: cs) :
    ∃ rest, bs = String.utf8EncodeChar c ++ rest ∧ characters rest = cs := by
  cases bs with
  | nil => simp [characters, charactersAfter] at h
  | cons b bs =>
  rw [characters, charactersAfter] at h
  rcases Nat.lt_or_ge b.toNat 0x80 with h₁ | h₁
  · rw [lead_of_lt h₁] at h
    obtain ⟨rfl, rfl⟩ : Char.ofNat b.toNat = c ∧ charactersAfter none bs = cs := by simpa using h
    refine ⟨bs, ?_, rfl⟩
    rw [encoded_one h₁]
    rfl
  rcases Nat.lt_or_ge b.toNat 0xc2 with h₂ | h₂
  · rw [lead_of_bad h₁ (Or.inl h₂)] at h
    cases h
  rcases Nat.lt_or_ge b.toNat 0xe0 with h₃ | h₃
  · rw [lead_of_two h₂ h₃] at h
    obtain ⟨b₁, rest, rfl, hlo, hhi, rfl, hrest⟩ := charactersAfter_last_iff.mp h
    refine ⟨rest, ?_, hrest⟩
    rw [encoded_two ⟨h₂, h₃⟩ ⟨hlo, hhi⟩]
    rfl
  rcases Nat.lt_or_ge b.toNat 0xf0 with h₄ | h₄
  · rw [lead_of_three h₃ h₄] at h
    obtain ⟨b₁, _, rfl, hlo₁, hhi₁, h⟩ := charactersAfter_more_iff.mp h
    obtain ⟨b₂, rest, rfl, hlo₂, hhi₂, rfl, hrest⟩ := charactersAfter_last_iff.mp h
    refine ⟨rest, ?_, hrest⟩
    rw [encoded_three ⟨h₃, h₄⟩ _ _ _ ⟨hlo₂, hhi₂⟩]
    · rfl
    · split_ifs at hlo₁ hhi₁ <;> simp at hlo₁ hhi₁ <;> omega
    · intro hb
      simpa [hb] using hlo₁
    · intro hb
      simpa [hb] using hhi₁
  rcases Nat.lt_or_ge b.toNat 0xf5 with h₅ | h₅
  · rw [lead_of_four h₄ h₅] at h
    obtain ⟨b₁, _, rfl, hlo₁, hhi₁, h⟩ := charactersAfter_more_iff.mp h
    obtain ⟨b₂, _, rfl, hlo₂, hhi₂, h⟩ := charactersAfter_more_iff.mp h
    obtain ⟨b₃, rest, rfl, hlo₃, hhi₃, rfl, hrest⟩ := charactersAfter_last_iff.mp h
    refine ⟨rest, ?_, hrest⟩
    rw [encoded_four ⟨h₄, h₅⟩ _ _ _ ⟨hlo₂, hhi₂⟩ ⟨hlo₃, hhi₃⟩]
    · rfl
    · split_ifs at hlo₁ hhi₁ <;> simp at hlo₁ hhi₁ <;> omega
    · intro hb
      simpa [hb] using hlo₁
    · intro hb
      simpa [hb] using hhi₁
  · rw [lead_of_bad h₁ (Or.inr h₅)] at h
    cases h

/-! ### Texts -/

theorem charactersAfter_some_ne_nil (u : Unfinished) (bs : Bytes) :
    charactersAfter (some u) bs ≠ [] := by
  induction bs generalizing u with
  | nil => simp [charactersAfter]
  | cons b bs ih =>
    rw [charactersAfter]
    split_ifs
    · simp
    · exact ih _
    · cases lead b <;> simp

theorem characters_eq_nil_iff {bs : Bytes} : characters bs = [] ↔ bs = [] := by
  cases bs with
  | nil => simp [characters, charactersAfter]
  | cons b bs =>
    rw [characters, charactersAfter]
    cases lead b <;> simp [charactersAfter_some_ne_nil]

/-- All characters are whole where these have been written. -/
theorem characters_eq_map_some_iff {bs : Bytes} {cs : List Char} :
    characters bs = cs.map some ↔ bs = cs.flatMap String.utf8EncodeChar := by
  induction cs generalizing bs with
  | nil => exact characters_eq_nil_iff
  | cons c cs ih =>
    rw [List.map_cons, List.flatMap_cons]
    constructor
    · intro h
      obtain ⟨rest, rfl, hrest⟩ := encoded_of_characters h
      rw [ih.mp hrest]
    · rintro rfl
      rw [characters_encoded, ih.mpr rfl]

theorem mapM_id_eq_some_iff {α : Type} {l : List (Option α)} {as : List α} :
    l.mapM id = some as ↔ l = as.map some := by
  induction l generalizing as with
  | nil => cases as <;> simp
  | cons a l ih =>
    rw [List.mapM_cons]
    cases a with
    | none => cases as <;> simp
    | some a =>
      simp only [id_eq, Option.pure_def, Option.bind_eq_bind, Option.bind_some,
        Option.bind_eq_some_iff, Option.some.injEq, ih]
      cases as with
      | nil => simp
      | cons a' as =>
        rw [List.map_cons, List.cons.injEq, Option.some.injEq]
        constructor
        · rintro ⟨as', rfl, h⟩
          cases h
          exact ⟨rfl, rfl⟩
        · rintro ⟨rfl, rfl⟩
          exact ⟨as, rfl, rfl⟩

/-- The bytes that are a text are those that it is written as. -/
theorem text?_eq_some_iff {bs : Bytes} {s : String} : text? bs = some s ↔ bs = ofString s := by
  rw [text?, Option.map_eq_some_iff]
  constructor
  · rintro ⟨cs, hcs, rfl⟩
    rw [ofString_ofList]
    exact characters_eq_map_some_iff.mp (mapM_id_eq_some_iff.mp hcs)
  · rintro rfl
    refine ⟨s.toList, ?_, String.ofList_toList⟩
    rw [mapM_id_eq_some_iff, characters_eq_map_some_iff, ← ofString_ofList, String.ofList_toList]

theorem lossyText_ofString (s : String) : lossyText (ofString s) = s := by
  have h : characters (ofString s) = s.toList.map some := by
    rw [characters_eq_map_some_iff, ← ofString_ofList, String.ofList_toList]
  simp [lossyText, h, Function.comp_def]

end Upkeep.Bytes
