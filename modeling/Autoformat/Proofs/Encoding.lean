import Autoformat.Text.Utf8

/-!
# Text is read from its bytes

A character that is encoded as UTF-8 is decoded again, byte by byte (`decodeFrom_utf8EncodeChar`): its first byte
says how many more there are and in which range the second one lies (`lead_ofNat`), and each of them brings six
bits. So a text is read from its own bytes, whatever stands in for bytes that are none (`decodeWith_toUTF8`).
-/

namespace Autoformat.Utf8

section
variable {n : Nat}

/-- A number that is small enough is kept by a byte. -/
theorem toNat_ofNat_of_lt (h : n < 0x100) : (UInt8.ofNat n).toNat = n := by
  rw [UInt8.toNat_ofNat', Nat.mod_eq_of_lt h]

/-- A byte is below another when its number is. -/
theorem ofNat_lt_iff {k : UInt8} (h : n < 0x100) : UInt8.ofNat n < k ↔ n < k.toNat := by
  rw [UInt8.lt_iff_toNat_lt, toNat_ofNat_of_lt h]

/-- A byte is at most another when its number is. -/
theorem ofNat_le_iff {k : UInt8} (h : n < 0x100) : UInt8.ofNat n ≤ k ↔ n ≤ k.toNat := by
  rw [UInt8.le_iff_toNat_le, toNat_ofNat_of_lt h]

/-- A byte is at least another when its number is. -/
theorem le_ofNat_iff {k : UInt8} (h : n < 0x100) : k ≤ UInt8.ofNat n ↔ k.toNat ≤ n := by
  rw [UInt8.le_iff_toNat_le, toNat_ofNat_of_lt h]

/-- A byte is another when its number is. -/
theorem ofNat_eq_iff {k : UInt8} (h : n < 0x100) : UInt8.ofNat n = k ↔ n = k.toNat := by
  rw [← UInt8.toNat_inj, toNat_ofNat_of_lt h]

/-- The first byte by its number. -/
theorem lead_ofNat (h : n < 0x100) : lead (UInt8.ofNat n) =
    if n < 0x80 then .whole (Char.ofNat n)
    else if 0xC2 ≤ n ∧ n ≤ 0xDF then .begun ⟨1, n % 0x20, 0x80, 0xBF⟩
    else if n = 0xE0 then .begun ⟨2, 0, 0xA0, 0xBF⟩
    else if n = 0xED then .begun ⟨2, 0xD, 0x80, 0x9F⟩
    else if 0xE1 ≤ n ∧ n ≤ 0xEF then .begun ⟨2, n % 0x10, 0x80, 0xBF⟩
    else if n = 0xF0 then .begun ⟨3, 0, 0x90, 0xBF⟩
    else if 0xF1 ≤ n ∧ n ≤ 0xF3 then .begun ⟨3, n % 0x8, 0x80, 0xBF⟩
    else if n = 0xF4 then .begun ⟨3, 4, 0x80, 0x8F⟩
    else .stray := by
  simp only [lead, ofNat_lt_iff h, ofNat_le_iff h, le_ofNat_iff h, ofNat_eq_iff h, toNat_ofNat_of_lt h]
  rfl

variable {standIn : List Char} {p : Partial} {rest : List UInt8}

/-- A byte that begins a character is kept until the character is complete. -/
theorem decodeFrom_begun (h : lead (UInt8.ofNat n) = .begun p) :
    decodeFrom standIn none (UInt8.ofNat n :: rest) = decodeFrom standIn (some p) rest := by
  rw [decodeFrom, h]

/-- A byte in range ends a character that needs one more. -/
theorem decodeFrom_last {bits : Nat} {low high : UInt8} (hlow : low.toNat ≤ n) (hhigh : n ≤ high.toNat) :
    decodeFrom standIn (some ⟨1, bits, low, high⟩) (UInt8.ofNat n :: rest) =
      Char.ofNat (bits * 0x40 + n % 0x40) :: decodeFrom standIn none rest := by
  have hn : n < 0x100 := Nat.lt_of_le_of_lt hhigh high.toNat_lt
  rw [decodeFrom, if_pos ⟨(le_ofNat_iff hn).2 hlow, (ofNat_le_iff hn).2 hhigh⟩, toNat_ofNat_of_lt hn]
  rfl

/-- A byte in range goes on with a character that needs more than that. -/
theorem decodeFrom_more {need bits : Nat} {low high : UInt8} (hlow : low.toNat ≤ n) (hhigh : n ≤ high.toNat) :
    decodeFrom standIn (some ⟨need + 2, bits, low, high⟩) (UInt8.ofNat n :: rest) =
      decodeFrom standIn (some ⟨need + 1, bits * 0x40 + n % 0x40, 0x80, 0xBF⟩) rest := by
  have hn : n < 0x100 := Nat.lt_of_le_of_lt hhigh high.toNat_lt
  rw [decodeFrom, if_pos ⟨(le_ofNat_iff hn).2 hlow, (ofNat_le_iff hn).2 hhigh⟩, toNat_ofNat_of_lt hn]
  rfl

/-- The first of three bytes leaves room for the second one. -/
theorem exists_lead_three {v : Nat} (large : 0x800 ≤ v) (small : v < 0x10000) (valid : v < 0xD800 ∨ 0xDFFF < v) :
    ∃ low high : UInt8, lead (UInt8.ofNat (v / 4096 % 16 + 224)) = .begun ⟨2, v / 4096, low, high⟩ ∧
      low.toNat ≤ v / 64 % 64 + 128 ∧ v / 64 % 64 + 128 ≤ high.toNat := by
  have hfirst : v / 4096 % 16 + 224 < 0x100 := by omega
  rw [lead_ofNat hfirst]
  have hlow : (0x80 : UInt8).toNat = 128 := rfl
  have hhigh : (0xBF : UInt8).toNat = 191 := rfl
  -- 0xE0 would leave room for overlong forms and 0xED for surrogates
  by_cases h₀ : v / 4096 = 0
  · refine ⟨0xA0, 0xBF, ?_, ?_, ?_⟩
    · rw [h₀]
      rfl
    · have : (0xA0 : UInt8).toNat = 160 := rfl
      omega
    · omega
  by_cases h₁ : v / 4096 = 13
  · refine ⟨0x80, 0x9F, ?_, ?_, ?_⟩
    · rw [h₁]
      rfl
    · omega
    · have : (0x9F : UInt8).toNat = 159 := rfl
      omega
  · refine ⟨0x80, 0xBF, ?_, by omega, by omega⟩
    have hbits : (v / 4096 % 16 + 224) % 0x10 = v / 4096 := by omega
    rw [if_neg (by omega), if_neg (by omega), if_neg (by omega), if_neg (by omega), if_pos (by omega), hbits]

/-- The first of four bytes leaves room for the second one. -/
theorem exists_lead_four {v : Nat} (large : 0x10000 ≤ v) (small : v < 0x110000) :
    ∃ low high : UInt8, lead (UInt8.ofNat (v / 262144 % 8 + 240)) = .begun ⟨3, v / 262144, low, high⟩ ∧
      low.toNat ≤ v / 4096 % 64 + 128 ∧ v / 4096 % 64 + 128 ≤ high.toNat := by
  have hfirst : v / 262144 % 8 + 240 < 0x100 := by omega
  rw [lead_ofNat hfirst]
  have hlow : (0x80 : UInt8).toNat = 128 := rfl
  have hhigh : (0xBF : UInt8).toNat = 191 := rfl
  -- 0xF0 would leave room for overlong forms and 0xF4 for numbers above the last character
  by_cases h₀ : v / 262144 = 0
  · refine ⟨0x90, 0xBF, ?_, ?_, by omega⟩
    · rw [h₀]
      rfl
    · have : (0x90 : UInt8).toNat = 144 := rfl
      omega
  by_cases h₁ : v / 262144 = 4
  · refine ⟨0x80, 0x8F, ?_, by omega, ?_⟩
    · rw [h₁]
      rfl
    · have : (0x8F : UInt8).toNat = 143 := rfl
      omega
  · refine ⟨0x80, 0xBF, ?_, by omega, by omega⟩
    have hbits : (v / 262144 % 8 + 240) % 0x8 = v / 262144 := by omega
    rw [if_neg (by omega), if_neg (by omega), if_neg (by omega), if_neg (by omega), if_neg (by omega),
      if_neg (by omega), if_pos (by omega), hbits]

/-- A character that is encoded is decoded. -/
theorem decodeFrom_utf8EncodeChar (c : Char) :
    decodeFrom standIn none (String.utf8EncodeChar c ++ rest) = c :: decodeFrom standIn none rest := by
  have hlow : (0x80 : UInt8).toNat = 128 := rfl
  have hhigh : (0xBF : UInt8).toNat = 191 := rfl
  have hvalid : c.toNat < 0xD800 ∨ 0xDFFF < c.toNat ∧ c.toNat < 0x110000 := c.valid
  have hchar : Char.ofNat c.toNat = c := Char.ofNat_toNat c
  have hval : c.val.toNat = c.toNat := rfl
  rw [String.utf8EncodeChar, hval]
  generalize c.toNat = v at hvalid hchar
  split
  next hsmall =>
    have hlead : lead (UInt8.ofNat v) = .whole (Char.ofNat v) := by
      rw [lead_ofNat (by omega), if_pos (by omega)]
    rw [List.singleton_append, decodeFrom, hlead, hchar]
  split
  next hone htwo =>
    have hbits : (v / 64 % 32 + 192) % 0x20 = v / 64 := by omega
    have hlead : lead (UInt8.ofNat (v / 64 % 32 + 192)) = .begun ⟨1, v / 64, 0x80, 0xBF⟩ := by
      rw [lead_ofNat (by omega), if_neg (by omega), if_pos (by omega), hbits]
    have hwhole : v / 64 * 0x40 + (v % 64 + 128) % 0x40 = v := by omega
    simp only [List.cons_append, List.nil_append]
    rw [decodeFrom_begun hlead, decodeFrom_last (by omega) (by omega), hwhole, hchar]
  split
  next hone htwo hthree =>
    obtain ⟨low, high, hlead, hlow', hhigh'⟩ := exists_lead_three (v := v) (by omega) (by omega) (by omega)
    have hwhole : (v / 4096 * 0x40 + (v / 64 % 64 + 128) % 0x40) * 0x40 + (v % 64 + 128) % 0x40 = v := by omega
    simp only [List.cons_append, List.nil_append]
    rw [decodeFrom_begun hlead, decodeFrom_more hlow' hhigh', decodeFrom_last (by omega) (by omega), hwhole, hchar]
  next hone htwo hthree =>
    obtain ⟨low, high, hlead, hlow', hhigh'⟩ := exists_lead_four (v := v) (by omega) (by omega)
    have hwhole : ((v / 262144 * 0x40 + (v / 4096 % 64 + 128) % 0x40) * 0x40 + (v / 64 % 64 + 128) % 0x40) * 0x40 +
        (v % 64 + 128) % 0x40 = v := by omega
    simp only [List.cons_append, List.nil_append]
    rw [decodeFrom_begun hlead, decodeFrom_more hlow' hhigh', decodeFrom_more (by omega) (by omega),
      decodeFrom_last (by omega) (by omega), hwhole, hchar]

/-- Text is read from its own bytes, whatever stands in for other bytes. -/
theorem decodeWith_toUTF8 (s : String) : decodeWith standIn s.toUTF8 = s := by
  have hchars (cs : List Char) : decodeFrom standIn none (cs.flatMap String.utf8EncodeChar) = cs := by
    induction cs with
    | nil => rfl
    | cons c cs ih => rw [List.flatMap_cons, decodeFrom_utf8EncodeChar, ih]
  have hbytes : s.toUTF8.data.toList = s.toList.flatMap String.utf8EncodeChar := by
    show s.toByteArray.data.toList = _
    rw [← String.utf8Encode_toList, List.utf8Encode, List.data_toByteArray]
  rw [decodeWith, hbytes, hchars, String.ofList_toList]

end

end Autoformat.Utf8
