import LineScript.File.Encoding
import Mathlib.Tactic.Push

/-!
# Decoding is the inverse of encoding

`Spells` lists the byte sequences that stand for a character, by the number of their bytes. Each is
the encoding of its character (`Spells.utf8EncodeChar_eq`), and every character has one
(`exists_spells`). The decoder takes such a sequence away from the front, and where none stands it
refuses the byte (`decodeFrom_append`, `decodeFrom_of_not_spells`).

So the bytes that are decoded are the encodings of texts (`decodeFrom_encode`), and all others are
refused at a byte in front of which they are the encoding of a text (`encode_or_refused`).
-/

namespace LineScript.Utf8

/-! ### The spellings of a character -/

theorem isTail_iff {b : UInt8} : isTail b = true ↔ 0x80 ≤ b.toNat ∧ b.toNat ≤ 0xBF := by
  simp [isTail, UInt8.le_iff_toNat_le]

theorem isSecond_iff {lead b : UInt8} :
    isSecond lead b = true ↔ (0x80 ≤ b.toNat ∧ b.toNat ≤ 0xBF) ∧
      (lead.toNat = 0xE0 → 0xA0 ≤ b.toNat) ∧ (lead.toNat = 0xED → b.toNat ≤ 0x9F) ∧
      (lead.toNat = 0xF0 → 0x90 ≤ b.toNat) ∧ (lead.toNat = 0xF4 → b.toNat ≤ 0x8F) := by
  simp [isSecond, isTail_iff, UInt8.le_iff_toNat_le, ← UInt8.toNat_inj, and_assoc, imp_iff_not_or]

/-- A sequence of bytes stands for a character. -/
inductive Spells : List UInt8 → Char → Prop where
  | one {a : UInt8} : a.toNat < 0x80 → Spells [a] (Char.ofNat a.toNat)
  | two {a b : UInt8} : 0xC2 ≤ a.toNat → a.toNat < 0xE0 → isTail b = true →
      Spells [a, b] (char₂ a b)
  | three {a b c : UInt8} : 0xE0 ≤ a.toNat → a.toNat < 0xF0 → isSecond a b = true →
      isTail c = true → Spells [a, b, c] (char₃ a b c)
  | four {a b c d : UInt8} : 0xF0 ≤ a.toNat → a.toNat < 0xF5 → isSecond a b = true →
      isTail c = true → isTail d = true → Spells [a, b, c, d] (char₄ a b c d)

theorem toNat_ofNat {n : Nat} (h : n.isValidChar) : (Char.ofNat n).toNat = n := by
  rw [Char.ofNat, dif_pos h]
  rfl

theorem eq_ofNat {a : UInt8} {n : Nat} (h : n = a.toNat) : UInt8.ofNat n = a := by
  rw [h, UInt8.ofNat_toNat]

/-- A character is encoded by the bytes that stand for it. -/
theorem Spells.utf8EncodeChar_eq {seq : List UInt8} {c : Char} (h : Spells seq c) :
    String.utf8EncodeChar c = seq := by
  cases h with
  | @one a ha =>
    have hv : (Char.ofNat a.toNat).toNat = a.toNat :=
      toNat_ofNat (by unfold Nat.isValidChar; omega)
    have hle : a.toNat ≤ 127 := by omega
    simp [String.utf8EncodeChar, hv, hle]
  | @two a b ha ha' hb =>
    obtain ⟨hb, hb'⟩ := isTail_iff.mp hb
    have hv : (char₂ a b).toNat = a.toNat % 32 * 64 + tailBits b :=
      toNat_ofNat (by unfold Nat.isValidChar tailBits; omega)
    unfold tailBits at hv
    rw [String.utf8EncodeChar]
    simp only [Char.toNat_val, hv]
    rw [if_neg (by omega), if_pos (by omega), eq_ofNat, eq_ofNat]
    · omega
    · omega
  | @three a b c ha ha' hb hc =>
    obtain ⟨⟨hb, hb'⟩, h0, hD, -, -⟩ := isSecond_iff.mp hb
    obtain ⟨hc, hc'⟩ := isTail_iff.mp hc
    have hv : (char₃ a b c).toNat = (a.toNat % 16 * 64 + tailBits b) * 64 + tailBits c :=
      toNat_ofNat (by unfold Nat.isValidChar tailBits; omega)
    unfold tailBits at hv
    rw [String.utf8EncodeChar]
    simp only [Char.toNat_val, hv]
    rw [if_neg (by omega), if_neg (by omega), if_pos (by omega), eq_ofNat, eq_ofNat, eq_ofNat]
    all_goals omega
  | @four a b c d ha ha' hb hc hd =>
    obtain ⟨⟨hb, hb'⟩, -, -, h0, h4⟩ := isSecond_iff.mp hb
    obtain ⟨hc, hc'⟩ := isTail_iff.mp hc
    obtain ⟨hd, hd'⟩ := isTail_iff.mp hd
    have hv : (char₄ a b c d).toNat =
        ((a.toNat % 8 * 64 + tailBits b) * 64 + tailBits c) * 64 + tailBits d :=
      toNat_ofNat (by unfold Nat.isValidChar tailBits; omega)
    unfold tailBits at hv
    rw [String.utf8EncodeChar]
    simp only [Char.toNat_val, hv]
    rw [if_neg (by omega), if_neg (by omega), if_neg (by omega), eq_ofNat, eq_ofNat, eq_ofNat,
      eq_ofNat]
    all_goals omega

/-- For every character there are bytes that stand for it. -/
theorem exists_spells (c : Char) : ∃ seq, Spells seq c := by
  have hvalid : c.toNat < 0xD800 ∨ 0xDFFF < c.toNat ∧ c.toNat < 0x110000 := c.valid
  have hbyte (n : Nat) (h : n < 0x100) : ∃ a : UInt8, a.toNat = n :=
    ⟨UInt8.ofNat n, by simpa using h⟩
  have hchar {n : Nat} (h : n = c.toNat) : Char.ofNat n = c := by rw [h, Char.ofNat_toNat]
  obtain h | h | h | h : c.toNat < 0x80 ∨ (0x80 ≤ c.toNat ∧ c.toNat < 0x800) ∨
      (0x800 ≤ c.toNat ∧ c.toNat < 0x10000) ∨ 0x10000 ≤ c.toNat := by omega
  · obtain ⟨a, ha⟩ := hbyte c.toNat (by omega)
    exact ⟨[a], hchar ha ▸ .one (by omega)⟩
  · obtain ⟨a, ha⟩ := hbyte (0xC0 + c.toNat / 64) (by omega)
    obtain ⟨b, hb⟩ := hbyte (0x80 + c.toNat % 64) (by omega)
    have hspells : Spells [a, b] (char₂ a b) :=
      .two (by omega) (by omega) (isTail_iff.mpr (by omega))
    rw [char₂, hchar (by unfold tailBits; omega)] at hspells
    exact ⟨_, hspells⟩
  · obtain ⟨a, ha⟩ := hbyte (0xE0 + c.toNat / 4096) (by omega)
    obtain ⟨b, hb⟩ := hbyte (0x80 + c.toNat / 64 % 64) (by omega)
    obtain ⟨d, hd⟩ := hbyte (0x80 + c.toNat % 64) (by omega)
    have hspells : Spells [a, b, d] (char₃ a b d) :=
      .three (by omega) (by omega) (isSecond_iff.mpr (by omega)) (isTail_iff.mpr (by omega))
    rw [char₃, hchar (by unfold tailBits; omega)] at hspells
    exact ⟨_, hspells⟩
  · obtain ⟨a, ha⟩ := hbyte (0xF0 + c.toNat / 262144) (by omega)
    obtain ⟨b, hb⟩ := hbyte (0x80 + c.toNat / 4096 % 64) (by omega)
    obtain ⟨d, hd⟩ := hbyte (0x80 + c.toNat / 64 % 64) (by omega)
    obtain ⟨e, he⟩ := hbyte (0x80 + c.toNat % 64) (by omega)
    have hspells : Spells [a, b, d, e] (char₄ a b d e) :=
      .four (by omega) (by omega) (isSecond_iff.mpr (by omega)) (isTail_iff.mpr (by omega))
        (isTail_iff.mpr (by omega))
    rw [char₄, hchar (by unfold tailBits; omega)] at hspells
    exact ⟨_, hspells⟩

/-! ### One character -/

/-- Bytes that stand for a character are decoded to it. -/
theorem decodeFrom_append {seq : List UInt8} {c : Char} (h : Spells seq c) (position : Nat)
    (rest : List UInt8) :
    decodeFrom position (seq ++ rest) =
      (decodeFrom (position + seq.length) rest).map (c :: ·) := by
  have hbelow {a b : UInt8} (h : a.toNat < b.toNat) : a < b := UInt8.lt_iff_toNat_lt.mpr h
  -- the lead byte is past the bounds of the shorter spellings too
  have hpast {a : UInt8} {n : Nat} (ha : n ≤ a.toNat) (b : UInt8) (hb : b.toNat ≤ n) : ¬a < b :=
    UInt8.not_lt.mpr (UInt8.le_iff_toNat_le.mpr (Nat.le_trans hb ha))
  cases h with
  | one ha =>
    rw [List.singleton_append, decodeFrom.eq_def]
    dsimp only
    rw [if_pos (hbelow ha), List.length_singleton]
  | two ha ha' hb =>
    rw [List.cons_append, List.singleton_append, decodeFrom.eq_def]
    dsimp only
    rw [if_neg (hpast ha 0x80 (by decide)), if_neg (hpast ha 0xC2 (by decide)),
      if_pos (hbelow ha'), if_pos hb]
    rfl
  | three ha ha' hb hc =>
    rw [List.cons_append, List.cons_append, List.singleton_append, decodeFrom.eq_def]
    dsimp only
    rw [if_neg (hpast ha 0x80 (by decide)), if_neg (hpast ha 0xC2 (by decide)),
      if_neg (hpast ha 0xE0 (by decide)), if_pos (hbelow ha'), hb, hc]
    rfl
  | four ha ha' hb hc hd =>
    rw [List.cons_append, List.cons_append, List.cons_append, List.singleton_append,
      decodeFrom.eq_def]
    dsimp only
    rw [if_neg (hpast ha 0x80 (by decide)), if_neg (hpast ha 0xC2 (by decide)),
      if_neg (hpast ha 0xE0 (by decide)), if_neg (hpast ha 0xF0 (by decide)),
      if_pos (hbelow ha'), hb, hc, hd]
    rfl

/-- A byte at which no spelling of a character starts is refused. -/
theorem decodeFrom_of_not_spells {a : UInt8} {bytes : List UInt8}
    (h : ∀ seq c rest, Spells seq c → a :: bytes ≠ seq ++ rest) (position : Nat) :
    ∃ length reason,
      decodeFrom position (a :: bytes) = .error ⟨.utf8, position, length, a, reason⟩ := by
  have hbelow {b : UInt8} : a < b → a.toNat < b.toNat := UInt8.lt_iff_toNat_lt.mp
  have hpast {b : UInt8} (h : ¬a < b) : b.toNat ≤ a.toNat := Nat.le_of_not_lt h
  -- one case for each range of lead bytes; where the decoder goes on, `h` rules the bytes out
  rw [decodeFrom.eq_def]
  dsimp only
  by_cases h80 : a < 0x80
  · exact absurd rfl (h [a] _ bytes (.one (hbelow h80)))
  rw [if_neg h80]
  by_cases hC2 : a < 0xC2
  · exact ⟨_, _, if_pos hC2⟩
  rw [if_neg hC2]
  by_cases hE0 : a < 0xE0
  · rw [if_pos hE0]
    match bytes with
    | [] => exact ⟨_, _, rfl⟩
    | b :: rest =>
      refine ⟨_, _, if_neg fun hb => ?_⟩
      exact h [a, b] _ rest (.two (hpast hC2) (hbelow hE0) hb) rfl
  rw [if_neg hE0]
  by_cases hF0 : a < 0xF0
  · rw [if_pos hF0]
    match bytes with
    | [] => exact ⟨_, _, rfl⟩
    | [b] => cases hb : isSecond a b <;> simp [hb]
    | b :: c :: rest =>
      have hspells : ¬(isSecond a b = true ∧ isTail c = true) := fun ⟨hb, hc⟩ =>
        h [a, b, c] _ rest (.three (hpast hE0) (hbelow hF0) hb hc) rfl
      cases hb : isSecond a b <;> cases hc : isTail c <;> simp [hb, hc] at hspells ⊢
  rw [if_neg hF0]
  by_cases hF5 : a < 0xF5
  · rw [if_pos hF5]
    match bytes with
    | [] => exact ⟨_, _, rfl⟩
    | [b] => cases hb : isSecond a b <;> simp [hb]
    | [b, c] => cases hb : isSecond a b <;> cases hc : isTail c <;> simp [hb, hc]
    | b :: c :: d :: rest =>
      have hspells : ¬(isSecond a b = true ∧ isTail c = true ∧ isTail d = true) :=
        fun ⟨hb, hc, hd⟩ =>
          h [a, b, c, d] _ rest (.four (hpast hF0) (hbelow hF5) hb hc hd) rfl
      cases hb : isSecond a b <;> cases hc : isTail c <;> cases hd : isTail d <;>
        simp [hb, hc, hd] at hspells ⊢
  · exact ⟨_, _, if_neg hF5⟩

/-! ### Texts -/

/-- The bytes that encode a text. -/
def encode (t : Text) : List UInt8 := t.flatMap String.utf8EncodeChar

theorem encode_cons {seq : List UInt8} {c : Char} (h : Spells seq c) (t : Text) :
    encode (c :: t) = seq ++ encode t := by
  rw [encode, List.flatMap_cons, h.utf8EncodeChar_eq, encode]

theorem toByteArray_eq_iff {bytes : List UInt8} {t : Text} :
    bytes.toByteArray = t.utf8Encode ↔ bytes = encode t := by
  rw [List.utf8Encode, List.toByteArray_inj, encode]

theorem isValidUTF8_encode (t : Text) : (encode t).toByteArray.IsValidUTF8 :=
  ⟨t, toByteArray_eq_iff.mpr rfl⟩

theorem decodeFrom_encode (position : Nat) (t : Text) : decodeFrom position (encode t) = .ok t := by
  induction t generalizing position with
  | nil => rfl
  | cons c t ih =>
    obtain ⟨seq, hseq⟩ := exists_spells c
    rw [encode_cons hseq, decodeFrom_append hseq, ih]
    rfl

/-- Bytes that encode no text are refused at a byte in front of which they do. -/
theorem encode_or_refused (position : Nat) (bytes : List UInt8) :
    (∃ t, bytes = encode t) ∨ ∃ t a rest length reason, bytes = encode t ++ a :: rest ∧
      decodeFrom position bytes =
        .error ⟨.utf8, position + (encode t).length, length, a, reason⟩ := by
  induction hn : bytes.length using Nat.strongRecOn generalizing position bytes with
  | ind n ih =>
    match bytes with
    | [] => exact .inl ⟨[], rfl⟩
    | a :: bytes =>
      by_cases hstart : ∃ seq c rest, Spells seq c ∧ a :: bytes = seq ++ rest
      · obtain ⟨seq, c, rest, hseq, heq⟩ := hstart
        have hpos : 0 < seq.length := by cases hseq <;> exact Nat.succ_pos _
        have hlt : rest.length < n := by
          rw [← hn, heq, List.length_append]
          omega
        rw [heq, decodeFrom_append hseq]
        obtain ⟨t, ht⟩ | ⟨t, a', rest', length, reason, heq', herror⟩ :=
          ih rest.length hlt (position + seq.length) rest rfl
        · exact .inl ⟨c :: t, by rw [encode_cons hseq, ht]⟩
        · refine .inr ⟨c :: t, a', rest', length, reason, ?_, ?_⟩
          · rw [encode_cons hseq, List.append_assoc, heq']
          · rw [herror, encode_cons hseq, List.length_append, ← Nat.add_assoc]
            rfl
      · push Not at hstart
        obtain ⟨length, reason, herror⟩ := decodeFrom_of_not_spells hstart position
        exact .inr ⟨[], a, bytes, length, reason, rfl, herror⟩

end LineScript.Utf8
