import SiteAudit.Text.Utf8

/-!
# Encoded texts, read again and cut

A character is encoded as a lead byte and up to three tail bytes, and the lead
byte alone tells how many. `Spells` says what the reader makes of these bytes: all
of them are read as the character, and fewer of them, at the end of the bytes, are
one fault.

* `spells_encoding`: every character is spelled by its encoding.
* `decodeSkipping_encode`: an encoded text is read as it was.
* `decodeSkipping_take`: of a text that is cut at some byte, the characters are
  left that end at or before the cut.
-/
namespace SiteAudit.Text.Utf8

/-! ## The bytes of a character -/

theorem isTail_iff {b : UInt8} : isTail b = true ↔ 128 ≤ b.toNat ∧ b.toNat < 192 := by
  simp only [isTail, Bool.and_eq_true, decide_eq_true_eq, UInt8.le_iff_toNat_le]
  exact and_congr_right fun _ => Nat.lt_succ_iff.symm

theorem isSecond_iff {a b : UInt8} :
    isSecond a b = true ↔ isTail b = true ∧ (a.toNat = 224 → 160 ≤ b.toNat) ∧
      (a.toNat = 237 → b.toNat < 160) ∧ (a.toNat = 240 → 144 ≤ b.toNat) ∧
      (a.toNat = 244 → b.toNat < 144) := by
  simp only [isSecond, Bool.and_eq_true, Bool.not_eq_true', Bool.and_eq_false_imp, beq_iff_eq,
    decide_eq_false_iff_not, UInt8.lt_iff_toNat_lt, UInt8.le_iff_toNat_le, ← UInt8.toNat_inj]
  simp [and_assoc]

theorem not_lt_of_toNat_le {a k : UInt8} (h : k.toNat ≤ a.toNat) : ¬ a < k :=
  fun hlt => Nat.not_lt.mpr h (UInt8.lt_iff_toNat_lt.mp hlt)

/-- What the reader makes of the byte `a` with the bytes `tails` behind it: the
character `c`, and where some of the tails are cut off, one fault. -/
structure Spells (a : UInt8) (tails : List UInt8) (c : Char) : Prop where
  whole : ∀ rest, readFrom a (tails ++ rest) = .char c (tails.length + 1)
  cut : ∀ k, k < tails.length → readFrom a (tails.take k) = .fault .unexpectedEnd (k + 1)

theorem spells_one {a : UInt8} (h : a.toNat < 128) : Spells a [] (Char.ofNat a.toNat) where
  whole rest := by
    have h1 : a < 0x80 := UInt8.lt_iff_toNat_lt.mpr h
    simp [readFrom, h1]
  cut k hk := by cases hk

theorem spells_two {a b : UInt8} (hl : 194 ≤ a.toNat) (hm : a.toNat < 224)
    (hb : isTail b = true) :
    Spells a [b] (Char.ofNat (a.toNat % 32 * 64 + payload b)) := by
  have h1 : ¬ a < 0x80 := not_lt_of_toNat_le (Nat.le_trans (by decide) hl)
  have h2 : ¬ a < 0xC2 := not_lt_of_toNat_le hl
  have h3 : a < 0xE0 := UInt8.lt_iff_toNat_lt.mpr hm
  constructor
  · intro rest
    simp [readFrom, h1, h2, h3, hb]
  · intro k hk
    obtain rfl : k = 0 := Nat.lt_one_iff.mp hk
    simp [readFrom, h1, h2, h3]

theorem spells_three {a b c : UInt8} (hl : 224 ≤ a.toNat) (hm : a.toNat < 240)
    (hb : isSecond a b = true) (hc : isTail c = true) :
    Spells a [b, c]
      (Char.ofNat ((a.toNat % 16 * 64 + payload b) * 64 + payload c)) := by
  have h1 : ¬ a < 0x80 := not_lt_of_toNat_le (Nat.le_trans (by decide) hl)
  have h2 : ¬ a < 0xC2 := not_lt_of_toNat_le (Nat.le_trans (by decide) hl)
  have h3 : ¬ a < 0xE0 := not_lt_of_toNat_le hl
  have h4 : a < 0xF0 := UInt8.lt_iff_toNat_lt.mpr hm
  constructor
  · intro rest
    simp [readFrom, h1, h2, h3, h4, hb, hc]
  · intro k hk
    have hk : k < 2 := hk
    obtain rfl | rfl : k = 0 ∨ k = 1 := by omega
    · simp [readFrom, h1, h2, h3, h4]
    · simp [readFrom, h1, h2, h3, h4, hb]

theorem spells_four {a b c d : UInt8} (hl : 240 ≤ a.toNat) (hm : a.toNat < 245)
    (hb : isSecond a b = true) (hc : isTail c = true) (hd : isTail d = true) :
    Spells a [b, c, d]
      (Char.ofNat (((a.toNat % 8 * 64 + payload b) * 64 + payload c) * 64 + payload d)) := by
  have h1 : ¬ a < 0x80 := not_lt_of_toNat_le (Nat.le_trans (by decide) hl)
  have h2 : ¬ a < 0xC2 := not_lt_of_toNat_le (Nat.le_trans (by decide) hl)
  have h3 : ¬ a < 0xE0 := not_lt_of_toNat_le (Nat.le_trans (by decide) hl)
  have h4 : ¬ a < 0xF0 := not_lt_of_toNat_le hl
  have h5 : a < 0xF5 := UInt8.lt_iff_toNat_lt.mpr hm
  constructor
  · intro rest
    simp [readFrom, h1, h2, h3, h4, h5, hb, hc, hd]
  · intro k hk
    have hk : k < 3 := hk
    obtain rfl | rfl | rfl : k = 0 ∨ k = 1 ∨ k = 2 := by omega
    · simp [readFrom, h1, h2, h3, h4, h5]
    · simp [readFrom, h1, h2, h3, h4, h5, hb]
    · simp [readFrom, h1, h2, h3, h4, h5, hb, hc]

/-! ## Encodings -/

theorem toNat_byte {n : Nat} (h : n < 256) : (UInt8.ofNat n).toNat = n := by
  rw [UInt8.toNat_ofNat']
  exact Nat.mod_eq_of_lt h

theorem tail_byte {n : Nat} (h : n < 64) :
    (UInt8.ofNat (n + 128)).toNat = n + 128 ∧ isTail (UInt8.ofNat (n + 128)) = true ∧
      payload (UInt8.ofNat (n + 128)) = n := by
  have hn : (UInt8.ofNat (n + 128)).toNat = n + 128 := toNat_byte (by omega)
  refine ⟨hn, isTail_iff.mpr (by omega), ?_⟩
  rw [payload, hn]
  omega

/-- **Encodings are read.** The bounds on the size of a character are those on the
lead byte; that it is no surrogate and its encoding is the shortest gives the
bounds on the byte behind it. -/
theorem spells_encoding (c : Char) :
    ∃ a tails, String.utf8EncodeChar c = a :: tails ∧ Spells a tails c := by
  have hvalid : c.toNat < 0xD800 ∨ 0xDFFF < c.toNat ∧ c.toNat < 0x110000 := c.valid
  have hchar : Char.ofNat c.toNat = c := Char.ofNat_toNat c
  have hvalue : c.val.toNat = c.toNat := rfl
  unfold String.utf8EncodeChar
  rw [hvalue]
  generalize c.toNat = n at hvalid hchar ⊢
  dsimp only
  obtain ⟨-, h1, p1⟩ := tail_byte (Nat.mod_lt n (by decide : 64 > 0))
  obtain ⟨t2, h2, p2⟩ := tail_byte (Nat.mod_lt (n / 64) (by decide : 64 > 0))
  obtain ⟨t3, h3, p3⟩ := tail_byte (Nat.mod_lt (n / 4096) (by decide : 64 > 0))
  -- an encoding has one, two, three or four bytes
  split
  · have ha := toNat_byte (show n < 256 by omega)
    have hs := spells_one (a := UInt8.ofNat n) (by omega)
    rw [ha, hchar] at hs
    exact ⟨_, _, rfl, hs⟩
  split
  · have ha := toNat_byte (show n / 64 % 32 + 192 < 256 by omega)
    have hs := spells_two (a := UInt8.ofNat (n / 64 % 32 + 192)) (by omega) (by omega) h1
    rw [ha, p1, show (n / 64 % 32 + 192) % 32 * 64 + n % 64 = n by omega, hchar] at hs
    exact ⟨_, _, rfl, hs⟩
  split
  · have ha := toNat_byte (show n / 4096 % 16 + 224 < 256 by omega)
    have hsecond : isSecond (UInt8.ofNat (n / 4096 % 16 + 224)) (UInt8.ofNat (n / 64 % 64 + 128)) =
        true := by
      refine isSecond_iff.mpr ⟨h2, ?_⟩
      rw [ha, t2]
      omega
    have hs := spells_three (a := UInt8.ofNat (n / 4096 % 16 + 224)) (by omega) (by omega)
      hsecond h1
    rw [ha, p1, p2,
      show ((n / 4096 % 16 + 224) % 16 * 64 + n / 64 % 64) * 64 + n % 64 = n by omega, hchar] at hs
    exact ⟨_, _, rfl, hs⟩
  · have ha := toNat_byte (show n / 262144 % 8 + 240 < 256 by omega)
    have hsecond : isSecond (UInt8.ofNat (n / 262144 % 8 + 240))
        (UInt8.ofNat (n / 4096 % 64 + 128)) = true := by
      refine isSecond_iff.mpr ⟨h3, ?_⟩
      rw [ha, t3]
      omega
    have hs := spells_four (a := UInt8.ofNat (n / 262144 % 8 + 240)) (by omega) (by omega)
      hsecond h2 h1
    rw [ha, p1, p2, p3,
      show (((n / 262144 % 8 + 240) % 8 * 64 + n / 4096 % 64) * 64 + n / 64 % 64) * 64 + n % 64 =
        n by omega, hchar] at hs
    exact ⟨_, _, rfl, hs⟩

/-! ## Reading -/

theorem encode_cons (c : Char) (s : List Char) :
    encode (c :: s) = String.utf8EncodeChar c ++ encode s := List.flatMap_cons

theorem encode_append (a b : List Char) : encode (a ++ b) = encode a ++ encode b :=
  List.flatMap_append

theorem decodeSkipping_nil : decodeSkipping [] = [] := decodeSkipping.eq_1

theorem Spells.decode {a : UInt8} {tails : List UInt8} {c : Char} (h : Spells a tails c)
    (rest : List UInt8) :
    decodeSkipping (a :: tails ++ rest) = c :: decodeSkipping rest := by
  rw [List.cons_append, decodeSkipping, h.whole rest]
  simp

theorem Spells.decode_cut {a : UInt8} {tails : List UInt8} {c : Char} (h : Spells a tails c)
    {k : Nat} (hk : k < (a :: tails).length) : decodeSkipping ((a :: tails).take k) = [] := by
  cases k with
  | zero => exact decodeSkipping_nil
  | succ k =>
    rw [List.take_succ_cons, decodeSkipping, h.cut k (Nat.lt_of_succ_lt_succ hk)]
    have hrest : (tails.take k).drop (k + 1 - 1) = [] :=
      List.drop_eq_nil_of_le (List.length_take_le ..)
    simp only [hrest, decodeSkipping_nil]

theorem decodeSkipping_encode_append (s : List Char) (rest : List UInt8) :
    decodeSkipping (encode s ++ rest) = s ++ decodeSkipping rest := by
  induction s with
  | nil => rfl
  | cons c s ih =>
    obtain ⟨a, tails, hbytes, hspells⟩ := spells_encoding c
    rw [encode_cons, List.append_assoc, hbytes, hspells.decode, ih]
    rfl

theorem decodeSkipping_encode (s : List Char) : decodeSkipping (encode s) = s := by
  simpa [decodeSkipping_nil] using decodeSkipping_encode_append s []

/-! ## Cutting -/

/-- How many characters of a text have an encoding that ends at or before byte
`limit` of the text. -/
def charsWithin (limit : Nat) (s : List Char) : Nat :=
  (List.range s.length).countP (fun i => (encode (s.take (i + 1))).length ≤ limit)

theorem charsWithin_le (limit : Nat) (s : List Char) : charsWithin limit s ≤ s.length := by
  have h := List.countP_le_length
    (p := fun i => decide ((encode (s.take (i + 1))).length ≤ limit)) (l := List.range s.length)
  rwa [List.length_range] at h

theorem length_encode_take_cons (c : Char) (s : List Char) (n : Nat) :
    (encode ((c :: s).take (n + 1))).length =
      (String.utf8EncodeChar c).length + (encode (s.take n)).length := by
  rw [List.take_succ_cons, encode_cons, List.length_append]

theorem charsWithin_cons {limit : Nat} {c : Char} (h : (String.utf8EncodeChar c).length ≤ limit)
    (s : List Char) :
    charsWithin limit (c :: s) =
      charsWithin (limit - (String.utf8EncodeChar c).length) s + 1 := by
  unfold charsWithin
  rw [List.length_cons, List.range_succ_eq_map, List.countP_cons, List.countP_map]
  congr 1
  · refine List.countP_congr fun i _ => ?_
    simp only [Function.comp, decide_eq_true_eq, Nat.succ_eq_add_one, length_encode_take_cons]
    omega
  · have hfirst : (encode ((c :: s).take (0 + 1))).length ≤ limit := by
      rw [length_encode_take_cons]
      exact h
    rw [if_pos (decide_eq_true hfirst)]

theorem charsWithin_eq_zero {limit : Nat} {c : Char}
    (h : limit < (String.utf8EncodeChar c).length) (s : List Char) :
    charsWithin limit (c :: s) = 0 := by
  refine List.countP_eq_zero.mpr fun i _ => ?_
  rw [decide_eq_true_eq, length_encode_take_cons]
  omega

/-- **Cutting.** A text that is cut at a byte of its encoding is read as its
characters that end at or before the cut. -/
theorem decodeSkipping_take (s : List Char) (limit : Nat) :
    decodeSkipping ((encode s).take limit) = s.take (charsWithin limit s) := by
  induction s generalizing limit with
  | nil => simp [encode, decodeSkipping_nil]
  | cons c s ih =>
    obtain ⟨a, tails, hbytes, hspells⟩ := spells_encoding c
    rw [encode_cons, List.take_append]
    rcases Nat.lt_or_ge limit (String.utf8EncodeChar c).length with hcut | hwhole
    · rw [charsWithin_eq_zero hcut, Nat.sub_eq_zero_of_le (Nat.le_of_lt hcut), List.take_zero,
        List.append_nil]
      rw [hbytes] at hcut ⊢
      exact hspells.decode_cut hcut
    · rw [charsWithin_cons hwhole, List.take_of_length_le hwhole, List.take_succ_cons, hbytes,
        hspells.decode, ih]

end SiteAudit.Text.Utf8
