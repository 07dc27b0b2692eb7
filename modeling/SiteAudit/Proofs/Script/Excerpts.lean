import SiteAudit.Proofs.Text.Blanks
import SiteAudit.Proofs.Text.Lines
import SiteAudit.Proofs.Text.Utf8
import SiteAudit.Script.Excerpt

/-!
# Excerpts of scripts

An excerpt is asked for by two byte offsets, which may fall inside characters or
behind the end of the text. What is left of a character that is cut at the front
are tail bytes, and those are no characters; what is left of one that is cut at the
end is one fault. So exactly the characters that lie between the offsets are read.

* `between_eq_wholeWithin`: the characters between two offsets.
* `excerpt_of_whole_characters`: the excerpt is the first line of these characters,
  trimmed, or its front with a mark, and never longer than the limit.
-/
namespace SiteAudit.Text.Utf8

/-! ## Tail bytes -/

theorem isTail_of_readFrom {a : UInt8} {r : List UInt8} {c : Char} {n : Nat}
    (h : readFrom a r = .char c n) : ∀ b ∈ r.take (n - 1), isTail b = true := by
  revert h
  -- four ways of reading end with a character, of one, two, three or four bytes
  fun_cases readFrom a r <;> rintro ⟨⟩
  · simp
  · simpa
  · simp_all [isSecond_iff]
  · simp_all [isSecond_iff]

theorem Spells.tails {a : UInt8} {tails : List UInt8} {c : Char} (h : Spells a tails c) :
    ∀ b ∈ tails, isTail b = true := by
  simpa using isTail_of_readFrom (h.whole [])

/-- Tail bytes without a lead byte are left out one by one. -/
theorem decodeSkipping_tails {tails : List UInt8} (h : ∀ b ∈ tails, isTail b = true)
    (rest : List UInt8) : decodeSkipping (tails ++ rest) = decodeSkipping rest := by
  induction tails with
  | nil => rfl
  | cons b tails ih =>
    obtain ⟨hb, htails⟩ := List.forall_mem_cons.mp h
    have hbounds := isTail_iff.mp hb
    have h1 : ¬ b < 0x80 := not_lt_of_toNat_le hbounds.1
    have h2 : b < 0xC2 := UInt8.lt_iff_toNat_lt.mpr (Nat.lt_trans hbounds.2 (by decide))
    have hfront : readFrom b (tails ++ rest) = .fault .invalidStart 1 := by
      simp [readFrom, h1, h2]
    rw [List.cons_append, decodeSkipping, hfront]
    exact ih htails

/-- Nothing is read from the inside of a character, wherever it is cut. -/
theorem Spells.decode_inside {a : UInt8} {tails : List UInt8} {c : Char} (h : Spells a tails c)
    {start : Nat} (hstart : 0 < start) (count : Nat) (rest : List UInt8) :
    decodeSkipping (((a :: tails).drop start).take count ++ rest) = decodeSkipping rest := by
  obtain ⟨k, rfl⟩ := Nat.exists_eq_add_one.mpr hstart
  refine decodeSkipping_tails (fun b hb => h.tails b ?_) rest
  exact List.mem_of_mem_drop (List.mem_of_mem_take hb)

/-! ## The characters between two offsets -/

/-- Whether the encoding of the character at place `i` lies between two byte offsets of
the encoded text. -/
def LiesWithin (start stop : Nat) (s : List Char) (i : Nat) : Prop :=
  start ≤ (encode (s.take i)).length ∧ (encode (s.take (i + 1))).length ≤ stop

instance (start stop : Nat) (s : List Char) (i : Nat) : Decidable (LiesWithin start stop s i) :=
  inferInstanceAs (Decidable (_ ∧ _))

/-- The characters whose whole encoding lies between two byte offsets. -/
def wholeWithin (start stop : Nat) (s : List Char) : List Char :=
  (s.zipIdx.filter fun x => LiesWithin start stop s x.2).map (·.1)

theorem liesWithin_zero {start stop : Nat} {c : Char} {s : List Char} :
    LiesWithin start stop (c :: s) 0 ↔
      start = 0 ∧ (String.utf8EncodeChar c).length ≤ stop := by
  rw [LiesWithin, length_encode_take_cons]
  simp [encode]

theorem liesWithin_succ {start stop : Nat} {c : Char}
    (h : (String.utf8EncodeChar c).length ≤ stop) {s : List Char} {i : Nat} :
    LiesWithin start stop (c :: s) (i + 1) ↔
      LiesWithin (start - (String.utf8EncodeChar c).length)
        (stop - (String.utf8EncodeChar c).length) s i := by
  simp only [LiesWithin, length_encode_take_cons]
  omega

theorem wholeWithin_eq_nil {stop : Nat} {c : Char}
    (h : stop < (String.utf8EncodeChar c).length) (start : Nat) (s : List Char) :
    wholeWithin start stop (c :: s) = [] := by
  rw [wholeWithin, List.map_eq_nil_iff, List.filter_eq_nil_iff]
  rintro ⟨d, i⟩ -
  simp only [LiesWithin, decide_eq_true_eq, length_encode_take_cons]
  omega

/-- A first character that ends in front of the second offset is whole if it begins
behind the first one. The others are those of the rest of the text. -/
theorem wholeWithin_cons {stop : Nat} {c : Char} (h : (String.utf8EncodeChar c).length ≤ stop)
    (start : Nat) (s : List Char) :
    wholeWithin start stop (c :: s) = (if start = 0 then [c] else []) ++
      wholeWithin (start - (String.utf8EncodeChar c).length)
        (stop - (String.utf8EncodeChar c).length) s := by
  have hzero : LiesWithin start stop (c :: s) 0 ↔ start = 0 := by
    rw [liesWithin_zero, and_iff_left h]
  unfold wholeWithin
  rw [List.zipIdx_cons, List.zipIdx_succ, List.filter_cons, List.filter_map]
  simp only [Function.comp_def, liesWithin_succ h, hzero, decide_eq_true_eq]
  split <;> simp [List.map_map, Function.comp_def]

end SiteAudit.Text.Utf8

namespace SiteAudit.Script

open Text Utf8

/-- **Between two offsets** the characters are read that lie there with their whole
encoding. -/
theorem between_eq_wholeWithin (start stop : Nat) (content : List Char) :
    between start stop content = wholeWithin start stop content := by
  unfold between
  induction content generalizing start stop with
  | nil => simp [encode, decodeSkipping_nil, wholeWithin]
  | cons c s ih =>
    obtain ⟨a, tails, hbytes, hspells⟩ := spells_encoding c
    rw [encode_cons, List.drop_append, List.take_append]
    rcases Nat.lt_or_ge stop (String.utf8EncodeChar c).length with hcut | hwhole
    · have hrest : ((encode s).drop (start - (String.utf8EncodeChar c).length)).take
          (stop - start - ((String.utf8EncodeChar c).drop start).length) = [] := by
        rw [List.length_drop, List.take_eq_nil_iff]
        omega
      rw [wholeWithin_eq_nil hcut, hrest]
      rcases Nat.eq_zero_or_pos start with rfl | hpos
      · rw [hbytes] at hcut ⊢
        simpa using hspells.decode_cut hcut
      · rw [hbytes, hspells.decode_inside hpos, decodeSkipping_nil]
    · have hoffset : stop - start - ((String.utf8EncodeChar c).drop start).length =
          stop - (String.utf8EncodeChar c).length - (start - (String.utf8EncodeChar c).length) := by
        rw [List.length_drop]
        omega
      rw [wholeWithin_cons hwhole, hoffset, ← ih]
      rcases Nat.eq_zero_or_pos start with rfl | hpos
      · have hall : (String.utf8EncodeChar c).take (stop - 0) = String.utf8EncodeChar c :=
          List.take_of_length_le hwhole
        rw [List.drop_zero, hall, hbytes, hspells.decode, if_pos rfl]
        rfl
      · rw [if_neg (Nat.ne_of_gt hpos), List.nil_append]
        rw [hbytes]
        exact hspells.decode_inside hpos _ _

/-! ## Excerpts -/

theorem upTo_isPiece (sep : Char) (s : List Char) : IsPiece sep s 0 (upTo sep s) := by
  refine ⟨[], s.dropWhile (· != sep), ?_, rfl, Or.inl rfl, ?_, ?_⟩
  · rw [List.nil_append, upTo, List.takeWhile_append_dropWhile]
  · intro hmem
    simpa using List.all_eq_true.mp List.all_takeWhile _ hmem
  · have hnot := List.head?_dropWhile_not (· != sep) s
    cases hrest : s.dropWhile (· != sep) with
    | nil => exact Or.inl rfl
    | cons c rest =>
      rw [hrest] at hnot
      exact Or.inr (by simpa using hnot)

theorem shorten_short {line : List Char} (h : line.length ≤ 40) : shorten line = line :=
  if_neg (Nat.not_lt.mpr h)

theorem shorten_long {line : List Char} (h : 40 < line.length) :
    shorten line = trimEnd (line.take 37) ++ "...".toList := if_pos h

theorem trimEnd_isPrefix (s : List Char) : trimEnd s <+: s := by
  obtain ⟨tail, hs, -⟩ := trimEnd_isEndTrimmed s
  exact ⟨tail, hs.symm⟩

theorem length_shorten_le (line : List Char) : (shorten line).length ≤ 40 := by
  rcases Nat.lt_or_ge 40 line.length with h | h
  · have hfront := (trimEnd_isPrefix (line.take 37)).length_le
    have hcut : (line.take 37).length ≤ 37 := List.length_take_le ..
    have hmark : "...".toList.length = 3 := rfl
    rw [shorten_long h, List.length_append, hmark]
    omega
  · rwa [shorten_short h]

theorem not_mem_shorten {c : Char} {line : List Char} (hc : c ∉ "...".toList) (h : c ∉ line) :
    c ∉ shorten line := by
  rcases Nat.lt_or_ge 40 line.length with hlong | hshort
  · rw [shorten_long hlong, List.mem_append, not_or]
    refine ⟨fun hmem => h ?_, hc⟩
    exact List.mem_of_mem_take ((trimEnd_isPrefix _).subset hmem)
  · rwa [shorten_short hshort]

/-- **Excerpts.** Between two byte offsets lie the characters that lie there with
their whole encoding. Their excerpt is one line of at most 40 characters: the first
line of what is left of them when blanks are trimmed off, or, if that line is
longer, its first 37 characters, without blanks at the end, and three dots. -/
theorem excerpt_of_whole_characters (start stop : Nat) (content : List Char) :
    between start stop content = wholeWithin start stop content ∧
    (excerpt start stop content).length ≤ 40 ∧ '\n' ∉ excerpt start stop content ∧
    ∃ text line, IsTrimmed (wholeWithin start stop content) text ∧ IsPiece '\n' text 0 line ∧
      (line.length ≤ 40 → excerpt start stop content = line) ∧
      (40 < line.length → ∃ front, IsEndTrimmed (line.take 37) front ∧
        excerpt start stop content = front ++ "...".toList) := by
  have hbetween := between_eq_wholeWithin start stop content
  have hpiece := upTo_isPiece '\n' (trim (wholeWithin start stop content))
  have hfeed : '\n' ∉ upTo '\n' (trim (wholeWithin start stop content)) := by
    obtain ⟨-, -, -, -, -, h, -⟩ := hpiece
    exact h
  refine ⟨hbetween, length_shorten_le _, ?_, _, _, trim_isTrimmed _, hpiece, fun h => ?_,
    fun h => ?_⟩
  · rw [excerpt, hbetween]
    exact not_mem_shorten (by decide) hfeed
  · rw [excerpt, hbetween, shorten_short h]
  · rw [excerpt, hbetween, shorten_long h]
    exact ⟨_, trimEnd_isEndTrimmed _, rfl⟩

-- the offsets cut the first and the last of the four characters
example : [(1, 8), (2, 5), (0, 9)].map (fun (a, b) => wholeWithin a b "é€b€".toList) =
    [['€', 'b'], ['€'], ['é', '€', 'b', '€']] := by
  decide

end SiteAudit.Script
