/-
Lossy decoding keeps ASCII words apart from all other octets.

An octet beyond ASCII is part of a character beyond ASCII, or it is shown as broken text, and that
is shown by a character beyond ASCII as well.  So no octets but its own are decoded to an ASCII
word.

* `Underway.Beyond`: whatever comes of the character under way is beyond ASCII;
* `begin_cases`, `Underway.Beyond.next`: one octet, where a character begins and further on;
* `exists_beyond`: a character under way leaves a character beyond ASCII behind;
* `decodeLossy_eq_iff`: octets are decoded to an ASCII word exactly when they are its octets.
-/
import CalendarText.Text.Utf8
import Mathlib.Tactic.Lemma
import Mathlib.Tactic.Ring

namespace CalendarText.Utf8

/-! ### Characters beyond ASCII -/

/-- The code points that can come of the character under way lie beyond ASCII, and no surrogate lies
between the least and the greatest of them. -/
structure Underway.Beyond (c : Underway) : Prop where
  low : 128 ≤ c.low.toNat
  high : c.high.toNat ≤ 191
  least : 128 ≤ (c.bits * 64 + (c.low.toNat - 128)) * 64 ^ c.more
  greatest : (c.bits * 64 + (c.high.toNat - 127)) * 64 ^ c.more ≤ 0xD800 ∨
    (0xE000 ≤ (c.bits * 64 + (c.low.toNat - 128)) * 64 ^ c.more ∧
      (c.bits * 64 + (c.high.toNat - 127)) * 64 ^ c.more ≤ 0x110000)

/-- A code point that is no surrogate is that of its character. -/
lemma toNat_ofNat {n : Nat} (valid : n < 0xD800 ∨ (0xE000 ≤ n ∧ n < 0x110000)) :
    (Char.ofNat n).toNat = n := by
  have isValid : n.isValidChar := by
    rcases valid with low | ⟨high, most⟩
    · exact .inl low
    · exact .inr ⟨by omega, most⟩
  rw [Char.ofNat, dif_pos isValid]
  rfl

/-- An octet where a character begins is ASCII, or broken, or a character beyond ASCII is then under
way. -/
lemma begin_cases (b : UInt8) :
    (b.toNat < 128 ∧ begin b = ([Char.ofNat b.toNat], none)) ∨ begin b = ([replacement], none) ∨
      ∃ c : Underway, begin b = ([], some c) ∧ c.Beyond := by
  have bound := b.toNat_lt
  simp only [begin]
  split
  · exact .inl ⟨‹_›, rfl⟩
  split
  · exact .inr (.inl rfl)
  -- the second octet is bounded more tightly behind four of the first octets
  split
  · refine .inr (.inr ⟨_, rfl, ?_, ?_, ?_, ?_⟩) <;> simp <;> omega
  split
  · refine .inr (.inr ⟨_, rfl, ?_, ?_, ?_, ?_⟩) <;> dsimp only <;> split_ifs <;> simp <;> omega
  split
  · refine .inr (.inr ⟨_, rfl, ?_, ?_, ?_, ?_⟩) <;> dsimp only <;> split_ifs <;> simp <;> omega
  · exact .inr (.inl rfl)

variable {c : Underway} {b : UInt8}

/-- An octet that may come next completes a character beyond ASCII, or is part of one that is still
under way. -/
lemma Underway.Beyond.next (h : c.Beyond) (mem : c.low ≤ b ∧ b ≤ c.high) :
    (∃ ch : Char, step (some c) b = ([ch], none) ∧ 128 ≤ ch.toNat) ∨
      ∃ d : Underway, step (some c) b = ([], some d) ∧ d.Beyond := by
  obtain ⟨low, high, least, greatest⟩ := h
  have above : c.low.toNat ≤ b.toNat := UInt8.le_iff_toNat_le.mp mem.1
  have below : b.toNat ≤ c.high.toNat := UInt8.le_iff_toNat_le.mp mem.2
  have rest : b.toNat % 64 = b.toNat - 128 := by omega
  rw [step, if_pos mem, rest]
  generalize hbits : c.bits * 64 + (b.toNat - 128) = bits
  by_cases last : c.more = 0
  · simp only [last, Nat.pow_zero, Nat.mul_one] at least greatest
    have code := toNat_ofNat (n := bits) (by omega)
    exact .inl ⟨_, if_pos last, by omega⟩
  · -- one octet less to come counts as much as one digit more to base 64
    have shift (n : Nat) : n * 64 * 64 ^ (c.more - 1) = n * 64 ^ c.more := by
      rw [Nat.mul_assoc, ← Nat.pow_succ', Nat.succ_eq_add_one, Nat.sub_add_cancel (by omega)]
    have up : (c.bits * 64 + (c.low.toNat - 128)) * 64 ^ c.more ≤ bits * 64 ^ c.more :=
      Nat.mul_le_mul_right _ (by omega)
    have down : (bits + 1) * 64 ^ c.more ≤ (c.bits * 64 + (c.high.toNat - 127)) * 64 ^ c.more :=
      Nat.mul_le_mul_right _ (by omega)
    rw [← shift bits] at up
    rw [← shift, Nat.add_mul bits, Nat.one_mul] at down
    have first : (0x80 : UInt8).toNat = 128 := rfl
    have final : (0xBF : UInt8).toNat = 191 := rfl
    refine .inr ⟨⟨0x80, 0xBF, c.more - 1, bits⟩, if_neg last, Nat.le_of_eq first.symm,
      Nat.le_of_eq final, ?_, ?_⟩
    · simp only [first, Nat.sub_self, Nat.add_zero]
      exact Nat.le_trans least up
    · simp only [first, final, Nat.sub_self, Nat.add_zero, Nat.reduceSub]
      omega

/-- A character under way leaves a character beyond ASCII behind, completed or broken off. -/
lemma exists_beyond (h : c.Beyond) (data : Octets) :
    ∃ ch ∈ decodeFrom (some c) data, 128 ≤ ch.toNat := by
  induction data generalizing c with
  | nil => exact ⟨replacement, by simp [decodeFrom], by decide⟩
  | cons b data ih =>
      rw [decodeFrom]
      by_cases mem : c.low ≤ b ∧ b ≤ c.high
      · -- the octet completes the character, or leaves it to the rest of the data
        rcases h.next mem with ⟨ch, step, beyond⟩ | ⟨d, step, under⟩
        · exact ⟨ch, by simp [step], beyond⟩
        · obtain ⟨ch, found, beyond⟩ := ih under
          exact ⟨ch, by simp [step, found], beyond⟩
      · exact ⟨replacement, by simp [step, mem], by decide⟩

/-! ### ASCII words -/

/-- What is decoded to ASCII alone is ASCII. -/
lemma ascii_of_decodeFrom {data : Octets} (ascii : ∀ ch ∈ decodeFrom none data, ch.toNat < 128) :
    ∀ b ∈ data, b.toNat < 128 := by
  induction data with
  | nil => exact List.forall_mem_nil _
  | cons b data ih =>
      rw [decodeFrom, step] at ascii
      -- anything but ASCII would show as a character beyond it
      rcases begin_cases b with ⟨small, same⟩ | same | ⟨c, same, beyond⟩
      · rw [same] at ascii
        exact List.forall_mem_cons.mpr ⟨small, ih fun ch mem => ascii ch (by simp [mem])⟩
      · rw [same] at ascii
        exact absurd (ascii replacement (by simp)) (by decide)
      · rw [same] at ascii
        obtain ⟨ch, mem, large⟩ := exists_beyond beyond data
        exact absurd (ascii ch mem) (by omega)

/-- The octets of an ASCII word are its own decoding. -/
lemma decodeFrom_ofAscii {word : String} (ascii : ∀ ch ∈ word.toList, ch.toNat < 128) :
    decodeFrom none (Octets.ofAscii word) = word.toList := by
  have octet : ∀ ch ∈ word.toList, ch.toNat.toUInt8.toNat = ch.toNat := by
    intro ch mem
    have := ascii ch mem
    rw [Nat.toUInt8_eq, UInt8.toNat_ofNat_of_lt' (by rw [UInt8.size]; omega)]
  rw [decodeFrom_ascii, Octets.ofAscii, List.map_map]
  · have back : ∀ ch ∈ word.toList, Char.ofNat ch.toNat.toUInt8.toNat = ch := fun ch mem => by
      rw [octet ch mem, Char.ofNat_toNat]
    exact (List.map_congr_left back).trans word.toList.map_id
  · intro b mem
    obtain ⟨ch, found, rfl⟩ := List.mem_map.mp mem
    rw [octet ch found]
    exact ascii ch found

/-- **Octets are decoded to an ASCII word exactly when they are its octets.** -/
theorem decodeLossy_eq_iff {word : String} (ascii : ∀ ch ∈ word.toList, ch.toNat < 128)
    (data : Octets) : decodeLossy data = word ↔ data = Octets.ofAscii word := by
  refine ⟨fun same => ?_, ?_⟩
  · have text : decodeFrom none data = word.toList := by
      rw [← same, decodeLossy, String.toList_ofList]
    have small : ∀ b ∈ data, b.toNat < 128 := ascii_of_decodeFrom (by rwa [text])
    have back : ∀ b ∈ data, (Char.ofNat b.toNat).toNat.toUInt8 = b := by
      intro b mem
      have := small b mem
      rw [toNat_ofNat (by omega), Nat.toUInt8_eq, UInt8.ofNat_toNat]
    rw [Octets.ofAscii, ← text, decodeFrom_ascii small, List.map_map]
    exact ((List.map_congr_left back).trans data.map_id).symm
  · rintro rfl
    rw [decodeLossy, decodeFrom_ofAscii ascii, String.ofList_toList]

end CalendarText.Utf8
