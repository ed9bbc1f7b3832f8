import ByteScan.Pattern.WordForm
import ByteScan.Proofs.Bytes
import ByteScan.Proofs.FirstMatch
import Mathlib.Algebra.Group.Nat.Defs

/-!
# One word test for eight tokens

A word of at most eight bytes is the number that has these bytes as its digits, so two words agree
under a mask of whole bytes exactly if they agree in every byte that the mask covers. A test of a
group of tokens therefore passes on the bytes that the tokens accept, and on no others; bytes behind
the last token do not matter.
-/

namespace ByteScan

variable {b c : UInt8} {bytes : List UInt8}

/-! ### Words and their bytes -/

namespace Word

theorem toNat_ofBytes_cons_eq (b : UInt8) (h : (ofBytes bytes).toNat < 2 ^ 56) :
    (ofBytes (b :: bytes)).toNat = 2 ^ 8 * (ofBytes bytes).toNat + b.toNat := by
  have hb : b.toNat < 2 ^ 8 := UInt8.toNat_lt b
  have shifted : (ofBytes bytes <<< 8).toNat = (ofBytes bytes).toNat <<< 8 := by
    rw [UInt64.toNat_shiftLeft]
    apply Nat.mod_eq_of_lt
    rw [show UInt64.toNat 8 % 64 = 8 from rfl, Nat.shiftLeft_eq]
    omega
  rw [ofBytes, UInt64.toNat_or, shifted, UInt8.toNat_toUInt64, ← Nat.shiftLeft_add_eq_or_of_lt hb,
    Nat.shiftLeft_eq, Nat.mul_comm]

theorem toNat_ofBytes_lt (h : bytes.length ≤ width) :
    (ofBytes bytes).toNat < 2 ^ (8 * bytes.length) := by
  induction bytes with
  | nil => exact Nat.one_pos
  | cons b bytes ih =>
    rw [List.length_cons] at h ⊢
    have rest := ih (Nat.le_of_succ_le h)
    have bound : 2 ^ (8 * bytes.length) ≤ 2 ^ 56 :=
      Nat.pow_le_pow_right (by decide) (by rw [width] at h; omega)
    have hb : b.toNat < 2 ^ 8 := UInt8.toNat_lt b
    rw [toNat_ofBytes_cons_eq b (Nat.lt_of_lt_of_le rest bound), Nat.mul_succ, Nat.pow_add]
    omega

theorem toNat_ofBytes_cons (h : bytes.length < width) :
    (ofBytes (b :: bytes)).toNat = 2 ^ 8 * (ofBytes bytes).toNat + b.toNat := by
  apply toNat_ofBytes_cons_eq
  refine Nat.lt_of_lt_of_le (toNat_ofBytes_lt (Nat.le_of_lt h)) ?_
  exact Nat.pow_le_pow_right (by decide) (by rw [width] at h; omega)

end Word

/-- The conjunction of two numbers goes byte by byte. -/
theorem and_two_pow_mul_add (x y : Nat) (b c : UInt8) :
    (2 ^ 8 * x + b.toNat) &&& (2 ^ 8 * y + c.toNat) = 2 ^ 8 * (x &&& y) + (b &&& c).toNat := by
  apply Nat.eq_of_testBit_eq
  intro i
  simp only [Nat.testBit_and, Nat.testBit_two_pow_mul_add _ (UInt8.toNat_lt _)]
  split
  · rw [UInt8.toNat_and, Nat.testBit_and]
  · rfl

/-! ### Tests -/

namespace WordTest

open Pattern (acceptsStart)

variable {group : List Token}

/-- One byte passes its part of a test if the token accepts it. -/
theorem and_maskByte_eq_iff (t : Token) (b : UInt8) :
    b &&& maskByte t = valueByte t ↔ t.accepts b := by
  cases t with
  | wildcard =>
    rw [show maskByte .wildcard = 0 from rfl, UInt8.and_zero]
    exact iff_of_true rfl rfl
  | byte value =>
    rw [show maskByte (.byte value) = -1 from rfl, UInt8.and_neg_one,
      show valueByte (.byte value) = value from rfl, Token.accepts, beq_iff_eq]
    exact eq_comm

theorem toNat_and_mask_eq_iff (hg : group.length ≤ bytes.length) (hw : bytes.length ≤ Word.width) :
    (Word.ofBytes bytes).toNat &&& (Word.ofBytes (group.map maskByte)).toNat =
      (Word.ofBytes (group.map valueByte)).toNat ↔ acceptsStart group bytes := by
  induction group generalizing bytes with
  | nil => exact iff_of_true (Nat.and_zero _) rfl
  | cons t group ih =>
    cases bytes with
    | nil => cases hg
    | cons b bytes =>
      rw [List.length_cons, List.length_cons, Nat.succ_le_succ_iff] at hg
      rw [List.length_cons] at hw
      have next := ih hg (Nat.le_of_succ_le hw)
      have short (f : Token → UInt8) : (group.map f).length < Word.width := by
        rw [List.length_map]
        omega
      rw [List.map_cons, List.map_cons, Word.toNat_ofBytes_cons hw,
        Word.toNat_ofBytes_cons (short _), Word.toNat_ofBytes_cons (short _), and_two_pow_mul_add,
        acceptsStart, Bool.and_eq_true, ← next, ← and_maskByte_eq_iff, ← UInt8.toNat_inj]
      have hb := UInt8.toNat_lt (b &&& maskByte t)
      have hv := UInt8.toNat_lt (valueByte t)
      omega

/-- The test of a group passes on the words whose bytes the group accepts. -/
theorem passes_ofBytes (hg : group.length ≤ bytes.length) (hw : bytes.length ≤ Word.width) :
    (ofTokens group).passes (Word.ofBytes bytes) = acceptsStart group bytes := by
  rw [Bool.eq_iff_iff, ← toNat_and_mask_eq_iff hg hw, passes, beq_iff_eq, ← UInt64.toNat_inj,
    UInt64.toNat_and]
  rfl

end WordTest

end ByteScan
