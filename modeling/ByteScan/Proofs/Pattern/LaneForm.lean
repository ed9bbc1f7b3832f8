import ByteScan.Kernel.Lanes
import ByteScan.Proofs.Bytes
import ByteScan.Proofs.FirstMatch

/-!
# One lane mask for up to 32 tokens

Bit `i` of a lane mask is mark `i`, so one mask holds all bits of another exactly if every mark of
the other is a mark of the one. A lane of the tail therefore agrees with memory under its mask
exactly if the tokens of the lane accept what stands there; the zeros that stand for wildcards and
that fill up the last lane do not matter. The anchor is the first token that asks for a byte, and a
pattern matches where the anchor and what follows it accept the bytes behind its leading wildcards.
-/

namespace ByteScan

open Pattern (acceptsStart)

/-! ### Masks -/

section Masks

variable {marks others : List Bool}

theorem testBit_laneMask (h : marks.length ≤ 32) (i : Nat) :
    (laneMask marks).toNat.testBit i = marks.getD i false := by
  induction marks generalizing i with
  | nil => exact Nat.zero_testBit i
  | cons mark marks ih =>
    rw [List.length_cons] at h
    have next := ih (Nat.le_of_succ_le h)
    rw [laneMask, UInt32.toNat_or, Nat.testBit_or, UInt32.toNat_shiftLeft, Nat.testBit_mod_two_pow,
      show UInt32.toNat 1 % 32 = 1 from rfl, Nat.testBit_shiftLeft]
    cases i with
    | zero => cases mark <;> rfl
    | succ i =>
      have last : (UInt32.toNat (if mark then 1 else 0)).testBit (i + 1) = false := by
        apply Nat.testBit_lt_two_pow
        cases mark
        · exact Nat.two_pow_pos _
        · exact Nat.one_lt_two_pow (Nat.succ_ne_zero i)
      rw [last, Bool.or_false, Nat.add_sub_cancel, next i, List.getD_cons_succ]
      by_cases inside : i + 1 < 32
      · simp [inside]
      · rw [List.getD_eq_getElem?_getD, List.getElem?_eq_none (by omega)]
        simp

theorem and_eq_right_iff_testBit (a b : UInt32) :
    a &&& b = b ↔ ∀ i, b.toNat.testBit i → a.toNat.testBit i := by
  rw [← UInt32.toNat_inj, UInt32.toNat_and]
  constructor
  · intro covered i set
    rw [← covered, Nat.testBit_and] at set
    exact (Bool.and_eq_true_iff.1 set).1
  · intro covered
    apply Nat.eq_of_testBit_eq
    intro i
    rw [Nat.testBit_and]
    cases set : b.toNat.testBit i with
    | false => exact Bool.and_false _
    | true => rw [covered i set, Bool.and_true]

theorem laneMask_and_eq_right_iff (h : others.length ≤ 32) (hm : marks.length ≤ 32) :
    laneMask others &&& laneMask marks = laneMask marks ↔
      ∀ i, marks.getD i false → others.getD i false := by
  simp only [and_eq_right_iff_testBit, testBit_laneMask h, testBit_laneMask hm]

end Masks

/-! ### Lanes of tokens -/

section TokenLanes

variable {group tokens : List Token} {memory : List UInt8} {width : Nat}

/-- The byte that stands in a lane for a token. -/
def laneByte (t : Token) : UInt8 := t.toByte?.getD 0

/-- Whether the mask of a lane covers a token. -/
def laneMark (t : Token) : Bool := !t.isWildcard

/-- A group of tokens as a lane of `width` bytes, and its mask. -/
def laneOf (width : Nat) (group : List Token) : List UInt8 × UInt32 :=
  (group.map laneByte ++ List.replicate (width - group.length) 0, laneMask (group.map laneMark))

/-- Tokens as lanes. -/
def lanesOf (width : Nat) (tokens : List Token) : List (List UInt8 × UInt32) :=
  (chunks width tokens).map (laneOf width)

theorem lanesOf_of_ne_nil (hw : width ≠ 0) (ht : tokens ≠ []) :
    lanesOf width tokens =
      laneOf width (tokens.take width) :: lanesOf width (tokens.drop width) := by
  rw [lanesOf, chunks_of_ne_nil hw ht, List.map_cons, lanesOf]

/-- Every covered position of a lane agrees with memory if the tokens accept the memory. Whatever
stands in the lane behind the last token does not matter. -/
theorem forall_marked_iff (filler : List UInt8) (h : group.length ≤ memory.length) :
    (∀ i, (group.map laneMark).getD i false →
      (List.zipWith (· == ·) (group.map laneByte ++ filler) memory).getD i false) ↔
      acceptsStart group memory := by
  induction group generalizing memory with
  | nil => exact iff_of_true (fun i marked => absurd marked (by simp)) rfl
  | cons t group ih =>
    cases memory with
    | nil => cases h
    | cons b memory =>
      have next := ih (Nat.le_of_succ_le_succ h)
      have first : (laneMark t → (laneByte t == b) = true) ↔ t.accepts b := by
        cases t with
        | wildcard => exact iff_of_true (fun marked => nomatch marked) rfl
        | byte value => exact ⟨fun agrees => agrees rfl, fun accepted _ => accepted⟩
      rw [acceptsStart, Bool.and_eq_true, ← next, ← first]
      exact ⟨fun all => ⟨all 0, fun i => all (i + 1)⟩, fun both i => i.casesOn both.1 both.2⟩

/-- A lane agrees with memory under its mask if its tokens accept the memory. -/
theorem laneOf_agrees_iff (hg : group.length ≤ width) (hw : width ≤ 32)
    (hm : memory.length = width) :
    Lanes.equalMask (laneOf width group).1 memory &&& (laneOf width group).2 =
      (laneOf width group).2 ↔ acceptsStart group memory := by
  rw [laneOf, Lanes.equalMask, laneMask_and_eq_right_iff]
  · exact forall_marked_iff _ (by omega)
  · rw [List.length_zipWith]
    omega
  · rw [List.length_map]
    omega

/-- The positions of a lane at which a byte stands, in ascending order. -/
theorem setBits_equalMask (anchor : UInt8) (hw : width ≤ 32) (hm : memory.length = width) :
    Lanes.setBits (Lanes.equalMask (List.replicate width anchor) memory) =
      (List.range 32).filter fun i => memory[i]? == some anchor := by
  rw [Lanes.setBits]
  congr 1
  funext i
  rw [Lanes.equalMask, testBit_laneMask (by rw [List.length_zipWith]; omega),
    List.getD_eq_getElem?_getD, List.getElem?_zipWith, List.getElem?_replicate]
  by_cases inside : i < width
  · rw [if_pos inside, List.getElem?_eq_getElem (by omega)]
    simp [Bool.beq_eq_decide_eq, eq_comm]
  · rw [if_neg inside, List.getElem?_eq_none (by omega)]
    rfl

end TokenLanes

/-! ### The anchor and the tail -/

namespace LaneForm

variable {tokens : List Token}

/-- The tokens from the anchor on. -/
def anchored (tokens : List Token) : List Token := tokens.dropWhile Token.isWildcard

theorem drop_leading (tokens : List Token) :
    tokens.drop (ofTokens tokens).leading = anchored tokens := by
  induction tokens with
  | nil => rfl
  | cons t tokens ih =>
    cases t with
    | wildcard => exact ih
    | byte value => rfl

/-- What has an anchor begins with it behind the leading wildcards. -/
theorem anchored_eq_cons (h : anchored tokens ≠ []) :
    ∃ value tail, anchored tokens = .byte value :: tail := by
  have asks := List.head_dropWhile_not Token.isWildcard h
  cases split : anchored tokens with
  | nil => exact absurd split h
  | cons t tail =>
    cases t with
    | wildcard => simp_all [anchored, Token.isWildcard]
    | byte value => exact ⟨value, tail, rfl⟩

theorem anchor?_ofTokens (tokens : List Token) :
    (ofTokens tokens).anchor? =
      (anchored tokens).head?.map fun t => ((ofTokens tokens).leading, laneByte t) := by
  have found : (ofTokens tokens).bytes[(ofTokens tokens).leading]? =
      (anchored tokens).head?.map laneByte := by
    rw [← drop_leading, List.head?_drop, ← List.getElem?_map]
    rfl
  rw [anchor?, found, Option.map_map]
  rfl

theorem tail_ofTokens (tokens : List Token) :
    (ofTokens tokens).tail = (anchored tokens).tail.map laneByte ∧
      (ofTokens tokens).tailMask = (anchored tokens).tail.map laneMark := by
  rw [← drop_leading, List.tail_drop, List.map_drop, List.map_drop]
  exact ⟨rfl, rfl⟩

/-- The lanes of the tail and their masks are those of the tokens behind the anchor. -/
theorem zip_tailLanes (tokens : List Token) {width : Nat} (hw : width ≤ 32) :
    ∃ masks, (ofTokens tokens).tailMasks width = .ok masks ∧
      ((ofTokens tokens).tailLanes width).zip masks = lanesOf width (anchored tokens).tail := by
  obtain ⟨bytes, marks⟩ := tail_ofTokens tokens
  refine ⟨_, if_pos hw, ?_⟩
  rw [tailLanes, bytes, marks, chunks_map, chunks_map, List.map_map, List.map_map, List.zip_map',
    lanesOf]
  congr 1
  funext group
  rw [Function.comp, List.length_map]
  rfl

/-- Every lane of the tail has its mask, and is filled up to its width. -/
theorem length_tailLanes (tokens : List Token) {width : Nat} (hw : width ≤ 32) :
    ∃ masks, (ofTokens tokens).tailMasks width = .ok masks ∧
      masks.length = ((ofTokens tokens).tailLanes width).length ∧
      ∀ lane ∈ (ofTokens tokens).tailLanes width, lane.length = width := by
  obtain ⟨bytes, marks⟩ := tail_ofTokens tokens
  refine ⟨_, if_pos hw, ?_, fun lane isLane => ?_⟩
  · rw [tailLanes, bytes, marks, chunks_map, chunks_map]
    simp only [List.length_map]
  · obtain ⟨piece, isPiece, rfl⟩ := List.mem_map.1 isLane
    have short := length_le_of_mem_chunks isPiece
    rw [List.length_append, List.length_replicate]
    omega

/-- A pattern with an anchor matches where the anchor and what follows it accept the bytes behind
the leading wildcards. -/
theorem acceptsStart_eq_anchored (h : anchored tokens ≠ []) (bytes : List UInt8) :
    acceptsStart tokens bytes =
      acceptsStart (anchored tokens) (bytes.drop (ofTokens tokens).leading) := by
  induction tokens generalizing bytes with
  | nil => exact absurd rfl h
  | cons t tokens ih =>
    cases t with
    | byte value => rfl
    | wildcard =>
      cases bytes with
      | nil =>
        rw [List.drop_nil, Pattern.acceptsStart_nil_right h]
        rfl
      | cons b bytes => exact ih h bytes

end LaneForm

end ByteScan
