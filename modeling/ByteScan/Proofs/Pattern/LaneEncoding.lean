import ByteScan.Proofs.Kernel.Lanes
import Mathlib.Algebra.Order.Floor.Div

/-!
# What the lanes of a tail say of its tokens

Wildcards and the filling of the last lane both stand in the lanes as zeros. What tells them from a
byte 0 are the masks: bit `j` of mask `i` is set exactly if token `width * i + j` behind the anchor
asks for a byte. So the lanes agree with memory under their masks exactly where these tokens accept,
and no other byte of the lanes or of the memory has a say in it.

The masks can be had without cutting anything into lanes. The places of the tail that ask for a byte
are listed, and each of them sets its bit in the mask of its lane. `markedMasks_eq` says that this
gives the same masks, and that no place falls behind the last lane.
-/

namespace ByteScan

open Pattern (acceptsStart)

/-! ### Bits -/

section Bits

variable {width i j : Nat} {masks masks' : List UInt32} {mask : UInt32} {lane memory : List UInt8}

/-- Bit `j` of mask `i`; a mask that is not there has no bits. -/
def maskBit (masks : List UInt32) (i j : Nat) : Bool := (masks.getD i 0).toNat.testBit j

theorem maskBit_of_getElem? (h : masks[i]? = some mask) (j : Nat) :
    maskBit masks i j = mask.toNat.testBit j := by
  rw [maskBit, List.getD_eq_getElem?_getD, h, Option.getD_some]

theorem masks_ext (length : masks.length = masks'.length)
    (bits : ∀ i j, maskBit masks i j = maskBit masks' i j) : masks = masks' := by
  apply List.ext_getElem length
  intro i h h'
  rw [← UInt32.toNat_inj]
  apply Nat.eq_of_testBit_eq
  intro j
  have same := bits i j
  rwa [maskBit_of_getElem? (List.getElem?_eq_getElem h),
    maskBit_of_getElem? (List.getElem?_eq_getElem h')] at same

theorem testBit_or_one_shiftLeft (mask : UInt32) {k : Nat} (hk : k < 32) (j : Nat) :
    (mask ||| 1 <<< UInt32.ofNat k).toNat.testBit j = (mask.toNat.testBit j || decide (k = j)) := by
  have shift : (UInt32.ofNat k).toNat % 32 = k := by
    rw [UInt32.toNat_ofNat']
    omega
  have small : (1 : Nat) <<< k < 2 ^ 32 := by
    rw [Nat.one_shiftLeft]
    exact Nat.pow_lt_pow_right (by decide) hk
  rw [UInt32.toNat_or, Nat.testBit_or, UInt32.toNat_shiftLeft, shift, UInt32.toNat_one,
    Nat.mod_eq_of_lt small, Nat.one_shiftLeft, Nat.testBit_two_pow]

/-- A lane agrees with memory under a mask if the two have the same byte wherever a bit is set. -/
theorem equalMask_and_eq_right_iff (hw : width ≤ 32) (hl : lane.length = width)
    (hm : memory.length = width) (inside : ∀ j, mask.toNat.testBit j → j < width) :
    Lanes.equalMask lane memory &&& mask = mask ↔
      ∀ j, mask.toNat.testBit j → lane[j]? = memory[j]? := by
  have agree (j : Nat) (hj : j < width) :
      (Lanes.equalMask lane memory).toNat.testBit j ↔ lane[j]? = memory[j]? := by
    have length : (List.zipWith (· == ·) lane memory).length ≤ 32 := by
      rw [List.length_zipWith]
      omega
    rw [Lanes.equalMask, testBit_laneMask length, List.getD_eq_getElem?_getD, List.getElem?_zipWith,
      List.getElem?_eq_getElem (hl ▸ hj), List.getElem?_eq_getElem (hm ▸ hj)]
    simp
  rw [and_eq_right_iff_testBit]
  constructor
  · intro covered j set
    exact (agree j (inside j set)).1 (covered j set)
  · intro all j set
    exact (agree j (inside j set)).2 (all j set)

end Bits

/-! ### Places

Place `width * i + j` of the tail is position `j` of lane `i`. -/

section Places

variable {width i j k : Nat} {lanes : List (List UInt8)} {masks : List UInt32} {memory : List UInt8}

theorem lane_of_place (hj : j < width) : (width * i + j) / width = i := by
  rw [Nat.mul_add_div (Nat.zero_lt_of_lt hj), Nat.div_eq_of_lt hj, Nat.add_zero]

theorem position_of_place (hj : j < width) : (width * i + j) % width = j := by
  rw [Nat.mul_add_mod, Nat.mod_eq_of_lt hj]

/-- The byte at a place of the lanes. -/
def laneByteAt? (width : Nat) (lanes : List (List UInt8)) (k : Nat) : Option UInt8 :=
  lanes[k / width]?.bind (·[k % width]?)

/-- Each lane agrees with the memory that it is compared with wherever its mask has a bit. -/
def LanesAgree (width : Nat) (lanes : List (List UInt8)) (masks : List UInt32)
    (memory : List UInt8) : Prop :=
  ∀ (i : Nat) (lane : List UInt8) (mask : UInt32), lanes[i]? = some lane → masks[i]? = some mask →
    Lanes.equalMask lane ((memory.drop (width * i)).take width) &&& mask = mask

theorem exists_getElem?_of_maskBit (h : maskBit masks i j) :
    ∃ mask, masks[i]? = some mask ∧ mask.toNat.testBit j := by
  cases found : masks[i]? with
  | none => simp [maskBit, found] at h
  | some mask => exact ⟨mask, rfl, by rwa [maskBit_of_getElem? found] at h⟩

/-- Lanes agree with memory if the two have the same byte at every place whose bit is set. -/
theorem lanesAgree_iff (hw : width ≤ 32) (full : ∀ lane ∈ lanes, lane.length = width)
    (same : masks.length = lanes.length) (inside : ∀ i j, maskBit masks i j → j < width)
    (room : width * masks.length ≤ memory.length) :
    LanesAgree width lanes masks memory ↔
      ∀ k, maskBit masks (k / width) (k % width) → laneByteAt? width lanes k = memory[k]? := by
  have word (i : Nat) (hi : i < masks.length) :
      ((memory.drop (width * i)).take width).length = width := by
    have := Nat.mul_le_mul_left width (Nat.succ_le_of_lt hi)
    rw [Nat.mul_succ] at this
    rw [List.length_take, List.length_drop]
    omega
  constructor
  · intro agree k set
    obtain ⟨mask, isMask, bit⟩ := exists_getElem?_of_maskBit set
    have hi := (List.getElem?_eq_some_iff.1 isMask).1
    have isLane := List.getElem?_eq_getElem (same ▸ hi)
    have bits (j : Nat) (set : mask.toNat.testBit j) : j < width :=
      inside _ j (by rwa [maskBit_of_getElem? isMask])
    have agrees := (equalMask_and_eq_right_iff hw (full _ (List.getElem_mem _)) (word _ hi) bits).1
      (agree _ _ mask isLane isMask) _ bit
    rw [laneByteAt?, isLane, Option.bind_some, agrees, List.getElem?_take_of_lt (bits _ bit),
      List.getElem?_drop, Nat.div_add_mod]
  · intro all i lane mask isLane isMask
    have hi := (List.getElem?_eq_some_iff.1 isMask).1
    have bits (j : Nat) (set : mask.toNat.testBit j) : j < width :=
      inside i j (by rwa [maskBit_of_getElem? isMask])
    rw [equalMask_and_eq_right_iff hw (full _ (List.mem_of_getElem? isLane)) (word i hi) bits]
    intro j set
    have hj := bits j set
    have agrees := all (width * i + j)
    rw [laneByteAt?, lane_of_place hj, position_of_place hj, isLane, Option.bind_some] at agrees
    rw [agrees (by rwa [maskBit_of_getElem? isMask]), List.getElem?_take_of_lt hj,
      List.getElem?_drop]

end Places

/-! ### Masks -/

namespace LaneForm

variable {form : LaneForm} {width index : Nat} {masks : List UInt32} {tokens : List Token}

/-- Sets the bit of a place of the tail in the mask of its lane. -/
def setMark (width : Nat) (masks : List UInt32) (index : Nat) : Except Fault (List UInt32) :=
  match masks[index / width]? with
  | some mask => .ok (masks.set (index / width) (mask ||| 1 <<< UInt32.ofNat (index % width)))
  | none => .error .outOfBounds

/-- The masks of the lanes of the tail, marked place by place. There are as many as it takes to hold
the tail, at first without bits. -/
def markedMasks (form : LaneForm) (width : Nat) : Except Fault (List UInt32) :=
  if width ≤ 32 then
    form.checkedIndexes.foldlM (setMark width)
      (List.replicate ((form.tail.length + (width - 1)) / width) 0)
  else .error .laneTooWide

theorem setMark_eq_ok (hw : 0 < width) (hw' : width ≤ 32) (inside : index / width < masks.length) :
    ∃ masks', setMark width masks index = .ok masks' ∧ masks'.length = masks.length ∧
      ∀ i j, maskBit masks' i j ↔ maskBit masks i j ∨ (index / width = i ∧ index % width = j) := by
  have small : index % width < 32 := Nat.lt_of_lt_of_le (Nat.mod_lt index hw) hw'
  have here := List.getElem?_eq_getElem inside
  refine ⟨masks.set (index / width)
    (masks[index / width] ||| 1 <<< UInt32.ofNat (index % width)), ?_, List.length_set, ?_⟩
  · rw [setMark, here]
  · intro i j
    by_cases same : index / width = i
    · subst same
      rw [maskBit_of_getElem? (List.getElem?_set_self inside), testBit_or_one_shiftLeft _ small,
        maskBit_of_getElem? here]
      simp
    · rw [maskBit, maskBit, List.getD_eq_getElem?_getD, List.getElem?_set_ne same,
        ← List.getD_eq_getElem?_getD]
      simp [same]

/-- Marking places inside of the lanes, one after the other, adds their bits and no others. -/
theorem foldlM_setMark_eq_ok (hw : 0 < width) (hw' : width ≤ 32) (indexes : List Nat)
    (inside : ∀ index ∈ indexes, index / width < masks.length) :
    ∃ masks', indexes.foldlM (setMark width) masks = .ok masks' ∧ masks'.length = masks.length ∧
      ∀ i j, maskBit masks' i j ↔
        maskBit masks i j ∨ ∃ index ∈ indexes, index / width = i ∧ index % width = j := by
  induction indexes generalizing masks with
  | nil => exact ⟨masks, rfl, rfl, by simp⟩
  | cons index indexes ih =>
    obtain ⟨first, others⟩ := List.forall_mem_cons.1 inside
    obtain ⟨marked, eq, length, bits⟩ := setMark_eq_ok hw hw' first
    rw [← length] at others
    obtain ⟨masks', eq', length', bits'⟩ := ih others
    refine ⟨masks', ?_, length'.trans length, ?_⟩
    · rw [List.foldlM_cons, eq, ok_bind, eq']
    · intro i j
      rw [bits', bits]
      simp only [List.mem_cons, exists_eq_or_imp, or_assoc]

theorem mem_checkedIndexes : index ∈ form.checkedIndexes ↔ form.tailMask.getD index false := by
  rw [checkedIndexes, List.mem_filter, List.mem_range]
  refine and_iff_right_of_imp ?_
  intro checked
  by_contra outside
  rw [List.getD_eq_getElem?_getD, List.getElem?_eq_none (Nat.le_of_not_lt outside)] at checked
  cases checked

/-- Bit `j` of mask `i` says whether place `width * i + j` of the tail counts. -/
theorem maskBit_tailMasks (hw : 0 < width) (hw' : width ≤ 32) (h : form.tailMasks width = .ok masks)
    (i j : Nat) : maskBit masks i j ↔ j < width ∧ form.tailMask.getD (width * i + j) false := by
  rw [tailMasks, if_pos hw'] at h
  cases h
  have lane (n : Nat) : ((form.tailMask.drop n).take width).length ≤ 32 :=
    Nat.le_trans (List.length_take_le _ _) hw'
  rw [maskBit, List.getD_eq_getElem?_getD, List.getElem?_map, getElem?_chunks (Nat.ne_of_gt hw)]
  split
  · rw [Option.map_some, Option.getD_some, testBit_laneMask (lane _), List.getD_eq_getElem?_getD,
      List.getElem?_take, List.getElem?_drop, List.getD_eq_getElem?_getD]
    split <;> simp [*]
  · rename_i outside
    rw [List.getD_eq_getElem?_getD, List.getElem?_eq_none (by omega)]
    simp

/-- Marking the places that count, one after the other, gives the masks of the lanes. -/
theorem markedMasks_eq (hw : 0 < width) (hw' : width ≤ 32) (tokens : List Token) :
    (ofTokens tokens).markedMasks width = (ofTokens tokens).tailMasks width := by
  obtain ⟨bytes, marks⟩ := tail_ofTokens tokens
  have long : (ofTokens tokens).tailMask.length = (ofTokens tokens).tail.length := by
    rw [bytes, marks, List.length_map, List.length_map]
  obtain ⟨masks, masked, length, -⟩ := length_tailLanes tokens hw'
  rw [tailLanes, List.length_map, length_chunks (Nat.ne_of_gt hw)] at length
  let lanes := ((ofTokens tokens).tail.length + (width - 1)) / width
  have inside : ∀ index ∈ (ofTokens tokens).checkedIndexes,
      index / width < (List.replicate lanes (0 : UInt32)).length := by
    intro index checked
    have small : index < (ofTokens tokens).tail.length := by
      rw [← long]
      exact List.mem_range.1 (List.mem_filter.1 checked).1
    rw [List.length_replicate]
    calc index / width < (index + width) / width := by rw [Nat.add_div_right index hw]; omega
      _ ≤ ((ofTokens tokens).tail.length + (width - 1)) / width := Nat.div_le_div_right (by omega)
  obtain ⟨marked, eq, length', bits⟩ := foldlM_setMark_eq_ok hw hw' _ inside
  rw [markedMasks, if_pos hw', eq, masked]
  refine congrArg Except.ok (masks_ext ?_ ?_)
  · rw [length', List.length_replicate, length]
  · intro i j
    have blank : maskBit (List.replicate lanes 0) i j = false := by
      rw [maskBit, List.getD_eq_getElem?_getD, List.getElem?_replicate]
      split <;> simp
    rw [Bool.eq_iff_iff, bits, maskBit_tailMasks hw hw' masked, blank]
    simp only [mem_checkedIndexes, Bool.false_eq_true, false_or]
    constructor
    · rintro ⟨index, checked, rfl, rfl⟩
      rw [Nat.div_add_mod]
      exact ⟨Nat.mod_lt index hw, checked⟩
    · rintro ⟨hj, checked⟩
      exact ⟨width * i + j, checked, lane_of_place hj, position_of_place hj⟩

/-! ### The tail behind an anchor -/

section Tail

variable {anchor : UInt8} {memory : List UInt8}

theorem leading_eq (here : tokens[index]? = some (.byte anchor))
    (before : ∀ t ∈ tokens.take index, t = .wildcard) : (ofTokens tokens).leading = index := by
  obtain ⟨inside, atIndex⟩ := List.getElem?_eq_some_iff.1 here
  have split : tokens = tokens.take index ++ .byte anchor :: tokens.drop (index + 1) := by
    rw [← atIndex, ← List.drop_eq_getElem_cons inside, List.take_append_drop]
  have wild : ∀ t ∈ tokens.take index, t.isWildcard := by
    intro t mem
    rw [before t mem]
    rfl
  change (tokens.takeWhile Token.isWildcard).length = index
  rw [split, List.takeWhile_append_of_pos wild,
    List.takeWhile_cons_of_neg (by simp [Token.isWildcard]), List.append_nil,
    List.length_take_of_le (Nat.le_of_lt inside)]

theorem tail_anchored (h : (ofTokens tokens).leading = index) :
    (anchored tokens).tail = tokens.drop (index + 1) := by
  rw [← drop_leading, h, List.tail_drop]

theorem getD_tailMask (h : (ofTokens tokens).leading = index) (k : Nat) :
    (ofTokens tokens).tailMask.getD k false ↔
      ∃ value, tokens[index + 1 + k]? = some (.byte value) := by
  rw [(tail_ofTokens tokens).2, tail_anchored h, List.getD_eq_getElem?_getD, List.getElem?_map,
    List.getElem?_drop]
  rcases tokens[index + 1 + k]? with _ | _ | value <;> simp [laneMark, Token.isWildcard]

theorem laneByteAt?_tailLanes (hw : 0 < width) {k : Nat} (h : k < form.tail.length) :
    laneByteAt? width (form.tailLanes width) k = form.tail[k]? := by
  have started : width * (k / width) < form.tail.length :=
    Nat.lt_of_le_of_lt (Nat.mul_div_le k width) h
  have inLane : k % width < ((form.tail.drop (width * (k / width))).take width).length := by
    have := Nat.mod_lt k hw
    have := Nat.div_add_mod k width
    rw [List.length_take, List.length_drop]
    omega
  rw [laneByteAt?, tailLanes, List.getElem?_map, getElem?_chunks (Nat.ne_of_gt hw), if_pos started,
    Option.map_some, Option.bind_some, List.getElem?_append_left inLane,
    List.getElem?_take_of_lt (Nat.mod_lt k hw), List.getElem?_drop, Nat.div_add_mod]

/-- Every token of the tail that asks for a byte finds it in the lanes, at its own place. -/
theorem laneByteAt?_of_byte (hw : 0 < width) (h : (ofTokens tokens).leading = index) {k : Nat}
    {value : UInt8} (asks : tokens[index + 1 + k]? = some (.byte value)) :
    laneByteAt? width ((ofTokens tokens).tailLanes width) k = some value := by
  have bytes : (ofTokens tokens).tail = (tokens.drop (index + 1)).map laneByte := by
    rw [(tail_ofTokens tokens).1, tail_anchored h]
  have inside : k < (ofTokens tokens).tail.length := by
    have := (List.getElem?_eq_some_iff.1 asks).1
    rw [bytes, List.length_map, List.length_drop]
    omega
  rw [laneByteAt?_tailLanes hw inside, bytes, List.getElem?_map, List.getElem?_drop, asks]
  rfl

/-- Lanes that hold the bytes that are asked for agree with memory where the memory holds them too.
Whatever else stands in the lanes, be it for a wildcard or behind the last token, does not matter.
-/
theorem lanesAgree_iff_of_bytes (hw : 0 < width) (hw' : width ≤ 32)
    (h : (ofTokens tokens).leading = index) (masked : (ofTokens tokens).tailMasks width = .ok masks)
    {lanes : List (List UInt8)} (same : masks.length = lanes.length)
    (full : ∀ lane ∈ lanes, lane.length = width)
    (bytes : ∀ (k : Nat) (value : UInt8), tokens[index + 1 + k]? = some (.byte value) →
      laneByteAt? width lanes k = some value)
    (room : width * masks.length ≤ memory.length) :
    LanesAgree width lanes masks memory ↔
      ∀ (k : Nat) (value : UInt8), tokens[index + 1 + k]? = some (.byte value) →
        memory[k]? = some value := by
  have bits := maskBit_tailMasks hw hw' masked
  have asked (k : Nat) : maskBit masks (k / width) (k % width) ↔
      ∃ value, tokens[index + 1 + k]? = some (.byte value) := by
    rw [bits, Nat.div_add_mod, and_iff_right (Nat.mod_lt k hw), getD_tailMask h]
  rw [lanesAgree_iff hw' full same (fun i j set => ((bits i j).1 set).1) room]
  constructor
  · intro all k value asks
    rw [← all k ((asked k).2 ⟨value, asks⟩), bytes k value asks]
  · intro all k set
    obtain ⟨value, asks⟩ := (asked k).1 set
    rw [bytes k value asks, all k value asks]

theorem length_tailLanes_eq_ceilDiv (hw : 0 < width) (h : (ofTokens tokens).leading = index) :
    ((ofTokens tokens).tailLanes width).length = (tokens.length - index - 1) ⌈/⌉ width := by
  rw [tailLanes, List.length_map, length_chunks (Nat.ne_of_gt hw), (tail_ofTokens tokens).1,
    tail_anchored h, List.length_map, List.length_drop, Nat.ceilDiv_eq_add_pred_div,
    Nat.add_sub_assoc hw, Nat.sub_sub]

/-- On memory with room for all lanes, the tokens behind the anchor accept where the lanes agree. -/
theorem acceptsStart_iff_lanesAgree (hw : 0 < width) (hw' : width ≤ 32)
    (h : (ofTokens tokens).leading = index) (masked : (ofTokens tokens).tailMasks width = .ok masks)
    (room : width * masks.length ≤ memory.length) :
    acceptsStart (tokens.drop (index + 1)) memory ↔
      LanesAgree width ((ofTokens tokens).tailLanes width) masks memory := by
  obtain ⟨masks, masked', same, full⟩ := length_tailLanes tokens hw'
  obtain rfl := Except.ok.inj (masked'.symm.trans masked)
  have lanes := le_smul_ceilDiv (a := width) (b := tokens.length - index - 1) hw
  rw [smul_eq_mul, ← length_tailLanes_eq_ceilDiv hw h, ← same] at lanes
  rw [lanesAgree_iff_of_bytes hw hw' h masked same full
      (fun k value asks => laneByteAt?_of_byte hw h asks) room,
    Pattern.acceptsStart_iff_getElem? (by rw [List.length_drop]; omega)]
  simp only [List.getElem?_drop]

/-- Loading and comparing lane by lane stays inside of the memory, and tells whether the lanes
agree. -/
theorem exists_verify_eq_ok (hw : 0 < width) (hw' : width ≤ 32)
    (h : (ofTokens tokens).leading = index) (masked : (ofTokens tokens).tailMasks width = .ok masks)
    {s : Slice} {place : Nat} (room : place + width * masks.length ≤ s.size) :
    ∃ verified, Lanes.verify s width (((ofTokens tokens).tailLanes width).zip masks) place =
        .ok verified ∧
      (verified ↔
        LanesAgree width ((ofTokens tokens).tailLanes width) masks (s.toList.drop place)) := by
  obtain ⟨masks, masked', same, -⟩ := length_tailLanes tokens hw'
  obtain rfl := Except.ok.inj (masked'.symm.trans masked)
  obtain ⟨masks', masked'', lanes⟩ := zip_tailLanes tokens hw'
  obtain rfl := Except.ok.inj (masked''.symm.trans masked)
  have length : (lanesOf width (anchored tokens).tail).length = masks'.length := by
    rw [← lanes, List.length_zip, ← same, Nat.min_self]
  have inside : width * masks'.length ≤ (s.toList.drop place).length := by
    rw [List.length_drop, Slice.length_toList]
    omega
  refine ⟨acceptsStart (anchored tokens).tail (s.toList.drop place), ?_, ?_⟩
  · rw [lanes, Lanes.verify_eq hw hw' (by rwa [length, Nat.mul_comm])]
  · rw [tail_anchored h, acceptsStart_iff_lanesAgree hw hw' h masked inside]

/-- The lane encoding is exact. The first token that asks for a byte is the anchor. Behind it there
are as many lanes, and as many masks, as it takes to hold all tokens, and the masks are those that
are marked place by place. On memory with room for all lanes, every lane agrees with the memory at
its position under its mask exactly if every token behind the anchor accepts the byte at its
position. Neither the memory nor the lanes have a say at any other position: any other bytes of the
lanes for wildcards and behind the last token, with any other memory there, come to the same.
Loading and comparing lane by lane tells it, without leaving the memory. -/
theorem verification_exact {tokens : List Token} {index : Nat} {anchor : UInt8} {width : Nat}
    (here : tokens[index]? = some (.byte anchor)) (before : ∀ t ∈ tokens.take index, t = .wildcard)
    (hw : 0 < width) (hw' : width ≤ 32) :
    (ofTokens tokens).anchor? = some (index, anchor) ∧
    ∃ masks, (ofTokens tokens).tailMasks width = .ok masks ∧
      (ofTokens tokens).markedMasks width = .ok masks ∧
      masks.length = (tokens.length - index - 1) ⌈/⌉ width ∧
      ((ofTokens tokens).tailLanes width).length = masks.length ∧
      (∀ lane ∈ (ofTokens tokens).tailLanes width, lane.length = width) ∧
      (∀ memory : List UInt8, width * masks.length ≤ memory.length →
        (LanesAgree width ((ofTokens tokens).tailLanes width) masks memory ↔
          ∀ (k : Nat) (t : Token), tokens[index + 1 + k]? = some t →
            ∃ b, memory[k]? = some b ∧ t.accepts b)) ∧
      (∀ (memory memory' : List UInt8) (lanes : List (List UInt8)),
        width * masks.length ≤ memory.length → width * masks.length ≤ memory'.length →
        masks.length = lanes.length → (∀ lane ∈ lanes, lane.length = width) →
        (∀ (k : Nat) (value : UInt8), tokens[index + 1 + k]? = some (.byte value) →
          laneByteAt? width lanes k = some value ∧ memory'[k]? = memory[k]?) →
        (LanesAgree width lanes masks memory' ↔
          LanesAgree width ((ofTokens tokens).tailLanes width) masks memory)) ∧
      ∀ (s : Slice) (place : Nat), place + width * masks.length ≤ s.size →
        ∃ verified, Lanes.verify s width (((ofTokens tokens).tailLanes width).zip masks) place =
            .ok verified ∧
          (verified ↔
            LanesAgree width ((ofTokens tokens).tailLanes width) masks (s.toList.drop place)) := by
  have first := leading_eq here before
  obtain ⟨masks, masked, same, full⟩ := length_tailLanes tokens hw'
  refine ⟨?_, masks, masked, ?_, ?_, same.symm, full, ?_, ?_, ?_⟩
  · rw [anchor?_ofTokens, ← drop_leading, first, List.head?_drop, here]
    rfl
  · rw [markedMasks_eq hw hw', masked]
  · rw [same, length_tailLanes_eq_ceilDiv hw first]
  · intro memory room
    rw [← acceptsStart_iff_lanesAgree hw hw' first masked room,
      Pattern.acceptsStart_iff_forall_accepts]
    simp only [List.getElem?_drop]
  · intro memory memory' lanes room room' count full' kept
    rw [lanesAgree_iff_of_bytes hw hw' first masked same full
        (fun k value asks => laneByteAt?_of_byte hw first asks) room,
      lanesAgree_iff_of_bytes hw hw' first masked count full'
        (fun k value asks => (kept k value asks).1) room']
    constructor
    · intro all k value asks
      rw [← (kept k value asks).2, all k value asks]
    · intro all k value asks
      rw [(kept k value asks).2, all k value asks]
  · intro s place room
    exact exists_verify_eq_ok hw hw' first masked room

/-- Two lanes of three bytes, with zeros for a wildcard, for a byte 0 and for the filling. They
agree with a memory that has the byte 0 in its place, and not with one that has it in place of the
wildcard. -/
theorem verification_exact_across_lanes :
    ∃ (tokens : List Token) (masks : List UInt32) (memory other : List UInt8),
      tokens = [.wildcard, .byte 0x25, .wildcard, .byte 0x00, .byte 0xFF, .byte 0x07] ∧
      tokens[1]? = some (.byte 0x25) ∧ (∀ t ∈ tokens.take 1, t = .wildcard) ∧
      (ofTokens tokens).anchor? = some (1, 0x25) ∧
      (ofTokens tokens).tailLanes 3 = [[0x00, 0x00, 0xFF], [0x07, 0x00, 0x00]] ∧
      (ofTokens tokens).tailMasks 3 = .ok masks ∧ masks = [0b110, 0b001] ∧
      memory = [0x77, 0x00, 0xFF, 0x07, 0x11, 0x00] ∧
      LanesAgree 3 ((ofTokens tokens).tailLanes 3) masks memory ∧
      other = [0x00, 0x77, 0xFF, 0x07, 0x00, 0x00] ∧
      ¬ LanesAgree 3 ((ofTokens tokens).tailLanes 3) masks other := by
  let tokens : List Token := [.wildcard, .byte 0x25, .wildcard, .byte 0x00, .byte 0xFF, .byte 0x07]
  have here : tokens[1]? = some (.byte 0x25) := rfl
  have before : ∀ t ∈ tokens.take 1, t = .wildcard := by decide
  have lanes : (ofTokens tokens).tailLanes 3 = [[0x00, 0x00, 0xFF], [0x07, 0x00, 0x00]] := by
    decide +kernel
  have masked : (ofTokens tokens).tailMasks 3 = .ok [0b110, 0b001] := by
    decide +kernel
  obtain ⟨anchored, masks, masked', -, -, -, -, agree, -⟩ :=
    verification_exact here before (show 0 < 3 by decide) (by decide)
  obtain rfl := Except.ok.inj (masked.symm.trans masked')
  refine ⟨tokens, _, _, _, rfl, here, before, anchored, lanes, masked, rfl, rfl,
    (agree _ (by decide)).2 ?_, rfl, fun agrees => ?_⟩
  · intro k t asked
    match k, asked with
    | 0, rfl | 1, rfl | 2, rfl | 3, rfl => exact ⟨_, rfl, rfl⟩
    | k + 4, asked =>
      have := (List.getElem?_eq_some_iff.1 asked).1
      simp [tokens] at this
      omega
  · obtain ⟨b, stands, accepted⟩ := (agree _ (by decide)).1 agrees 1 (.byte 0x00) rfl
    cases stands
    cases accepted

end Tail

end LaneForm

end ByteScan
