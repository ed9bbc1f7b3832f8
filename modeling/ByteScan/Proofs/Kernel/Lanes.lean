import ByteScan.Proofs.Kernel.Walk
import ByteScan.Proofs.Pattern.LaneForm

/-!
# Searching lane by lane finds the first match

A candidate of a lane is verified exactly if the anchor and the tokens behind it accept what stands
at the candidate, so the first verified candidate of a lane is the first place of the lane at which
the anchored part of the pattern matches. The scan keeps the invariant that no match has its anchor
before the place where it stands. It stops at the anchor of the first match, or where a lane and
the tail behind it no longer fit; from there on the search byte by byte goes on, as many places
back as there are leading wildcards.
-/

namespace ByteScan.Lanes

open Pattern (acceptsStart firstMatch?)

variable {s : Slice} {tokens tail : List Token} {place width cursor : Nat} {anchor : UInt8}

/-! ### Candidates -/

theorem verify_eq (hw : 0 < width) (hw' : width ≤ 32)
    (h : place + (lanesOf width tokens).length * width ≤ s.size) :
    verify s width (lanesOf width tokens) place =
      .ok (acceptsStart tokens (s.toList.drop place)) := by
  induction hn : tokens.length using Nat.strongRecOn generalizing tokens place with
  | ind n ih =>
    by_cases ht : tokens = []
    · subst ht
      rw [lanesOf, chunks_nil]
      rfl
    · have pos := List.length_pos_iff.2 ht
      have lanes := lanesOf_of_ne_nil (Nat.ne_of_gt hw) ht
      rw [lanes, List.length_cons, Nat.succ_mul] at h
      have full : ((s.toList.drop place).take width).length = width :=
        Slice.length_take_drop (by omega)
      have group : (tokens.take width).length ≤ width := List.length_take_le _ _
      have agrees := laneOf_agrees_iff group hw' full
      have room : place + width + (lanesOf width (tokens.drop width)).length * width ≤ s.size := by
        omega
      have rest := ih _ (by rw [List.length_drop]; omega) room rfl
      rw [Pattern.acceptsStart_take group] at agrees
      rw [lanes, Pattern.acceptsStart_eq_take_drop width tokens, List.drop_drop]
      simp only [laneOf] at agrees ⊢
      rw [verify, Slice.load_eq_ok (by omega), ok_bind]
      cases accepted : acceptsStart (tokens.take width) (s.toList.drop place) with
      | true => rw [if_pos (agrees.2 accepted), rest, Bool.true_and]
      | false =>
        rw [if_neg fun covered => Bool.eq_false_iff.1 accepted (agrees.1 covered), Bool.false_and]
        rfl

/-- The first of some candidates behind which the tail accepts. -/
theorem firstVerified_eq (hw : 0 < width) (hw' : width ≤ 32) (candidates : List Nat)
    (h : ∀ c ∈ candidates, cursor + c + 1 + (lanesOf width tail).length * width ≤ s.size) :
    firstVerified s width (lanesOf width tail) cursor candidates =
      .ok ((candidates.find? fun c =>
        acceptsStart tail (s.toList.drop (cursor + c + 1))).map (cursor + ·)) := by
  induction candidates with
  | nil => rfl
  | cons c candidates ih =>
    rw [firstVerified, verify_eq hw hw' (h c List.mem_cons_self), ok_bind]
    cases accepted : acceptsStart tail (s.toList.drop (cursor + c + 1)) with
    | true =>
      rw [List.find?_cons_of_pos (by exact accepted)]
      rfl
    | false =>
      rw [List.find?_cons_of_neg (by simp [accepted]),
        ← ih fun c hc => h c (List.mem_cons_of_mem _ hc)]
      rfl

/-- A candidate of a lane is one of its places, and it is verified if the anchor and the tail accept
what stands there. -/
theorem candidate_iff (k : Nat) :
    (((s.toList.drop cursor).take width)[k]? == some anchor) = true ∧
      acceptsStart tail (s.toList.drop (cursor + k + 1)) = true ↔
      k < width ∧ acceptsStart (.byte anchor :: tail) (s.toList.drop (cursor + k)) = true := by
  rw [List.getElem?_take, beq_iff_eq]
  by_cases inLane : k < width
  · rw [if_pos inLane, List.getElem?_drop]
    by_cases inside : cursor + k < s.toList.length
    · rw [List.getElem?_eq_getElem inside, List.drop_eq_getElem_cons inside, acceptsStart,
        Token.accepts, Bool.and_eq_true, beq_iff_eq, Option.some_inj, eq_comm]
      exact (and_iff_right inLane).symm
    · rw [List.getElem?_eq_none (Nat.le_of_not_lt inside),
        List.drop_eq_nil_of_le (Nat.le_of_not_lt inside), acceptsStart]
      simp
  · simp [inLane]

/-- The first verified candidate of a lane is its first place at which the anchor and the tail
accept. -/
theorem firstCandidate_eq (anchor : UInt8) (hw : 0 < width) (hw' : width ≤ 32)
    (h : cursor + ((lanesOf width tail).length + 1) * width ≤ s.size) :
    ∃ lane, s.load width cursor = .ok lane ∧
      firstVerified s width (lanesOf width tail) cursor
          (setBits (equalMask (List.replicate width anchor) lane)) =
        .ok (((List.range width).find? fun k =>
          acceptsStart (.byte anchor :: tail) (s.toList.drop (cursor + k))).map (cursor + ·)) := by
  rw [Nat.succ_mul] at h
  have full : ((s.toList.drop cursor).take width).length = width :=
    Slice.length_take_drop (by omega)
  refine ⟨_, Slice.load_eq_ok (by omega), ?_⟩
  rw [setBits_equalMask anchor hw' full, firstVerified_eq hw hw', List.find?_filter]
  · congr 2
    refine Pattern.find?_range_eq_of_iff hw' fun k => ?_
    rw [decide_eq_true_iff]
    exact candidate_iff k
  · intro c hc
    obtain ⟨-, stands⟩ := List.mem_filter.1 hc
    have inLane : c < width := by
      refine Nat.lt_of_not_le fun far => ?_
      rw [List.getElem?_eq_none (by omega)] at stands
      cases stands
    omega

/-! ### The scan -/

/-- A scan may stop at the anchor of the first match, or at a place before which no match has its
anchor. -/
def Stop.Sound (tokens : List Token) (bytes : List UInt8) (index : Nat) : Stop → Prop
  | .anchored place => index ≤ place ∧ firstMatch? tokens bytes = some (place - index)
  | .ended place => index ≤ place ∧ place - index ≤ bytes.length ∧
      ∀ k < place - index, acceptsStart tokens (bytes.drop k) = false

theorem scanLanes_sound {index : Nat} (hw : 0 < width) (hw' : width ≤ 32) (ht : tokens ≠ [])
    (whole : ∀ k, acceptsStart tokens (s.toList.drop k) =
      acceptsStart (.byte anchor :: tail) (s.toList.drop (k + index)))
    (hc : index ≤ cursor) (inside : cursor - index ≤ s.size)
    (before : ∀ k < cursor - index, acceptsStart tokens (s.toList.drop k) = false) :
    ∃ stop, scanLanes s width anchor (lanesOf width tail) cursor = .ok stop ∧
      stop.Sound tokens s.toList index := by
  induction hn : s.size - cursor using Nat.strongRecOn generalizing cursor with
  | ind n ih =>
    rw [scanLanes]
    by_cases fits : 0 < width ∧ cursor + ((lanesOf width tail).length + 1) * width ≤ s.size
    · have anchorAt (k : Nat) : cursor - index + k + index = cursor + k := by omega
      obtain ⟨lane, loaded, verified⟩ := firstCandidate_eq anchor hw hw' fits.2
      have room := fits.2
      rw [Nat.succ_mul] at room
      simp only [if_pos fits, loaded, ok_bind, verified]
      cases found : (List.range width).find? fun k =>
          acceptsStart (.byte anchor :: tail) (s.toList.drop (cursor + k)) with
      | none =>
        refine ih (s.size - (cursor + width)) (by omega) (by omega) (by omega) ?_ rfl
        rw [Nat.sub_add_comm hc]
        refine Pattern.not_acceptsStart_before_add before fun k hk => Bool.eq_false_iff.2 ?_
        rw [whole, anchorAt]
        exact List.find?_eq_none.1 found k (List.mem_range.2 hk)
      | some j =>
        obtain ⟨accepted, -, earlier⟩ := List.find?_range_eq_some.1 found
        refine ⟨.anchored (cursor + j), rfl, by omega, (Pattern.firstMatch?_eq_some_iff ht).2 ?_⟩
        rw [Nat.sub_add_comm hc]
        refine ⟨by rwa [whole, anchorAt],
          Pattern.not_acceptsStart_before_add before fun k hk => ?_⟩
        have fails := earlier k hk
        rwa [Bool.not_eq_true', ← anchorAt, ← whole] at fails
    · rw [if_neg fits]
      exact ⟨_, rfl, hc, by rwa [Slice.length_toList], before⟩

theorem matchPlace_eq_ok {index : Nat} (h : index ≤ place) :
    matchPlace place index = .ok (place - index) :=
  if_pos h

/-- The search lane by lane gives the first match or hands on the end of the slice, whatever the
width of a lane. -/
theorem find_handedOn (hw : 0 < width) (hw' : width ≤ 32) (ht : tokens ≠ []) :
    Walk.HandedOn s tokens
      (find s width (LaneForm.ofTokens tokens) (MaskForm.ofTokens tokens)) := by
  rw [find, LaneForm.anchor?_ofTokens]
  by_cases ha : LaneForm.anchored tokens = []
  · rw [ha]
    exact .inl (Walk.find_eq ht)
  · obtain ⟨anchor, tail, split⟩ := LaneForm.anchored_eq_cons ha
    generalize hl : (LaneForm.ofTokens tokens).leading = index
    have whole : ∀ k, acceptsStart tokens (s.toList.drop k) =
        acceptsStart (.byte anchor :: tail) (s.toList.drop (k + index)) := by
      intro k
      rw [LaneForm.acceptsStart_eq_anchored ha, split, List.drop_drop, hl]
    obtain ⟨masks, masked, lanes⟩ := LaneForm.zip_tailLanes tokens hw'
    rw [split, List.tail_cons] at lanes
    rw [split, List.head?_cons, Option.map_some]
    simp only [masked, ok_bind, lanes, laneByte, Token.toByte?, Option.getD_some]
    split
    · obtain ⟨stop, scanned, sound⟩ := scanLanes_sound hw hw' ht whole (Nat.le_refl index)
        (by omega) fun k hk => absurd hk (by omega)
      rw [scanned, ok_bind]
      cases stop with
      | anchored place =>
        obtain ⟨after, first⟩ := sound
        simp only [matchPlace_eq_ok after, ok_bind]
        exact .inl (congrArg ScanResult.ofPlace first.symm)
      | ended place =>
        obtain ⟨after, inside, before⟩ := sound
        rw [Slice.length_toList] at inside
        simp only [matchPlace_eq_ok after, ok_bind]
        exact .inr ⟨_, inside, before, rfl⟩
    · exact .inl (Walk.find_eq ht)

end ByteScan.Lanes
