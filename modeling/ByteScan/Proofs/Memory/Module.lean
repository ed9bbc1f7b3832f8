import ByteScan.Memory.Module
import ByteScan.Proofs.Fault

/-!
# Ranges of modules

Words are added and subtracted exactly, or not at all. A module therefore has an end exactly if the
sum of its base and its size is a word; the end is this word, and asking whether an address lies in
the module is comparing it with the base and the end.
-/

namespace ByteScan

/-! ### Words -/

namespace Word

variable {a b : UInt64}

theorem add_eq_ok (h : a.toNat + b.toNat < UInt64.size) :
    ∃ sum, add a b = .ok sum ∧ sum.toNat = a.toNat + b.toNat := by
  refine ⟨a + b, if_pos h, ?_⟩
  rw [UInt64.toNat_add]
  exact Nat.mod_eq_of_lt h

theorem sub_eq_ok (h : b ≤ a) : sub a b = .ok (a - b) := if_pos h

end Word

namespace Module

variable {m other : Module} {stop : UInt64} {a : Address}

/-- The range of a module goes up to an address: base and size add up to it. -/
def StopsAt (m : Module) (stop : UInt64) : Prop := m.base.value.toNat + m.size.toNat = stop.toNat

instance (m : Module) (stop : UInt64) : Decidable (m.StopsAt stop) :=
  inferInstanceAs (Decidable (_ = _))

theorem StopsAt.stop_eq (h : m.StopsAt stop) : m.stop = .ok ⟨stop⟩ := by
  have word : m.base.value.toNat + m.size.toNat < UInt64.size := by
    rw [h]
    exact UInt64.toNat_lt stop
  obtain ⟨sum, added, exact⟩ := Word.add_eq_ok word
  obtain rfl : sum = stop := UInt64.toNat_inj.1 (exact.trans h)
  rw [Module.stop, Address.add, added]
  rfl

theorem StopsAt.contains_eq (h : m.StopsAt stop) (a : Address) :
    m.contains a = .ok (a.isWithin m.base ⟨stop⟩) := by
  rw [contains, h.stop_eq]
  rfl

theorem StopsAt.contains_iff (h : m.StopsAt stop) :
    m.contains a = .ok true ↔ m.base.value ≤ a.value ∧ a.value < stop := by
  rw [h.contains_eq, Except.ok.injEq, Address.isWithin, Bool.and_eq_true, decide_eq_true_iff,
    decide_eq_true_iff]

theorem StopsAt.size_eq (h : m.StopsAt stop) (h' : other.StopsAt stop)
    (same : m.base = other.base) : m.size = other.size := by
  rw [StopsAt] at h h'
  rw [← UInt64.toNat_inj]
  rw [same] at h
  omega

end Module

end ByteScan
