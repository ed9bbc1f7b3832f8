import ByteScan.Proofs.Kernel.FirstMatch
import ByteScan.Scanner

/-!
# Searching a region

As long as each place in a region can be reported, no search of it faults: it reports the first
match from its start on, or that there is none. Each search of a scanner reads its pattern first and
refuses a malformed one. Of a pattern a search reads the tokens only.
-/

namespace ByteScan

/-- Each place in a region can be reported. -/
def Region.Reportable (r : Region) : Prop := r.bytes.size ≤ ScanResult.maxOffset + 1

instance (r : Region) : Decidable r.Reportable := inferInstanceAs (Decidable (_ ≤ _))

namespace Region.Reportable

variable {r : Region} {p : Pattern} {start place : Nat}

theorem size_le_maxSize (h : r.Reportable) : r.bytes.size ≤ Bytes.maxSize :=
  Nat.le_trans h (by decide)

theorem place_le_maxOffset (h : r.Reportable)
    (found : p.firstMatchFrom? r.bytes start = some place) : place ≤ ScanResult.maxOffset :=
  Nat.le_of_lt_succ
    (Nat.lt_of_lt_of_le (Pattern.firstMatchFrom?_eq_some_iff.1 found).1.2.lt_size h)

end Region.Reportable

namespace Scanner

variable {s : Scanner} {p q : Pattern} {start : Nat}

/-- What the search of a region for a pattern reports. -/
def answer (s : Scanner) (p : Pattern) (start : Nat) : ScanResult :=
  match p.firstMatchFrom? s.region.bytes start with
  | some place => ⟨true, Int32.ofNat place⟩
  | none => .notFound

variable [Machine]

/-- No search of a region faults, and what it reports does not depend on the algorithm. -/
theorem findFrom_eq_answer (reportable : s.region.Reportable) (a : Algorithm) (p : Pattern)
    (start : Nat) : a.findFrom s.region.bytes p start = .ok (s.answer p start) := by
  rw [Algorithm.findFrom_eq a p start reportable.size_le_maxSize, answer]
  cases found : p.firstMatchFrom? s.region.bytes start with
  | none => rfl
  | some place => exact ScanResult.foundAt_of_le (reportable.place_le_maxOffset found)

theorem find_eq_answer (reportable : s.region.Reportable) (a : Algorithm) (p : Pattern) :
    a.find s.region.bytes p = .ok (s.answer p 0) := by
  rw [Algorithm.find_eq_findFrom a p reportable.size_le_maxSize, findFrom_eq_answer reportable]

theorem search_eq_answer (reportable : s.region.Reportable) (p : Pattern) :
    s.search p = .ok (s.answer p 0) :=
  find_eq_answer reportable s.algorithm p

theorem search_congr (h : p.tokens = q.tokens) (s : Scanner) : s.search p = s.search q := by
  obtain ⟨_, _, _⟩ := p
  obtain ⟨_, _, _⟩ := q
  cases h
  rfl

end Scanner

end ByteScan
