import ByteScan.Proofs.Cache
import ByteScan.Proofs.Dispatch
import ByteScan.Proofs.Pattern.Constructors
import ByteScan.Proofs.Scanner.Search

/-!
# Batches, with and without a cache

The result of a search depends on the tokens of its pattern alone, and patterns that were read from
texts have the same tokens if they have the same key. So what is stored under the key of one pattern
is right for each other pattern with this key, and a batch gives the same results whether it uses a
cache or not: for each pattern what a search for it alone gives.
-/

namespace ByteScan.Scanner

variable {s : Scanner} {c : Cache} {text : String} {p q : Pattern} {r : ScanResult}

section Machine

variable [Machine]

/-! ### What a cache may hold -/

/-- Every entry is the result of a search for each pattern with its key. -/
def Confirms (s : Scanner) (c : Cache) : Prop :=
  ∀ key r, (key, r) ∈ c.entries → ∀ text p, Pattern.parse text = .ok p → p.key = key →
    s.search p = .ok r

theorem confirms_empty (s : Scanner) : s.Confirms .empty := by
  intro key r mem
  cases mem

theorem Confirms.search_eq (h : s.Confirms c) (hp : Pattern.parse text = .ok p)
    (stored : c.get? p.source = some r) : s.search p = .ok r :=
  h p.key r (Cache.get?_eq_some_iff.1 stored) text p hp rfl

theorem Confirms.insertIfAbsent (h : s.Confirms c) (hp : Pattern.parse text = .ok p)
    (found : s.search p = .ok r) : s.Confirms (c.insertIfAbsent p.source r).2 := by
  intro key r' mem text' q hq same
  rcases Cache.mem_insertIfAbsent mem with old | new
  · exact h key r' old text' q hq same
  · cases new
    rw [search_congr ((Pattern.key_eq_iff hq hp).1 same), found]

/-- What storing the result of a search gives back is a result of this search too. -/
theorem Confirms.search_eq_insertIfAbsent (h : s.Confirms c) (hp : Pattern.parse text = .ok p)
    (found : s.search p = .ok r) : s.search p = .ok (c.insertIfAbsent p.source r).1 :=
  (h.insertIfAbsent hp found).search_eq hp (Cache.get?_insertIfAbsent c p.source r)

/-- A search that may use the cache gives what a search gives. -/
theorem searchCached_eq_ok (h : s.Confirms c) (hp : Pattern.parse text = .ok p)
    (found : s.search p = .ok r) :
    ∃ c', (s.searchCached p).run c = .ok (r, c') ∧ s.Confirms c' := by
  change ∃ c', c.getOrSearch p.source (s.search p) = .ok (r, c') ∧ s.Confirms c'
  rw [Cache.getOrSearch]
  cases stored : c.get? p.source with
  | some r' =>
    obtain rfl : r = r' := Except.ok.inj (found.symm.trans (h.search_eq hp stored))
    exact ⟨c, rfl, h⟩
  | none =>
    have same : (c.insertIfAbsent p.source r).1 = r :=
      Except.ok.inj ((h.search_eq_insertIfAbsent hp found).symm.trans found)
    refine ⟨(c.insertIfAbsent p.source r).2, ?_, h.insertIfAbsent hp found⟩
    rw [found]
    exact congrArg Except.ok (Prod.ext same rfl)

/-- Where a search faults, one that may use the cache does too: there is nothing stored that it
could give instead. -/
theorem searchCached_eq_error {fault : Fault} (h : s.Confirms c) (hp : Pattern.parse text = .ok p)
    (faults : s.search p = .error fault) : (s.searchCached p).run c = .error fault := by
  change c.getOrSearch p.source (s.search p) = .error fault
  rw [Cache.getOrSearch]
  cases stored : c.get? p.source with
  | some r => cases faults.symm.trans (h.search_eq hp stored)
  | none => rw [faults]; rfl

/-! ### Who shares an entry -/

/-- What a search that may use the cache leaves behind: its result for every text with the key of
its pattern, and what was there before for all others. -/
theorem get?_of_searchCached {c' : Cache} (h : (s.searchCached p).run c = .ok (r, c'))
    (text : String) :
    c'.get? text = if p.key = Text.asciiUpper text then some r else c.get? text := by
  change c.getOrSearch p.source (s.search p) = .ok (r, c') at h
  rw [Cache.getOrSearch] at h
  cases stored : c.get? p.source with
  | some value =>
    rw [stored] at h
    cases h
    split
    · rename_i same
      rw [← Cache.get?_congr same, stored]
    · rfl
  | none =>
    rw [stored] at h
    obtain ⟨found, -, h⟩ := exists_of_bind_eq_ok h
    have result : c.insertIfAbsent p.source found = (r, c') := Except.ok.inj h
    have kept := Cache.get?_insertIfAbsent_eq_ite c p.source text found
    rwa [result] at kept

/-- The key of a pattern is its canonical spelling, whatever the pattern was made from, and tells
its tokens. So in a batch that uses a cache a pattern finds the result of another one exactly if the
two are equal, and all else as it was. -/
theorem key_identifies_pattern (hp : p.IsBuilt) (hq : q.IsBuilt) :
    (p.key = q.key ↔ p.tokens = q.tokens) ∧ p.key = p.spell ∧ q.key = q.spell ∧
    ∀ (s : Scanner) (c c' : Cache) (r : ScanResult), (s.searchCached p).run c = .ok (r, c') →
      c'.get? q.source = if p == q then some r else c.get? q.source := by
  have same := Pattern.key_eq_iff hp.parse_source hq.parse_source
  refine ⟨same, Pattern.key_eq_spell hp.parse_source, Pattern.key_eq_spell hq.parse_source, ?_⟩
  intro s c c' r ran
  have equal : (p == q) = true ↔ p.key = Text.asciiUpper q.source := by
    rw [show Text.asciiUpper q.source = q.key from rfl, same]
    exact beq_iff_eq (a := p.tokens) (b := q.tokens)
  rw [get?_of_searchCached ran]
  simp only [equal]

end Machine

section Uniprocessor

attribute [local instance] Machine.uniprocessor

/-- A text in small letters, and bytes under a mask: one key, and one entry after a search. -/
theorem key_identifies_pattern_of_two_spellings :
    ∃ p q : Pattern, Pattern.parse "4a ??" = .ok p ∧
      Pattern.ofBytesAndMask [0x4A, 0x07] [0x01, 0x00] = .ok q ∧
      p.source ≠ q.source ∧ p.tokens = q.tokens ∧ p.key = q.key ∧
      ∃ (s : Scanner) (c' : Cache), s.region.bytes = #[0x4A, 0x07] ∧
        (s.searchCached p).run .empty = .ok (s.answer p 0, c') ∧
        c'.get? q.source = some (s.answer p 0) := by
  let p : Pattern := ⟨"4a ??", [.byte 0x4A, .wildcard], by decide⟩
  let q : Pattern := ⟨"4A ??", [.byte 0x4A, .wildcard], by decide⟩
  let s : Scanner := ⟨⟨.owned, #[0x4A, 0x07]⟩, .sse2, .shared⟩
  have hp : Pattern.parse "4a ??" = .ok p := rfl
  have hq : Pattern.ofBytesAndMask [0x4A, 0x07] [0x01, 0x00] = .ok q := rfl
  obtain ⟨same, -, -, entries⟩ := key_identifies_pattern (.parse hp) (.ofBytesAndMask hq)
  have reportable : s.region.Reportable := by decide
  obtain ⟨c', ran, -⟩ := searchCached_eq_ok s.confirms_empty hp (search_eq_answer reportable p)
  exact ⟨p, q, hp, hq, by decide, rfl, same.2 rfl, s, c', rfl, ran, entries s .empty c' _ ran⟩

end Uniprocessor

/-! ### Batches -/

section Machine

variable [Machine] {batch : List Pattern}

theorem searchBatch_eq_mapM (s : Scanner) (loadBalance : Bool) (batch : List Pattern) :
    s.searchBatch loadBalance batch = batch.mapM s.search :=
  Dispatcher.run_eq_mapM s.search s.dispatcher loadBalance batch

/-- The searches of a batch that may use the cache give what the searches give, one after the other.
-/
theorem mapM_searchCached (h : s.Confirms c)
    (parsed : ∀ p ∈ batch, ∃ text, Pattern.parse text = .ok p) :
    Prod.fst <$> (batch.mapM s.searchCached).run c = batch.mapM s.search := by
  induction batch generalizing c with
  | nil => rfl
  | cons p batch ih =>
    obtain ⟨text, hp⟩ := parsed p List.mem_cons_self
    rw [List.mapM_cons, List.mapM_cons, StateT.run_bind]
    cases found : s.search p with
    | error fault =>
      rw [searchCached_eq_error h hp found]
      rfl
    | ok r =>
      obtain ⟨c', first, h'⟩ := searchCached_eq_ok h hp found
      rw [first, ok_bind, ok_bind, ← ih h' fun q hq => parsed q (List.mem_cons_of_mem p hq),
        StateT.run_bind]
      cases (batch.mapM s.searchCached).run c' <;> rfl

theorem searchBatchCached_eq (s : Scanner) (loadBalance : Bool)
    (parsed : ∀ p ∈ batch, ∃ text, Pattern.parse text = .ok p) :
    s.searchBatchCached loadBalance batch = batch.mapM s.search := by
  rw [searchBatchCached, Dispatcher.run_eq_mapM, StateT.run'_eq,
    mapM_searchCached s.confirms_empty parsed]

theorem mapM_search_eq (reportable : s.region.Reportable) (batch : List Pattern) :
    batch.mapM s.search = .ok (batch.map (s.answer · 0)) := by
  rw [funext (search_eq_answer reportable)]
  exact List.mapM_pure

end Machine

end ByteScan.Scanner
