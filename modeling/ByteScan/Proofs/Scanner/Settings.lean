import ByteScan.Proofs.Scanner.AllMatches
import ByteScan.Proofs.Scanner.Building
import ByteScan.Proofs.Scanner.Cached

/-!
# Settings do not change answers

Two scanners of the same bytes answer alike, whoever holds the bytes and whatever the scanners were
told: which algorithm to use, how many workers there are, how batches are handed out. A batch is
refused for its first malformed text before any work is done, and otherwise gives for each text what
a search for this text alone gives.
-/

namespace ByteScan

/-! ### Reading a batch -/

namespace Pattern

variable {texts before : List String} {patterns : List Pattern} {bad : String} {e : PatternError}

theorem parseAll_of_map (h : texts.map parse = patterns.map .ok) :
    parseAll texts = .ok patterns := by
  induction texts generalizing patterns with
  | nil =>
    obtain rfl := List.map_eq_nil_iff.1 h.symm
    rfl
  | cons text texts ih =>
    cases patterns with
    | nil => cases h
    | cons p patterns =>
      obtain ⟨first, rest⟩ := List.cons.inj h
      have others : texts.mapM parse = .ok patterns := ih rest
      rw [parseAll, List.mapM_cons, first, ok_bind, others]
      rfl

/-- The first malformed text decides the error, whatever comes behind it. -/
theorem parseAll_of_malformed (h : before.map parse = patterns.map .ok)
    (malformed : parse bad = .error e) (after : List String) :
    parseAll (before ++ bad :: after) = .error e := by
  have first : before.mapM parse = .ok patterns := parseAll_of_map h
  rw [parseAll, List.mapM_append, first, ok_bind, List.mapM_cons, malformed]
  rfl

/-- Either every text of a list is well formed, or one of them is the first that is not. -/
theorem wellFormed_or_malformed (texts : List String) :
    (∃ patterns : List Pattern, texts.map parse = patterns.map .ok) ∨
      ∃ before bad after e, texts = before ++ bad :: after ∧ parse bad = .error e ∧
        ∃ patterns : List Pattern, before.map parse = patterns.map .ok := by
  induction texts with
  | nil => exact .inl ⟨[], rfl⟩
  | cons text texts ih =>
    cases first : parse text with
    | error e => exact .inr ⟨[], text, texts, e, rfl, first, [], rfl⟩
    | ok p =>
      rcases ih with ⟨patterns, all⟩ | ⟨before, bad, after, e, rfl, malformed, patterns, all⟩
      · exact .inl ⟨p :: patterns, by rw [List.map_cons, List.map_cons, first, all]⟩
      · exact .inr ⟨text :: before, bad, after, e, rfl, malformed, p :: patterns,
          by rw [List.map_cons, List.map_cons, first, all]⟩

theorem exists_map_parse (h : ∀ text ∈ texts, ∃ p, parse text = .ok p) :
    ∃ patterns : List Pattern, texts.map parse = patterns.map .ok := by
  refine (wellFormed_or_malformed texts).resolve_right ?_
  rintro ⟨before, bad, after, e, rfl, malformed, -⟩
  obtain ⟨p, parsed⟩ := h bad (List.mem_append_right before List.mem_cons_self)
  rw [malformed] at parsed
  cases parsed

theorem exists_text (h : texts.map parse = patterns.map .ok) :
    ∀ p ∈ patterns, ∃ text, parse text = .ok p := by
  intro p mem
  have read : Except.ok p ∈ texts.map parse := h ▸ List.mem_map.2 ⟨p, mem, rfl⟩
  obtain ⟨text, -, parsed⟩ := List.mem_map.1 read
  exact ⟨text, parsed⟩

end Pattern

namespace Scanner

variable {s s₁ s₂ : Scanner} {texts before : List String} {patterns : List Pattern}
  {bad text : String} {p : Pattern} {e : PatternError}

/-! ### Batches -/

theorem inBatch_of_map (h : texts.map Pattern.parse = patterns.map .ok) {m : Type → Type} [Monad m]
    (work : List Pattern → m (List ScanResult)) :
    inBatch texts work = do
      let results ← work patterns
      return (results, batchLog patterns results) := by
  rw [inBatch, Pattern.parseAll_of_map h]

/-- A batch with a malformed text is refused without any work. -/
theorem inBatch_of_malformed (h : before.map Pattern.parse = patterns.map .ok)
    (malformed : Pattern.parse bad = .error e) (after : List String) {m : Type → Type} [Monad m]
    (work : List Pattern → m (List ScanResult)) :
    inBatch (before ++ bad :: after) work = throw e := by
  rw [inBatch, Pattern.parseAll_of_malformed h malformed]

section Machine

variable [Machine]

theorem map_find (reportable : s.region.Reportable)
    (h : texts.map Pattern.parse = patterns.map .ok) :
    texts.map s.find = (patterns.map (s.answer · 0)).map pure := by
  have reads : s.find = (fun read : Except PatternError Pattern =>
      (Attempt.ofExcept read >>= fun p => liftM (s.search p) : Attempt PatternError ScanResult)) ∘
        Pattern.parse := rfl
  rw [reads, ← List.map_map, h, List.map_map, List.map_map]
  exact List.map_congr_left fun p _ => Attempt.liftM_eq_pure (search_eq_answer reportable p)

theorem findMany_of_map (reportable : s.region.Reportable)
    (h : texts.map Pattern.parse = patterns.map .ok) (loadBalance : Bool) :
    s.findMany texts loadBalance =
      pure (patterns.map (s.answer · 0), batchLog patterns (patterns.map (s.answer · 0))) := by
  rw [findMany, inBatch_of_map h, searchBatch_eq_mapM,
    Attempt.liftM_eq_pure (mapM_search_eq reportable patterns)]
  rfl

theorem findManyCached_eq_findMany (s : Scanner) (texts : List String) (loadBalance : Bool) :
    s.findManyCached texts loadBalance = s.findMany texts loadBalance := by
  rcases Pattern.wellFormed_or_malformed texts with
    ⟨patterns, all⟩ | ⟨before, bad, after, e, rfl, malformed, patterns, all⟩
  · rw [findMany, findManyCached, inBatch_of_map all, inBatch_of_map all, searchBatch_eq_mapM,
      searchBatchCached_eq s loadBalance (Pattern.exists_text all)]
  · rw [findMany, findManyCached, inBatch_of_malformed all malformed,
      inBatch_of_malformed all malformed]

/-! ### Scanners of the same bytes -/

/-- Two scanners answer alike: each search gives the same on both, and batches do whether or not
they are balanced and use a cache. -/
structure Alike (s₁ s₂ : Scanner) : Prop where
  /-- The first match. -/
  find (text : String) : s₁.find text = s₂.find text
  /-- The first match from a place on. -/
  findFrom (text : String) (start : Nat) : s₁.findFrom text start = s₂.findFrom text start
  /-- The first match, with algorithms that are chosen for the search. -/
  findWith (text : String) (a₁ a₂ : Algorithm) : s₁.findWith text a₁ = s₂.findWith text a₂
  /-- All matches. -/
  findAll (text : String) : s₁.findAll text = s₂.findAll text
  /-- The first matches of a batch. -/
  findMany (texts : List String) (balance₁ balance₂ : Bool) :
    s₁.findMany texts balance₁ = s₂.findMany texts balance₂
  /-- The first matches of a batch with a cache. -/
  findManyCached (texts : List String) (balance₁ balance₂ : Bool) :
    s₁.findManyCached texts balance₁ = s₂.findManyCached texts balance₂
  /-- The cache does not show. -/
  cached_eq (texts : List String) (balance₁ balance₂ : Bool) :
    s₁.findManyCached texts balance₁ = s₂.findMany texts balance₂

omit [Machine] in
theorem answer_of_bytes_eq (same : s₁.region.bytes = s₂.region.bytes) (p : Pattern) (start : Nat) :
    s₁.answer p start = s₂.answer p start := by
  rw [answer, answer, same]

omit [Machine] in
theorem reportable_of_bytes_eq (same : s₁.region.bytes = s₂.region.bytes)
    (reportable : s₂.region.Reportable) : s₁.region.Reportable := by
  rwa [Region.Reportable, same]

theorem findMany_of_bytes_eq (reportable : s₂.region.Reportable)
    (same : s₁.region.bytes = s₂.region.bytes) (texts : List String) (balance₁ balance₂ : Bool) :
    s₁.findMany texts balance₁ = s₂.findMany texts balance₂ := by
  rcases Pattern.wellFormed_or_malformed texts with
    ⟨patterns, all⟩ | ⟨before, bad, after, e, rfl, malformed, patterns, all⟩
  · rw [findMany_of_map (reportable_of_bytes_eq same reportable) all,
      findMany_of_map reportable all, funext fun p => answer_of_bytes_eq same p 0]
  · rw [findMany, findMany, inBatch_of_malformed all malformed, inBatch_of_malformed all malformed]

theorem alike_of_bytes_eq (reportable : s₂.region.Reportable)
    (same : s₁.region.bytes = s₂.region.bytes) : s₁.Alike s₂ := by
  have reportable' := reportable_of_bytes_eq same reportable
  refine ⟨fun text => ?_, fun text start => ?_, fun text a₁ a₂ => ?_, fun text => ?_,
    findMany_of_bytes_eq reportable same, fun texts balance₁ balance₂ => ?_,
    fun texts balance₁ balance₂ => ?_⟩
  · rw [find, find]
    refine congrArg _ (funext fun p => ?_)
    rw [search_eq_answer reportable, search_eq_answer reportable', answer_of_bytes_eq same]
  · rw [findFrom, findFrom]
    refine congrArg _ (funext fun p => ?_)
    rw [findFrom_eq_answer reportable, findFrom_eq_answer reportable', answer_of_bytes_eq same]
  · rw [findWith, findWith]
    refine congrArg _ (funext fun p => ?_)
    rw [find_eq_answer reportable, find_eq_answer reportable', answer_of_bytes_eq same]
  · rw [findAll, findAll]
    refine congrArg _ (funext fun p => ?_)
    rw [placesFrom_eq reportable, placesFrom_eq reportable', same]
  · rw [findManyCached_eq_findMany, findManyCached_eq_findMany]
    exact findMany_of_bytes_eq reportable same texts balance₁ balance₂
  · rw [findManyCached_eq_findMany]
    exact findMany_of_bytes_eq reportable same texts balance₁ balance₂

/-- **Settings do not change answers.** Scanners of the same bytes answer alike. A batch of
well-formed texts gives what the searches for its texts give, in whatever order its slots are
filled; any other batch is refused with the error of its first malformed text, and no work is done
for it, whatever the work is. Every scanner of these bytes is one of those that answer alike, with
or without a configuration; and a configuration with workers gives one if the workers can be
started. -/
theorem settings_change_no_answer (s₁ s₂ : Scanner) (reportable : s₂.region.Reportable)
    (same : s₁.region.bytes = s₂.region.bytes) :
    s₁.Alike s₂ ∧
    (∀ texts : List String, (∀ text ∈ texts, ∃ p, Pattern.parse text = .ok p) →
      ∃ patterns results, texts.map Pattern.parse = patterns.map .ok ∧
        texts.map s₁.find = results.map pure ∧
        (∀ balance, s₁.findMany texts balance = pure (results, batchLog patterns results)) ∧
        ∀ calls, (∀ call, call ∈ calls ↔ call ∈ patterns.zipIdx) →
          Dispatcher.fill s₁.search calls (Array.replicate patterns.length .notFound) =
            .ok results.toArray) ∧
    (∀ before bad after e, (∀ text ∈ before, ∃ p, Pattern.parse text = .ok p) →
      Pattern.parse bad = .error e →
        (∀ balance, s₁.findMany (before ++ bad :: after) balance = throw e) ∧
        ∀ (m : Type → Type) [Monad m] (work : List Pattern → m (List ScanResult)),
          inBatch (before ++ bad :: after) work = throw e) ∧
    ∀ region : Region, region.bytes = s₂.region.bytes →
      (ofRegion region).1.Alike s₂ ∧
      (∀ config s log, withConfig region config = .ok (s, log) → s.Alike s₂) ∧
      ∀ config : Config, config.workerThreads ≠ 0 → config.CanStart →
        ∃ s log, withConfig region config = .ok (s, log) ∧ s.Alike s₂ := by
  have reportable' := reportable_of_bytes_eq same reportable
  have alike {s : Scanner} {region : Region} (has : s.region = region)
      (same' : region.bytes = s₂.region.bytes) : s.Alike s₂ :=
    alike_of_bytes_eq reportable (has ▸ same')
  refine ⟨alike_of_bytes_eq reportable same, fun texts wellFormed => ?_,
    fun before bad after e wellFormed malformed => ?_, fun region same' => ⟨alike rfl same',
      fun config s log made => alike (of_withConfig made).1 same', fun config workers starts => ?_⟩⟩
  · obtain ⟨patterns, all⟩ := Pattern.exists_map_parse wellFormed
    refine ⟨patterns, patterns.map (s₁.answer · 0), all, map_find reportable' all,
      findMany_of_map reportable' all, fun calls exactly => ?_⟩
    exact Dispatcher.fill_eq_map s₁.search (search_eq_answer reportable') exactly
  · obtain ⟨patterns, all⟩ := Pattern.exists_map_parse wellFormed
    refine ⟨fun balance => ?_, fun m _ work => inBatch_of_malformed all malformed after work⟩
    rw [findMany, inBatch_of_malformed all malformed]
  · obtain ⟨s, log, made, has⟩ := withConfig_of_canStart workers starts region
    exact ⟨s, log, made, alike has same'⟩

end Machine

section Uniprocessor

attribute [local instance] Machine.uniprocessor

/-- Scanners of the same three bytes that differ in all settings, with a batch that they answer and
one that they refuse. -/
theorem settings_change_no_answer_of_three_bytes :
    ∃ s₁ s₂ : Scanner, s₁.region.bytes = #[0xAA, 0xBB, 0xCC] ∧
      s₂.region.bytes = #[0xAA, 0xBB, 0xCC] ∧
      s₁.region.kind ≠ s₂.region.kind ∧ s₁.algorithm ≠ s₂.algorithm ∧
      s₁.dispatcher ≠ s₂.dispatcher ∧ s₂.region.Reportable ∧ s₁.Alike s₂ ∧
      (∃ results log, ["BB ??", "bb ??"].map s₁.find = results.map pure ∧
        s₁.findMany ["BB ??", "bb ??"] true = pure (results, log)) ∧
      s₁.findMany ["BB", "AA B", "C"] false = throw (.invalidToken "B" 1) ∧
      ∃ s log, withConfig s₁.region { workerThreads := 4 } = .ok (s, log) ∧ s.Alike s₂ := by
  let s₁ : Scanner := ⟨⟨.owned, #[0xAA, 0xBB, 0xCC]⟩, .simple, .shared⟩
  let s₂ : Scanner := ⟨⟨.mapped, #[0xAA, 0xBB, 0xCC]⟩, .avx2, ⟨3, true⟩⟩
  have reportable : s₂.region.Reportable := by decide
  obtain ⟨alike, wellFormed, malformed, made⟩ := settings_change_no_answer s₁ s₂ reportable rfl
  refine ⟨s₁, s₂, rfl, rfl, by decide, by decide, by decide, reportable, alike, ?_, ?_, ?_⟩
  · obtain ⟨patterns, results, -, found, all, -⟩ := wellFormed ["BB ??", "bb ??"] (by
      intro text mem
      rw [List.mem_cons, List.mem_singleton] at mem
      rcases mem with rfl | rfl
      · exact ⟨_, rfl⟩
      · exact ⟨_, rfl⟩)
    exact ⟨results, _, found, all true⟩
  · exact (malformed ["BB"] "AA B" ["C"] (.invalidToken "B" 1) (by
      intro text mem
      obtain rfl := List.mem_singleton.1 mem
      exact ⟨_, rfl⟩) rfl).1 false
  · exact (made s₁.region rfl).2.2 { workerThreads := 4 } (by decide) fun _ => rfl

end Uniprocessor

end Scanner

end ByteScan
