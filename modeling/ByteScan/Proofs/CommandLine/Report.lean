import ByteScan.CommandLine.Run
import ByteScan.Proofs.Scanner.Settings
import Mathlib.Data.List.Forall2

/-!
# What a report says

A run that searches either fails with the error of its first malformed pattern, or reports one row
for each pattern, in their order. The first match in a row comes from a search for the whole batch
and the list of all matches from one for the pattern alone; the two agree, because both are told by
the bytes and the tokens of the pattern. So the rows depend on the bytes, on the patterns and on
whether all matches are asked for, and on nothing else that the program is told.
-/

namespace ByteScan

variable {p : Pattern} {data : Bytes} {place : Nat}

/-- A pattern matches somewhere in the data. -/
def Pattern.OccursIn (p : Pattern) (data : Bytes) : Prop := ∃ place, p.MatchesAt data place

instance (p : Pattern) (data : Bytes) : Decidable (p.OccursIn data) :=
  decidable_of_iff (∃ place < data.size, p.MatchesAt data place)
    ⟨fun ⟨place, _, found⟩ => ⟨place, found⟩, fun ⟨place, found⟩ => ⟨place, found.lt_size, found⟩⟩

/-- A row tells of a pattern what there is to tell: its first match, and with it all matches if they
are asked for. -/
structure ReportRow.Tells (row : ReportRow) (p : Pattern) (data : Bytes) (all : Bool) : Prop where
  /-- The row has a match exactly if there is one. -/
  found_iff : row.result.found ↔ p.OccursIn data
  /-- It is the first one. -/
  isLeast : row.result.found →
    ∃ place, IsLeast {m | p.MatchesAt data m} place ∧ row.result.offset.toInt = place
  /-- Without a match the result is the one that stands for none. -/
  notFound : row.result.found = false → row.result = .notFound
  /-- There is a list of matches exactly if all are asked for and there is one. -/
  offsets_isSome_iff : row.offsets.isSome ↔ all ∧ row.result.found
  /-- The list begins with the first match. -/
  head : ∀ offsets ∈ row.offsets, ∃ first others, offsets = first :: others ∧
    row.result.offset.toInt = first
  /-- The list ascends. -/
  ascending : ∀ offsets ∈ row.offsets, offsets.Pairwise (· < ·)
  /-- The list has all matches and nothing else. -/
  complete : ∀ offsets ∈ row.offsets, ∀ m, m ∈ offsets ↔ p.MatchesAt data m

namespace CommandLine

open Scanner (matchesFrom matchesFrom_eq_cons mem_matchesFrom_iff pairwise_matchesFrom)

variable {s : Scanner} {a : Arguments} {c : Config} {text : String} {texts before : List String}
  {patterns : List Pattern} {bad : String} {e : PatternError} {all : Bool}

/-- The row of a pattern that was read from a text. -/
def rowOf (s : Scanner) (all : Bool) (text : String) (p : Pattern) : ReportRow where
  pattern := text
  result := s.answer p 0
  offsets := if all && (s.answer p 0).found then some (matchesFrom p s.region.bytes 0) else none

/-! ### A row -/

theorem isLeast_of_firstMatch (h : p.firstMatchFrom? data 0 = some place) :
    IsLeast {m | p.MatchesAt data m} place := by
  obtain ⟨⟨-, found⟩, least⟩ := Pattern.firstMatchFrom?_eq_some_iff.1 h
  exact ⟨found, fun m matched => least ⟨Nat.zero_le m, matched⟩⟩

theorem rowOf_of_some (h : p.firstMatchFrom? s.region.bytes 0 = some place) (all : Bool)
    (text : String) :
    rowOf s all text p = ⟨text, ⟨true, Int32.ofNat place⟩,
      if all then some (place :: matchesFrom p s.region.bytes (place + 1)) else none⟩ := by
  have found : s.answer p 0 = ⟨true, Int32.ofNat place⟩ := by rw [Scanner.answer, h]
  rw [rowOf, found, matchesFrom_eq_cons h, Bool.and_true]

theorem rowOf_of_none (h : p.firstMatchFrom? s.region.bytes 0 = none) (all : Bool)
    (text : String) : rowOf s all text p = ⟨text, .notFound, none⟩ := by
  have absent : s.answer p 0 = .notFound := by rw [Scanner.answer, h]
  rw [rowOf, absent, ScanResult.notFound, Bool.and_false]
  rfl

/-- The first match of the batch and the list of all matches fit together. -/
theorem tells_rowOf (reportable : s.region.Reportable) (all : Bool) (text : String) (p : Pattern) :
    (rowOf s all text p).Tells p s.region.bytes all := by
  cases first : p.firstMatchFrom? s.region.bytes 0 with
  | none =>
    have absent := Pattern.firstMatchFrom?_eq_none_iff.1 first
    have occursNot : ¬ p.OccursIn s.region.bytes := fun ⟨m, found⟩ => absent m (Nat.zero_le m) found
    rw [rowOf_of_none first]
    exact ⟨iff_of_false nofun occursNot, nofun, fun _ => rfl, iff_of_false nofun nofun, nofun,
      nofun, nofun⟩
  | some place =>
    have least := isLeast_of_firstMatch first
    have held : (Int32.ofNat place).toInt = place :=
      ScanResult.toInt_ofNat (reportable.place_le_maxOffset first)
    have listed := matchesFrom_eq_cons first
    rw [rowOf_of_some first, ← listed]
    cases all with
    | false =>
      exact ⟨iff_of_true rfl ⟨place, least.1⟩, fun _ => ⟨place, least, held⟩, nofun,
        iff_of_false nofun nofun, nofun, nofun, nofun⟩
    | true =>
      refine ⟨iff_of_true rfl ⟨place, least.1⟩, fun _ => ⟨place, least, held⟩, nofun,
        iff_of_true rfl ⟨rfl, rfl⟩, ?_, ?_, ?_⟩
      · rintro _ ⟨⟩
        exact ⟨place, _, listed, held⟩
      · rintro _ ⟨⟩
        exact pairwise_matchesFrom p _ 0
      · rintro _ ⟨⟩ m
        exact (mem_matchesFrom_iff m).trans (and_iff_right (Nat.zero_le m))

/-! ### All rows -/

theorem map_pattern_rows (h : texts.map Pattern.parse = patterns.map .ok) (s : Scanner)
    (all : Bool) : (List.zipWith (rowOf s all) texts patterns).map (·.pattern) = texts := by
  induction texts generalizing patterns with
  | nil => rfl
  | cons text texts ih =>
    cases patterns with
    | nil => cases h
    | cons p patterns => exact congrArg (text :: ·) (ih (List.cons.inj h).2)

theorem tells_rows (reportable : s.region.Reportable)
    (h : texts.map Pattern.parse = patterns.map .ok) (all : Bool) :
    List.Forall₂ (fun p row => row.Tells p s.region.bytes all) patterns
      (List.zipWith (rowOf s all) texts patterns) := by
  induction texts generalizing patterns with
  | nil =>
    obtain rfl := List.map_eq_nil_iff.1 h.symm
    exact .nil
  | cons text texts ih =>
    cases patterns with
    | nil => cases h
    | cons p patterns => exact .cons (tells_rowOf reportable all text p) (ih (List.cons.inj h).2)

theorem countP_found {rows : List ReportRow}
    (h : List.Forall₂ (fun p row => ReportRow.Tells row p data all) patterns rows) :
    rows.countP (·.result.found) = patterns.countP fun p => p.OccursIn data := by
  induction h with
  | nil => rfl
  | @cons p row _ _ tells _ ih =>
    have same : row.result.found = decide (p.OccursIn data) :=
      Bool.eq_iff_iff.2 (tells.found_iff.trans decide_eq_true_iff.symm)
    rw [List.countP_cons, List.countP_cons, ih, same]

theorem rowOf_of_bytes_eq {s s' : Scanner} (same : s'.region.bytes = s.region.bytes) (all : Bool) :
    rowOf s' all = rowOf s all := by
  funext text p
  rw [rowOf, rowOf, Scanner.answer_of_bytes_eq same, same]

section Machine

variable [Machine]

theorem findAll_of_parse (reportable : s.region.Reportable) (h : Pattern.parse text = .ok p) :
    s.findAll text = pure (matchesFrom p s.region.bytes 0) := by
  rw [Scanner.findAll, h, Attempt.ofExcept_ok_bind,
    Attempt.liftM_eq_pure (Scanner.placesFrom_eq reportable p 0)]

/-- No row is lost, and each is built from what the batch says of its own pattern. -/
theorem buildRows_eq (reportable : s.region.Reportable)
    (h : texts.map Pattern.parse = patterns.map .ok) (all : Bool) :
    buildRows s all texts (patterns.map (s.answer · 0)) =
      pure (List.zipWith (rowOf s all) texts patterns) := by
  induction texts generalizing patterns with
  | nil => rfl
  | cons text texts ih =>
    cases patterns with
    | nil => cases h
    | cons p patterns =>
      obtain ⟨first, rest⟩ := List.cons.inj h
      rw [List.map_cons, buildRows, ih rest, findAll_of_parse reportable first,
        List.zipWith_cons_cons, rowOf]
      split <;> rfl

/-! ### A run -/

theorem scan_of_map (reportable : s.region.Reportable)
    (h : a.patterns.map Pattern.parse = patterns.map .ok) (c : Config) :
    scan s a c = pure (⟨a.file, s.region.bytes.size, s.algorithm, s.dispatcher.workers, .none,
      List.zipWith (rowOf s a.all) a.patterns patterns⟩,
      Scanner.batchLog patterns (patterns.map (s.answer · 0))) := by
  rw [scan, Scanner.findManyCached_eq_findMany, ite_self, Scanner.findMany_of_map reportable h,
    pure_bind]
  simp only [buildRows_eq reportable h]
  rfl

theorem scan_of_malformed (h : before.map Pattern.parse = patterns.map .ok)
    (malformed : Pattern.parse bad = .error e) {after : List String}
    (given : a.patterns = before ++ bad :: after) (s : Scanner) (c : Config) :
    scan s a c = throw e := by
  rw [scan, Scanner.findManyCached_eq_findMany, ite_self, given, Scanner.findMany,
    Scanner.inBatch_of_malformed h malformed]
  rfl

/-- The rows, or the error, are the same for all scanners of the same bytes and all settings. -/
theorem rows_of_bytes_eq {s s' : Scanner} {a a' : Arguments} (reportable : s.region.Reportable)
    (same : s'.region.bytes = s.region.bytes) (given : a'.patterns = a.patterns)
    (asked : a'.all = a.all) (c c' : Config) :
    (·.1.rows) <$> scan s' a' c' = (·.1.rows) <$> scan s a c := by
  rcases Pattern.wellFormed_or_malformed a.patterns with
    ⟨patterns, wellFormed⟩ | ⟨before, bad, after, e, split, malformed, patterns, wellFormed⟩
  · have reportable' := Scanner.reportable_of_bytes_eq same reportable
    rw [scan_of_map reportable wellFormed, scan_of_map reportable' (given ▸ wellFormed), given,
      asked, rowOf_of_bytes_eq same]
    rfl
  · rw [scan_of_malformed wellFormed malformed split,
      scan_of_malformed wellFormed malformed (given.trans split)]

/-- A run fails with the error of its first malformed pattern, or reports a row for each pattern, in
their order and as they were given, that tells of it what there is to tell; the rows with a match
are as many as the patterns that occur. Another run with the same bytes and patterns that asks for
all matches if this one does has the same rows or the same error, whatever else it is told. -/
theorem scan_reports_each_pattern (s : Scanner) (reportable : s.region.Reportable) (a : Arguments)
    (c : Config) :
    ((∃ before bad after e, a.patterns = before ++ bad :: after ∧
        (∀ text ∈ before, ∃ p, Pattern.parse text = .ok p) ∧ Pattern.parse bad = .error e ∧
        scan s a c = throw e) ∨
      ∃ patterns report log, a.patterns.map Pattern.parse = patterns.map .ok ∧
        scan s a c = pure (report, log) ∧ report.rows.map (·.pattern) = a.patterns ∧
        List.Forall₂ (fun p row => row.Tells p s.region.bytes a.all) patterns report.rows ∧
        report.foundCount = patterns.countP fun p => p.OccursIn s.region.bytes) ∧
    ∀ (s' : Scanner) (a' : Arguments) (c' : Config), s'.region.bytes = s.region.bytes →
      a'.patterns = a.patterns → a'.all = a.all →
      (·.1.rows) <$> scan s' a' c' = (·.1.rows) <$> scan s a c := by
  refine ⟨?_, fun s' a' c' same given asked => rows_of_bytes_eq reportable same given asked c c'⟩
  rcases Pattern.wellFormed_or_malformed a.patterns with
    ⟨patterns, wellFormed⟩ | ⟨before, bad, after, e, split, malformed, patterns, wellFormed⟩
  · have tells := tells_rows reportable wellFormed a.all
    exact .inr ⟨patterns, _, _, wellFormed, scan_of_map reportable wellFormed c,
      map_pattern_rows wellFormed s a.all, tells, countP_found tells⟩
  · have readable : ∀ text ∈ before, ∃ p, Pattern.parse text = .ok p := by
      intro text mem
      have read : Pattern.parse text ∈ patterns.map .ok :=
        wellFormed ▸ List.mem_map_of_mem mem
      obtain ⟨p, -, parsed⟩ := List.mem_map.1 read
      exact ⟨p, parsed.symm⟩
    exact .inl ⟨before, bad, after, e, split, readable, malformed,
      scan_of_malformed wellFormed malformed split s c⟩

end Machine

section Uniprocessor

attribute [local instance] Machine.uniprocessor

/-- Four rows for a pattern in two spellings, one that does not occur, and a repetition, with all
matches asked for; the same rows from another scanner of the bytes that is told to use a cache; and
a refusal. -/
theorem scan_reports_each_pattern_of_repeated :
    ∃ (s s' : Scanner) (a a' : Arguments) (c c' : Config) (report : Report) (log : Log),
      s.region.bytes = #[0xAB, 0xAB, 0x00] ∧ s.region.Reportable ∧
      s'.region.bytes = s.region.bytes ∧ s'.algorithm ≠ s.algorithm ∧ s'.dispatcher ≠ s.dispatcher ∧
      a.patterns = ["AB", "ab", "CD", "AB"] ∧ a.all = true ∧ c.cacheDuplicates = false ∧
      c'.cacheDuplicates = true ∧
      scan s a c = pure (report, log) ∧ report.rows.map (·.pattern) = ["AB", "ab", "CD", "AB"] ∧
      report.foundCount = 3 ∧ (·.1.rows) <$> scan s' a c' = pure report.rows ∧
      a'.patterns = ["AB", "AB G", "?"] ∧ scan s a' c = throw (.invalidToken "G" 1) := by
  let s : Scanner := ⟨⟨.owned, #[0xAB, 0xAB, 0x00]⟩, .simple, .shared⟩
  let s' : Scanner := ⟨⟨.mapped, #[0xAB, 0xAB, 0x00]⟩, .avx2, ⟨3, true⟩⟩
  have reportable : s.region.Reportable := by decide
  let a : Arguments := { file := "data", patterns := ["AB", "ab", "CD", "AB"], all := true }
  let a' : Arguments := { file := "data", patterns := ["AB", "AB G", "?"] }
  let c : Config := default
  let c' : Config := { workerThreads := 3, cacheDuplicates := true }
  let read : List Pattern := [⟨"AB", [.byte 0xAB], by decide⟩, ⟨"ab", [.byte 0xAB], by decide⟩,
    ⟨"CD", [.byte 0xCD], by decide⟩, ⟨"AB", [.byte 0xAB], by decide⟩]
  have wellFormed : a.patterns.map Pattern.parse = read.map .ok := rfl
  obtain ⟨outcome, same⟩ := scan_reports_each_pattern s reportable a c
  obtain ⟨before, bad, after, e, split, -, malformed, -⟩ |
    ⟨patterns, report, log, parsed, reported, inOrder, -, count⟩ := outcome
  · have mem : Except.error e ∈ read.map .ok := by
      rw [← wellFormed, split, ← malformed]
      exact List.mem_map_of_mem (List.mem_append_right before List.mem_cons_self)
    simp at mem
  · obtain rfl : patterns = read :=
      List.map_injective_iff.2 (fun _ _ => Except.ok.inj) (parsed.symm.trans wellFormed)
    have three : (read.countP fun p => p.OccursIn s.region.bytes) = 3 := by decide
    have rows : (·.1.rows) <$> scan s' a c' = (·.1.rows) <$> scan s a c := same s' a c' rfl rfl rfl
    rw [reported] at rows
    have first : ["AB"].map Pattern.parse = (read.take 1).map .ok := rfl
    have malformed : Pattern.parse "AB G" = .error (.invalidToken "G" 1) := rfl
    have refused : scan s a' c = throw (.invalidToken "G" 1) :=
      scan_of_malformed first malformed rfl s c
    exact ⟨s, s', a, a', c, c', report, log, rfl, reportable, rfl, by decide, by decide, rfl, rfl,
      rfl, rfl, reported, inOrder, count.trans three, rows, rfl, refused⟩

end Uniprocessor

end CommandLine

end ByteScan
