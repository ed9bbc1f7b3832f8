import ByteScan.Proofs.Scanner.Settings
import ByteScan.Proofs.Scanner.Sources
import Mathlib.Data.List.Forall2

/-!
# Calls on a scanner

A scanner can be called any number of times, with any texts, from any place on, with any algorithm.
As long as each place in its region can be reported no call faults: it is refused, with the error of
its first malformed text, or it gives a reply that fits into the region. A result that fits either
tells of no match, with the offset -1, or of a match at an offset that leaves room for the pattern,
and then its position is this offset. In a longer region there is a match that cannot be reported,
and a call that finds it.

`Call` has a case for each operation. What one call gives is `call_answered`; a run of calls goes
call by call.
-/

namespace ByteScan

/-! ### Results that fit -/

/-- A result tells that there is no match, or where a match of a pattern of so many tokens lies in
so many bytes. -/
def ScanResult.FitsIn (r : ScanResult) (length size : Nat) : Prop :=
  (r.found = false ∧ r.offset = -1 ∧ r.position = none) ∨
    (r.found = true ∧ 0 ≤ r.offset.toInt ∧ r.offset.toInt + length ≤ size ∧
      ∃ place, r.position = some place ∧ (place.toNat : Int) = r.offset.toInt)

namespace Scanner

theorem answer_fitsIn {s : Scanner} (reportable : s.region.Reportable) (p : Pattern) (start : Nat) :
    (s.answer p start).FitsIn p.length s.region.bytes.size := by
  rw [answer]
  cases found : p.firstMatchFrom? s.region.bytes start with
  | none => exact .inl ⟨rfl, rfl, rfl⟩
  | some place =>
    have fits := reportable.place_le_maxOffset found
    have held := ScanResult.toInt_ofNat fits
    have room := (Pattern.firstMatchFrom?_eq_some_iff.1 found).1.2.1
    refine .inr ⟨rfl, ?_, ?_, _, rfl, ?_⟩
    · rw [held]
      exact Int.natCast_nonneg place
    · rw [held]
      exact_mod_cast room
    · rw [ScanResult.offsetWord_ofNat fits, held]

/-! ### Calls -/

/-- A call of one of the searches. -/
inductive Call where
  /-- The first match. -/
  | find (text : String)
  /-- The first match from a place on. -/
  | findFrom (text : String) (start : Nat)
  /-- The first match, by a certain algorithm. -/
  | findWith (text : String) (a : Algorithm)
  /-- All matches. -/
  | findAll (text : String)
  /-- The first match of each text. -/
  | findMany (texts : List String) (loadBalance : Bool)
  /-- The first match of each text, with a cache. -/
  | findManyCached (texts : List String) (loadBalance : Bool)

/-- The texts of a call. -/
def Call.texts : Call → List String
  | find text | findFrom text _ | findWith text _ | findAll text => [text]
  | findMany texts _ | findManyCached texts _ => texts

/-- What a call gives. -/
inductive Reply where
  /-- One result. -/
  | result (r : ScanResult)
  /-- The places of matches. -/
  | places (places : List Nat)
  /-- The results of a batch. -/
  | results (results : List ScanResult)

/-- Makes a call. -/
def call [Machine] (s : Scanner) : Call → Attempt PatternError Reply
  | .find text => .result <$> s.find text
  | .findFrom text start => .result <$> s.findFrom text start
  | .findWith text a => .result <$> s.findWith text a
  | .findAll text => .places <$> s.findAll text
  | .findMany texts loadBalance => (.results ·.1) <$> s.findMany texts loadBalance
  | .findManyCached texts loadBalance => (.results ·.1) <$> s.findManyCached texts loadBalance

/-- A reply to a call with the given patterns fits into so many bytes. -/
inductive Reply.FitsIn (size : Nat) : List Pattern → Reply → Prop where
  /-- The result of a single search. -/
  | result {p : Pattern} {r : ScanResult} (fits : r.FitsIn p.length size) :
      FitsIn size [p] (.result r)
  /-- Places that leave room for the pattern. -/
  | places {p : Pattern} {places : List Nat} (fits : ∀ x ∈ places, x + p.length ≤ size) :
      FitsIn size [p] (.places places)
  /-- A result for each pattern of a batch. -/
  | results {patterns : List Pattern} {results : List ScanResult}
      (fits : List.Forall₂ (fun p r => r.FitsIn p.length size) patterns results) :
      FitsIn size patterns (.results results)

/-- What a call with the given texts may come to: the refusal of the first malformed text, or a
reply that fits. -/
def Proper (s : Scanner) (texts : List String) : Except PatternError Reply → Prop
  | .error e => Pattern.parseAll texts = .error e
  | .ok reply => ∃ patterns, Pattern.parseAll texts = .ok patterns ∧
      reply.FitsIn s.region.bytes.size patterns

/-- A computation that does not fault and comes to what a call with the given texts may come to. -/
def Answered (s : Scanner) (texts : List String) (x : Attempt PatternError Reply) : Prop :=
  ∃ outcome, x.run = .ok outcome ∧ s.Proper texts outcome

variable {s : Scanner} {texts : List String} {patterns : List Pattern} {e : PatternError}

theorem answered_throw (malformed : Pattern.parseAll texts = .error e) :
    s.Answered texts (throw e) :=
  ⟨.error e, rfl, malformed⟩

theorem answered_pure {reply : Reply} (read : Pattern.parseAll texts = .ok patterns)
    (fits : reply.FitsIn s.region.bytes.size patterns) : s.Answered texts (pure reply) :=
  ⟨.ok reply, rfl, patterns, read, fits⟩

theorem answered_of_text {α : Type} {work : Pattern → Except Fault α} {f : α → Reply}
    (works : ∀ p, ∃ a, work p = .ok a ∧ (f a).FitsIn s.region.bytes.size [p]) (text : String) :
    s.Answered [text] (f <$> (do work (← Attempt.ofExcept (Pattern.parse text)))) := by
  cases read : Pattern.parse text with
  | error e =>
    have nothing : ([] : List String).map Pattern.parse = ([] : List Pattern).map .ok := rfl
    have malformed : Pattern.parseAll [text] = .error e :=
      Pattern.parseAll_of_malformed nothing read []
    exact answered_throw malformed
  | ok p =>
    have wellFormed : Pattern.parseAll [text] = .ok [p] :=
      Pattern.parseAll_of_map (congrArg (fun x => [x]) read)
    obtain ⟨a, worked, fits⟩ := works p
    rw [Attempt.ofExcept_ok_bind, Attempt.liftM_eq_pure worked, map_pure]
    exact answered_pure wellFormed fits

/-- The pattern of any one byte. -/
def anyByte : Pattern := ⟨"??", [.wildcard], List.cons_ne_nil _ _⟩

theorem parse_anyByte : Pattern.parse "??" = .ok anyByte := rfl

theorem firstMatchFrom?_anyByte {data : Bytes} {place : Nat} (h : place < data.size) :
    anyByte.firstMatchFrom? data place = some place := by
  refine Pattern.firstMatchFrom?_eq_some_iff.2 ⟨⟨Nat.le_refl _,
    Nat.succ_le_of_lt h, ?_⟩, fun m => And.left⟩
  have inside : place < data.toList.length := by rwa [Array.length_toList]
  rw [List.drop_eq_getElem_cons inside]
  rfl

section Machine

variable [Machine]

/-- A batch gives a result that fits for each of its texts, or is refused. -/
theorem answered_findMany (reportable : s.region.Reportable) (texts : List String)
    (loadBalance : Bool) : s.Answered texts ((.results ·.1) <$> s.findMany texts loadBalance) := by
  rcases Pattern.wellFormed_or_malformed texts with
    ⟨patterns, all⟩ | ⟨before, bad, after, e, rfl, malformed, patterns, all⟩
  · have fits : List.Forall₂ (fun p r => r.FitsIn p.length s.region.bytes.size) patterns
        (patterns.map (s.answer · 0)) := by
      rw [List.forall₂_map_right_iff, List.forall₂_same]
      exact fun p _ => answer_fitsIn reportable p 0
    rw [findMany_of_map reportable all, map_pure]
    exact answered_pure (Pattern.parseAll_of_map all) (.results fits)
  · rw [findMany, inBatch_of_malformed all malformed]
    exact answered_throw (Pattern.parseAll_of_malformed all malformed after)

/-- No call faults, and each comes to what it may come to. -/
theorem call_answered (reportable : s.region.Reportable) (c : Call) :
    s.Answered c.texts (s.call c) := by
  cases c with
  | find text =>
    refine answered_of_text (fun p => ?_) text
    exact ⟨_, search_eq_answer reportable p, .result (answer_fitsIn reportable p 0)⟩
  | findFrom text start =>
    refine answered_of_text (fun p => ?_) text
    exact ⟨_, findFrom_eq_answer reportable s.algorithm p start,
      .result (answer_fitsIn reportable p start)⟩
  | findWith text a =>
    refine answered_of_text (fun p => ?_) text
    exact ⟨_, find_eq_answer reportable a.resolve p, .result (answer_fitsIn reportable p 0)⟩
  | findAll text =>
    refine answered_of_text (fun p => ?_) text
    exact ⟨_, placesFrom_eq reportable p 0,
      .places fun x hx => ((mem_matchesFrom_iff x).1 hx).2.1⟩
  | findMany texts loadBalance => exact answered_findMany reportable texts loadBalance
  | findManyCached texts loadBalance =>
    rw [call, findManyCached_eq_findMany]
    exact answered_findMany reportable texts loadBalance

/-- The calls of a run are answered one after the other. -/
theorem calls_answered (reportable : s.region.Reportable) (calls : List Call) :
    ∃ outcomes, calls.mapM (fun c => (s.call c).run) = .ok outcomes ∧
      List.Forall₂ (fun c outcome => s.Proper c.texts outcome) calls outcomes := by
  induction calls with
  | nil => exact ⟨[], rfl, .nil⟩
  | cons c calls ih =>
    obtain ⟨outcome, called, proper⟩ := call_answered reportable c
    obtain ⟨outcomes, rest, others⟩ := ih
    refine ⟨outcome :: outcomes, ?_, .cons proper others⟩
    rw [List.mapM_cons, called, ok_bind, rest]
    rfl

/-! ### Regions that are too long -/

/-- In a longer region the place behind the largest offset is a match that cannot be reported. -/
theorem findFrom_anyByte (large : 0x80000000 < s.region.bytes.size)
    (fits : s.region.bytes.size ≤ Bytes.maxSize) :
    (s.findFrom "??" 0x80000000).run = .error .offsetTooLarge := by
  have tooLarge : ScanResult.foundAt 0x80000000 = .error .offsetTooLarge := rfl
  rw [findFrom, parse_anyByte, Attempt.ofExcept_ok_bind, Algorithm.findFrom_eq _ _ _ fits,
    firstMatchFrom?_anyByte large, ScanResult.ofPlace, tooLarge]
  rfl

/-- **Calls are safe exactly as long as each place can be reported.** A source that asks for more
bytes than there are offsets has no scanner, with settings or without, and the region of a scanner
that is made of a source has no more bytes than the source asks for; bytes that are no more than
there are offsets have a scanner, which searches all of them. But a region that is given has a
scanner however long it is. On a scanner no batch is cut into empty pieces. If the region fits into
memory and has at most one byte more than the largest offset tells, then no run of calls faults:
each of them is refused for its first malformed text or gives a reply that fits into the region. If
it has more bytes then some run of calls faults. -/
theorem calls_are_safe_iff :
    (∀ (source : Source) (n : Nat), (∀ region, source ≠ .given region) → source.length = pure n →
      0x7FFFFFFF < n → ofSource source = throw (.memory (.tooLarge n)) ∧
        ∀ config, ofSourceWith config source = throw (.memory (.tooLarge n))) ∧
    (∀ (s : Scanner) (source : Source), (∀ region, source ≠ .given region) → s.IsMadeOf source →
      ∃ n ≤ 0x7FFFFFFF, source.length = pure n ∧ s.region.bytes.size ≤ n) ∧
    (∀ bytes : Bytes, bytes.size ≤ 0x7FFFFFFF →
      ∃ s log, ofSource (.buffer bytes) = pure (s, log) ∧ s.region.bytes = bytes) ∧
    (∀ region : Region, ∃ s log, ofSource (.given region) = pure (s, log) ∧ s.region = region) ∧
    ∀ s : Scanner,
      (∀ loadBalance count, count ≠ 0 → s.dispatcher.pieceLength loadBalance count ≠ 0) ∧
      (s.region.bytes.size ≤ Bytes.maxSize → (s.region.bytes.size ≤ 0x80000000 ↔
        ∀ calls : List Call, ∃ outcomes, calls.mapM (fun c => (s.call c).run) = .ok outcomes ∧
          List.Forall₂ (fun c outcome => s.Proper c.texts outcome) calls outcomes)) := by
  refine ⟨fun source n fetched asks large => ?_, fun s source fetched made => ?_,
    fun bytes few => ofSource_buffer few, ofSource_given,
    fun s => ⟨fun loadBalance count some => ?_, fun fits => ⟨calls_answered, ?_⟩⟩⟩
  · exact ⟨ofSource_of_lt fetched asks large, ofSourceWith_of_lt fetched asks large⟩
  · obtain ⟨⟨log, has⟩, -⟩ := made.of_source
    exact Source.length_of_region fetched has
  · exact Dispatcher.pieceLength_ne_zero some s.dispatcher loadBalance
  · intro safe
    refine Nat.le_of_not_lt fun large => ?_
    obtain ⟨outcomes, ran, -⟩ := safe [.findFrom "??" 0x80000000]
    have faulted : (s.call (.findFrom "??" 0x80000000)).run = .error .offsetTooLarge := by
      have found := findFrom_anyByte large fits
      rw [call, ExceptT.run_map, found]
      rfl
    rw [List.mapM_cons, faulted] at ran
    cases ran

end Machine

section Uniprocessor

attribute [local instance] Machine.uniprocessor

/-- One byte more than there are offsets is refused. On two bytes three calls go well, one of them
from the last word on and one with a malformed text. -/
theorem calls_are_safe_iff_on_two_bytes :
    (Source.length (.memory #[] 0x80000000) = pure 0x80000000 ∧ 0x7FFFFFFF < 0x80000000 ∧
      ofSource (.memory #[] 0x80000000) = throw (.memory (.tooLarge 0x80000000))) ∧
    (#[0xAA, 0xBB] : Bytes).size ≤ 0x7FFFFFFF ∧
    ∃ (s : Scanner) (outcomes : List (Except PatternError Reply)),
      s.IsMadeOf (.buffer #[0xAA, 0xBB]) ∧ s.region.bytes = #[0xAA, 0xBB] ∧
      (∃ n ≤ 0x7FFFFFFF, Source.length (.buffer #[0xAA, 0xBB]) = pure n ∧ s.region.bytes.size ≤ n) ∧
      s.dispatcher.pieceLength false 2 ≠ 0 ∧
      [Call.findFrom "AA" 0xFFFFFFFFFFFFFFFF, .findAll "?? BB", .findMany ["BB", "B"] true].mapM
        (fun c => (s.call c).run) = .ok outcomes ∧ outcomes.length = 3 := by
  obtain ⟨refused, measured, made, -, safe⟩ := calls_are_safe_iff
  have few : (#[0xAA, 0xBB] : Bytes).size ≤ 0x7FFFFFFF := by decide
  obtain ⟨s, log, isMade, bytes⟩ := made _ few
  have isMadeOf : s.IsMadeOf (.buffer #[0xAA, 0xBB]) := ⟨log, .inl isMade⟩
  obtain ⟨pieces, calls⟩ := safe s
  have reportable : s.region.bytes.size ≤ 0x80000000 := by
    rw [bytes]
    decide
  obtain ⟨outcomes, ran, proper⟩ := (calls (Nat.le_trans reportable (by decide))).1 reportable
    [.findFrom "AA" 0xFFFFFFFFFFFFFFFF, .findAll "?? BB", .findMany ["BB", "B"] true]
  have tooMany := refused (.memory #[] 0x80000000) _ (fun _ => nofun) rfl (by decide)
  exact ⟨⟨rfl, by decide, tooMany.1⟩, few, s, outcomes, isMadeOf, bytes,
    measured s (.buffer _) (fun _ => nofun) isMadeOf, pieces false 2 (by decide), ran,
    proper.length_eq.symm⟩

/-- A given region that is one byte too long is not refused, and a search for any one byte, from the
last place on, faults. -/
theorem given_region_faults :
    ∃ (region : Region) (s : Scanner) (log : Log),
      region = ⟨.borrowed, Array.replicate 0x80000001 0⟩ ∧
      ofSource (.given region) = pure (s, log) ∧ ¬ s.region.bytes.size ≤ 0x7FFFFFFF ∧
      (s.findFrom "??" 0x80000000).run = .error .offsetTooLarge := by
  let region : Region := ⟨.borrowed, Array.replicate 0x80000001 0⟩
  obtain ⟨s, log, made, has⟩ := ofSource_given region
  have size : s.region.bytes.size = 0x80000001 := by
    rw [has]
    exact Array.size_replicate
  refine ⟨region, s, log, rfl, made, by omega, findFrom_anyByte ?_ ?_⟩ <;> rw [size] <;> decide

end Uniprocessor

end Scanner

end ByteScan
