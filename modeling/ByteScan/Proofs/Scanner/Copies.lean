import ByteScan.Proofs.Config
import ByteScan.Proofs.Scanner.Settings
import ByteScan.Proofs.Scanner.Sources

/-!
# Copies of the memory of another program

Nothing is promised about a reader of another program, so a copy is made only of an answer with as
many bytes as were asked for. Shorter and longer answers are refused alike, and so is whatever the
reader refuses itself; where too much is asked for the reader is not even asked. On the way from a
module to a scanner this stays so: a scanner has the whole copy or there is none, and the settings
are looked at last. They are the only thing that can go wrong then, if the machine can start the
workers that they ask for.
-/

namespace ByteScan

variable {ε α : Type} {answer : Address → Nat → Except MemoryError Bytes} {base : Address}
  {length : Nat} {bytes : Bytes} {reader : MemoryReader} {m : Module} {e : MemoryError}

/-- Bytes are a copy of a piece of memory: not too much is asked for, and the answer is as long as
that. -/
structure IsCopy (answer : Address → Nat → Except MemoryError Bytes) (base : Address) (length : Nat)
    (bytes : Bytes) : Prop where
  /-- Each place can be reported. -/
  fits : length ≤ ScanResult.maxOffset
  /-- The bytes are what the reader answers. -/
  answered : answer base length = .ok bytes
  /-- They are neither fewer nor more than asked for. -/
  whole : bytes.size = length

/-- Why there is no copy of a piece of memory. -/
inductive IsNoCopy (answer : Address → Nat → Except MemoryError Bytes) (base : Address)
    (length : Nat) : MemoryError → Prop where
  /-- Too much is asked for. -/
  | tooLarge : ScanResult.maxOffset < length → IsNoCopy answer base length (.tooLarge length)
  /-- The reader refuses. -/
  | refused {e : MemoryError} : length ≤ ScanResult.maxOffset → answer base length = .error e →
      IsNoCopy answer base length e
  /-- The answer is too short or too long. -/
  | partialRead {bytes : Bytes} : length ≤ ScanResult.maxOffset → answer base length = .ok bytes →
      bytes.size ≠ length → IsNoCopy answer base length (.partialRead base length bytes.size)

theorem exists_isCopy_or_isNoCopy (answer : Address → Nat → Except MemoryError Bytes)
    (base : Address) (length : Nat) :
    (∃ bytes, IsCopy answer base length bytes) ∨ ∃ e, IsNoCopy answer base length e := by
  rcases Nat.lt_or_ge ScanResult.maxOffset length with large | fits
  · exact .inr ⟨_, .tooLarge large⟩
  · cases answered : answer base length with
    | error e => exact .inr ⟨e, .refused fits answered⟩
    | ok bytes =>
      by_cases whole : bytes.size = length
      · exact .inl ⟨bytes, fits, answered, whole⟩
      · exact .inr ⟨_, .partialRead fits answered whole⟩

/-! ### All or nothing -/

/-- An attempt at a region gives all of the bytes that are wanted, as its own, or the error that
tells why there are none. -/
structure AllOrNothing (attempt : Attempt ε α) (region : α → Region) (wanted : Bytes → Prop)
    (refusal : ε → Prop) : Prop where
  /-- It does not fault. -/
  ends : (∃ a, attempt = pure a) ∨ ∃ e, attempt = throw e
  /-- It succeeds exactly if there are such bytes. -/
  succeeds_iff : (∃ a, attempt = pure a) ↔ ∃ bytes, wanted bytes
  /-- The bytes of the region are the ones that are wanted. -/
  wanted : ∀ a, attempt = pure a → wanted (region a).bytes
  /-- The bytes belong to the region. -/
  owned : ∀ a, attempt = pure a → (region a).kind = .owned
  /-- The error tells why it does not succeed. -/
  refused_iff : ∀ e, attempt = throw e ↔ refusal e

/-- Where there are bytes or a reason for none, and the attempt goes accordingly, nothing else can
happen. -/
theorem AllOrNothing.intro {attempt : Attempt ε α} {region : α → Region} {wanted : Bytes → Prop}
    {refusal : ε → Prop} (decided : (∃ bytes, wanted bytes) ∨ ∃ e, refusal e)
    (succeeds : ∀ bytes, wanted bytes →
      ∃ a, attempt = pure a ∧ (region a).kind = .owned ∧ (region a).bytes = bytes)
    (fails : ∀ e, refusal e → attempt = throw e) : AllOrNothing attempt region wanted refusal := by
  rcases decided with ⟨bytes, isWanted⟩ | ⟨e, isRefusal⟩
  · obtain ⟨a, made, owned, rfl⟩ := succeeds bytes isWanted
    refine ⟨.inl ⟨a, made⟩, iff_of_true ⟨a, made⟩ ⟨_, isWanted⟩, ?_, ?_, ?_⟩
    · intro a' made'
      cases made.symm.trans made'
      exact isWanted
    · intro a' made'
      cases made.symm.trans made'
      exact owned
    · refine fun e => ⟨fun failed => ?_, fails e⟩
      cases made.symm.trans failed
  · have failed := fails e isRefusal
    have noneMade : ∀ a, attempt ≠ pure a := by
      intro a made
      cases made.symm.trans failed
    refine ⟨.inr ⟨e, failed⟩, iff_of_false (fun ⟨a, made⟩ => noneMade a made) ?_,
      fun a made => absurd made (noneMade a), fun a made => absurd made (noneMade a),
      fun e' => ⟨fun failed' => ?_, fails e'⟩⟩
    · rintro ⟨bytes, isWanted⟩
      obtain ⟨a, made, -⟩ := succeeds bytes isWanted
      exact noneMade a made
    · cases failed.symm.trans failed'
      exact isRefusal

/-! ### Regions -/

/-- Where not too much is asked for, the reader is asked once, and its answer is all there is to
look at. -/
theorem ofReader_of_le (reader : MemoryReader) (base : Address)
    (fits : length ≤ ScanResult.maxOffset) :
    Region.ofReader reader base length = reader.read base length >>= fun bytes =>
      if bytes.size = length then pure ⟨.owned, bytes⟩
      else throw (.partialRead base length bytes.size) := by
  have small : ¬ length > Region.maxLength := Nat.not_lt.2 fits
  rw [Region.ofReader, if_neg small]

section Regions

variable (answers : ∀ base length, reader.read base length = Attempt.ofExcept (answer base length))

include answers

theorem ofReader_of_isCopy (h : IsCopy answer base length bytes) :
    Region.ofReader reader base length = pure ⟨.owned, bytes⟩ := by
  rw [ofReader_of_le reader base h.fits, answers, h.answered, Attempt.ofExcept_ok_bind,
    if_pos h.whole]

theorem ofReader_of_isNoCopy (h : IsNoCopy answer base length e) :
    Region.ofReader reader base length = throw e := by
  cases h with
  | tooLarge large => exact Region.ofReader_of_lt reader base large
  | refused fits refused =>
    rw [ofReader_of_le reader base fits, answers, refused, Attempt.ofExcept_error_bind]
  | partialRead fits answered notWhole =>
    rw [ofReader_of_le reader base fits, answers, answered, Attempt.ofExcept_ok_bind,
      if_neg notWhole]

theorem allOrNothing_ofReader (base : Address) (length : Nat) :
    AllOrNothing (Region.ofReader reader base length) id (IsCopy answer base length)
      (IsNoCopy answer base length) :=
  .intro (exists_isCopy_or_isNoCopy answer base length)
    (fun _ isCopy => ⟨_, ofReader_of_isCopy answers isCopy, rfl, rfl⟩)
    fun _ isNoCopy => ofReader_of_isNoCopy answers isNoCopy

end Regions

/-! ### Scanners -/

namespace Scanner

variable {s : Scanner} {config : Config}

theorem ofModule_eq_ofReader (elsewhere : reader.isCurrent = false) (m : Module) :
    Region.ofModule reader m = Region.ofReader reader m.base m.size.toNat := by
  rw [Region.ofModule, elsewhere]
  rfl

section Modules

variable [Machine] (elsewhere : reader.isCurrent = false)
  (answers : ∀ base length, reader.read base length = Attempt.ofExcept (answer base length))

include elsewhere answers

omit [Machine] in
theorem region_of_isCopy (h : IsCopy answer m.base m.size.toNat bytes) :
    (Source.module reader m).region = pure (⟨.owned, bytes⟩, []) := by
  rw [Source.region, ofModule_eq_ofReader elsewhere, ofReader_of_isCopy answers h]
  rfl

omit [Machine] in
theorem region_of_isNoCopy (h : IsNoCopy answer m.base m.size.toNat e) :
    (Source.module reader m).region = throw e := by
  rw [Source.region, ofModule_eq_ofReader elsewhere, ofReader_of_isNoCopy answers h]
  rfl

/-- Without settings a module has a scanner exactly if it has a copy. -/
theorem allOrNothing_ofSource (m : Module) :
    AllOrNothing (ofSource (.module reader m)) (·.1.region) (IsCopy answer m.base m.size.toNat)
      (fun e => ∃ cause, IsNoCopy answer m.base m.size.toNat cause ∧ e = .memory cause) := by
  refine .intro ?_ ?_ ?_
  · exact (exists_isCopy_or_isNoCopy answer m.base m.size.toNat).imp_right
      fun ⟨e, isNoCopy⟩ => ⟨_, e, isNoCopy, rfl⟩
  · intro bytes isCopy
    rw [ofSource, region_of_isCopy elsewhere answers isCopy]
    exact ⟨_, rfl, rfl, rfl⟩
  · rintro _ ⟨e, isNoCopy, rfl⟩
    rw [ofSource, region_of_isNoCopy elsewhere answers isNoCopy]
    rfl

/-- Where there is a copy the settings decide. -/
theorem ofSourceWith_of_isCopy (h : IsCopy answer m.base m.size.toNat bytes) (config : Config) :
    ofSourceWith config (.module reader m) =
      Attempt.ofExcept (withConfig ⟨.owned, bytes⟩ config) := by
  rw [ofSourceWith, region_of_isCopy elsewhere answers h]
  change Attempt.ofExcept (withConfig ⟨.owned, bytes⟩ config) >>= _ = _
  cases withConfig ⟨.owned, bytes⟩ config <;> rfl

theorem ofSourceWith_of_isNoCopy (h : IsNoCopy answer m.base m.size.toNat e) (config : Config) :
    ofSourceWith config (.module reader m) = throw (.memory e) := by
  rw [ofSourceWith, region_of_isNoCopy elsewhere answers h]
  rfl

/-- With settings it has one exactly if the settings are valid too, as long as the workers of valid
settings can be started. -/
theorem allOrNothing_ofSourceWith (m : Module)
    (starts : config.validate = .ok () → config.CanStart) :
    AllOrNothing (ofSourceWith config (.module reader m)) (·.1.region)
      (fun bytes => IsCopy answer m.base m.size.toNat bytes ∧ config.validate = .ok ())
      (fun e => (∃ cause, IsNoCopy answer m.base m.size.toNat cause ∧ e = .memory cause) ∨
        (∃ bytes, IsCopy answer m.base m.size.toNat bytes) ∧ config.validate = .error .noWorkers ∧
          e = .config .noWorkers) := by
  refine .intro ?_ ?_ ?_
  · rcases exists_isCopy_or_isNoCopy answer m.base m.size.toNat with ⟨bytes, isCopy⟩ | ⟨e, isNoCopy⟩
    · by_cases workers : config.workerThreads = 0
      · exact .inr ⟨_, .inr ⟨⟨bytes, isCopy⟩, if_pos workers, rfl⟩⟩
      · exact .inl ⟨bytes, isCopy, if_neg workers⟩
    · exact .inr ⟨_, .inl ⟨e, isNoCopy, rfl⟩⟩
  · rintro bytes ⟨isCopy, valid⟩
    have workers : config.workerThreads ≠ 0 := (Config.validate_eq_ok_iff config).1 valid
    obtain ⟨s, log, made, same⟩ := withConfig_of_canStart workers (starts valid) ⟨.owned, bytes⟩
    rw [ofSourceWith_of_isCopy elsewhere answers isCopy, made]
    exact ⟨(s, log), rfl, congrArg Region.kind same, congrArg Region.bytes same⟩
  · rintro _ (⟨e, isNoCopy, rfl⟩ | ⟨⟨bytes, isCopy⟩, invalid, rfl⟩)
    · exact ofSourceWith_of_isNoCopy elsewhere answers isNoCopy config
    · have none : config.workerThreads = 0 := by
        rw [Config.validate] at invalid
        split at invalid
        · assumption
        · cases invalid
      rw [ofSourceWith_of_isCopy elsewhere answers isCopy, withConfig_of_invalid none]
      rfl

/-- Workers that cannot be started are looked at last, and then it has none. -/
theorem allOrNothing_ofSourceWith_of_failed {cause : WorkersError} (m : Module)
    (valid : config.validate = .ok ()) (needed : config.needsDedicatedPool = true)
    (failed : Machine.startWorkers (max config.workerThreads.toNat 1) = .error cause) :
    AllOrNothing (ofSourceWith config (.module reader m)) (·.1.region) (fun _ => False)
      (fun e => (∃ cause, IsNoCopy answer m.base m.size.toNat cause ∧ e = .memory cause) ∨
        (∃ bytes, IsCopy answer m.base m.size.toNat bytes) ∧ e = .workers cause) := by
  have workers : config.workerThreads ≠ 0 := (Config.validate_eq_ok_iff config).1 valid
  refine .intro (.inr ?_) (fun _ => False.elim) ?_
  · rcases exists_isCopy_or_isNoCopy answer m.base m.size.toNat with ⟨bytes, isCopy⟩ | ⟨e, isNoCopy⟩
    · exact ⟨_, .inr ⟨⟨bytes, isCopy⟩, rfl⟩⟩
    · exact ⟨_, .inl ⟨e, isNoCopy, rfl⟩⟩
  · rintro _ (⟨e, isNoCopy, rfl⟩ | ⟨⟨bytes, isCopy⟩, rfl⟩)
    · exact ofSourceWith_of_isNoCopy elsewhere answers isNoCopy config
    · rw [ofSourceWith_of_isCopy elsewhere answers isCopy,
        withConfig_of_failed workers needed failed]
      rfl

/-- A scanner answers as one of the bytes of its reader in a buffer does. -/
theorem exists_alike_of_buffer (made : s.IsMadeOf (.module reader m))
    (answered : answer m.base m.size.toNat = .ok bytes) :
    ∃ s' log, ofSource (.buffer bytes) = pure (s', log) ∧ s.Alike s' := by
  obtain ⟨⟨log, fetched⟩, -⟩ := made.of_source
  rcases exists_isCopy_or_isNoCopy answer m.base m.size.toNat with ⟨copy, isCopy⟩ | ⟨e, isNoCopy⟩
  · rw [region_of_isCopy elsewhere answers isCopy] at fetched
    obtain rfl : copy = bytes := Except.ok.inj (isCopy.answered.symm.trans answered)
    have region : s.region = ⟨.owned, copy⟩ :=
      (congrArg Prod.fst (Except.ok.inj (Except.ok.inj fetched))).symm
    have held : s.region.bytes = copy := congrArg Region.bytes region
    have fits : copy.size ≤ ScanResult.maxOffset := isCopy.whole ▸ isCopy.fits
    obtain ⟨s', log', buffered, same⟩ := ofSource_buffer fits
    have reportable : s'.region.Reportable := by
      rw [Region.Reportable, same]
      exact Nat.le_succ_of_le fits
    exact ⟨s', log', buffered, alike_of_bytes_eq reportable (held.trans same.symm)⟩
  · rw [region_of_isNoCopy elsewhere answers isNoCopy] at fetched
    cases fetched

end Modules

/-- **No partial copies.** Of another program, whose reader may answer anything, there are regions
and scanners of whole copies only: a region exactly if not too much is asked for and the answer has
exactly as many bytes; then these are its bytes, and a scanner of it answers as one of the same
bytes in a buffer. Else the error is that too much is asked for, or the error of the reader, or that
the read is partial, with both numbers of bytes; and a scanner with settings is refused for them
only where there is a copy. Here the machine is relied on to start the workers of valid settings;
where it does not, there is no scanner, and this is the error unless there is no copy. Where too
much is asked for this is so whatever the reader is, even if it faults on every read, so no read is
made. -/
theorem copies_are_whole [Machine] (elsewhere : reader.isCurrent = false)
    (answers : ∀ base length, reader.read base length = Attempt.ofExcept (answer base length)) :
    (∀ base length, AllOrNothing (Region.ofReader reader base length) id (IsCopy answer base length)
      (IsNoCopy answer base length)) ∧
    (∀ m : Module,
      AllOrNothing (Region.ofModule reader m) id (IsCopy answer m.base m.size.toNat)
        (IsNoCopy answer m.base m.size.toNat) ∧
      AllOrNothing (ofSource (.module reader m)) (·.1.region) (IsCopy answer m.base m.size.toNat)
        (fun e => ∃ cause, IsNoCopy answer m.base m.size.toNat cause ∧ e = .memory cause) ∧
      (∀ config : Config, (config.validate = .ok () → config.CanStart) →
        AllOrNothing (ofSourceWith config (.module reader m)) (·.1.region)
          (fun bytes => IsCopy answer m.base m.size.toNat bytes ∧ config.validate = .ok ())
          (fun e => (∃ cause, IsNoCopy answer m.base m.size.toNat cause ∧ e = .memory cause) ∨
            (∃ bytes, IsCopy answer m.base m.size.toNat bytes) ∧
              config.validate = .error .noWorkers ∧ e = .config .noWorkers)) ∧
      (∀ (config : Config) (cause : WorkersError), config.validate = .ok () →
        config.needsDedicatedPool = true →
        Machine.startWorkers (max config.workerThreads.toNat 1) = .error cause →
          AllOrNothing (ofSourceWith config (.module reader m)) (·.1.region) (fun _ => False)
            (fun e => (∃ cause, IsNoCopy answer m.base m.size.toNat cause ∧ e = .memory cause) ∨
              (∃ bytes, IsCopy answer m.base m.size.toNat bytes) ∧ e = .workers cause)) ∧
      ∀ (s : Scanner) (bytes : Bytes), s.IsMadeOf (.module reader m) →
        answer m.base m.size.toNat = .ok bytes →
          ∃ s' log, ofSource (.buffer bytes) = pure (s', log) ∧ s.Alike s') ∧
    ∀ other : MemoryReader, other.isCurrent = false →
      (∀ base length, ScanResult.maxOffset < length →
        Region.ofReader other base length = throw (.tooLarge length)) ∧
      ∀ m : Module, ScanResult.maxOffset < m.size.toNat →
        Region.ofModule other m = throw (.tooLarge m.size.toNat) ∧
        ofSource (.module other m) = throw (.memory (.tooLarge m.size.toNat)) ∧
        ∀ config,
          ofSourceWith config (.module other m) = throw (.memory (.tooLarge m.size.toNat)) := by
  refine ⟨allOrNothing_ofReader answers, fun m => ⟨?_, allOrNothing_ofSource elsewhere answers m,
    fun config => allOrNothing_ofSourceWith elsewhere answers m,
    fun config cause => allOrNothing_ofSourceWith_of_failed elsewhere answers m,
    fun s bytes made => exists_alike_of_buffer elsewhere answers made⟩, fun other _ => ⟨?_, ?_⟩⟩
  · rw [ofModule_eq_ofReader elsewhere]
    exact allOrNothing_ofReader answers m.base m.size.toNat
  · exact fun base length large => Region.ofReader_of_lt other base large
  · exact fun m large => ⟨Region.ofModule_of_lt other large,
      ofSource_of_lt (fun _ => nofun) rfl large, ofSourceWith_of_lt (fun _ => nofun) rfl large⟩

/-- A reader that answers with two bytes, whatever it is asked for, or refuses, on a machine that
starts no more than four workers. Only a module of two bytes has scanners; one byte and three bytes
have none, and the settings do not show there. -/
theorem copies_are_whole_of_two_bytes :
    ∃ (machine : Machine) (reader : MemoryReader) (image : UInt64 → Module),
      (∀ n, machine.startWorkers n = .ok () ↔ n ≤ 4) ∧
      (∀ size, (image size).base = ⟨0x1000⟩) ∧ (∀ size, (image size).size = size) ∧
      (∃ s log, ofSource (.module reader (image 2)) = pure (s, log) ∧ s.region.kind = .owned ∧
        s.region.bytes = #[0xAA, 0xBB]) ∧
      (∃ s log, ofSourceWith { workerThreads := 4 } (.module reader (image 2)) = pure (s, log) ∧
        s.region.bytes = #[0xAA, 0xBB]) ∧
      ofSourceWith { workerThreads := 0 } (.module reader (image 2)) = throw (.config .noWorkers) ∧
      ofSourceWith { workerThreads := 5 } (.module reader (image 2)) =
        throw (.workers ⟨"Resource temporarily unavailable (os error 11)", []⟩) ∧
      ofSource (.module reader (image 3)) = throw (.memory (.partialRead ⟨0x1000⟩ 3 2)) ∧
      ofSourceWith { workerThreads := 0 } (.module reader (image 1)) =
        throw (.memory (.partialRead ⟨0x1000⟩ 1 2)) ∧
      Region.ofReader reader ⟨0⟩ 2 = throw (.readFailed ⟨0⟩ 2 .badAddress) ∧
      Region.ofReader reader ⟨0⟩ 0x80000000 = throw (.tooLarge 0x80000000) := by
  let refusal : WorkersError := ⟨"Resource temporarily unavailable (os error 11)", []⟩
  let machine : Machine := { Machine.uniprocessor with
    startWorkers := fun n => if n ≤ 4 then .ok () else .error refusal }
  let answer : Address → Nat → Except MemoryError Bytes := fun a n =>
    if a.value = 0 then .error (.readFailed a n .badAddress) else .ok #[0xAA, 0xBB]
  let reader : MemoryReader := ⟨false, fun a n => Attempt.ofExcept (answer a n), fun _ => #[]⟩
  let image (size : UInt64) : Module := ⟨"lib.so", "/lib.so", ⟨0x1000⟩, size⟩
  have atMostFour (n : Nat) : machine.startWorkers n = .ok () ↔ n ≤ 4 := by
    change (if n ≤ 4 then Except.ok () else .error refusal) = .ok () ↔ _
    split <;> simp [*]
  have answers : ∀ base length, reader.read base length = Attempt.ofExcept (answer base length) :=
    fun _ _ => rfl
  obtain ⟨regions, modules, -⟩ := copies_are_whole rfl answers
  have answered : ∀ n, answer ⟨0x1000⟩ n = .ok #[0xAA, 0xBB] := fun _ => rfl
  have two : IsCopy answer ⟨0x1000⟩ 2 #[0xAA, 0xBB] := ⟨by decide, answered 2, rfl⟩
  have three : IsNoCopy answer ⟨0x1000⟩ 3 (.partialRead ⟨0x1000⟩ 3 2) :=
    .partialRead (by decide) (answered 3) (by decide)
  have one : IsNoCopy answer ⟨0x1000⟩ 1 (.partialRead ⟨0x1000⟩ 1 2) :=
    .partialRead (by decide) (answered 1) (by decide)
  have four (_ : Config.validate { workerThreads := 4 } = .ok ()) :
      Config.CanStart { workerThreads := 4 } := fun _ => rfl
  have none : Config.validate { workerThreads := 0 } = .ok () →
      Config.CanStart { workerThreads := 0 } := nofun
  obtain ⟨-, ofTwo, ofTwoWith, failed, -⟩ := modules (image 2)
  obtain ⟨⟨s, log⟩, made⟩ := ofTwo.succeeds_iff.2 ⟨_, two⟩
  obtain ⟨⟨s', log'⟩, madeWith⟩ := (ofTwoWith _ four).succeeds_iff.2 ⟨_, two, rfl⟩
  have bytes := Except.ok.inj ((ofTwo.wanted _ made).answered.symm.trans (answered 2))
  have bytes' :=
    Except.ok.inj (((ofTwoWith _ four).wanted _ madeWith).1.answered.symm.trans (answered 2))
  obtain ⟨-, ofThree, -⟩ := modules (image 3)
  obtain ⟨-, -, ofOneWith, -⟩ := modules (image 1)
  exact ⟨machine, reader, image, atMostFour, fun _ => rfl, fun _ => rfl,
    ⟨s, log, made, ofTwo.owned _ made, bytes⟩, ⟨s', log', madeWith, bytes'⟩,
    ((ofTwoWith _ none).refused_iff _).2 (.inr ⟨⟨_, two⟩, rfl, rfl⟩),
    ((failed { workerThreads := 5 } refusal rfl rfl rfl).refused_iff _).2 (.inr ⟨⟨_, two⟩, rfl⟩),
    (ofThree.refused_iff _).2 ⟨_, three, rfl⟩,
    ((ofOneWith _ none).refused_iff _).2 (.inl ⟨_, one, rfl⟩),
    ((regions _ _).refused_iff _).2 (.refused (by decide) rfl),
    ((regions _ _).refused_iff _).2 (.tooLarge (by decide))⟩

end Scanner

end ByteScan
