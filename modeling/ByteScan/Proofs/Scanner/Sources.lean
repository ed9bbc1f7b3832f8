import ByteScan.Proofs.Scanner.Building

/-!
# Scanners of too many bytes

What a source asks for is known before its bytes are fetched, or at the latest when they are. A
source that asks for more bytes than there are offsets is refused with the number of bytes that it
asks for, on every way from a source to a scanner but one; none of the ways makes do with fewer
bytes. So the region of a scanner has no more bytes than its source asked for, and these were not
too many. The one way is a region that somebody else has put together: it is taken as it is.
-/

namespace ByteScan

/-! ### Regions -/

namespace Region

variable {kind : RegionKind} {bytes memory : Bytes} {reader : MemoryReader} {base : Address}
  {m : Module} {length : Nat} {region : Region}

theorem ofBytes_of_le (kind : RegionKind) (h : bytes.size ≤ ScanResult.maxOffset) :
    ofBytes kind bytes = .ok ⟨kind, bytes⟩ :=
  if_neg (Nat.not_lt.2 h)

theorem ofBytes_of_lt (kind : RegionKind) (h : ScanResult.maxOffset < bytes.size) :
    ofBytes kind bytes = .error (.tooLarge bytes.size) :=
  if_pos h

theorem ofMemory_of_le (memory : Bytes) (h : length ≤ ScanResult.maxOffset) :
    ofMemory memory length = .ok ⟨.borrowed, memory.extract 0 length⟩ :=
  if_neg (Nat.not_lt.2 h)

theorem ofMemory_of_lt (memory : Bytes) (h : ScanResult.maxOffset < length) :
    ofMemory memory length = .error (.tooLarge length) :=
  if_pos h

theorem ofReader_of_lt (reader : MemoryReader) (base : Address)
    (h : ScanResult.maxOffset < length) :
    ofReader reader base length = throw (.tooLarge length) := by
  have large : length > maxLength := h
  rw [ofReader, if_pos large]
  rfl

theorem ofModule_of_lt (reader : MemoryReader) (h : ScanResult.maxOffset < m.size.toNat) :
    ofModule reader m = throw (.tooLarge m.size.toNat) := by
  rw [ofModule]
  split
  · rw [ofMemory_of_lt _ h]
    rfl
  · exact ofReader_of_lt reader m.base h

/-! What a region is made of is not too much, and the region has no more. -/

theorem of_ofBytes (h : ofBytes kind bytes = .ok region) :
    bytes.size ≤ ScanResult.maxOffset ∧ region.bytes.size ≤ bytes.size := by
  rcases Nat.lt_or_ge ScanResult.maxOffset bytes.size with large | few
  · rw [ofBytes_of_lt kind large] at h
    cases h
  · rw [ofBytes_of_le kind few] at h
    cases h
    exact ⟨few, Nat.le_refl _⟩

theorem of_ofMemory (h : ofMemory memory length = .ok region) :
    length ≤ ScanResult.maxOffset ∧ region.bytes.size ≤ length := by
  rcases Nat.lt_or_ge ScanResult.maxOffset length with large | few
  · rw [ofMemory_of_lt memory large] at h
    cases h
  · rw [ofMemory_of_le memory few] at h
    cases h
    refine ⟨few, ?_⟩
    rw [Array.size_extract]
    omega

theorem of_ofReader (h : ofReader reader base length = pure region) :
    length ≤ ScanResult.maxOffset ∧ region.bytes.size ≤ length := by
  rcases Nat.lt_or_ge ScanResult.maxOffset length with large | few
  · rw [ofReader_of_lt reader base large] at h
    cases h
  · have small : ¬ length > maxLength := Nat.not_lt.2 few
    rw [ofReader, if_neg small] at h
    obtain ⟨bytes, -, copied⟩ := Attempt.exists_of_bind_eq_pure h
    refine ⟨few, ?_⟩
    split at copied
    · next whole =>
      cases copied
      exact Nat.le_of_eq whole
    · cases copied

theorem of_ofModule (h : ofModule reader m = pure region) :
    m.size.toNat ≤ ScanResult.maxOffset ∧ region.bytes.size ≤ m.size.toNat := by
  rw [ofModule] at h
  split at h
  · exact of_ofMemory (Attempt.ofExcept_eq_pure_iff.1 h)
  · exact of_ofReader h

end Region

/-! ### Sources -/

namespace Scanner

variable {source : Source} {n : Nat} {region : Region} {s : Scanner} {log : Log}

/-- How many bytes a source asks for. -/
def Source.length : Source → Attempt MemoryError Nat
  | given region => return region.bytes.size
  | buffer bytes => return bytes.size
  | slice bytes => return bytes.size
  | memory _ length => return length
  | file _ content => do return (← Attempt.ofExcept (content.mapError .unreadable)).size
  | module _ m => return m.size.toNat
  | copy _ _ length => return length
  | program running id name => do
    return (← (← Attempt.ofExcept (Program.attach running id)).findModule name).size.toNat

/-- A source that asks for too many bytes has no region, unless it is one. -/
theorem Source.region_of_lt (fetched : ∀ region, source ≠ .given region)
    (asks : source.length = pure n) (h : ScanResult.maxOffset < n) :
    source.region = throw (.tooLarge n) := by
  cases source with
  | given region => exact absurd rfl (fetched region)
  | buffer bytes =>
    cases asks
    rw [Source.region, Region.ofBytes_of_lt _ h]
    rfl
  | slice bytes =>
    cases asks
    rw [Source.region, Region.ofBytes_of_lt _ h]
    rfl
  | memory bytes length =>
    cases asks
    rw [Source.region, Region.ofMemory_of_lt _ h]
    rfl
  | file path content =>
    cases content with
    | error cause => cases asks
    | ok bytes =>
      cases asks
      have refused : Region.ofFile (.ok bytes) = .error (.tooLarge bytes.size) :=
        Region.ofBytes_of_lt .mapped h
      rw [Source.region, refused]
      rfl
  | module reader m =>
    cases asks
    rw [Source.region, Region.ofModule_of_lt reader h]
    rfl
  | copy reader base length =>
    cases asks
    rw [Source.region, Region.ofReader_of_lt reader base h]
    rfl
  | program running id name =>
    obtain ⟨program, attached, asks⟩ := Attempt.exists_of_bind_eq_pure asks
    obtain ⟨m, isModule, asks⟩ := Attempt.exists_of_bind_eq_pure asks
    cases asks
    rw [Source.region, attached, pure_bind, isModule, pure_bind, Region.ofReader_of_lt _ m.base h]
    rfl

/-- The region of a source has no more bytes than the source asks for, and these are not too many.
-/
theorem Source.length_of_region (fetched : ∀ region, source ≠ .given region)
    (h : source.region = pure (region, log)) :
    ∃ n ≤ ScanResult.maxOffset, source.length = pure n ∧ region.bytes.size ≤ n := by
  cases source with
  | given region => exact absurd rfl (fetched region)
  | buffer bytes =>
    obtain ⟨r, made, same⟩ := exists_of_bind_eq_ok (Attempt.ofExcept_eq_pure_iff.1 h)
    cases same
    exact ⟨_, (Region.of_ofBytes made).1, rfl, (Region.of_ofBytes made).2⟩
  | slice bytes =>
    obtain ⟨r, made, same⟩ := exists_of_bind_eq_ok (Attempt.ofExcept_eq_pure_iff.1 h)
    cases same
    exact ⟨_, (Region.of_ofBytes made).1, rfl, (Region.of_ofBytes made).2⟩
  | memory bytes length =>
    obtain ⟨r, made, same⟩ := exists_of_bind_eq_ok (Attempt.ofExcept_eq_pure_iff.1 h)
    cases same
    exact ⟨_, (Region.of_ofMemory made).1, rfl, (Region.of_ofMemory made).2⟩
  | file path content =>
    obtain ⟨r, made, same⟩ := exists_of_bind_eq_ok (Attempt.ofExcept_eq_pure_iff.1 h)
    cases same
    obtain ⟨bytes, read, made⟩ := exists_of_bind_eq_ok made
    refine ⟨_, (Region.of_ofBytes made).1, ?_, (Region.of_ofBytes made).2⟩
    rw [Source.length, read]
    rfl
  | module reader m =>
    obtain ⟨r, made, same⟩ := Attempt.exists_of_bind_eq_pure h
    cases same
    exact ⟨_, (Region.of_ofModule made).1, rfl, (Region.of_ofModule made).2⟩
  | copy reader base length =>
    obtain ⟨r, made, same⟩ := Attempt.exists_of_bind_eq_pure h
    cases same
    exact ⟨_, (Region.of_ofReader made).1, rfl, (Region.of_ofReader made).2⟩
  | program running id name =>
    obtain ⟨program, attached, h⟩ := Attempt.exists_of_bind_eq_pure h
    obtain ⟨m, isModule, h⟩ := Attempt.exists_of_bind_eq_pure h
    obtain ⟨r, made, same⟩ := Attempt.exists_of_bind_eq_pure h
    cases same
    refine ⟨_, (Region.of_ofReader made).1, ?_, (Region.of_ofReader made).2⟩
    rw [Source.length, attached, pure_bind, isModule]
    rfl

/-! ### Scanners -/

variable [Machine]

/-- A scanner is made of a source, with some settings or without. -/
def IsMadeOf (s : Scanner) (source : Source) : Prop :=
  ∃ log, ofSource source = pure (s, log) ∨ ∃ config, ofSourceWith config source = pure (s, log)

/-- The region of a scanner is that of its source. Whatever it is told, the machine can run its
algorithm, and it has a worker. -/
theorem IsMadeOf.of_source (h : s.IsMadeOf source) :
    (∃ log, source.region = pure (s.region, log)) ∧ s.algorithm.isSupported ∧
      s.dispatcher.workers ≠ 0 := by
  obtain ⟨log, made | ⟨config, made⟩⟩ := h
  · obtain ⟨⟨region, fetched⟩, has, made⟩ := Attempt.exists_of_bind_eq_pure made
    cases made
    exact ⟨⟨fetched, Attempt.eq_pure_of_mapError has⟩, (of_ofRegion region).2⟩
  · obtain ⟨⟨region, fetched⟩, has, made⟩ := Attempt.exists_of_bind_eq_pure made
    obtain ⟨⟨scanner, readyLog⟩, configured, made⟩ := Attempt.exists_of_bind_eq_pure made
    cases made
    obtain ⟨rfl, ready⟩ := of_withConfig (Attempt.ofExcept_eq_pure_iff.1 configured)
    exact ⟨⟨fetched, Attempt.eq_pure_of_mapError has⟩, ready⟩

theorem ofSource_of_lt (fetched : ∀ region, source ≠ .given region)
    (asks : source.length = pure n) (h : ScanResult.maxOffset < n) :
    ofSource source = throw (.memory (.tooLarge n)) := by
  rw [ofSource, Source.region_of_lt fetched asks h]
  rfl

theorem ofSourceWith_of_lt (fetched : ∀ region, source ≠ .given region)
    (asks : source.length = pure n) (h : ScanResult.maxOffset < n) (config : Config) :
    ofSourceWith config source = throw (.memory (.tooLarge n)) := by
  rw [ofSourceWith, Source.region_of_lt fetched asks h]
  rfl

/-- Bytes that are few enough have a scanner, and it searches all of them. -/
theorem ofSource_buffer {bytes : Bytes} (h : bytes.size ≤ ScanResult.maxOffset) :
    ∃ s log, ofSource (.buffer bytes) = pure (s, log) ∧ s.region.bytes = bytes := by
  rw [ofSource, Source.region, Region.ofBytes_of_le .owned h]
  exact ⟨_, _, rfl, rfl⟩

theorem ofSource_given (region : Region) :
    ∃ s log, ofSource (.given region) = pure (s, log) ∧ s.region = region :=
  ⟨_, _, rfl, rfl⟩

end Scanner

end ByteScan
