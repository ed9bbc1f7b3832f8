import ByteScan.Cache

/-!
# What a cache keeps

A cache answers with what was stored first. An entry, once it is there, is neither replaced nor
removed by storing something else, and storing gives back what is in the cache afterwards.
-/

namespace ByteScan.Cache

variable {c : Cache} {text other key : String} {r stored : ScanResult}

/-- Looking up a text finds the one entry under its capital letters. -/
theorem get?_eq_some_iff : c.get? text = some r ↔ (Text.asciiUpper text, r) ∈ c.entries := by
  obtain ⟨entries, nodup⟩ := c
  rw [get?]
  induction entries with
  | nil => constructor <;> intro h <;> cases h
  | cons entry entries ih =>
    obtain ⟨key, value⟩ := entry
    rw [List.map_cons, List.nodup_cons] at nodup
    have below := ih nodup.2
    rw [List.mem_cons, Prod.mk.injEq, List.lookup_cons]
    cases same : Text.asciiUpper text == key with
    | true =>
      have same := beq_iff_eq.1 same
      have absent : (Text.asciiUpper text, r) ∉ entries := fun mem =>
        nodup.1 (same ▸ List.mem_map.2 ⟨_, mem, rfl⟩)
      rw [or_iff_left absent, and_iff_right same]
      exact ⟨fun h => (Option.some.inj h).symm, fun h => congrArg some h.symm⟩
    | false =>
      rw [beq_eq_false_iff_ne] at same
      rw [or_iff_right (fun h => same h.1)]
      exact below

/-- The texts that have an entry, in capital letters. -/
def keys (c : Cache) : List String := c.entries.map Prod.fst

theorem mem_keys_iff : key ∈ c.keys ↔ ∃ r, (key, r) ∈ c.entries := by
  rw [keys, List.mem_map]
  constructor
  · rintro ⟨⟨_, r⟩, mem, rfl⟩
    exact ⟨r, mem⟩
  · rintro ⟨r, mem⟩
    exact ⟨(key, r), mem, rfl⟩

theorem mem_keys_of_get? (h : c.get? text = some r) : Text.asciiUpper text ∈ c.keys :=
  mem_keys_iff.2 ⟨r, get?_eq_some_iff.1 h⟩

theorem insertIfAbsent_of_some (h : c.get? text = some stored) (r : ScanResult) :
    c.insertIfAbsent text r = (stored, c) := by
  rw [insertIfAbsent]
  split
  · rename_i found
    rw [h] at found
    rw [Option.some.inj found]
  · rename_i missing
    rw [h] at missing
    cases missing

theorem insertIfAbsent_of_none (h : c.get? text = none) (r : ScanResult) :
    (c.insertIfAbsent text r).1 = r ∧
      (c.insertIfAbsent text r).2.entries = (Text.asciiUpper text, r) :: c.entries := by
  rw [insertIfAbsent]
  split
  · rename_i found
    rw [h] at found
    cases found
  · exact ⟨rfl, rfl⟩

/-- An entry is one that was there, or the one that is stored now. -/
theorem mem_insertIfAbsent {entry : String × ScanResult}
    (h : entry ∈ (c.insertIfAbsent text r).2.entries) :
    entry ∈ c.entries ∨ entry = (Text.asciiUpper text, r) := by
  cases found : c.get? text with
  | some stored =>
    rw [insertIfAbsent_of_some found] at h
    exact .inl h
  | none =>
    rw [(insertIfAbsent_of_none found r).2] at h
    exact (List.mem_cons.1 h).symm

theorem mem_insertIfAbsent_of_mem {entry : String × ScanResult} (h : entry ∈ c.entries)
    (text : String) (r : ScanResult) : entry ∈ (c.insertIfAbsent text r).2.entries := by
  cases found : c.get? text with
  | some stored => rwa [insertIfAbsent_of_some found]
  | none =>
    rw [(insertIfAbsent_of_none found r).2]
    exact List.mem_cons_of_mem _ h

theorem get?_insertIfAbsent (c : Cache) (text : String) (r : ScanResult) :
    (c.insertIfAbsent text r).2.get? text = some (c.insertIfAbsent text r).1 := by
  cases found : c.get? text with
  | some stored => rw [insertIfAbsent_of_some found, found]
  | none =>
    obtain ⟨value, entries⟩ := insertIfAbsent_of_none found r
    rw [get?_eq_some_iff, value, entries]
    exact List.mem_cons_self

theorem get?_congr (h : Text.asciiUpper text = Text.asciiUpper other) :
    c.get? text = c.get? other := by
  rw [get?, get?, h]

/-- What storing under one text changes for another: all texts with the same capital letters find
what is stored, and no other text finds anything new. -/
theorem get?_insertIfAbsent_eq_ite (c : Cache) (text other : String) (r : ScanResult) :
    (c.insertIfAbsent text r).2.get? other =
      if Text.asciiUpper text = Text.asciiUpper other then some (c.insertIfAbsent text r).1
      else c.get? other := by
  split
  · rename_i same
    rw [← get?_congr same, get?_insertIfAbsent]
  · rename_i differ
    cases found : c.get? text with
    | some stored => rw [insertIfAbsent_of_some found]
    | none =>
      have passed : (Text.asciiUpper other == Text.asciiUpper text) = false :=
        beq_eq_false_iff_ne.2 (Ne.symm differ)
      rw [get?, (insertIfAbsent_of_none found r).2, List.lookup_cons, passed]
      rfl

theorem mem_keys_insertIfAbsent_iff :
    key ∈ (c.insertIfAbsent text r).2.keys ↔ key ∈ c.keys ∨ key = Text.asciiUpper text := by
  constructor
  · intro mem
    obtain ⟨value, mem⟩ := mem_keys_iff.1 mem
    rcases mem_insertIfAbsent mem with old | new
    · exact .inl (mem_keys_iff.2 ⟨value, old⟩)
    · exact .inr (congrArg Prod.fst new)
  · rintro (old | rfl)
    · obtain ⟨value, mem⟩ := mem_keys_iff.1 old
      exact mem_keys_iff.2 ⟨value, mem_insertIfAbsent_of_mem mem text r⟩
    · exact mem_keys_of_get? (get?_insertIfAbsent c text r)

end ByteScan.Cache
