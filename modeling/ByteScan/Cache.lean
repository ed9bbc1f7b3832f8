import ByteScan.ScanResult
import ByteScan.Text.Pieces

/-!
# A cache of results

Results of finished searches under the text of their pattern. Texts that differ only in the case of
letters of ASCII share one entry, and the first result that is stored in an entry stays there until
the cache is cleared.
-/

namespace ByteScan

/-- Results of searches under texts in capital letters. -/
structure Cache where
  /-- The entries, the latest first. -/
  entries : List (String × ScanResult)
  /-- No text has two entries. -/
  keys_nodup : (entries.map Prod.fst).Nodup

namespace Cache

/-- A cache without entries. -/
def empty : Cache := ⟨[], List.nodup_nil⟩

/-- What is left of a cache that is cleared. -/
def clear (_ : Cache) : Cache := empty

/-- How many entries there are. -/
def size (c : Cache) : Nat := c.entries.length

/-- The result that is stored for a text. -/
def get? (c : Cache) (text : String) : Option ScanResult := c.entries.lookup (Text.asciiUpper text)

/-- A text without a stored result is the key of no entry. -/
theorem not_mem_keys_of_get?_eq_none {c : Cache} {text : String} (h : c.get? text = none) :
    Text.asciiUpper text ∉ c.entries.map Prod.fst := by
  intro mem
  obtain ⟨entry, entry_mem, entry_key⟩ := List.mem_map.1 mem
  have := List.lookup_eq_none_iff.1 h entry entry_mem
  simp_all

/-- Stores a result for a text that has none, and gives the result that is stored afterwards. -/
def insertIfAbsent (c : Cache) (text : String) (r : ScanResult) : ScanResult × Cache :=
  match h : c.get? text with
  | some stored => (stored, c)
  | none =>
    (r, ⟨(Text.asciiUpper text, r) :: c.entries,
      List.nodup_cons.2 ⟨not_mem_keys_of_get?_eq_none h, c.keys_nodup⟩⟩)

/-- The result that is stored for a text. If there is none, it is searched for and stored. -/
def getOrSearch {m : Type → Type} [Monad m] (c : Cache) (text : String) (search : m ScanResult) :
    m (ScanResult × Cache) :=
  match c.get? text with
  | some stored => pure (stored, c)
  | none => return c.insertIfAbsent text (← search)

end Cache

end ByteScan
