import ByteScan.Proofs.Cache
import Mathlib.Data.Finset.Card
import Mathlib.Data.List.DropRight
import Mathlib.Data.List.Forall2

/-!
# A cache and its history

What a cache answers can be read off the operations that were carried out on it. Only the stores
since the last time it was cleared count, and of those under one key only the first one: it is what
every later operation under this key gives back (`get?_after`). A key is a text with the small
letters of ASCII made capital, and nothing else changed. A search is made exactly where the cache
has nothing to give, and there are as many entries as there are different keys among the stores
(`size_after`).
-/

namespace ByteScan

/-! ### Capital letters -/

namespace Text

/-- The small letters of ASCII. -/
def smallLetters : List Char := "abcdefghijklmnopqrstuvwxyz".toList

/-- The capital letters of ASCII, in the same order. -/
def capitalLetters : List Char := "ABCDEFGHIJKLMNOPQRSTUVWXYZ".toList

/-- What becomes of a character: a small letter of ASCII becomes the capital letter at its place,
and every other character stays. -/
def MadeCapital (c d : Char) : Prop :=
  (∃ i : Nat, smallLetters[i]? = some c ∧ capitalLetters[i]? = some d) ∨ (c ∉ smallLetters ∧ d = c)

theorem map_toUpper_smallLetters : smallLetters.map Char.toUpper = capitalLetters := by decide

theorem smallLetters_eq_map_range :
    smallLetters = (List.range 26).map fun i => Char.ofNat (97 + i) := by decide

theorem mem_smallLetters_of_toNat {c : Char} (low : 97 ≤ c.toNat) (high : c.toNat ≤ 122) :
    c ∈ smallLetters := by
  rw [smallLetters_eq_map_range, List.mem_map]
  refine ⟨c.toNat - 97, List.mem_range.2 (by omega), ?_⟩
  rw [Nat.add_sub_cancel' low, Char.ofNat_toNat]

theorem madeCapital_toUpper (c : Char) : MadeCapital c c.toUpper := by
  by_cases small : c ∈ smallLetters
  · obtain ⟨i, here⟩ := List.mem_iff_getElem?.1 small
    refine .inl ⟨i, here, ?_⟩
    rw [← map_toUpper_smallLetters, List.getElem?_map, here, Option.map_some]
  · have out : ¬ (97 ≤ c.val ∧ c.val ≤ 122) := by
      rw [UInt32.le_iff_toNat_le, UInt32.le_iff_toNat_le]
      exact fun ⟨low, high⟩ => small (mem_smallLetters_of_toNat low high)
    exact .inr ⟨small, dif_neg out⟩

theorem forall₂_madeCapital (text : String) :
    List.Forall₂ MadeCapital text.toList (asciiUpper text).toList := by
  rw [asciiUpper, String.toList_ofList, List.forall₂_map_right_iff, List.forall₂_same]
  exact fun c _ => madeCapital_toUpper c

end Text

/-! ### Operations -/

namespace Cache

/-- What can be done with a cache. -/
inductive Op where
  /-- Asks for the result that is stored for a text. -/
  | get (text : String)
  /-- Stores a result for a text that has none. -/
  | insert (text : String) (r : ScanResult)
  /-- Asks for the result that is stored for a text, and searches for it if there is none. The
  search would give `r`. -/
  | getOrSearch (text : String) (r : ScanResult)
  /-- Drops all entries. -/
  | clear

/-- What an operation gives back, and how many searches it makes. -/
structure Answer where
  /-- The result that it gives back. -/
  value : Option ScanResult
  /-- How often it searches. -/
  searches : Nat
  deriving DecidableEq, Repr

namespace Op

/-- A search that gives `r`, and is counted. -/
def counted (r : ScanResult) : StateM Nat ScanResult := do
  modify (· + 1)
  return r

/-- Carries an operation out: what it answers, and what is in the cache then. -/
def perform (c : Cache) : Op → Answer × Cache
  | get text => (⟨c.get? text, 0⟩, c)
  | insert text r => (⟨some (c.insertIfAbsent text r).1, 0⟩, (c.insertIfAbsent text r).2)
  | getOrSearch text r =>
    let ((value, c'), searches) := (c.getOrSearch text (counted r)).run 0
    (⟨some value, searches⟩, c')
  | clear => (⟨none, 0⟩, c.clear)

/-- What an operation stores, if nothing is stored under this key yet. -/
def store? : Op → Option (String × ScanResult)
  | insert text r | getOrSearch text r => some (text, r)
  | get _ | clear => none

/-- Whether an operation drops all entries. -/
def isClear : Op → Bool
  | clear => true
  | _ => false

end Op

variable {key : String} {r : ScanResult} {op : Op}

/-- The cache after some operations, at first without entries. -/
def after (history : List Op) : Cache := history.foldl (fun c op => (op.perform c).2) .empty

/-- What some operations answer, one after the other. -/
def answers (c : Cache) : List Op → List Answer
  | [] => []
  | op :: ops => (op.perform c).1 :: answers (op.perform c).2 ops

/-- What may have been stored since the cache was cleared the last time, in order. -/
def storesOf (history : List Op) : List (String × ScanResult) :=
  (history.rtakeWhile fun op => !op.isClear).filterMap Op.store?

/-- The first of these stores under the key of a text. -/
def firstStored (history : List Op) (text : String) : Option ScanResult :=
  ((storesOf history).find? fun store =>
    Text.asciiUpper store.1 = Text.asciiUpper text).map Prod.snd

/-- What an operation has to answer after some others. A result that is stored, be it by itself or
by a search, is given back as the first one that is there now. -/
def expected (before : List Op) : Op → Answer
  | .get text => ⟨firstStored before text, 0⟩
  | .insert text r => ⟨firstStored (before ++ [.insert text r]) text, 0⟩
  | .getOrSearch text r =>
    ⟨firstStored (before ++ [.getOrSearch text r]) text,
      if firstStored before text = none then 1 else 0⟩
  | .clear => ⟨none, 0⟩

/-! ### One operation more -/

theorem after_concat (history : List Op) (op : Op) :
    after (history ++ [op]) = (op.perform (after history)).2 :=
  List.foldl_concat _ _ _ _

theorem storesOf_concat (history : List Op) (op : Op) :
    storesOf (history ++ [op]) =
      if op.isClear then [] else storesOf history ++ op.store?.toList := by
  rw [storesOf, List.rtakeWhile_concat]
  cases op <;> simp [Op.isClear, Op.store?, storesOf]

theorem storesOf_of_none (keeps : op.isClear = false) (h : op.store? = none) (history : List Op) :
    storesOf (history ++ [op]) = storesOf history := by
  rw [storesOf_concat, keeps, h, if_neg Bool.false_ne_true, Option.toList_none, List.append_nil]

theorem storesOf_of_store (h : op.store? = some (key, r)) (history : List Op) :
    storesOf (history ++ [op]) = storesOf history ++ [(key, r)] := by
  have kept : op.isClear = false := by
    cases op <;> first | rfl | cases h
  rw [storesOf_concat, kept, h, if_neg Bool.false_ne_true, Option.toList_some]

/-- A store comes last, so it counts only if there is none before it under the same key. -/
theorem firstStored_of_store (h : op.store? = some (key, r)) (history : List Op) (text : String) :
    firstStored (history ++ [op]) text = (firstStored history text).or
      (if Text.asciiUpper key = Text.asciiUpper text then some r else none) := by
  rw [firstStored, firstStored, storesOf_of_store h, List.find?_append, Option.map_or]
  congr 1
  by_cases same : Text.asciiUpper key = Text.asciiUpper text <;> simp [same]

theorem get?_insertIfAbsent_eq_or (c : Cache) (key text : String) (r : ScanResult) :
    (c.insertIfAbsent key r).2.get? text = (c.get? text).or
      (if Text.asciiUpper key = Text.asciiUpper text then some r else none) := by
  rw [get?_insertIfAbsent_eq_ite]
  by_cases same : Text.asciiUpper key = Text.asciiUpper text
  · rw [if_pos same, if_pos same, ← get?_congr same]
    cases found : c.get? key with
    | some stored => rw [insertIfAbsent_of_some found, Option.some_or]
    | none => rw [(insertIfAbsent_of_none found r).1, Option.none_or]
  · rw [if_neg same, if_neg same, Option.or_none]

/-- Searching is storing what is found, and a search is made only for what is not stored yet. -/
theorem perform_getOrSearch (c : Cache) (text : String) (r : ScanResult) :
    (Op.getOrSearch text r).perform c =
      (⟨some (c.insertIfAbsent text r).1, if c.get? text = none then 1 else 0⟩,
        (c.insertIfAbsent text r).2) := by
  rw [Op.perform, getOrSearch]
  cases found : c.get? text with
  | some stored =>
    rw [insertIfAbsent_of_some found]
    rfl
  | none => rfl

/-- An operation clears the cache, leaves it alone, or stores one result. -/
theorem perform_cases (c : Cache) (op : Op) :
    (op.isClear = true ∧ (op.perform c).2 = .empty) ∨
      (op.isClear = false ∧ op.store? = none ∧ (op.perform c).2 = c) ∨
      ∃ key r, op.store? = some (key, r) ∧ (op.perform c).2 = (c.insertIfAbsent key r).2 := by
  cases op with
  | get text => exact .inr (.inl ⟨rfl, rfl, rfl⟩)
  | insert text r => exact .inr (.inr ⟨text, r, rfl, rfl⟩)
  | getOrSearch text r =>
    exact .inr (.inr ⟨text, r, rfl, congrArg Prod.snd (perform_getOrSearch c text r)⟩)
  | clear => exact .inl ⟨rfl, rfl⟩

/-! ### Any number of operations -/

/-- Whatever the history, a cache gives the first result stored under a key since it was cleared. -/
theorem get?_after (history : List Op) (text : String) :
    (after history).get? text = firstStored history text := by
  induction history using List.reverseRecOn with
  | nil => rfl
  | append_singleton history op ih =>
    rw [after_concat]
    obtain ⟨clears, left⟩ | ⟨keeps, none_stored, left⟩ | ⟨key, r, store, left⟩ :=
      perform_cases (after history) op
    · rw [left, firstStored, storesOf_concat, if_pos clears]
      rfl
    · rw [left, ih, firstStored, firstStored, storesOf_of_none keeps none_stored]
    · rw [left, get?_insertIfAbsent_eq_or, ih, firstStored_of_store store]

theorem mem_keys_after (history : List Op) (key : String) : key ∈ (after history).keys ↔
    key ∈ (storesOf history).map fun store => Text.asciiUpper store.1 := by
  induction history using List.reverseRecOn with
  | nil => rfl
  | append_singleton history op ih =>
    rw [after_concat]
    obtain ⟨clears, left⟩ | ⟨keeps, none_stored, left⟩ | ⟨text, r, store, left⟩ :=
      perform_cases (after history) op
    · rw [left, storesOf_concat, if_pos clears]
      rfl
    · rw [left, ih, storesOf_of_none keeps none_stored]
    · rw [left, mem_keys_insertIfAbsent_iff, ih, storesOf_of_store store, List.map_append,
        List.mem_append, List.map_singleton, List.mem_singleton]

theorem size_after (history : List Op) :
    (after history).size =
      ((storesOf history).map fun store => Text.asciiUpper store.1).toFinset.card := by
  have same : ((storesOf history).map fun store => Text.asciiUpper store.1).toFinset =
      (after history).keys.toFinset := by
    ext key
    rw [List.mem_toFinset, List.mem_toFinset, mem_keys_after]
  rw [same, keys, List.toFinset_card_of_nodup (after history).keys_nodup, List.length_map, size]

/-- What an operation answers depends only on the first results that are stored now. -/
theorem perform_after (before : List Op) (op : Op) :
    (op.perform (after before)).1 = expected before op := by
  have stored_now {text : String} {r : ScanResult} (h : op.store? = some (text, r)) :
      some ((after before).insertIfAbsent text r).1 = firstStored (before ++ [op]) text := by
    rw [← get?_insertIfAbsent, get?_insertIfAbsent_eq_or, get?_after, firstStored_of_store h]
  cases op with
  | get text => rw [expected, ← get?_after]; rfl
  | insert text r => rw [expected, ← stored_now rfl]; rfl
  | getOrSearch text r => rw [perform_getOrSearch, expected, ← stored_now rfl, ← get?_after]
  | clear => rfl

/-- The answers of a longer history begin like those of a shorter one. -/
theorem getElem?_answers (before history : List Op) (i : Nat) :
    (answers (after before) history)[i]? =
      history[i]?.map fun op => (op.perform (after (before ++ history.take i))).1 := by
  induction history generalizing before i with
  | nil => rfl
  | cons op history ih =>
    cases i with
    | zero => simp [answers]
    | succ i => rw [answers, ← after_concat, List.getElem?_cons_succ, ih]; simp

/-- The first store under a key wins. In any history, an operation answers with the first result
that was stored under its key since the cache was cleared, and it searches exactly if there is none;
a store answers with what is stored then. The cache holds these results and no others, one for each
key, and a key differs from its text only in that the small letters of ASCII are capital. -/
theorem first_store_wins (history : List Op) :
    (∀ i : Nat, (answers .empty history)[i]? = history[i]?.map (expected (history.take i))) ∧
      (∀ text : String, (after history).get? text = firstStored history text) ∧
      (after history).size =
        ((storesOf history).map fun store => Text.asciiUpper store.1).toFinset.card ∧
      ∀ text : String, List.Forall₂ Text.MadeCapital text.toList (Text.asciiUpper text).toList := by
  refine ⟨fun i => ?_, get?_after history, size_after history, Text.forall₂_madeCapital⟩
  rw [show answers .empty history = answers (after []) history from rfl, getElem?_answers]
  congr 1
  funext op
  exact perform_after _ op

end Cache

end ByteScan
