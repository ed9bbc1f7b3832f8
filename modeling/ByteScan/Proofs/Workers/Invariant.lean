import ByteScan.Proofs.Scanner.Cached
import ByteScan.Scanner.Workers

/-!
# What the steps of the workers preserve

A worker may look at the cache long before it stores its result, so what it has seen can be out of
date. What it relies on is stable all the same: entries are never replaced or removed, every entry
is right, and nobody else searches in its name. The invariant therefore has three parts: what holds
of all that the workers share (`Sound`), what holds of each worker (`Trusted`), and that no pattern
gets lost (`Accounted`). A step of one worker preserves what the others rely on (`Trusted.frame`),
and a run preserves all of it.
-/

namespace ByteScan.Workers

open Relation Scanner

variable [Machine] {batch : List Pattern} {workers : Nat} {s : Scanner} {w v : Fin workers}
  {d d' : Shared batch workers} {x y : Phase batch.length} {σ τ : State batch workers}

/-- The key of a pattern of the batch. -/
def keyAt (batch : List Pattern) (i : Fin batch.length) : String := (batch.get i).key

/-! ### The parts of the invariant -/

/-- The cache is right, every key in it was searched for, only keys of the batch are searched for,
and nobody searches for a key twice. -/
structure Sound (s : Scanner) (d : Shared batch workers) : Prop where
  /-- The cache is right. -/
  confirms : s.Confirms d.cache
  /-- Every key in the cache was searched for. -/
  searched : ∀ key ∈ d.cache.keys, ∃ w, (w, key) ∈ d.scans
  /-- Only keys of the batch are searched for. -/
  requested : ∀ w key, (w, key) ∈ d.scans → ∃ i, keyAt batch i = key
  /-- Nobody searches for a key twice. -/
  nodup : d.scans.Nodup

/-- The key of a result that is about to be stored. -/
def Pending (batch : List Pattern) (key : String) : Phase batch.length → Prop
  | .storing i _ => keyAt batch i = key
  | _ => False

/-- What worker `w` knows in each phase: a key that it misses is one that it has not searched for, a
result that it is about to store comes from its own search, and a result that it is about to record
is in the cache. -/
def Knows (s : Scanner) (d : Shared batch workers) (w : Fin workers) : Phase batch.length → Prop
  | .idle | .looking _ => True
  | .missing i => (w, keyAt batch i) ∉ d.scans
  | .storing i r => s.search (batch.get i) = .ok r ∧ (w, keyAt batch i) ∈ d.scans
  | .recording i r => s.search (batch.get i) = .ok r ∧ keyAt batch i ∈ d.cache.keys

/-- What worker `w` relies on while it does `x`. -/
structure Trusted (s : Scanner) (d : Shared batch workers) (w : Fin workers)
    (x : Phase batch.length) : Prop where
  /-- What it has searched for is in the cache, or about to be stored. -/
  scanned : ∀ key, (w, key) ∈ d.scans → key ∈ d.cache.keys ∨ Pending batch key x
  /-- What it knows in its phase. -/
  knows : Knows s d w x

/-- The slot of a pattern has its result, and the cache has its key. -/
def Finished (s : Scanner) (d : Shared batch workers) (i : Fin batch.length) : Prop :=
  s.search (batch.get i) = .ok (d.slots i) ∧ keyAt batch i ∈ d.cache.keys

/-- A pattern is waiting, or some worker has it, or it is finished. -/
def Accounted (s : Scanner) (σ : State batch workers) (i : Fin batch.length) : Prop :=
  i ∈ σ.shared.waiting ∨ (∃ w, (σ.phase w).index? = some i) ∨ Finished s σ.shared i

/-- What holds of every state that the workers reach. -/
structure Inv (s : Scanner) (σ : State batch workers) : Prop where
  /-- What the workers share. -/
  sound : Sound s σ.shared
  /-- Each worker. -/
  trusted : ∀ w, Trusted s σ.shared w (σ.phase w)
  /-- No pattern gets lost. -/
  accounted : ∀ i, Accounted s σ i

theorem inv_start (s : Scanner) (batch : List Pattern) (workers : Nat) :
    Inv s (State.start batch workers) where
  sound := by
    refine ⟨s.confirms_empty, ?_, ?_, List.nodup_nil⟩
    · intro key mem
      cases mem
    · intro w key mem
      cases mem
  trusted w := by
    refine ⟨?_, trivial⟩
    intro key mem
    cases mem
  accounted i := .inl (Finset.mem_univ i)

/-! ### What no step changes -/

theorem Act.mem_entries (h : Act s w d x y d') {entry : String × ScanResult}
    (mem : entry ∈ d.cache.entries) : entry ∈ d'.cache.entries := by
  cases h with
  | take | hit | miss | scan | record => exact mem
  | store => exact Cache.mem_insertIfAbsent_of_mem mem _ _

theorem Act.mem_keys (h : Act s w d x y d') {key : String} (mem : key ∈ d.cache.keys) :
    key ∈ d'.cache.keys := by
  obtain ⟨r, mem⟩ := Cache.mem_keys_iff.1 mem
  exact Cache.mem_keys_iff.2 ⟨r, h.mem_entries mem⟩

/-- Nobody searches in the name of another worker. -/
theorem Act.mem_scans_iff (h : Act s w d x y d') (other : v ≠ w) (key : String) :
    (v, key) ∈ d'.scans ↔ (v, key) ∈ d.scans := by
  cases h with
  | take | hit | miss | store | record => exact Iff.rfl
  | scan =>
    rw [List.mem_cons, or_iff_right]
    intro same
    exact other (congrArg Prod.fst same)

/-- What a worker relies on is not touched by the others. -/
theorem Trusted.frame (trusted : Trusted s d v x) {z : Phase batch.length}
    (h : Act s w d y z d') (other : v ≠ w) : Trusted s d' v x where
  scanned key mem :=
    (trusted.scanned key ((h.mem_scans_iff other key).1 mem)).imp_left h.mem_keys
  knows := by
    have knows := trusted.knows
    cases x with
    | idle | looking => trivial
    | missing i => exact mt (h.mem_scans_iff other _).1 knows
    | storing i r => exact ⟨knows.1, (h.mem_scans_iff other _).2 knows.2⟩
    | recording i r => exact ⟨knows.1, h.mem_keys knows.2⟩

/-! ### No pattern gets lost -/

/-- A finished pattern stays finished: if its slot is written again, then with the same result. -/
theorem Finished.act {i : Fin batch.length} (finished : Finished s d i) (trusted : Trusted s d w x)
    (h : Act s w d x y d') : Finished s d' i := by
  refine ⟨?_, h.mem_keys finished.2⟩
  cases h with
  | take | hit | miss | scan | store => exact finished.1
  | @record j r =>
    show s.search _ = .ok (Function.update d.slots j r i)
    by_cases same : i = j
    · subst same
      rw [Function.update_self]
      exact trusted.knows.1
    · rw [Function.update_of_ne same]
      exact finished.1

theorem Accounted.act {i : Fin batch.length} (accounted : Accounted s σ i)
    (trusted : Trusted s σ.shared w (σ.phase w)) (h : Act s w σ.shared (σ.phase w) y d') :
    Accounted s ⟨d', Function.update σ.phase w y⟩ i := by
  have now : Function.update σ.phase w y w = y := Function.update_self _ _ _
  rcases accounted with waiting | ⟨v, has⟩ | finished
  · generalize σ.phase w = x at h
    cases h with
    | hit | miss | scan | store | record => exact .inl waiting
    | @take j _ =>
      by_cases same : i = j
      · subst same
        exact .inr (.inl ⟨w, congrArg Phase.index? now⟩)
      · exact .inl (Finset.mem_erase_of_ne_of_mem same waiting)
  · by_cases same : v = w
    · subst same
      generalize σ.phase v = x at h has trusted
      cases h with
      | take => cases has
      | hit | miss | scan | store => exact .inr (.inl ⟨v, (congrArg Phase.index? now).trans has⟩)
      | @record _ r =>
        obtain rfl := Option.some.inj has
        refine .inr (.inr ⟨?_, trusted.knows.2⟩)
        show s.search _ = .ok (Function.update σ.shared.slots _ r _)
        rw [Function.update_self]
        exact trusted.knows.1
    · exact .inr (.inl ⟨v, (congrArg Phase.index? (Function.update_of_ne same _ _)).trans has⟩)
  · exact .inr (.inr (finished.act trusted h))

/-! ### What a step preserves -/

variable (parsed : ∀ p ∈ batch, ∃ text, Pattern.parse text = .ok p)

include parsed

/-- What the workers share stays right. -/
theorem Sound.act (sound : Sound s d) (trusted : Trusted s d w x) (h : Act s w d x y d') :
    Sound s d' := by
  cases h with
  | take | hit | miss | record =>
    exact ⟨sound.confirms, sound.searched, sound.requested, sound.nodup⟩
  | @scan i r found =>
    refine ⟨sound.confirms, fun key mem => ?_, fun v key mem => ?_, ?_⟩
    · obtain ⟨v, before⟩ := sound.searched key mem
      exact ⟨v, List.mem_cons_of_mem _ before⟩
    · rcases List.mem_cons.1 mem with new | before
      · exact ⟨i, (congrArg Prod.snd new).symm⟩
      · exact sound.requested v key before
    · exact List.nodup_cons.2 ⟨trusted.knows, sound.nodup⟩
  | @store i r =>
    obtain ⟨found, searched⟩ := trusted.knows
    obtain ⟨text, hp⟩ := parsed (batch.get i) (List.get_mem batch i)
    refine ⟨sound.confirms.insertIfAbsent hp found, fun key mem => ?_, sound.requested, sound.nodup⟩
    rcases Cache.mem_keys_insertIfAbsent_iff.1 mem with old | rfl
    · exact sound.searched key old
    · exact ⟨w, searched⟩

/-- A worker that acts can go on relying on what it sees. -/
theorem Trusted.act (sound : Sound s d) (trusted : Trusted s d w x) (h : Act s w d x y d') :
    Trusted s d' w y := by
  cases h with
  | take | record =>
    exact ⟨fun key mem => .inl ((trusted.scanned key mem).resolve_right id), trivial⟩
  | @hit i r stored =>
    obtain ⟨text, hp⟩ := parsed (batch.get i) (List.get_mem batch i)
    exact ⟨fun key mem => .inl ((trusted.scanned key mem).resolve_right id),
      sound.confirms.search_eq hp stored, Cache.mem_keys_of_get? stored⟩
  | @miss i absent =>
    have stored (key : String) (mem : (w, key) ∈ d.scans) : key ∈ d.cache.keys :=
      (trusted.scanned key mem).resolve_right id
    refine ⟨fun key mem => .inl (stored key mem), fun mem => ?_⟩
    exact Cache.not_mem_keys_of_get?_eq_none absent (stored _ mem)
  | @scan i r found =>
    refine ⟨fun key mem => ?_, found, List.mem_cons_self⟩
    rcases List.mem_cons.1 mem with new | before
    · exact .inr (congrArg Prod.snd new).symm
    · exact .inl ((trusted.scanned key before).resolve_right id)
  | @store i r =>
    obtain ⟨found, searched⟩ := trusted.knows
    obtain ⟨text, hp⟩ := parsed (batch.get i) (List.get_mem batch i)
    refine ⟨fun key mem => .inl (Cache.mem_keys_insertIfAbsent_iff.2 ?_),
      sound.confirms.search_eq_insertIfAbsent hp found,
      Cache.mem_keys_insertIfAbsent_iff.2 (.inr rfl)⟩
    exact (trusted.scanned key mem).imp_right Eq.symm

theorem Inv.step (inv : Inv s σ) (h : Step s σ τ) : Inv s τ := by
  cases h with
  | @mk w x y d here act =>
    subst here
    refine ⟨inv.sound.act parsed (inv.trusted w) act, fun v => ?_, fun i => ?_⟩
    · show Trusted s d v (Function.update σ.phase w y v)
      by_cases same : v = w
      · subst same
        rw [Function.update_self]
        exact (inv.trusted v).act parsed inv.sound act
      · rw [Function.update_of_ne same]
        exact (inv.trusted v).frame act same
    · exact (inv.accounted i).act (inv.trusted w) act

/-- **Every reachable state satisfies the invariant.** -/
theorem Inv.run (inv : Inv s σ) (h : Run s σ τ) : Inv s τ := by
  induction h with
  | refl => exact inv
  | tail _ step ih => exact ih.step parsed step

end ByteScan.Workers
