import ByteScan.Config
import ByteScan.Proofs.Json.Record

/-!
# Configurations read as they were written

The text of a configuration reads as the configuration, if it has workers, and is refused for the
lack of them if it has none. Whatever else a text or a file holds, a configuration that is read from
it has workers.
-/

namespace ByteScan

open Json (Leads Reads writeValue)

theorem Algorithm.ofExactName_name (a : Algorithm) : ofExactName a.name = some a := by
  cases a <;> rfl

theorem Algorithm.reads (a : Algorithm) : Reads Algorithm.read (Json.quote a.name) a :=
  Json.reads_enum a.ofExactName_name (Json.spells_escaped _)

namespace Config

variable {d : Config} {text : String}

theorem reads_algorithm (choice : Option Algorithm) (depth : Nat) :
    Reads (Json.readOption Algorithm.read)
      (writeValue true depth (.orNull (choice.map Algorithm.toJson))) choice := by
  cases choice with
  | none => exact Json.reads_none
  | some a => exact Json.reads_some a.reads rfl (by decide)

/-- The written members fill in one field after the other. -/
theorem leads_members (c : Config) :
    Leads fields true 1 (Draft.mk none none none none)
      [("worker_threads", .natural c.workerThreads.toNat),
        ("algorithm", .orNull (c.algorithm.map Algorithm.toJson)),
        ("load_balance", .bool c.loadBalance), ("cache_duplicates", .bool c.cacheDuplicates)]
      (Draft.mk (some c.workerThreads) (some c.algorithm) (some c.loadBalance)
        (some c.cacheDuplicates)) := by
  have workers := (Json.reads_word c.workerThreads).update fun n => Draft.mk (some n) none none none
  have algorithm := (reads_algorithm c.algorithm 1).update fun a =>
    Draft.mk (some c.workerThreads) (some a) none none
  have balance := (Json.reads_bool c.loadBalance true 1).update fun b =>
    Draft.mk (some c.workerThreads) (some c.algorithm) (some b) none
  have cached := (Json.reads_bool c.cacheDuplicates true 1).update fun b =>
    Draft.mk (some c.workerThreads) (some c.algorithm) (some c.loadBalance) (some b)
  exact .cons rfl rfl workers (.cons rfl rfl algorithm (.cons rfl rfl balance
    (.cons rfl rfl cached (.nil _))))

-- The text of a configuration, line by line.
example : (Config.mk 4 (some .sse2) true false).render =
    "\x7b\n  \"worker_threads\": 4,\n  \"algorithm\": \"sse2\",\n" ++
      "  \"load_balance\": true,\n  \"cache_duplicates\": false\n\x7d" := by
  rfl

theorem validate_eq_ok_iff (c : Config) : c.validate = .ok () ↔ c.workerThreads ≠ 0 := by
  rw [validate]
  split <;> simp [*]

section Machine

variable [Machine]

theorem validate_default : (default : Config).validate = .ok () :=
  (validate_eq_ok_iff _).2 Machine.processors_ne_zero

/-- The text of a configuration is read as its fields, before they are looked at. -/
theorem read_render (c : Config) : read c.render = .ok c := by
  have complete : (some ·.complete) (Draft.mk (some c.workerThreads) (some c.algorithm)
    (some c.loadBalance) (some c.cacheDuplicates)) = some c := rfl
  exact (Json.reads_object (Json.isObjectOf_written _) c.leads_members.fills complete).readText

/-- The check comes after the reading and looks at the workers only. -/
theorem parse_of_read (h : read text = .ok d) :
    parse text = if d.workerThreads = 0 then .error .noWorkers else .ok d := by
  rw [parse, h]
  change (d.validate >>= fun _ => Except.ok d) = _
  rw [validate]
  split <;> rfl

theorem validate_of_parse (h : parse text = .ok d) : d.validate = .ok () := by
  rw [parse] at h
  obtain ⟨c, -, h⟩ := exists_of_bind_eq_ok h
  obtain ⟨⟨⟩, valid, h⟩ := exists_of_bind_eq_ok h
  cases h
  exact valid

theorem ofFile_ok (text : String) : ofFile (.ok text) = parse text := rfl

/-- What is written of a configuration is read as the configuration, from a text and from a file, or
refused if it has no workers. Whatever a text or a file holds, no configuration is read from it that
the check would refuse, which is one without workers. -/
theorem parse_render_or_refused (c : Config) :
    (parse c.render = if c.workerThreads = 0 then .error .noWorkers else .ok c) ∧
    (ofFile (.ok c.render) = if c.workerThreads = 0 then .error .noWorkers else .ok c) ∧
    (∀ text d, parse text = .ok d → d.validate = .ok ()) ∧
    (∀ content d, ofFile content = .ok d → d.validate = .ok ()) ∧
    ∀ d : Config, d.validate = .ok () ↔ d.workerThreads ≠ 0 := by
  have written := parse_of_read (read_render c)
  refine ⟨written, (ofFile_ok _).trans written, fun text d => validate_of_parse,
    fun content d read => ?_, validate_eq_ok_iff⟩
  obtain ⟨text, -, parsed⟩ := exists_of_bind_eq_ok read
  exact validate_of_parse parsed

end Machine

section Uniprocessor

attribute [local instance] Machine.uniprocessor

/-- The largest count of workers comes back, with an algorithm or without, and the configuration
that does passes the check. Without workers the same settings are refused. -/
theorem parse_render_or_refused_of_most_and_no_workers :
    ∃ most automatic idle : Config,
      most = ⟨18446744073709551615, some .sse2, true, false⟩ ∧
      automatic = { most with algorithm := none } ∧ idle = { most with workerThreads := 0 } ∧
      parse most.render = .ok most ∧ most.validate = .ok () ∧
      ofFile (.ok automatic.render) = .ok automatic ∧ automatic.validate = .ok () ∧
      parse idle.render = .error .noWorkers := by
  let most : Config := ⟨18446744073709551615, some .sse2, true, false⟩
  obtain ⟨fromText, -, valid, -, -⟩ := parse_render_or_refused most
  obtain ⟨-, fromFile, -, validFile, -⟩ := parse_render_or_refused { most with algorithm := none }
  obtain ⟨refused, -⟩ := parse_render_or_refused { most with workerThreads := 0 }
  have workers : most.workerThreads ≠ 0 := by decide
  rw [if_neg workers] at fromText fromFile
  exact ⟨most, _, _, rfl, rfl, rfl, fromText, valid _ _ fromText, fromFile, validFile _ _ fromFile,
    refused⟩

end Uniprocessor

end Config

end ByteScan
