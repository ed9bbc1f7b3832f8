import ByteScan.Proofs.Config

/-!
# Configurations told by some of their fields

Only the members that a configuration knows decide what is read. The fields may come in any order, a
field with its default may be left out, and any members with other names may stand between them,
whatever their values are. What has been read so far is the part of the configuration that the
members so far have told: this is kept by every member, and at the end the defaults fill in the
rest.
-/

namespace ByteScan

open Json (Blanks ElementOf Fills IsDigits IsObjectOf IsValue NamedMember Reads Spells Takes
  blanks_nil blanks_singleton spells_escaped)

namespace Config

variable {c : Config} {choice : Option Algorithm} {name : String} {value : List Char}
  {members : List (String × List Char)} {seen : List String}

/-- The names that a configuration knows. -/
def fieldNames : List String := fields.map (·.name)

/-- The texts that stand for the choice of an algorithm. -/
inductive IsChoice : Option Algorithm → List Char → Prop where
  /-- None is chosen. -/
  | automatic : IsChoice none "null".toList
  /-- One is chosen by its name. -/
  | name {a : Algorithm} {body : List Char} :
      Spells body a.name.toList → IsChoice (some a) ('"' :: (body ++ ['"']))
  /-- One is chosen by an object with its name and null. -/
  | entry {a : Algorithm} {text : List Char} :
      IsObjectOf [(a.name, "null".toList)] text → IsChoice (some a) text

/-- A member of an object agrees with a configuration: it has the value of the configuration, or its
name is not that of a field and its value does not matter. -/
inductive Holds (c : Config) : String → List Char → Prop where
  /-- The number of workers. -/
  | workerThreads : Holds c "worker_threads" (Numeral.decimal c.workerThreads.toNat)
  /-- The choice of an algorithm. -/
  | algorithm {value : List Char} : IsChoice c.algorithm value → Holds c "algorithm" value
  /-- Whether patterns are handed out one at a time. -/
  | loadBalance : Holds c "load_balance" (toString c.loadBalance).toList
  /-- Whether repeated patterns are searched only once. -/
  | cacheDuplicates : Holds c "cache_duplicates" (toString c.cacheDuplicates).toList
  /-- A member that a configuration does not know. -/
  | other {name : String} {value : List Char} :
      name ∉ fieldNames → IsValue value → Holds c name value

/-- Members tell a configuration on a machine. -/
structure IsToldBy [Machine] (c : Config) (members : List (String × List Char)) : Prop where
  /-- Every member agrees with the configuration. -/
  holds : ∀ m ∈ members, c.Holds m.1 m.2
  /-- No field comes twice. -/
  once : ∀ name ∈ fieldNames, (members.map Prod.fst).count name ≤ 1
  /-- The number of workers is left out only if it is the default. -/
  workerThreads : "worker_threads" ∉ members.map Prod.fst →
    c.workerThreads = (default : Config).workerThreads
  /-- The algorithm is left out only if it is the default. -/
  algorithm : "algorithm" ∉ members.map Prod.fst → c.algorithm = (default : Config).algorithm
  /-- How a batch is handed out is left out only if it is the default. -/
  loadBalance : "load_balance" ∉ members.map Prod.fst →
    c.loadBalance = (default : Config).loadBalance
  /-- Whether repeated patterns are searched once is left out only if it is the default. -/
  cacheDuplicates : "cache_duplicates" ∉ members.map Prod.fst →
    c.cacheDuplicates = (default : Config).cacheDuplicates

/-- The fields of a configuration with the given names. -/
def draft (c : Config) (seen : List String) : Draft where
  workerThreads := if "worker_threads" ∈ seen then some c.workerThreads else none
  algorithm := if "algorithm" ∈ seen then some c.algorithm else none
  loadBalance := if "load_balance" ∈ seen then some c.loadBalance else none
  cacheDuplicates := if "cache_duplicates" ∈ seen then some c.cacheDuplicates else none

theorem reads_choice (h : IsChoice choice value) :
    Reads (Json.readOption Algorithm.read) value choice := by
  cases h with
  | automatic => exact Json.reads_none
  | @name a body spelled =>
    have string : Reads Algorithm.read ('"' :: (body ++ ['"'])) a :=
      Json.reads_enum a.ofExactName_name spelled
    exact Json.reads_some string rfl (by decide)
  | @entry a _ object =>
    have entry : Reads Algorithm.read value a := Json.reads_enum_object a.ofExactName_name object
    obtain ⟨inner, -, rfl⟩ := object
    exact Json.reads_some entry rfl (by decide)

theorem reads_toString (b : Bool) : Reads Json.readBool (toString b).toList b := by
  cases b
  · exact Json.reads_bool false false 0
  · exact Json.reads_bool true false 0

/-- A member that agrees with a configuration tells one more name of it. -/
theorem takes_of_holds (holds : c.Holds name value) (fresh : name ∈ fieldNames → name ∉ seen) :
    Takes fields (c.draft seen) (name, value) (c.draft (name :: seen)) := by
  cases holds with
  | workerThreads =>
    have unread : "worker_threads" ∉ seen := fresh (by decide)
    have told : c.draft ("worker_threads" :: seen) =
        { c.draft seen with workerThreads := some c.workerThreads } := by
      simp [draft]
    rw [told]
    exact .field rfl (by simp [draft, unread])
      ((Json.reads_word c.workerThreads).update fun n =>
        { c.draft seen with workerThreads := some n })
  | algorithm isChoice =>
    have unread : "algorithm" ∉ seen := fresh (by decide)
    have told : c.draft ("algorithm" :: seen) =
        { c.draft seen with algorithm := some c.algorithm } := by
      simp [draft]
    rw [told]
    exact .field rfl (by simp [draft, unread])
      ((reads_choice isChoice).update fun a => { c.draft seen with algorithm := some a })
  | loadBalance =>
    have unread : "load_balance" ∉ seen := fresh (by decide)
    have told : c.draft ("load_balance" :: seen) =
        { c.draft seen with loadBalance := some c.loadBalance } := by
      simp [draft]
    rw [told]
    exact .field rfl (by simp [draft, unread])
      ((reads_toString c.loadBalance).update fun b => { c.draft seen with loadBalance := some b })
  | cacheDuplicates =>
    have unread : "cache_duplicates" ∉ seen := fresh (by decide)
    have told : c.draft ("cache_duplicates" :: seen) =
        { c.draft seen with cacheDuplicates := some c.cacheDuplicates } := by
      simp [draft]
    rw [told]
    exact .field rfl (by simp [draft, unread])
      ((reads_toString c.cacheDuplicates).update fun b =>
        { c.draft seen with cacheDuplicates := some b })
  | other unknown isValue =>
    have told : c.draft (name :: seen) = c.draft seen := by
      simp only [fieldNames, fields, List.map_cons, List.map_nil, List.mem_cons, List.not_mem_nil,
        or_false, not_or] at unknown
      obtain ⟨workers, algorithm, balance, cached⟩ := unknown
      simp [draft, Ne.symm workers, Ne.symm algorithm, Ne.symm balance, Ne.symm cached]
    rw [told]
    refine .unknown (List.find?_eq_none.2 fun field mem => ?_) isValue
    intro same
    exact unknown (List.mem_map.2 ⟨field, mem, of_decide_eq_true same⟩)

/-- Members that agree with a configuration tell their names of it, one after the other. -/
theorem fills_of_holds (holds : ∀ m ∈ members, c.Holds m.1 m.2)
    (once : ∀ name ∈ fieldNames, (seen ++ members.map Prod.fst).count name ≤ 1) :
    Fills fields (c.draft seen) members (c.draft ((members.map Prod.fst).reverse ++ seen)) := by
  induction members generalizing seen with
  | nil => exact .nil _
  | cons m members ih =>
    obtain ⟨name, value⟩ := m
    rw [List.forall_mem_cons] at holds
    have fresh : name ∈ fieldNames → name ∉ seen := by
      intro known mem
      have := once name known
      have := List.count_pos_iff.2 mem
      simp only [List.map_cons, List.count_append, List.count_cons_self] at *
      omega
    have later : ∀ other ∈ fieldNames, (name :: seen ++ members.map Prod.fst).count other ≤ 1 := by
      intro other known
      have := once other known
      simp only [List.map_cons, List.cons_append, List.count_append, List.count_cons] at *
      omega
    have front : ((name, value) :: members).map Prod.fst = name :: members.map Prod.fst := rfl
    rw [front, List.reverse_cons, List.append_assoc, List.singleton_append]
    exact .cons (takes_of_holds holds.1 fresh) (ih holds.2 later)

theorem getD_of_told {α : Type} {told : Prop} [Decidable told] {a d : α} (h : ¬ told → a = d) :
    (if told then some a else none).getD d = a := by
  split
  · rfl
  · exact (h ‹_›).symm

section Machine

variable [Machine]

/-- The fields that have been told, with the defaults for all others, are the configuration. -/
theorem complete_draft (told : c.IsToldBy members) :
    (c.draft ((members.map Prod.fst).reverse ++ [])).complete = c := by
  simp only [List.append_nil, draft, Draft.complete, List.mem_reverse,
    getD_of_told told.workerThreads, getD_of_told told.algorithm, getD_of_told told.loadBalance,
    getD_of_told told.cacheDuplicates]

/-- A configuration with workers is read from every object whose members tell it: the fields in any
order and anything else between them, with blanks wherever they may stand. A number of workers that
is left out is the number of processors, whatever the machine. -/
theorem parse_of_told {object before after : List Char} (valid : c.validate = .ok ())
    (told : c.IsToldBy members) (isObject : IsObjectOf members object) (blankBefore : Blanks before)
    (blankAfter : Blanks after) :
    parse (String.ofList (before ++ (object ++ after))) = .ok c := by
  have once : ∀ name ∈ fieldNames, ([] ++ members.map Prod.fst).count name ≤ 1 := told.once
  have fills := fills_of_holds told.holds once
  have reads : Reads (Json.readRecord fields (Draft.mk none none none none) (some ·.complete))
      object c :=
    Json.reads_object isObject fills (congrArg some (complete_draft told))
  have read : read (String.ofList (before ++ (object ++ after))) = .ok c :=
    reads.readText_blanks blankBefore blankAfter
  rw [parse_of_read read, if_neg ((validate_eq_ok_iff c).1 valid)]

end Machine

/-- On a machine with eight processors. Two workers and an algorithm, told in another order than
they are written in: the algorithm is an object, the name of a field is escaped, and the unknown
member has a surrogate pair for its name and, nested in its value, a number far out of the range of
doubles. And a text that says nothing of the workers, so that there is one for each processor. -/
theorem parse_of_told_out_of_order :
    ∃ machine : Machine, machine.processors = 8 ∧
      (∃ c : Config, c = ⟨2, some .sse2, false, false⟩ ∧ c.validate = .ok () ∧
        parse (" \x7b\"\\uD83d\\ude00\": [[-1e9999 ]]," ++
          "\"algorithm\":\x7b\"sse2\" :null\x7d,\n\"\\u0077orker_threads\":2\x7d\r") = .ok c) ∧
      parse "\x7b\"load_balance\":true\x7d" = .ok ⟨8, none, true, false⟩ := by
  let machine : Machine :=
    { Machine.uniprocessor with processors := 8, processors_ne_zero := by decide }
  let c : Config := ⟨2, some .sse2, false, false⟩
  have valid : c.validate = .ok () := rfl
  let members := [("😀", "[[-1e9999 ]]".toList),
    ("algorithm", "\x7b\"sse2\" :null\x7d".toList), ("worker_threads", ['2'])]
  -- The value of the unknown member, from the inside out.
  have one : IsDigits ['1'] := ⟨nofun, List.all_eq_true.1 rfl⟩
  have power : IsDigits "9999".toList := ⟨nofun, List.all_eq_true.1 rfl⟩
  have space : Blanks [' '] := blanks_singleton rfl
  have large : IsValue "-1e9999".toList :=
    .scalar (.number ⟨['-'], by decide, ['1'], [], "e9999".toList, ⟨one, nofun⟩, .inl rfl,
      .inr ⟨'e', by decide, [], by decide, "9999".toList, power, rfl⟩, rfl⟩)
  have innermost : ElementOf "-1e9999".toList "-1e9999 ".toList :=
    ⟨[], [' '], blanks_nil, space, rfl⟩
  have inner : IsValue "[-1e9999 ]".toList :=
    .array (.last innermost) (List.forall_mem_singleton.2 large)
  have only : ElementOf "[-1e9999 ]".toList "[-1e9999 ]".toList :=
    ⟨[], [], blanks_nil, blanks_nil, rfl⟩
  have nested : IsValue "[[-1e9999 ]]".toList :=
    .array (.last only) (List.forall_mem_singleton.2 inner)
  have surrogates :
      Spells ('\\' :: 'u' :: ("D83d".toList ++ '\\' :: 'u' :: ("de00".toList ++ []))) ['😀'] :=
    .pair (by decide) ⟨rfl, by decide⟩ ⟨rfl, by decide⟩ .nil
  have face : NamedMember ("😀", "[[-1e9999 ]]".toList) "\"\\uD83d\\ude00\": [[-1e9999 ]]".toList :=
    ⟨[], _, [], [' '], [], blanks_nil, surrogates, blanks_nil, space, blanks_nil, rfl⟩
  -- The two fields.
  have sse2 : NamedMember ("sse2", "null".toList) "\"sse2\" :null".toList :=
    ⟨[], _, [' '], [], [], blanks_nil, spells_escaped "sse2".toList, space, blanks_nil, blanks_nil,
      rfl⟩
  have entry : IsObjectOf [("sse2", "null".toList)] "\x7b\"sse2\" :null\x7d".toList :=
    ⟨_, .last sse2, rfl⟩
  have algorithm : NamedMember ("algorithm", "\x7b\"sse2\" :null\x7d".toList)
      "\"algorithm\":\x7b\"sse2\" :null\x7d".toList :=
    ⟨[], _, [], [], [], blanks_nil, spells_escaped "algorithm".toList, blanks_nil, blanks_nil,
      blanks_nil, rfl⟩
  have escaped :
      Spells ('\\' :: 'u' :: ("0077".toList ++ "orker_threads".toList)) "worker_threads".toList :=
    .unit ⟨rfl, by decide⟩ (spells_escaped "orker_threads".toList)
  have workers : NamedMember ("worker_threads", ['2']) "\n\"\\u0077orker_threads\":2".toList :=
    ⟨['\n'], _, [], [], [], blanks_singleton rfl, escaped, blanks_nil, blanks_nil, blanks_nil, rfl⟩
  let object := '\x7b' :: ("\"\\uD83d\\ude00\": [[-1e9999 ]]".toList ++ ',' ::
    ("\"algorithm\":\x7b\"sse2\" :null\x7d".toList ++ ',' ::
      "\n\"\\u0077orker_threads\":2".toList) ++ ['\x7d'])
  have isObject : IsObjectOf members object :=
    ⟨_, .more face (.more algorithm (.last workers)), rfl⟩
  have two : Numeral.decimal c.workerThreads.toNat = ['2'] := by decide
  have told : c.IsToldBy members := by
    refine ⟨?_, by decide, absurd (by decide), absurd (by decide), fun _ => rfl, fun _ => rfl⟩
    simp only [members, List.forall_mem_cons]
    exact ⟨.other (by decide) nested, .algorithm (.entry entry), two ▸ .workerThreads, nofun⟩
  have text : String.ofList ([' '] ++ (object ++ ['\r'])) =
      " \x7b\"\\uD83d\\ude00\": [[-1e9999 ]]," ++
        "\"algorithm\":\x7b\"sse2\" :null\x7d,\n\"\\u0077orker_threads\":2\x7d\r" := rfl
  have blankAfter : Blanks ['\r'] := blanks_singleton rfl
  have read := parse_of_told valid told isObject space blankAfter
  rw [text] at read
  -- The text without the workers.
  let silent : Config := ⟨8, none, true, false⟩
  have balance : NamedMember ("load_balance", "true".toList) "\"load_balance\":true".toList :=
    ⟨[], _, [], [], [], blanks_nil, spells_escaped "load_balance".toList, blanks_nil, blanks_nil,
      blanks_nil, rfl⟩
  have isSilent : IsObjectOf [("load_balance", "true".toList)]
      "\x7b\"load_balance\":true\x7d".toList :=
    ⟨_, .last balance, rfl⟩
  have toldSilent : silent.IsToldBy [("load_balance", "true".toList)] :=
    ⟨List.forall_mem_singleton.2 .loadBalance, by decide, fun _ => rfl, fun _ => rfl,
      absurd (by decide), fun _ => rfl⟩
  have readSilent := parse_of_told (c := silent) rfl toldSilent isSilent blanks_nil blanks_nil
  exact ⟨machine, rfl, ⟨c, rfl, valid, read⟩, readSilent⟩

end Config

end ByteScan
