import ByteScan.Json.Reader
import ByteScan.Proofs.Json.Skipping

/-!
# Records read from their members

A reader *reads* a text as a value if it takes exactly this text off the front, wherever blanks
stand before it and whatever may follow a value stands behind it. For a record this goes member by
member: a member of a field takes the state on, any other member is skipped, and if the members
lead, one after the other, from the state in which nothing has been read to some last state, then
every object with these members is read as what the record makes of the last state. An object as it
is written, in either layout, is one of them.
-/

namespace ByteScan.Json

variable {α σ : Type} {c : Char} {blanks cs rest text : List Char} {n : Nat}

/-- A reader takes a text for a value: from behind blanks, and up to what may follow a value. -/
def Reads (reader : Reader α) (text : List Char) (a : α) : Prop :=
  ∀ blanks rest, Blanks blanks → Follows rest →
    reader (blanks ++ (text ++ rest)) = .ok (a, rest)

/-- What is made of a value is read where the value is. -/
theorem Reads.update {reader : Reader α} {a : α} (h : Reads reader text a) (f : α → σ) :
    Reads (fun cs => do
      let (a, rest) ← reader cs
      return (f a, rest)) text (f a) := by
  intro blanks rest before follows
  simp only [h blanks rest before follows, ok_bind, pure_eq_ok]

/-! ### Values -/

section Values

variable {reader : Reader α} {ofName : String → Option α} {name : String} {body : List Char} {a : α}

theorem reads_bool (b indented : Bool) (depth : Nat) :
    Reads readBool (writeValue indented depth (.bool b)) b := by
  intro blanks rest before _
  cases b with
  | true =>
    have taken := literal_append ['r', 'u', 'e'] rest
    change readBool (blanks ++ 't' :: (['r', 'u', 'e'] ++ rest)) = _
    rw [readBool, skipBlank_append_cons before rfl]
    simp only [taken, map_ok]
  | false =>
    have taken := literal_append ['a', 'l', 's', 'e'] rest
    change readBool (blanks ++ 'f' :: (['a', 'l', 's', 'e'] ++ rest)) = _
    rw [readBool, skipBlank_append_cons before rfl]
    simp only [taken, map_ok]

theorem length_decimal_le (w : UInt64) : (Numeral.decimal w.toNat).length ≤ 20 := by
  have bound := UInt64.toNat_lt w
  exact (Nat.length_toDigits_le_iff (by decide) (by decide)).2 (Nat.lt_trans bound (by decide))

theorem reads_word (w : UInt64) : Reads readWord (Numeral.decimal w.toNat) w := by
  intro blanks rest before follows
  have short : (Numeral.decimal w.toNat).length < 309 :=
    Nat.lt_of_le_of_lt (length_decimal_le w) (by decide)
  have number := readNumber_decimal short follows
  obtain ⟨c, digits, front, isDigit_c⟩ := exists_decimal_eq_cons w.toNat
  rw [front, List.cons_append] at number ⊢
  rw [readWord, readSuitable, skipBlank_append_cons before (isBlank_of_isDigit isDigit_c)]
  simp only [isDigit_c, or_true, if_true, number, UInt64.toNat_lt_size, UInt64.ofNat_toNat]

theorem reads_named (h : ofName name = some a) (spelled : Spells body name.toList) :
    Reads (readNamed ofName) ('"' :: (body ++ ['"'])) a := by
  intro blanks rest before _
  have string := readString_append spelled rest
  rw [readNamed, List.cons_append, List.append_assoc, skipBlank_append_cons before rfl]
  simp only [List.cons_append, List.nil_append, string, String.ofList_toList, h]

theorem reads_enum (h : ofName name = some a) (spelled : Spells body name.toList) :
    Reads (readEnum ofName) ('"' :: (body ++ ['"'])) a := by
  intro blanks rest before follows
  have named := reads_named h spelled [] rest blanks_nil follows
  rw [List.nil_append, List.cons_append] at named
  rw [readEnum, List.cons_append, skipBlank_append_cons before rfl]
  exact named

theorem colon_append (h : Blanks blanks) (cs : List Char) :
    colon (blanks ++ ':' :: cs) = .ok cs := by
  rw [colon, skipBlank_append_cons h rfl]
  rfl

theorem readNull_append (h : Blanks blanks) (rest : List Char) :
    readNull (blanks ++ ("null".toList ++ rest)) = .ok ((), rest) := by
  have taken := literal_append ['u', 'l', 'l'] rest
  change readNull (blanks ++ 'n' :: (['u', 'l', 'l'] ++ rest)) = _
  rw [readNull, skipBlank_append_cons h rfl]
  simp only [taken, map_ok]

theorem reads_enum_object (h : ofName name = some a)
    (object : IsObjectOf [(name, "null".toList)] text) : Reads (readEnum ofName) text a := by
  intro blanks rest blank _
  obtain ⟨_, items, rfl⟩ := object
  cases items with
  | last member =>
    obtain ⟨before, body, behind, lead, after, before_blank, spelled, behind_blank, lead_blank,
      after_blank, rfl⟩ := member
    have closed := skipBlank_append_cons (c := '\x7d') after_blank rfl rest
    have string := readString_append spelled
      (behind ++ ':' :: (lead ++ ("null".toList ++ (after ++ '\x7d' :: rest))))
    have named : readNamed ofName (before ++ '"' :: (body ++
        '"' :: (behind ++ ':' :: (lead ++ ("null".toList ++ (after ++ '\x7d' :: rest)))))) =
        .ok (a, behind ++ ':' :: (lead ++ ("null".toList ++ (after ++ '\x7d' :: rest)))) := by
      rw [readNamed, skipBlank_append_cons before_blank rfl]
      simp only [string, String.ofList_toList, h]
    simp only [List.cons_append, List.append_assoc, List.nil_append]
    rw [readEnum, skipBlank_append_cons blank rfl]
    simp only [named, colon_append behind_blank, readNull_append lead_blank, closed, ok_bind,
      pure_eq_ok]

theorem reads_none : Reads (readOption reader) ['n', 'u', 'l', 'l'] none := by
  intro blanks rest before _
  have taken := literal_append ['u', 'l', 'l'] rest
  rw [readOption, List.cons_append, skipBlank_append_cons before rfl]
  simp only [taken, map_ok]

theorem reads_some (h : Reads reader (c :: text) a) (other : isBlank c = false)
    (notNull : c ≠ 'n') : Reads (readOption reader) (c :: text) (some a) := by
  intro blanks rest before follows
  have value := h [] rest blanks_nil follows
  rw [List.nil_append, List.cons_append] at value
  rw [readOption, List.cons_append, skipBlank_append_cons before other]
  split
  · rename_i null
    exact absurd (List.cons.inj null).1 notNull
  · rw [value]
    rfl

end Values

/-! ### Members -/

section Members

variable {fields : List (Field σ)} {name : String} {body behind lead value : List Char}
  {member : String × List Char} {members : List (String × List Char)} {state next last : σ}
  {fuel : Nat}

/-- What a member does to the state of a record: it is read as a field that has not been read, or
its name is not that of a field and nothing changes. -/
inductive Takes (fields : List (Field σ)) (state : σ) : String × List Char → σ → Prop where
  /-- The value of a field is read. -/
  | field {field : Field σ} {name : String} {value : List Char} {next : σ} :
      (fields.find? fun f => f.name = name) = some field → field.isRead state = false →
      Reads (field.read state) value next → Takes fields state (name, value) next
  /-- A value that no field asks for is skipped. -/
  | unknown {name : String} {value : List Char} :
      (fields.find? fun f => f.name = name) = none → IsValue value →
      Takes fields state (name, value) state

/-- What members, one after the other, do to the state of a record. -/
inductive Fills (fields : List (Field σ)) : σ → List (String × List Char) → σ → Prop where
  /-- No members change nothing. -/
  | nil (state : σ) : Fills fields state [] state
  /-- One member, and then the others. -/
  | cons {member : String × List Char} {members : List (String × List Char)} {state next last : σ} :
      Takes fields state member next → Fills fields next members last →
      Fills fields state (member :: members) last

/-- A member is read from its name on, up to what follows its value. -/
theorem readMember_append (takes : Takes fields state (name, value) next)
    (spelled : Spells body name.toList) (behind_blank : Blanks behind) (lead_blank : Blanks lead)
    (follows : Follows rest) :
    readMember fields state (body ++ '"' :: (behind ++ ':' :: (lead ++ (value ++ rest)))) =
      .ok (next, rest) := by
  rw [readMember, readString_append spelled, ok_bind]
  simp only [String.ofList_toList, colon_append behind_blank, ok_bind]
  cases takes with
  | field found unread read =>
    simp [found, unread, read lead rest lead_blank follows]
  | unknown other isValue =>
    simp [other, skipValue_append isValue lead_blank follows]

theorem nextMember_first (h : Blanks blanks) (cs : List Char) :
    nextMember true (blanks ++ '"' :: cs) = .ok (true, cs) := by
  rw [nextMember, skipBlank_append_cons h rfl]
  rfl

theorem nextMember_comma (h : Blanks blanks) (cs : List Char) :
    nextMember false (',' :: (blanks ++ '"' :: cs)) = .ok (true, cs) := by
  have name := skipBlank_append_cons (c := '"') h rfl cs
  rw [nextMember, skipBlank_of_not_blank rfl]
  simp [name]

theorem readMembers_close (h : Blanks blanks) (isFirst : Bool) (fuel : Nat) (rest : List Char) :
    readMembers fields (fuel + 1) isFirst state (blanks ++ '\x7d' :: rest) = .ok (state, rest) := by
  rw [readMembers, nextMember, skipBlank_append_cons h rfl]
  rfl

theorem readMembers_blanks (h : Blanks blanks) (cs : List Char) :
    readMembers fields fuel false state (blanks ++ cs) =
      readMembers fields fuel false state cs := by
  cases fuel with
  | zero => rfl
  | succ fuel => rw [readMembers, readMembers, nextMember, nextMember, skipBlank_append h]

/-- One member is read, behind the opening bracket and behind a comma. -/
theorem readMembers_member (takes : Takes fields state member next)
    (isMember : NamedMember member text) (follows : Follows rest) (fuel : Nat) :
    readMembers fields (fuel + 1) true state (text ++ rest) =
      readMembers fields fuel false next rest ∧
    readMembers fields (fuel + 1) false state (',' :: (text ++ rest)) =
      readMembers fields fuel false next rest := by
  obtain ⟨before, body, behind, lead, after, before_blank, spelled, behind_blank, lead_blank,
    after_blank, rfl⟩ := isMember
  have read := readMember_append takes spelled behind_blank lead_blank
    (follows_append after_blank follows)
  simp only [List.append_assoc, List.cons_append]
  refine ⟨?_, ?_⟩
  · rw [readMembers, nextMember_first before_blank, ok_bind]
    simp only [Bool.not_true, Bool.false_eq_true, if_false, read, ok_bind,
      readMembers_blanks after_blank]
  · rw [readMembers, nextMember_comma before_blank, ok_bind]
    simp only [Bool.not_true, Bool.false_eq_true, if_false, read, ok_bind,
      readMembers_blanks after_blank]

/-- The members of an object are read to its end, from behind the opening bracket and from a comma
in front of the first of them. -/
theorem readMembers_append (items : Items NamedMember members text)
    (fills : Fills fields state members last) (enough : members.length < fuel) (rest : List Char) :
    readMembers fields fuel true state (text ++ '\x7d' :: rest) = .ok (last, rest) ∧
    (members ≠ [] →
      readMembers fields fuel false state (',' :: (text ++ '\x7d' :: rest)) =
        .ok (last, rest)) := by
  induction items generalizing state fuel with
  | none blank =>
    cases fills
    obtain ⟨fuel, rfl⟩ := Nat.exists_eq_add_one_of_ne_zero (Nat.ne_of_gt enough)
    exact ⟨readMembers_close blank true fuel rest, fun some => absurd rfl some⟩
  | last member =>
    obtain _ | ⟨takes, ⟨⟩⟩ := fills
    obtain ⟨fuel, rfl⟩ := Nat.exists_eq_add_of_le' enough
    have closed : readMembers fields (fuel + 1) false last ('\x7d' :: rest) = .ok (last, rest) :=
      readMembers_close blanks_nil false fuel rest
    obtain ⟨first, later⟩ := readMembers_member takes member (follows_close .object rest) (fuel + 1)
    exact ⟨first.trans closed, fun _ => later.trans closed⟩
  | more member _ ih =>
    obtain _ | ⟨takes, fills⟩ := fills
    obtain ⟨fuel, rfl⟩ := Nat.exists_eq_add_one_of_ne_zero (Nat.ne_zero_of_lt enough)
    obtain ⟨-, others⟩ := ih fills (Nat.lt_of_succ_lt_succ enough)
    obtain ⟨first, later⟩ := readMembers_member takes member (follows_comma _) fuel
    rw [List.append_assoc, List.cons_append]
    exact ⟨first.trans (others (List.cons_ne_nil _ _)),
      fun _ => later.trans (others (List.cons_ne_nil _ _))⟩

/-! ### Objects -/

variable {initial : σ} {finish : σ → Option α} {a : α}

/-- A record is read from any object as what the members amount to. -/
theorem reads_object (object : IsObjectOf members text) (fills : Fills fields initial members last)
    (complete : finish last = some a) : Reads (readRecord fields initial finish) text a := by
  intro blanks rest blank _
  obtain ⟨inner, items, rfl⟩ := object
  have enough : members.length < (inner ++ '\x7d' :: rest).length + 1 := by
    have := items.length_le
    simp only [List.length_append, List.length_cons]
    omega
  obtain ⟨read, -⟩ := readMembers_append items fills enough rest
  simp only [List.cons_append, List.append_assoc, List.nil_append]
  rw [readRecord, skipBlank_append_cons blank rfl]
  simp only [read, complete, ok_bind, pure_eq_ok]

end Members

/-! ### Objects as they are written -/

section Written

variable {fields : List (Field σ)} {indented : Bool} {depth : Nat}
  {members : List (String × Value)} {state last : σ}

/-- The written members of an object lead from one state of a record to another: each has the name
of a field that has not been read, and its value is read as that of the field. -/
inductive Leads (fields : List (Field σ)) (indented : Bool) (depth : Nat) :
    σ → List (String × Value) → σ → Prop where
  /-- No members change nothing. -/
  | nil (state : σ) : Leads fields indented depth state [] state
  /-- One member, and then the others. -/
  | cons {field : Field σ} {name : String} {v : Value} {members : List (String × Value)}
      {state next last : σ} :
      (fields.find? fun f => f.name = name) = some field → field.isRead state = false →
      Reads (field.read state) (writeValue indented depth v) next →
      Leads fields indented depth next members last →
      Leads fields indented depth state ((name, v) :: members) last

/-- Members with the texts of their values. -/
def writtenMembers (indented : Bool) (depth : Nat) (members : List (String × Value)) :
    List (String × List Char) :=
  members.map fun m => (m.1, writeValue indented depth m.2)

theorem Leads.fills (leads : Leads fields indented depth state members last) :
    Fills fields state (writtenMembers indented depth members) last := by
  induction leads with
  | nil state => exact .nil state
  | cons found unread value _ ih => exact .cons (.field found unread value) ih

/-- What is written between a name and its value. -/
def gap (indented : Bool) : List Char := if indented then [' '] else []

theorem isBlank_of_mem_gap (h : c ∈ gap indented) : isBlank c := by
  cases indented with
  | true =>
    obtain rfl := List.mem_singleton.1 h
    rfl
  | false => cases h

theorem namedMember_written (m : String × Value) (before : Blanks cs) (after : Blanks rest) :
    NamedMember (m.1, writeValue indented depth m.2)
      (cs ++ (writeMember indented depth m ++ rest)) := by
  obtain ⟨name, v⟩ := m
  refine ⟨cs, name.toList.flatMap escapedChar, [], gap indented, rest, before, spells_escaped _,
    blanks_nil, fun c => isBlank_of_mem_gap, after, ?_⟩
  cases indented <;> simp [writeMember, quote, gap]

/-- The written members of an object, from behind its opening bracket to its closing one. -/
theorem items_written (outer : Nat) (m : String × Value) (members : List (String × Value)) :
    Items NamedMember (writtenMembers indented depth (m :: members))
      (lineBreak indented depth ++ (writeMember indented depth m ++
        (writeMembers indented depth members ++ lineBreak indented outer))) := by
  have isBlank : ∀ depth, Blanks (lineBreak indented depth) := fun _ c => isBlank_of_mem_lineBreak
  induction members generalizing m with
  | nil => exact .last (namedMember_written m (isBlank depth) (isBlank outer))
  | cons other members ih =>
    have first : NamedMember (m.1, writeValue indented depth m.2)
        (lineBreak indented depth ++ (writeMember indented depth m ++ [])) :=
      namedMember_written m (isBlank depth) blanks_nil
    have both := Items.more first (ih other)
    simpa [writtenMembers, writeMembers] using both

theorem isObjectOf_written (members : List (String × Value)) :
    IsObjectOf (writtenMembers indented (depth + 1) members)
      (writeValue indented depth (.object members)) := by
  cases members with
  | nil => exact ⟨[], .none blanks_nil, rfl⟩
  | cons m members =>
    refine ⟨_, items_written depth m members, ?_⟩
    simp [writeValue]

end Written

/-! ### Texts -/

section Texts

variable {reader : Reader α} {a : α} {before after : List Char}

theorem Reads.readText_blanks (h : Reads reader text a) (blankBefore : Blanks before)
    (blankAfter : Blanks after) :
    readText reader (String.ofList (before ++ (text ++ after))) = .ok a := by
  have follows : Follows after := by
    have := follows_append blankAfter follows_nil
    rwa [List.append_nil] at this
  have nothing : skipBlank after = [] := by
    have := skipBlank_append blankAfter []
    rwa [List.append_nil] at this
  have read := h before after blankBefore follows
  rw [readText, String.toList_ofList, read, ok_bind]
  simp only [nothing, List.isEmpty_nil, if_true, pure_eq_ok]

/-- A text that is read as a value, and is nothing else, is the text of the value. -/
theorem Reads.readText (h : Reads reader text a) :
    readText reader (String.ofList text) = .ok a := by
  have read := h.readText_blanks blanks_nil blanks_nil
  rwa [List.nil_append, List.append_nil] at read

end Texts

end ByteScan.Json
