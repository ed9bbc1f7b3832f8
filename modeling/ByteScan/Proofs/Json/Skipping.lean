import ByteScan.Json.Skip
import ByteScan.Proofs.Json.Lexeme

/-!
# Values that are skipped

Whatever the value of an unknown member is, it is skipped to its end and no further, at any depth
and inside of any brackets. One lemma says for each step of the pass where it goes on; the step is
told by the first character behind the blanks. An item of an array or an object is *passed* if it
leads from where an item may stand to where a comma or a closing bracket may stand; items that are
passed make up a value that is skipped, so the theorem on values is an induction on the grammar.
-/

namespace ByteScan.Json

variable {b : Bracket} {outer : List Bracket} {c : Char}
  {before behind blanks body cs digits rest text value : List Char}

/-! ### Strings -/

theorem skipString_quote (rest : List Char) : skipString ('"' :: rest) = .ok rest := by
  rw [skipString.eq_def]
  rfl

theorem skipString_letter {p : Char × Char} (h : p ∈ shortEscapes) (cs : List Char) :
    skipString ('\\' :: p.1 :: cs) = skipString cs := by
  have escape := shortEscape?_of_mem p h
  have notUnicode : p.1 ≠ 'u' := by
    intro same
    rw [same] at escape
    cases escape
  rw [skipString.eq_def]
  simp [notUnicode, escape]

theorem skipString_unit {n : Nat} (h : IsUnit digits n) (cs : List Char) :
    skipString ('\\' :: 'u' :: (digits ++ cs)) = skipString cs := by
  have number := hexEscape_append h cs
  rw [skipString.eq_def]
  simp only [Char.reduceEq, if_false, if_true]
  split
  · rename_i failed
    rw [number] at failed
    cases failed
  · rename_i found
    rw [number] at found
    cases found
    rfl

theorem skipString_plain (quote : c ≠ '"') (backslash : c ≠ '\\') (control : 0x20 ≤ c.toNat)
    (cs : List Char) : skipString (c :: cs) = skipString cs := by
  rw [skipString.eq_def]
  simp only [quote, backslash, Nat.not_lt.2 control, if_false]

theorem skipString_append (h : IsString body) (rest : List Char) :
    skipString (body ++ '"' :: rest) = .ok rest := by
  induction h with
  | nil => exact skipString_quote rest
  | plain quote backslash control _ ih =>
    exact (skipString_plain quote backslash control _).trans ih
  | letter escape _ ih => exact (skipString_letter escape _).trans ih
  | unit digits _ ih =>
    rw [List.cons_append, List.cons_append, List.append_assoc, skipString_unit digits, ih]

/-! ### Numbers -/

theorem skipSomeDigits_append (h : IsDigits digits) (ends : ∀ c ∈ rest.head?, isDigit c = false) :
    skipSomeDigits (digits ++ rest) = .ok rest := by
  obtain ⟨some, all⟩ := h
  cases digits with
  | nil => exact absurd rfl some
  | cons c digits =>
    rw [List.forall_mem_cons] at all
    rw [List.cons_append, skipSomeDigits, if_pos all.1, skipDigits_append all.2 ends]

theorem skipIntegerDigits_append (h : IsWhole digits) (ends : ∀ c ∈ rest.head?, isDigit c = false) :
    skipIntegerDigits (digits ++ rest) = .ok rest := by
  obtain ⟨all, alone⟩ := h
  have skipped := skipSomeDigits_append all ends
  rw [skipIntegerDigits.eq_def]
  split
  · rename_i c behind zero
    -- The digits begin with a zero, so they are the zero alone.
    cases digits with
    | nil => exact absurd rfl all.1
    | cons d digits =>
      obtain ⟨rfl, rest_eq⟩ := List.cons.inj zero
      cases alone rfl
      obtain rfl : rest = c :: behind := rest_eq
      rw [if_neg (by simp [ends c rfl])]
  · exact skipped

theorem skipFraction_append (h : IsFraction text)
    (ends : ∀ c ∈ rest.head?, isDigit c = false ∧ c ≠ '.') :
    skipFraction (text ++ rest) = .ok rest := by
  rcases h with rfl | ⟨digits, all, rfl⟩
  · rw [skipFraction.eq_def]
    split
    · rename_i point
      obtain rfl : rest = '.' :: _ := point
      exact absurd rfl (ends '.' rfl).2
    · rfl
  · exact skipSomeDigits_append all fun c first => (ends c first).1

theorem skipExponent_append (h : IsExponent text) (follows : Follows rest) :
    skipExponent (text ++ rest) = .ok rest := by
  rcases h with rfl | ⟨e, letter, sign, signs, digits, all, rfl⟩
  · cases rest with
    | nil => rfl
    | cons c rest =>
      obtain ⟨-, -, small, capital⟩ := follows.not_number c rfl
      have other : ¬ (c = 'e' ∨ c = 'E') := by simp [small, capital]
      simp only [List.nil_append, skipExponent.eq_def, if_neg other]
  · have skipped := skipSomeDigits_append all fun c first => (follows.not_number c first).1
    simp only [List.mem_cons, List.not_mem_nil, or_false] at letter signs
    simp only [List.cons_append, List.append_assoc, skipExponent.eq_def, if_pos letter]
    rcases signs with rfl | rfl | rfl
    · obtain ⟨some, all⟩ := all
      cases digits with
      | nil => exact absurd rfl some
      | cons d digits =>
        have notSign : ¬ (d = '+' ∨ d = '-') := by
          rintro (rfl | rfl) <;> cases all _ List.mem_cons_self
        simp only [List.nil_append, List.cons_append, if_neg notSign]
        exact skipped
    · exact skipped
    · exact skipped

theorem IsExponent.ends (h : IsExponent text) (follows : Follows rest) :
    ∀ c ∈ (text ++ rest).head?, isDigit c = false ∧ c ≠ '.' := by
  intro c first
  rcases h with rfl | ⟨e, letter, sign, -, digits, -, rfl⟩
  · have other := follows.not_number c first
    exact ⟨other.1, other.2.1⟩
  · cases first
    simp only [List.mem_cons, List.not_mem_nil, or_false] at letter
    rcases letter with rfl | rfl <;> decide

theorem IsFraction.ends (h : IsFraction text) (ends : ∀ c ∈ rest.head?, isDigit c = false) :
    ∀ c ∈ (text ++ rest).head?, isDigit c = false := by
  intro c first
  rcases h with rfl | ⟨digits, -, rfl⟩
  · exact ends c first
  · cases first
    rfl

theorem IsNumber.starts (h : IsNumber text) : ∃ c cs, text = c :: cs ∧ (c = '-' ∨ isDigit c) := by
  obtain ⟨sign, signs, whole, fraction, power, ⟨⟨some, all⟩, -⟩, -, -, rfl⟩ := h
  simp only [List.mem_cons, List.not_mem_nil, or_false] at signs
  rcases signs with rfl | rfl
  · cases whole with
    | nil => exact absurd rfl some
    | cons c digits => exact ⟨c, _, rfl, .inr (all c List.mem_cons_self)⟩
  · exact ⟨'-', _, rfl, .inl rfl⟩

theorem skipNumber_append (h : IsNumber text) (follows : Follows rest) :
    skipNumber (text ++ rest) = .ok rest := by
  obtain ⟨sign, signs, whole, fraction, power, isWhole, isFraction, isExponent, rfl⟩ := h
  have behindFraction := isExponent.ends follows
  have behindWhole := isFraction.ends fun c first => (behindFraction c first).1
  have unsigned :
      (skipIntegerDigits (whole ++ (fraction ++ (power ++ rest)))).bind
        (fun rest => (skipFraction rest).bind skipExponent) = .ok rest := by
    rw [skipIntegerDigits_append isWhole behindWhole]
    change (skipFraction (fraction ++ (power ++ rest))).bind skipExponent = .ok rest
    rw [skipFraction_append isFraction behindFraction]
    exact skipExponent_append isExponent follows
  simp only [List.mem_cons, List.not_mem_nil, or_false] at signs
  rcases signs with rfl | rfl
  · cases whole with
    | nil => exact absurd rfl isWhole.1.1
    | cons c digits =>
      have isDigit_c := isWhole.1.2 c List.mem_cons_self
      simp only [List.nil_append, List.cons_append, List.append_assoc] at unsigned ⊢
      rw [skipNumber.eq_def]
      split
      · rename_i sign
        obtain ⟨rfl, -⟩ := List.cons.inj sign
        cases isDigit_c
      · exact unsigned
  · simpa only [skipNumber, List.cons_append, List.nil_append, List.append_assoc] using unsigned

/-! ### Values without brackets -/

theorem IsScalar.starts (h : IsScalar text) :
    ∃ c cs, text = c :: cs ∧ isBlank c = false ∧ c ≠ ']' := by
  cases h with
  | null => exact ⟨_, _, rfl, rfl, by decide⟩
  | bool b => cases b <;> exact ⟨_, _, rfl, rfl, by decide⟩
  | number number =>
    obtain ⟨c, cs, rfl, rfl | digit⟩ := number.starts
    · exact ⟨_, _, rfl, rfl, by decide⟩
    · refine ⟨c, cs, rfl, isBlank_of_isDigit digit, ?_⟩
      rintro rfl
      cases digit
  | string => exact ⟨_, _, rfl, rfl, by decide⟩

theorem skipScalar_append (h : IsScalar text) (follows : Follows rest) :
    skipScalar (text ++ rest) = .ok rest := by
  cases h with
  | null => exact literal_append ['u', 'l', 'l'] rest
  | bool b =>
    cases b with
    | true => exact literal_append ['r', 'u', 'e'] rest
    | false => exact literal_append ['a', 'l', 's', 'e'] rest
  | number number =>
    have skipped := skipNumber_append number follows
    obtain ⟨c, cs, rfl, sign | digit⟩ := number.starts
    · subst sign
      exact skipped
    · have other : c ≠ 'n' ∧ c ≠ 't' ∧ c ≠ 'f' ∧ c ≠ '"' := by
        refine ⟨?_, ?_, ?_, ?_⟩ <;> (rintro rfl; cases digit)
      rw [List.cons_append] at skipped ⊢
      simp only [skipScalar, other, if_false, digit, or_true, if_true, skipped]
  | string string =>
    rw [List.cons_append, List.append_assoc]
    exact skipString_append string rest

/-! ### Where the pass goes on -/

/-- Skips an item from where it may stand, and what is left behind it: an element, or a member from
its name on. -/
def skipItem (b : Bracket) (outer : List Bracket) (cs : List Char) : Except Error (List Char) :=
  match b with
  | .array => skipOpen .value (.array :: outer) cs
  | .object => (skipName cs).bind (skipOpen .value (.object :: outer))

theorem match_eq_bind (x : Except Error (List Char)) (f : List Char → Except Error (List Char)) :
    (match _h : x with
      | .error e => .error e
      | .ok rest => f rest) = x.bind f := by
  cases x <;> rfl

/-- Where a value may stand, an opening bracket is entered, and all else has no brackets. -/
theorem skipOpen_value (outer : List Bracket) (cs : List Char) : skipOpen .value outer cs =
    match skipBlank cs with
    | '[' :: rest => skipOpen (.first .array) outer rest
    | '\x7b' :: rest => skipOpen (.first .object) outer rest
    | rest => (skipScalar rest).bind (skipOpen .next outer) := by
  rw [skipOpen]
  split
  · next array =>
    rw [array]
    rfl
  · next object =>
    rw [object]
    rfl
  · next noArray noObject =>
    refine (match_eq_bind _ _).trans ?_
    split
    · next array => exact absurd array (noArray _)
    · next object => exact absurd object (noObject _)
    · rfl

/-- Behind an opening bracket stands the closing one or an item. -/
theorem skipOpen_first (h : skipBlank cs = c :: rest) (b : Bracket) (outer : List Bracket) :
    skipOpen (.first b) outer cs =
      if c = b.close then skipOpen .next outer rest else skipItem b outer (c :: rest) := by
  rw [skipOpen]
  split
  · next nothing =>
    rw [h] at nothing
    cases nothing
  · next found =>
    obtain ⟨rfl, rfl⟩ := List.cons.inj (h.symm.trans found)
    congr 1
    cases b with
    | array => rfl
    | object => exact match_eq_bind _ _

/-- Behind a value stands the closing bracket, or a comma and an item. -/
theorem skipOpen_next (b : Bracket) (outer : List Bracket) (cs : List Char) :
    skipOpen .next (b :: outer) cs =
      match skipBlank cs with
      | [] => .error .unfinished
      | c :: rest =>
        if c = b.close then skipOpen .next outer rest
        else if c = ',' then skipItem b outer rest
        else .error .malformed := by
  rw [skipOpen]
  split
  · next nothing => rw [nothing]
  · next found =>
    rw [found]
    congr 2
    cases b with
    | array => rfl
    | object => exact match_eq_bind _ _

theorem skipOpen_array (h : skipBlank cs = '[' :: rest) (outer : List Bracket) :
    skipOpen .value outer cs = skipOpen (.first .array) outer rest := by
  rw [skipOpen_value, h]
  rfl

theorem skipOpen_object (h : skipBlank cs = '\x7b' :: rest) (outer : List Bracket) :
    skipOpen .value outer cs = skipOpen (.first .object) outer rest := by
  rw [skipOpen_value, h]
  rfl

/-- A value without brackets is skipped at once. -/
theorem skipOpen_scalar (h : skipScalar (skipBlank cs) = .ok rest) (outer : List Bracket) :
    skipOpen .value outer cs = skipOpen .next outer rest := by
  rw [skipOpen_value]
  split
  · next array =>
    rw [array] at h
    cases h
  · next object =>
    rw [object] at h
    cases h
  · rw [h]
    rfl

theorem skipOpen_empty (h : skipBlank cs = b.close :: rest) (outer : List Bracket) :
    skipOpen (.first b) outer cs = skipOpen .next outer rest := by
  rw [skipOpen_first h, if_pos rfl]

theorem skipOpen_close (h : skipBlank cs = b.close :: rest) (outer : List Bracket) :
    skipOpen .next (b :: outer) cs = skipOpen .next outer rest := by
  rw [skipOpen_next, h]
  exact if_pos rfl

theorem skipOpen_firstItem (h : skipBlank cs = c :: rest) (other : c ≠ b.close)
    (outer : List Bracket) : skipOpen (.first b) outer cs = skipItem b outer (c :: rest) := by
  rw [skipOpen_first h, if_neg other]

theorem skipOpen_nextItem (b : Bracket) (outer : List Bracket) (cs : List Char) :
    skipOpen .next (b :: outer) (',' :: cs) = skipItem b outer cs := by
  have comma : ',' ≠ b.close := by cases b <;> decide
  rw [skipOpen_next, skipBlank_of_not_blank rfl]
  exact (if_neg comma).trans (if_pos rfl)

theorem skipItem_member (name : skipName cs = .ok behind) (outer : List Bracket) :
    skipItem .object outer cs = skipOpen .value (.object :: outer) behind := by
  rw [skipItem, name]
  rfl

theorem skipOpen_blanks (h : Blanks blanks) (b : Bracket) (outer : List Bracket) (cs : List Char) :
    skipOpen .next (b :: outer) (blanks ++ cs) = skipOpen .next (b :: outer) cs := by
  rw [skipOpen_next, skipOpen_next, skipBlank_append h]

/-! ### Items -/

/-- A text is skipped as a value: from behind blanks, up to what may follow a value, and inside of
any brackets. -/
def Skipped (text : List Char) : Prop :=
  ∀ outer blanks rest, Blanks blanks → Follows rest →
    skipOpen .value outer (blanks ++ (text ++ rest)) = skipOpen .next outer rest

/-- A text is passed as an item: behind the opening bracket, and behind a comma. -/
def Passed (b : Bracket) (text : List Char) : Prop :=
  ∀ outer rest, Follows rest →
    skipOpen (.first b) outer (text ++ rest) = skipOpen .next (b :: outer) rest ∧
    skipOpen .next (b :: outer) (',' :: (text ++ rest)) = skipOpen .next (b :: outer) rest

theorem follows_comma (cs : List Char) : Follows (',' :: cs) := by
  intro c first
  cases first
  exact .inr (.inl rfl)

theorem follows_close (b : Bracket) (cs : List Char) : Follows (b.close :: cs) := by
  intro c first
  cases first
  cases b with
  | array => exact .inr (.inr (.inl rfl))
  | object => exact .inr (.inr (.inr rfl))

theorem follows_append (h : Blanks blanks) (follows : Follows rest) : Follows (blanks ++ rest) := by
  cases blanks with
  | nil => exact follows
  | cons c blanks =>
    intro c first
    cases first
    exact .inl (h _ List.mem_cons_self)

theorem passed_element (skipped : Skipped value)
    (starts : ∃ c cs, value = c :: cs ∧ isBlank c = false ∧ c ≠ ']') (h : ElementOf value text) :
    Passed .array text := by
  obtain ⟨before, after, before_blank, after_blank, rfl⟩ := h
  intro outer rest follows
  obtain ⟨c, cs, rfl, notBlank, notClose⟩ := starts
  have behind := follows_append after_blank follows
  have first := skipped (.array :: outer) [] _ blanks_nil behind
  have later := skipped (.array :: outer) before _ before_blank behind
  rw [skipOpen_blanks after_blank] at first later
  simp only [List.nil_append, List.append_assoc, List.cons_append] at first later ⊢
  refine ⟨?_, ?_⟩
  · rw [skipOpen_firstItem (b := .array) (skipBlank_append_cons before_blank notBlank _) notClose,
      skipItem, first]
  · rw [skipOpen_nextItem, skipItem, later]

theorem skipName_append (before_blank : Blanks before) (name : IsString body)
    (behind_blank : Blanks behind) (rest : List Char) :
    skipName (before ++ '"' :: (body ++ '"' :: (behind ++ ':' :: rest))) = .ok rest := by
  have colon := skipBlank_append_cons (c := ':') behind_blank rfl rest
  rw [skipName, skipBlank_append_cons before_blank rfl]
  simp only [skipString_append name, colon]

theorem passed_member (skipped : Skipped value) (h : MemberOf IsString value text) :
    Passed .object text := by
  obtain ⟨before, body, behind, lead, after, before_blank, name, behind_blank, lead_blank,
    after_blank, rfl⟩ := h
  intro outer rest follows
  have value_skipped := skipped (.object :: outer) lead _ lead_blank
    (follows_append after_blank follows)
  rw [skipOpen_blanks after_blank] at value_skipped
  simp only [List.append_assoc, List.cons_append]
  refine ⟨?_, ?_⟩
  · rw [skipOpen_firstItem (b := .object) (skipBlank_append_cons before_blank rfl _) (by decide)]
    have named := skipName_append blanks_nil name behind_blank (lead ++ (value ++ (after ++ rest)))
    exact (skipItem_member named outer).trans value_skipped
  · rw [skipOpen_nextItem, skipItem_member (skipName_append before_blank name behind_blank _),
      value_skipped]

/-- Items that are passed lead from behind the opening bracket to behind the closing one. -/
theorem Items.skipOpen_append {α : Type} {item : α → List Char → Prop} {as : List α}
    (items : Items item as text) (passed : ∀ a ∈ as, ∀ t, item a t → Passed b t)
    (outer : List Bracket) (rest : List Char) :
    skipOpen (.first b) outer (text ++ b.close :: rest) = skipOpen .next outer rest ∧
    (as ≠ [] →
      skipOpen .next (b :: outer) (',' :: (text ++ b.close :: rest)) =
        skipOpen .next outer rest) := by
  have notBlank : isBlank b.close = false := by cases b <;> rfl
  have closed := skipOpen_close (b := b) (skipBlank_of_not_blank notBlank rest) outer
  induction items with
  | none blank =>
    exact ⟨skipOpen_empty (skipBlank_append_cons blank notBlank rest) outer,
      fun some => absurd rfl some⟩
  | last item =>
    obtain ⟨first, later⟩ := passed _ List.mem_cons_self _ item outer _ (follows_close b rest)
    exact ⟨first.trans closed, fun _ => later.trans closed⟩
  | more item _ ih =>
    obtain ⟨-, others⟩ := ih fun a mem => passed a (List.mem_cons_of_mem _ mem)
    obtain ⟨first, later⟩ := passed _ List.mem_cons_self _ item outer _ (follows_comma _)
    rw [List.append_assoc, List.cons_append]
    exact ⟨first.trans (others (List.cons_ne_nil _ _)),
      fun _ => later.trans (others (List.cons_ne_nil _ _))⟩

/-! ### Values -/

theorem IsValue.starts (h : IsValue text) :
    ∃ c cs, text = c :: cs ∧ isBlank c = false ∧ c ≠ ']' := by
  cases h with
  | scalar scalar => exact scalar.starts
  | array => exact ⟨_, _, rfl, rfl, by decide⟩
  | object => exact ⟨_, _, rfl, rfl, by decide⟩

/-- Every value is skipped, at any depth. -/
theorem IsValue.skipped (h : IsValue text) : Skipped text := by
  induction h with
  | scalar scalar =>
    intro outer blanks rest blank follows
    obtain ⟨c, cs, rfl, notBlank, -⟩ := scalar.starts
    refine skipOpen_scalar ?_ outer
    rw [List.cons_append, skipBlank_append_cons blank notBlank]
    exact skipScalar_append scalar follows
  | array items values ih =>
    intro outer blanks rest blank _
    have passed := items.skipOpen_append
      (fun v mem t => passed_element (ih v mem) (values v mem).starts) outer rest
    rw [List.cons_append, List.append_assoc, skipOpen_array (skipBlank_append_cons blank rfl _)]
    exact passed.1
  | object items _ ih =>
    intro outer blanks rest blank _
    have passed := items.skipOpen_append (fun v mem t => passed_member (ih v mem)) outer rest
    rw [List.cons_append, List.append_assoc, skipOpen_object (skipBlank_append_cons blank rfl _)]
    exact passed.1

/-- A value is skipped to its end: from behind blanks, up to what may follow a value. -/
theorem skipValue_append (h : IsValue text) (blank : Blanks blanks) (follows : Follows rest) :
    skipValue (blanks ++ (text ++ rest)) = .ok rest := by
  rw [skipValue, h.skipped [] blanks rest blank follows, skipOpen]

end ByteScan.Json
