import ByteScan.Json.Lexeme

/-!
# The texts of JSON

What the grammar of JSON allows, apart from any reader: how a text may be spelled between quotes,
which numerals there are, and which texts are values. A list of items with commas between them is
the same in an array and in an object, so it is said once. Names and strings that are read have to
be text; a string that is only skipped may also name half of a pair of surrogates.
-/

namespace ByteScan.Json

/-- Blanks and nothing else. -/
abbrev Blanks (cs : List Char) : Prop := ∀ c ∈ cs, isBlank c

theorem blanks_nil : Blanks [] := nofun

theorem blanks_singleton {c : Char} (h : isBlank c) : Blanks [c] := List.forall_mem_singleton.2 h

/-! ### Strings -/

/-- The letters that stand behind a backslash for one character, each with its character. -/
def shortEscapes : List (Char × Char) :=
  [('"', '"'), ('\\', '\\'), ('/', '/'), ('b', '\x08'), ('f', '\x0c'), ('n', '\n'), ('r', '\r'),
    ('t', '\t')]

/-- Four hexadecimal digits, with letters of either case, are the numeral of a number. -/
def IsUnit (digits : List Char) (n : Nat) : Prop :=
  digits.length = 4 ∧ digits.map Char.toLower = Numeral.zeroFilled 4 (Numeral.hex n)

/-- What stands between two quotes spells a text. Each character of the text stands for itself, or
is escaped by a letter, by its number, or by the two surrogates that UTF-16 has for it. -/
inductive Spells : List Char → List Char → Prop where
  /-- The empty string. -/
  | nil : Spells [] []
  /-- A character that needs no escape. -/
  | plain {c : Char} {body text : List Char} :
      c ≠ '"' → c ≠ '\\' → 0x20 ≤ c.toNat → Spells body text → Spells (c :: body) (c :: text)
  /-- An escape by a letter. -/
  | letter {e c : Char} {body text : List Char} :
      (e, c) ∈ shortEscapes → Spells body text → Spells ('\\' :: e :: body) (c :: text)
  /-- An escape by the number of the character. -/
  | unit {c : Char} {digits body text : List Char} :
      IsUnit digits c.toNat → Spells body text →
      Spells ('\\' :: 'u' :: (digits ++ body)) (c :: text)
  /-- An escape by a pair of surrogates. -/
  | pair {c : Char} {high low body text : List Char} :
      0x10000 ≤ c.toNat → IsUnit high (0xD800 + (c.toNat - 0x10000) / 0x400) →
      IsUnit low (0xDC00 + (c.toNat - 0x10000) % 0x400) → Spells body text →
      Spells ('\\' :: 'u' :: (high ++ '\\' :: 'u' :: (low ++ body))) (c :: text)

/-- What may stand between two quotes: a string, whether it spells a text or not. -/
inductive IsString : List Char → Prop where
  /-- The empty string. -/
  | nil : IsString []
  /-- A character that needs no escape. -/
  | plain {c : Char} {body : List Char} :
      c ≠ '"' → c ≠ '\\' → 0x20 ≤ c.toNat → IsString body → IsString (c :: body)
  /-- An escape by a letter. -/
  | letter {e c : Char} {body : List Char} :
      (e, c) ∈ shortEscapes → IsString body → IsString ('\\' :: e :: body)
  /-- An escape by a number, which may be that of a surrogate. -/
  | unit {n : Nat} {digits body : List Char} :
      IsUnit digits n → IsString body → IsString ('\\' :: 'u' :: (digits ++ body))

/-! ### Numbers -/

/-- One decimal digit or more. -/
def IsDigits (digits : List Char) : Prop := digits ≠ [] ∧ ∀ c ∈ digits, isDigit c

/-- The digits before the point, of which a zero at the front stands alone. -/
def IsWhole (digits : List Char) : Prop :=
  IsDigits digits ∧ (digits.head? = some '0' → digits = ['0'])

/-- Nothing, or a point and the digits behind it. -/
def IsFraction (text : List Char) : Prop :=
  text = [] ∨ ∃ digits, IsDigits digits ∧ text = '.' :: digits

/-- Nothing, or the letter of an exponent with its digits, which may have a sign. -/
def IsExponent (text : List Char) : Prop :=
  text = [] ∨ ∃ e ∈ ['e', 'E'], ∃ sign ∈ [[], ['+'], ['-']], ∃ digits,
    IsDigits digits ∧ text = e :: (sign ++ digits)

/-- A number of any size. -/
def IsNumber (text : List Char) : Prop :=
  ∃ sign ∈ [[], ['-']], ∃ whole fraction power, IsWhole whole ∧ IsFraction fraction ∧
    IsExponent power ∧ text = sign ++ (whole ++ (fraction ++ power))

/-! ### Values -/

/-- A value without brackets. -/
inductive IsScalar : List Char → Prop where
  /-- The null value. -/
  | null : IsScalar "null".toList
  /-- A truth value. -/
  | bool (b : Bool) : IsScalar (toString b).toList
  /-- A number. -/
  | number {text : List Char} : IsNumber text → IsScalar text
  /-- A string. -/
  | string {body : List Char} : IsString body → IsScalar ('"' :: (body ++ ['"']))

section Items

variable {α : Type}

/-- A text of items with commas between them, or of blanks if there are no items. -/
inductive Items (item : α → List Char → Prop) : List α → List Char → Prop where
  /-- No items. -/
  | none {blanks : List Char} : Blanks blanks → Items item [] blanks
  /-- The last item. -/
  | last {a : α} {text : List Char} : item a text → Items item [a] text
  /-- An item that others follow. -/
  | more {a b : α} {as : List α} {text others : List Char} :
      item a text → Items item (b :: as) others →
      Items item (a :: b :: as) (text ++ ',' :: others)

/-- There are no more commas than characters. -/
theorem Items.length_le {item : α → List Char → Prop} {as : List α} {text : List Char}
    (h : Items item as text) : as.length ≤ text.length + 1 := by
  induction h with
  | none => exact Nat.zero_le _
  | last => exact Nat.le_add_left 1 _
  | more _ _ ih =>
    simp only [List.length_cons, List.length_append] at ih ⊢
    omega

end Items

/-- An element: the text of a value, with blanks around it. -/
def ElementOf (value text : List Char) : Prop :=
  ∃ before after, Blanks before ∧ Blanks after ∧ text = before ++ (value ++ after)

/-- A member: a quoted name, a colon and the text of a value, with blanks around each. -/
def MemberOf (IsName : List Char → Prop) (value text : List Char) : Prop :=
  ∃ before name behind lead after, Blanks before ∧ IsName name ∧ Blanks behind ∧ Blanks lead ∧
    Blanks after ∧
    text = before ++ '"' :: (name ++ '"' :: (behind ++ ':' :: (lead ++ (value ++ after))))

/-- The texts of the values of JSON. -/
inductive IsValue : List Char → Prop where
  /-- A value without brackets. -/
  | scalar {text : List Char} : IsScalar text → IsValue text
  /-- An array of values. -/
  | array {values : List (List Char)} {inner : List Char} :
      Items ElementOf values inner → (∀ v ∈ values, IsValue v) → IsValue ('[' :: (inner ++ [']']))
  /-- An object, which may have a name more than once. -/
  | object {values : List (List Char)} {inner : List Char} :
      Items (MemberOf IsString) values inner → (∀ v ∈ values, IsValue v) →
      IsValue ('\x7b' :: (inner ++ ['\x7d']))

/-- A member with this name, spelled in any way, and this text of a value. -/
def NamedMember (m : String × List Char) (text : List Char) : Prop :=
  MemberOf (Spells · m.1.toList) m.2 text

/-- An object with these members, in this order. -/
def IsObjectOf (members : List (String × List Char)) (text : List Char) : Prop :=
  ∃ inner, Items NamedMember members inner ∧ text = '\x7b' :: (inner ++ ['\x7d'])

end ByteScan.Json
