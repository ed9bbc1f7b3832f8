import ByteScan.Json.Skip

/-!
# Reading values

Readers for the values that a record in JSON is made of. A value of another kind than asked for is
unsuitable, but first it has to be well formed as far as a reader must look to tell its kind: a
number or a string to its end, an array or an object no further than its opening bracket.

A record is read from an object, in which the fields come in any order and unknown members are
skipped, or from an array of its fields in their order. What to do about missing fields is left to
the record.
-/

namespace ByteScan.Json

/-- The error of a value, at whose first character the text stands, that is not of the kind asked
for. -/
def mismatch : List Char → Error
  | [] => .unfinished
  | c :: rest =>
    let judge {α : Type} : Except Error α → Error
      | .ok _ => .unsuitable
      | .error e => e
    if c = 'n' then judge (literal ['u', 'l', 'l'] rest)
    else if c = 't' then judge (literal ['r', 'u', 'e'] rest)
    else if c = 'f' then judge (literal ['a', 'l', 's', 'e'] rest)
    else if c = '"' then judge (readString rest)
    else if c = '-' ∨ isDigit c then judge (readNumber (c :: rest))
    else if c = '[' ∨ c = '\x7b' then .unsuitable
    else .malformed

/-- Reads a truth value. -/
def readBool : Reader Bool := fun cs =>
  match skipBlank cs with
  | 't' :: rest => (literal ['r', 'u', 'e'] rest).map (true, ·)
  | 'f' :: rest => (literal ['a', 'l', 's', 'e'] rest).map (false, ·)
  | rest => .error (mismatch rest)

/-- Reads null. -/
def readNull : Reader Unit := fun cs =>
  match skipBlank cs with
  | 'n' :: rest => (literal ['u', 'l', 'l'] rest).map ((), ·)
  | rest => .error (mismatch rest)

/-- Reads a number that is found suitable. -/
def readSuitable {α : Type} (suitable : Number → Option α) : Reader α := fun cs =>
  match skipBlank cs with
  | [] => .error .unfinished
  | c :: rest =>
    if c = '-' ∨ isDigit c then
      match readNumber (c :: rest) with
      | .error e => .error e
      | .ok (n, rest) =>
        match suitable n with
        | some a => .ok (a, rest)
        | none => .error .unsuitable
    else .error (mismatch (c :: rest))

/-- Reads a word of 64 bits without sign. -/
def readWord : Reader UInt64 := readSuitable fun
  | .natural n => if n < UInt64.size then some (UInt64.ofNat n) else none
  | _ => none

/-- Reads an integer of 32 bits with a sign. -/
def readInt32 : Reader Int32 := readSuitable fun
  | .natural n => if n < 0x80000000 then some (Int32.ofNat n) else none
  | .negative n => if n ≤ 0x80000000 then some (Int32.ofInt (-n)) else none
  | .inexact => none

/-- Reads a string of which the given function makes something. -/
def readNamed {α : Type} (ofName : String → Option α) : Reader α := fun cs =>
  match skipBlank cs with
  | '"' :: rest =>
    match readString rest with
    | .error e => .error e
    | .ok (name, rest) =>
      match ofName (String.ofList name) with
      | some a => .ok (a, rest)
      | none => .error .unsuitable
  | rest => .error (mismatch rest)

/-- Reads null as nothing, and all else as the given reader does. -/
def readOption {α : Type} (reader : Reader α) : Reader (Option α) := fun cs =>
  match skipBlank cs with
  | 'n' :: rest => (literal ['u', 'l', 'l'] rest).map (none, ·)
  | rest => (reader rest).map fun (a, rest) => (some a, rest)

/-- Takes the colon behind the name of a member. -/
def colon (cs : List Char) : Except Error (List Char) :=
  match skipBlank cs with
  | [] => .error .unfinished
  | ':' :: rest => .ok rest
  | _ => .error .malformed

/-- Reads one of several names: as a string, or as an object whose only member has that name and
the value null. -/
def readEnum {α : Type} (ofName : String → Option α) : Reader α := fun cs =>
  match skipBlank cs with
  | [] => .error .unfinished
  | '"' :: rest => readNamed ofName ('"' :: rest)
  | '\x7b' :: rest => do
    let (a, rest) ← readNamed ofName rest
    let ((), rest) ← readNull (← colon rest)
    match skipBlank rest with
    | [] => throw .unfinished
    | '\x7d' :: rest => return (a, rest)
    | _ => throw .malformed
  | _ => .error .malformed

/-! ### Records -/

/-- A field of a record of which the fields read so far are a `σ`. -/
structure Field (σ : Type) where
  /-- The name of the field. -/
  name : String
  /-- Whether the field has been read. -/
  isRead : σ → Bool
  /-- Reads the value of the field. -/
  read : σ → Reader σ

/-- Whether an object has one more member. If so, the rest begins with the name of the member,
behind the opening quote, and otherwise behind the closing bracket of the object. -/
def nextMember (isFirst : Bool) : Reader Bool := fun cs =>
  match skipBlank cs with
  | [] => .error .unfinished
  | '\x7d' :: rest => .ok (false, rest)
  | c :: rest =>
    if isFirst then
      if c = '"' then .ok (true, rest) else .error .malformed
    else if c = ',' then
      match skipBlank rest with
      | [] => .error .unfinished
      | '"' :: rest => .ok (true, rest)
      | _ => .error .malformed
    else .error .malformed

/-- Reads the member whose name begins at the front. A field may come only once; the value of a
member with another name is skipped. -/
def readMember {σ : Type} (fields : List (Field σ)) (state : σ) : Reader σ := fun cs => do
  let (name, rest) ← readString cs
  match fields.find? fun f => f.name = String.ofList name with
  | some field =>
    if field.isRead state then throw .unsuitable
    field.read state (← colon rest)
  | none => return (state, ← skipValue (← colon rest))

/-- Reads members up to the end of an object, at most `fuel` of them. -/
def readMembers {σ : Type} (fields : List (Field σ)) : Nat → Bool → σ → Reader σ
  | 0, _, _, _ => .error .malformed
  | fuel + 1, isFirst, state, cs => do
    let (hasMember, rest) ← nextMember isFirst cs
    if !hasMember then return (state, rest)
    let (state, rest) ← readMember fields state rest
    readMembers fields fuel false state rest

/-- Whether an array has one more element. If so, the rest begins with the element, and otherwise
with the closing bracket of the array. -/
def nextElement (isFirst : Bool) : Reader Bool := fun cs =>
  match skipBlank cs with
  | [] => .error .unfinished
  | ']' :: rest => .ok (false, ']' :: rest)
  | c :: rest =>
    if isFirst then .ok (true, c :: rest)
    else if c = ',' then
      match skipBlank rest with
      | [] => .error .unfinished
      | ']' :: _ => .error .malformed
      | rest => .ok (true, rest)
    else .error .malformed

/-- Reads the elements of an array as the given fields, in their order, until either ends. -/
def readElements {σ : Type} : List (Field σ) → Bool → σ → Reader σ
  | [], _, state, cs => .ok (state, cs)
  | field :: fields, isFirst, state, cs => do
    let (hasElement, rest) ← nextElement isFirst cs
    if !hasElement then return (state, rest)
    let (state, rest) ← field.read state rest
    readElements fields false state rest

/-- Reads the fields of a record, and lets `finish` complete it or refuse. No member takes less than
a character, so there are no more members than characters. -/
def readRecord {σ α : Type} (fields : List (Field σ)) (initial : σ) (finish : σ → Option α) :
    Reader α := fun cs => do
  let complete (state : σ) : Except Error α :=
    match finish state with
    | some a => .ok a
    | none => .error .unsuitable
  match skipBlank cs with
  | '\x7b' :: rest =>
    let (state, rest) ← readMembers fields (rest.length + 1) true initial rest
    return (← complete state, rest)
  | '[' :: rest =>
    let (state, rest) ← readElements fields true initial rest
    let a ← complete state
    match skipBlank rest with
    | [] => throw .unfinished
    | ']' :: rest => return (a, rest)
    | _ => throw .malformed
  | rest => throw (mismatch rest)

/-- Reads a text that is one value and nothing else. -/
def readText {α : Type} (reader : Reader α) (text : String) : Except Error α := do
  let (a, rest) ← reader text.toList
  if (skipBlank rest).isEmpty then return a else throw .malformed

end ByteScan.Json
