import ByteScan.Json.Lexeme

/-!
# Skipping values

A member that a reader does not know is skipped: its value has to be JSON, but it may be nested to
any depth and its numbers may have any size. The brackets that are not closed yet are kept in a
list, so one pass over the text skips a value of any depth.
-/

namespace ByteScan.Json

/-- The two kinds of brackets. -/
inductive Bracket where
  /-- A bracket around the elements of an array. -/
  | array
  /-- A bracket around the members of an object. -/
  | object
  deriving DecidableEq, Repr

/-- The character that closes a bracket. -/
def Bracket.close : Bracket → Char
  | array => ']'
  | object => '\x7d'

/-- What may come next while a value is skipped. -/
inductive Place where
  /-- A value. -/
  | value
  /-- The first item behind an opening bracket, or its closing one. -/
  | first (b : Bracket)
  /-- What follows a value: a comma or a closing bracket, if it stands inside of one. -/
  | next
  deriving DecidableEq, Repr

/-- Skips a value that has no brackets. -/
def skipScalar : List Char → Except Error (List Char)
  | [] => .error .unfinished
  | c :: rest =>
    if c = 'n' then literal ['u', 'l', 'l'] rest
    else if c = 't' then literal ['r', 'u', 'e'] rest
    else if c = 'f' then literal ['a', 'l', 's', 'e'] rest
    else if c = '"' then skipString rest
    else if c = '-' ∨ isDigit c then skipNumber (c :: rest)
    else .error .malformed

theorem length_skipScalar_lt {cs rest : List Char} (h : skipScalar cs = .ok rest) :
    rest.length < cs.length := by
  unfold skipScalar at h
  split at h
  · simp at h
  · next c cs =>
    repeat' split at h
    · have := length_literal_le h
      simp only [List.length_cons]
      omega
    · have := length_literal_le h
      simp only [List.length_cons]
      omega
    · have := length_literal_le h
      simp only [List.length_cons]
      omega
    · have := length_skipString_lt h
      simp only [List.length_cons]
      omega
    · exact length_skipNumber_lt h
    · simp at h

/-- Skips the name of a member and the colon behind it. -/
def skipName (cs : List Char) : Except Error (List Char) :=
  match skipBlank cs with
  | [] => .error .unfinished
  | '"' :: rest =>
    match skipString rest with
    | .error e => .error e
    | .ok rest =>
      match skipBlank rest with
      | [] => .error .unfinished
      | ':' :: rest => .ok rest
      | _ => .error .malformed
  | _ => .error .malformed

theorem length_skipName_lt {cs rest : List Char} (h : skipName cs = .ok rest) :
    rest.length < cs.length := by
  unfold skipName at h
  have l₀ := length_skipBlank_le cs
  split at h
  · simp at h
  · next r₁ h₁ =>
    split at h
    · simp at h
    · next r₂ h₂ =>
      have l₁ := length_skipString_lt h₂
      have l₂ := length_skipBlank_le r₂
      split at h
      · simp at h
      · next r₃ h₃ =>
        simp only [Except.ok.injEq] at h
        simp only [h₁, h₃, List.length_cons, h] at *
        omega
      · simp at h
  · simp at h

/-- Skips what is left of a value: what may come next, and all up to the end of the brackets that
are not closed yet, the innermost of them first. -/
def skipOpen (place : Place) (brackets : List Bracket) (cs : List Char) :
    Except Error (List Char) :=
  match place with
  | .value =>
    match _h : skipBlank cs with
    | '[' :: rest => skipOpen (.first .array) brackets rest
    | '\x7b' :: rest => skipOpen (.first .object) brackets rest
    | rest =>
      match _h : skipScalar rest with
      | .error e => .error e
      | .ok rest => skipOpen .next brackets rest
  | .first b =>
    match _h : skipBlank cs with
    | [] => .error .unfinished
    | c :: rest =>
      if c = b.close then skipOpen .next brackets rest
      else match b with
        | .array => skipOpen .value (.array :: brackets) (c :: rest)
        | .object =>
          match _h : skipName (c :: rest) with
          | .error e => .error e
          | .ok rest => skipOpen .value (.object :: brackets) rest
  | .next =>
    match brackets with
    | [] => .ok cs
    | b :: outer =>
      match _h : skipBlank cs with
      | [] => .error .unfinished
      | c :: rest =>
        if c = b.close then skipOpen .next outer rest
        else if c = ',' then
          match b with
          | .array => skipOpen .value (.array :: outer) rest
          | .object =>
            match _h : skipName rest with
            | .error e => .error e
            | .ok rest => skipOpen .value (.object :: outer) rest
        else .error .malformed
termination_by 2 * cs.length + (if place = .value then 0 else 1)
decreasing_by
  all_goals
    have := length_skipBlank_le cs
    try have := length_skipScalar_lt ‹_›
    try have := length_skipName_lt ‹_›
    simp_all only [List.length_cons, if_true, if_false]
    omega

/-- Skips one value. -/
def skipValue (cs : List Char) : Except Error (List Char) := skipOpen .value [] cs

end ByteScan.Json
