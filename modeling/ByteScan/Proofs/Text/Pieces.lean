import ByteScan.Text.Pieces

/-!
# Cutting and joining texts

Cutting a text at a separator and joining the pieces with it undo each other, as long as no piece
holds the separator itself. Letters made capital stay in their piece, since no letter is a space.
What stands behind the last separator is the one end of the text that follows a separator and holds
none. A line that is written with a line feed behind it is one of the lines of the text, apart from
a carriage return at its end.
-/

namespace ByteScan.Text

variable {sep : Char} {piece front back cs : List Char} {ps ls : List (List Char)}

theorem pieces_cons_self (sep : Char) (cs : List Char) :
    pieces sep (sep :: cs) = [] :: pieces sep cs :=
  if_pos rfl

theorem pieces_of_not_mem (h : sep ∉ piece) : pieces sep piece = [piece] := by
  induction piece with
  | nil => rfl
  | cons c cs ih =>
    rw [List.mem_cons, not_or] at h
    rw [pieces, if_neg (Ne.symm h.1), ih h.2]

theorem pieces_append_sep (h : sep ∉ piece) (rest : List Char) :
    pieces sep (piece ++ sep :: rest) = piece :: pieces sep rest := by
  induction piece with
  | nil => exact pieces_cons_self sep rest
  | cons c cs ih =>
    rw [List.mem_cons, not_or] at h
    rw [List.cons_append, pieces, if_neg (Ne.symm h.1), ih h.2]

theorem intercalate_pieces (sep : Char) (cs : List Char) :
    [sep].intercalate (pieces sep cs) = cs := by
  induction cs with
  | nil => rfl
  | cons c cs ih =>
    rw [pieces]
    split
    · rename_i same
      cases rest : pieces sep cs with
      | nil => exact absurd rest (pieces_ne_nil sep cs)
      | cons p ps => rw [List.intercalate_cons_cons, ← rest, ih, same]; rfl
    · cases rest : pieces sep cs with
      | nil => exact absurd rest (pieces_ne_nil sep cs)
      | cons p ps =>
        rw [rest] at ih
        cases ps with
        | nil => rw [← ih]; rfl
        | cons q ps =>
          rw [List.intercalate_cons_cons] at ih
          rw [← ih]
          exact List.intercalate_cons_cons

theorem pieces_intercalate (hps : ps ≠ []) (h : ∀ p ∈ ps, sep ∉ p) :
    pieces sep ([sep].intercalate ps) = ps := by
  induction ps with
  | nil => exact absurd rfl hps
  | cons p ps ih =>
    have first := h p List.mem_cons_self
    cases ps with
    | nil =>
      rw [show [sep].intercalate [p] = p from List.append_nil p]
      exact pieces_of_not_mem first
    | cons q ps =>
      rw [List.intercalate_cons_cons, List.append_assoc, List.singleton_append,
        pieces_append_sep first,
        ih (List.cons_ne_nil q ps) fun r hr => h r (List.mem_cons_of_mem p hr)]

/-- Changing every character of joined pieces changes the separators too. -/
theorem map_intercalate (f : Char → Char) (sep : Char) (ps : List (List Char)) :
    ([sep].intercalate ps).map f = [f sep].intercalate (ps.map (·.map f)) := by
  induction ps with
  | nil => rfl
  | cons p ps ih =>
    cases ps with
    | nil =>
      rw [show [sep].intercalate [p] = p from List.append_nil p]
      exact (List.append_nil _).symm
    | cons q ps =>
      rw [List.intercalate_cons_cons, List.map_append, List.map_append, ih]
      exact List.intercalate_cons_cons.symm

theorem asciiUpper_eq_intercalate (s : String) :
    asciiUpper s =
      String.ofList ([' '].intercalate ((pieces ' ' s.toList).map (·.map Char.toUpper))) := by
  conv => lhs; rw [asciiUpper, ← intercalate_pieces ' ' s.toList, map_intercalate]
  rfl

/-! ### The last piece -/

theorem notMem_afterLast (sep : Char) (cs : List Char) : sep ∉ afterLast sep cs := by
  intro mem
  have other := List.all_eq_true.1 List.all_takeWhile sep (List.mem_reverse.1 mem)
  simp at other

/-- A text is what comes before its last separator, the separator, and what comes behind it. -/
theorem afterLast_append (h : sep ∉ back) : afterLast sep (front ++ sep :: back) = back := by
  have others : ∀ c ∈ back.reverse, decide (c ≠ sep) = true := by
    intro c mem
    rw [decide_eq_true_iff]
    rintro rfl
    exact h (List.mem_reverse.1 mem)
  rw [afterLast, List.reverse_append, List.reverse_cons, List.append_assoc,
    List.takeWhile_append_of_pos others, List.singleton_append,
    List.takeWhile_cons_of_neg (by simp), List.append_nil, List.reverse_reverse]

theorem exists_eq_append_afterLast (h : sep ∈ cs) :
    ∃ front, cs = front ++ sep :: afterLast sep cs := by
  obtain ⟨back, front, split, absent⟩ := List.eq_append_cons_of_mem (List.mem_reverse.2 h)
  have cut : cs = front.reverse ++ sep :: back.reverse := by
    rw [← List.reverse_reverse cs, split]
    simp
  refine ⟨front.reverse, ?_⟩
  rw [cut, afterLast_append (fun mem => absent (List.mem_reverse.1 mem))]

/-! ### The first piece -/

theorem cut?_append_sep (h : sep ∉ front) (back : List Char) :
    cut? sep (front ++ sep :: back) = some (front, back) := by
  induction front with
  | nil => exact if_pos rfl
  | cons c front ih =>
    rw [List.mem_cons, not_or] at h
    rw [List.cons_append, cut?, if_neg (Ne.symm h.1), ih h.2, Option.map_some]

theorem cut?_of_notMem (h : sep ∉ cs) : cut? sep cs = none := by
  induction cs with
  | nil => rfl
  | cons c cs ih =>
    rw [List.mem_cons, not_or] at h
    rw [cut?, if_neg (Ne.symm h.1), ih h.2, Option.map_none]

/-! ### Blanks around a text -/

/-- Blanks in front of a text, which itself has none at its ends, are all that is dropped. -/
theorem trim_append (blank : ∀ c ∈ front, isBlank c) (first : ∀ c ∈ cs.head?, isBlank c = false)
    (last : ∀ c ∈ cs.getLast?, isBlank c = false) : trim (front ++ cs) = cs := by
  have kept : ∀ text : List Char, (∀ c ∈ text.head?, isBlank c = false) →
      text.dropWhile isBlank = text := by
    intro text first
    cases text with
    | nil => rfl
    | cons c text => exact List.dropWhile_cons_of_neg (by simp [first c rfl])
  have last' : ∀ c ∈ cs.reverse.head?, isBlank c = false := by rwa [List.head?_reverse]
  rw [trim, List.dropWhile_append_of_pos blank, kept cs first, kept cs.reverse last',
    List.reverse_reverse]

/-! ### Lines -/

/-- Only the end of a line is looked at. -/
theorem dropReturn_append (h : back ≠ []) (front : List Char) :
    dropReturn (front ++ back) = front ++ dropReturn back := by
  have last : (front ++ back).getLast? = back.getLast? := by
    rw [List.getLast?_append, List.getLast?_eq_some_getLast h, Option.some_or]
  rw [dropReturn, dropReturn, last]
  split
  · exact List.dropLast_append_of_ne_nil h
  · rfl

theorem dropReturn_of_getLast? (h : cs.getLast? ≠ some '\r') : dropReturn cs = cs := if_neg h

theorem notMem_dropReturn {c : Char} (h : c ∉ cs) : c ∉ dropReturn cs := by
  rw [dropReturn]
  split
  · exact fun mem => h (List.dropLast_subset cs mem)
  · exact h

/-- Cutting a text in which each piece has the separator behind it: what follows the last separator
is one more piece. -/
theorem pieces_flatMap_append (h : ∀ p ∈ ps, sep ∉ p) (absent : sep ∉ back) :
    pieces sep ((ps.flatMap fun p => p ++ [sep]) ++ back) = ps ++ [back] := by
  induction ps with
  | nil => exact pieces_of_not_mem absent
  | cons p ps ih =>
    rw [List.forall_mem_cons] at h
    rw [List.flatMap_cons, List.append_assoc, List.append_assoc, List.singleton_append,
      pieces_append_sep h.1, ih h.2, List.cons_append]

/-- Lines that are written with a line feed behind each, and a last one that may lack it. -/
theorem lines_flatMap_append (h : ∀ l ∈ ls, '\n' ∉ l) (absent : '\n' ∉ back) :
    lines ((ls.flatMap fun l => l ++ ['\n']) ++ back) =
      ls.map dropReturn ++ if back.isEmpty then [] else [back] := by
  rw [lines, pieces_flatMap_append h absent, List.getLast?_concat, List.dropLast_concat]
  rfl

end ByteScan.Text
