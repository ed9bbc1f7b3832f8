import ByteScan.Memory.Listing
import ByteScan.Proofs.Text.Numeral
import ByteScan.Proofs.Text.Pieces

/-!
# Listings read as they were printed

A mapping is printed as a line of five fields, each but the last with one space behind it, and its
path, if it has one, behind one space or more. Reading the line gives the mapping back: its
addresses and its offset whichever way their digits are written, and its path to the last character,
also if there are spaces in it. So the mappings of a listing are those that were printed, line by
line and in their order.

A line feed ends a line, and a carriage return before it would belong to the ending. Only the inode
of a mapping without a path can end in one; the line without it is the line of the same mapping, for
nothing is read of an inode.
-/

namespace ByteScan.Listing

/-- A word and the numeral that is printed for it. -/
structure HexField where
  /-- The word. -/
  value : UInt64
  /-- Its digits, with letters of either case, and any number of zeros before them. -/
  digits : List Char
  /-- They are the digits of the word. -/
  isHex : Numeral.IsHex digits value

/-- A mapping as it is printed. -/
structure Entry where
  /-- The first address. -/
  start : HexField
  /-- The address behind the last. -/
  stop : HexField
  /-- A letter or a dash for each thing that may be done with the memory. -/
  permissions : List Char
  /-- Which byte of the file is the first that is mapped. -/
  offset : HexField
  /-- The device of the file. -/
  device : List Char
  /-- The number of the file on its device. -/
  inode : List Char
  /-- How many spaces there are behind the number. -/
  gap : Nat
  /-- The path, or nothing. -/
  path : String
  /-- Each of them is a letter of ASCII or a dash. -/
  isMark : ∀ c ∈ permissions, c.isAlpha ∨ c = '-'
  /-- A device is one word on one line. -/
  device_isWord : ' ' ∉ device ∧ '\n' ∉ device
  /-- An inode is one word on one line. -/
  inode_isWord : ' ' ∉ inode ∧ '\n' ∉ inode
  /-- A path is on one line. -/
  path_isLine : '\n' ∉ path.toList
  /-- It does not begin with a blank. -/
  path_head : ∀ c ∈ path.toList.head?, Text.isBlank c = false
  /-- It does not end with a blank. -/
  path_last : ∀ c ∈ path.toList.getLast?, Text.isBlank c = false
  /-- A path stands apart from the field before it. -/
  path_of_no_gap : gap = 0 → path.toList = []

namespace Entry

variable (e : Entry)

/-- The two addresses. -/
def range : List Char := e.start.digits ++ '-' :: e.stop.digits

/-- The first four fields, each with a space behind it. -/
def fields : List Char :=
  e.range ++ ' ' :: (e.permissions ++ ' ' :: (e.offset.digits ++ ' ' :: (e.device ++ [' '])))

/-- What follows the inode: the path behind its spaces. -/
def tail : List Char := List.replicate e.gap ' ' ++ e.path.toList

/-- The line that is printed. -/
def line : List Char := e.fields ++ (e.inode ++ e.tail)

/-- The mapping that is printed. -/
def mapping : Mapping where
  start := e.start.value
  stop := e.stop.value
  isReadable := e.permissions[0]? == some 'r'
  isWritable := e.permissions[1]? == some 'w'
  offset := e.offset.value
  path := e.path

/-! ### Fields -/

theorem notMem_permissions {c : Char} (letter : c.isAlpha = false) (dash : c ≠ '-') :
    c ∉ e.permissions := by
  intro mem
  rcases e.isMark c mem with isLetter | rfl
  · rw [letter] at isLetter
    cases isLetter
  · exact dash rfl

theorem notMem_range {c : Char} (noDigit : Numeral.digit? 16 c = none) (dash : c ≠ '-') :
    c ∉ e.range := by
  rw [range, List.mem_append, List.mem_cons, not_or, not_or]
  exact ⟨e.start.isHex.notMem noDigit, dash, e.stop.isHex.notMem noDigit⟩

theorem utf8Size_of_mem_permissions {c : Char} (h : c ∈ e.permissions) : c.utf8Size = 1 := by
  rw [Char.utf8Size_eq_one_iff]
  rcases e.isMark c h with letter | rfl
  · have le_z : c.val ≤ 'z'.val := by
      rcases (Bool.or_eq_true _ _).mp letter with capital | small
      · have bounds : 'A'.val ≤ c.val ∧ c.val ≤ 'Z'.val := of_decide_eq_true capital
        exact UInt32.le_trans bounds.2 (by decide)
      · exact of_decide_eq_true ((Bool.and_eq_true _ _).mp small).2
    exact UInt32.le_trans le_z (by decide)
  · decide

/-- The second byte of the permissions is their second mark. -/
theorem hasWriteMark_permissions :
    Mapping.hasWriteMark e.permissions = (e.permissions[1]? == some 'w') := by
  have single := @utf8Size_of_mem_permissions e
  cases marks : e.permissions with
  | nil => rfl
  | cons first others =>
    cases others with
    | nil => rfl
    | cons second others =>
      have first' := single (marks ▸ List.mem_cons_self : first ∈ e.permissions)
      simp only [Mapping.hasWriteMark, first', decide_true, Bool.true_and]
      rfl

/-- What is read of the rest of a line: nothing of the inode, and of what follows only the path. -/
theorem path_of_tail :
    (match Text.cut? ' ' (e.inode ++ e.tail) with
      | some (_, path) => Text.trim path
      | none => []) = e.path.toList := by
  rw [tail]
  rcases e.gap.eq_zero_or_pos with zero | pos
  · rw [e.path_of_no_gap zero, zero, List.replicate_zero, List.append_nil, List.append_nil,
      Text.cut?_of_notMem e.inode_isWord.1]
  · obtain ⟨gap, more⟩ := Nat.exists_eq_add_one_of_ne_zero (Nat.ne_of_gt pos)
    have spaces : ∀ c ∈ List.replicate gap ' ', Text.isBlank c := by
      intro c mem
      rw [List.eq_of_mem_replicate mem]
      rfl
    rw [more, List.replicate_succ, List.cons_append, Text.cut?_append_sep e.inode_isWord.1]
    exact Text.trim_append spaces e.path_head e.path_last

/-! ### Lines -/

/-- A line that is printed is read as the mapping that it was printed for. -/
theorem parse?_line : Mapping.parse? e.line = some e.mapping := by
  have space : Numeral.digit? 16 ' ' = none := by decide
  -- Each field ends at the first space, and the first address at the first dash.
  have range := Text.cut?_append_sep (e.notMem_range space (by decide))
  have permissions := Text.cut?_append_sep (e.notMem_permissions (c := ' ') rfl (by decide))
  have offset := Text.cut?_append_sep (e.offset.isHex.notMem space)
  have device := Text.cut?_append_sep e.device_isWord.1
  have addresses : Text.cut? '-' e.range = some (e.start.digits, e.stop.digits) :=
    Text.cut?_append_sep (e.start.isHex.notMem (by decide)) e.stop.digits
  simp only [line, fields, List.append_assoc, List.cons_append, List.nil_append, Mapping.parse?,
    Option.bind_eq_bind, Option.bind_some, range, permissions, offset, device, addresses,
    e.start.isHex.word?, e.stop.isHex.word?, e.offset.isHex.word?, e.hasWriteMark_permissions,
    List.head?_eq_getElem?]
  have path := (congrArg String.ofList e.path_of_tail).trans String.ofList_toList
  exact congrArg (fun path => some (Mapping.mk _ _ _ _ _ path)) path

theorem newline_notMem_line : '\n' ∉ e.line := by
  have feed : Numeral.digit? 16 '\n' = none := by decide
  simp only [line, fields, tail, List.mem_append, List.mem_cons, List.mem_replicate, not_or,
    List.not_mem_nil]
  exact ⟨⟨e.notMem_range feed (by decide), by decide, e.notMem_permissions rfl (by decide),
    by decide, e.offset.isHex.notMem feed, by decide, e.device_isWord.2, by decide, not_false⟩,
    e.inode_isWord.2, fun space => absurd space.2 (by decide), e.path_isLine⟩

theorem line_ne_nil : e.line ≠ [] := by
  simp [line, fields]

theorem dropReturn_tail : Text.dropReturn e.tail = e.tail := by
  refine Text.dropReturn_of_getLast? fun isReturn => ?_
  rw [tail, List.getLast?_append] at isReturn
  cases last : e.path.toList.getLast? with
  | none =>
    rw [last, Option.none_or] at isReturn
    have space := List.eq_of_mem_replicate (List.mem_of_getLast? isReturn)
    exact absurd space (by decide)
  | some c =>
    rw [last] at isReturn
    cases isReturn
    exact absurd (e.path_last _ last) (by decide)

/-- The same mapping, its inode without a carriage return at the end. -/
def withoutReturn : Entry :=
  { e with
    inode := Text.dropReturn e.inode
    inode_isWord :=
      ⟨Text.notMem_dropReturn e.inode_isWord.1, Text.notMem_dropReturn e.inode_isWord.2⟩ }

theorem line_withoutReturn :
    e.withoutReturn.line = e.fields ++ (Text.dropReturn e.inode ++ e.tail) := rfl

theorem mapping_withoutReturn : e.withoutReturn.mapping = e.mapping := rfl

/-- Where a carriage return is dropped from the end of a line, it was that of the inode. -/
theorem dropReturn_line :
    Text.dropReturn e.line = e.line ∨ Text.dropReturn e.line = e.withoutReturn.line := by
  by_cases noMore : e.inode ++ e.tail = []
  · have ends : e.line = (e.range ++ ' ' :: (e.permissions ++ ' ' :: (e.offset.digits ++ ' ' ::
        e.device))) ++ [' '] := by
      simp [line, fields, noMore]
    rw [ends, Text.dropReturn_append (List.cons_ne_nil _ _)]
    exact .inl rfl
  · by_cases noTail : e.tail = []
    · have some : e.inode ≠ [] := by rwa [noTail, List.append_nil] at noMore
      refine .inr ?_
      rw [line_withoutReturn, line, noTail, List.append_nil, List.append_nil,
        Text.dropReturn_append some]
    · refine .inl ?_
      rw [line, Text.dropReturn_append noMore, Text.dropReturn_append noTail, e.dropReturn_tail]

/-- A line that is printed is read as its mapping, also where a carriage return at its end is taken
for a part of the ending. -/
theorem parse?_dropReturn_line : Mapping.parse? (Text.dropReturn e.line) = some e.mapping := by
  rcases e.dropReturn_line with same | shorter
  · rw [same, parse?_line]
  · rw [shorter, parse?_line, mapping_withoutReturn]

end Entry

/-! ### Listings -/

/-- What is printed for some mappings: a line for each, with a line feed behind it. -/
def printed (entries : List Entry) : List Char := entries.flatMap fun e => e.line ++ ['\n']

/-- **Reading a listing undoes printing it.** The mappings of a printed listing are those that were
printed, each once and in their order, with their addresses, their offset, their path, and what may
be done with their memory. The last line may lack its line feed. -/
theorem mappings_printed (entries : List Entry) :
    mappings (String.ofList (printed entries)) = entries.map Entry.mapping ∧
    ∀ last : Entry, mappings (String.ofList (printed entries ++ last.line)) =
      entries.map Entry.mapping ++ [last.mapping] := by
  have oneLine : ∀ l ∈ entries.map Entry.line, '\n' ∉ l := by
    intro l mem
    obtain ⟨e, -, rfl⟩ := List.mem_map.1 mem
    exact e.newline_notMem_line
  have lines : printed entries = (entries.map Entry.line).flatMap fun l => l ++ ['\n'] := by
    rw [printed, List.flatMap_map]
  have read : ((entries.map Entry.line).map Text.dropReturn).filterMap Mapping.parse? =
      entries.map Entry.mapping := by
    have each : Mapping.parse? ∘ (Text.dropReturn ∘ Entry.line) = some ∘ Entry.mapping :=
      funext Entry.parse?_dropReturn_line
    rw [List.map_map, List.filterMap_map, each, List.filterMap_eq_map]
  constructor
  · have whole := Text.lines_flatMap_append oneLine (List.not_mem_nil (a := '\n'))
    rw [List.append_nil, ← lines] at whole
    rw [mappings, String.toList_ofList, whole, List.filterMap_append, read]
    exact List.append_nil _
  · intro last
    have whole := Text.lines_flatMap_append oneLine last.newline_notMem_line
    rw [mappings, String.toList_ofList, lines, whole, List.filterMap_append, read,
      if_neg (by simp [last.line_ne_nil]), List.filterMap_cons_some last.parse?_line]
    rfl

/-- A mapping with digits of either case, zeros before them, and a path with spaces in it. -/
def spacedEntry : Entry where
  start := ⟨0x55D0, "055d0".toList, 1, rfl⟩
  stop := ⟨0xFFFFFFFFFFFFFFFF, "FFFFffffFFFFffff".toList, 0, rfl⟩
  permissions := "r-xp".toList
  offset := ⟨0, "0000".toList, 3, rfl⟩
  device := "08:01".toList
  inode := "1311".toList
  gap := 3
  path := "/opt/a  b (deleted)"
  isMark := by simp
  device_isWord := by decide
  inode_isWord := by decide
  path_isLine := by decide
  path_head := by
    rintro _ ⟨⟩
    rfl
  path_last := by
    rintro _ ⟨⟩
    rfl
  path_of_no_gap := nofun

/-- Two such lines, the last of them without a line feed. -/
theorem mappings_printed_with_spaces :
    mappings ("055d0-FFFFffffFFFFffff r-xp 0000 08:01 1311   /opt/a  b (deleted)\n" ++
        "055d0-FFFFffffFFFFffff r-xp 0000 08:01 1311   /opt/a  b (deleted)") =
      List.replicate 2 ⟨0x55D0, 0xFFFFFFFFFFFFFFFF, true, false, 0, "/opt/a  b (deleted)"⟩ := by
  obtain ⟨-, read⟩ := mappings_printed [spacedEntry]
  have text : printed [spacedEntry] ++ spacedEntry.line =
      ("055d0-FFFFffffFFFFffff r-xp 0000 08:01 1311   /opt/a  b (deleted)\n" ++
        "055d0-FFFFffffFFFFffff r-xp 0000 08:01 1311   /opt/a  b (deleted)").toList := by
    rw [String.toList_append]
    rfl
  rw [← String.ofList_toList (s := _ ++ _), ← text, read]
  rfl

end ByteScan.Listing
