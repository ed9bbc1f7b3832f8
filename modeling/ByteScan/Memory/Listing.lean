import ByteScan.Memory.Module
import ByteScan.Text.Pieces

/-!
# Listings of mappings

The mappings of a program are listed in a text, one line for each:

    start-stop permissions offset device inode path

A line has its fields apart by single spaces; the path is all that follows the fifth field, without
the blanks around it. Lines that are not written like this are passed over.

The lines of one file make up a module. It begins at a mapping of the first byte of the file that
can be read and not be written, and goes on over the mappings of the same file as long as each of
them begins where the one before it ended and can be read and not be written.
-/

namespace ByteScan

/-- One line of a listing. -/
structure Mapping where
  /-- The first address. -/
  start : UInt64
  /-- The address behind the last. -/
  stop : UInt64
  /-- Whether the memory can be read. -/
  isReadable : Bool
  /-- Whether the memory can be written. -/
  isWritable : Bool
  /-- Which byte of the file is the first that is mapped. -/
  offset : UInt64
  /-- The path of the file, or another note on what is mapped. -/
  path : String
  deriving DecidableEq, Repr

namespace Mapping

/-- Whether the memory can be read and not be written. -/
def isReadOnly (m : Mapping) : Bool := m.isReadable && !m.isWritable

/-- Whether a module begins here. -/
def beginsModule (m : Mapping) : Bool :=
  m.isReadOnly && m.offset == 0 && m.path.toList.head? == some '/'

/-- Whether the second byte of a text is the letter w. -/
def hasWriteMark : List Char → Bool
  | first :: second :: _ => first.utf8Size = 1 && second = 'w'
  | _ => false

/-- Reads a line of a listing. -/
def parse? (line : List Char) : Option Mapping := do
  let (range, rest) ← Text.cut? ' ' line
  let (permissions, rest) ← Text.cut? ' ' rest
  let (offset, rest) ← Text.cut? ' ' rest
  let (_device, rest) ← Text.cut? ' ' rest
  let path := match Text.cut? ' ' rest with
    | some (_inode, path) => Text.trim path
    | none => []
  let (start, stop) ← Text.cut? '-' range
  return {
    start := ← Numeral.word? 16 start
    stop := ← Numeral.word? 16 stop
    isReadable := permissions.head? == some 'r'
    isWritable := hasWriteMark permissions
    offset := ← Numeral.word? 16 offset
    path := String.ofList path }

end Mapping

namespace Listing

/-- The mappings of a listing, line by line. -/
def mappings (text : String) : List Mapping :=
  (Text.lines text.toList).filterMap Mapping.parse?

/-- The module that begins at a mapping. -/
def openModule (m : Mapping) : Except Fault Module := do
  return {
    name := String.ofList (Text.afterLast '/' m.path.toList)
    path := m.path
    base := ⟨m.start⟩
    size := ← Word.sub m.stop m.start }

/-- What is known after some mappings: the modules that are complete, the last of them first, and
the module that may still go on, if there is one, and whether it still grows. -/
structure Progress where
  /-- The complete modules, the last first. -/
  complete : List Module := []
  /-- The last module, while the lines are still of its file. -/
  current : Option (Module × Bool) := none

/-- Takes in a mapping that is not of the file of the current module. -/
def Progress.begin (complete : List Module) (m : Mapping) : Except Fault Progress := do
  if m.beginsModule then return ⟨complete, some (← openModule m, true)⟩
  else return ⟨complete, none⟩

/-- Takes in the next mapping. -/
def Progress.step (p : Progress) (m : Mapping) : Except Fault Progress := do
  match p.current with
  | none => begin p.complete m
  | some (module, grows) =>
    if m.path = module.path then
      if grows && m.isReadOnly then
        if m.start = (← module.stop).value then
          let size ← Word.add module.size (← Word.sub m.stop m.start)
          return ⟨p.complete, some ({ module with size }, true)⟩
      return ⟨p.complete, some (module, false)⟩
    else
      begin (module :: p.complete) m

/-- All modules, in the order in which they begin. -/
def Progress.modules (p : Progress) : List Module :=
  match p.current with
  | some (module, _) => (module :: p.complete).reverse
  | none => p.complete.reverse

/-- The modules that some mappings make up. -/
def modulesOf (ms : List Mapping) : Except Fault (List Module) := do
  return (← ms.foldlM Progress.step (Progress.mk [] none)).modules

/-- The modules of a listing. -/
def modules (text : String) : Except Fault (List Module) := modulesOf (mappings text)

end Listing

end ByteScan
