import BenchKernel.ObjectFile.Header

/-! # Exported symbols

The symbols that an object file exports, and how they are read from its bytes. A header, table or name that does not
lie in the file makes the file, or the name, unreadable. -/

namespace BenchKernel.ObjectFile

/-- What is known of a symbol. The name is missing if it cannot be read. -/
structure Symbol where
  name : Option String
  isDefinition : Bool
  isGlobal : Bool

/-- The symbols of an object file: those for loading and those for linking. -/
structure Symbols where
  dynamic : List Symbol
  static : List Symbol

def globalDefinitions (symbols : List Symbol) : List String :=
  (symbols.filter fun s => s.isDefinition && s.isGlobal).filterMap fun s => s.name.filter (!·.isEmpty)

/-- The exported names, in increasing order without repetition. The symbols for linking count only if those for
    loading export nothing. A file whose symbols cannot be read exports nothing. -/
def exportedNames : Option Symbols → List String
  | none => []
  | some symbols =>
    let dynamic := globalDefinitions symbols.dynamic
    let names := if dynamic.isEmpty then globalDefinitions symbols.static else dynamic
    (names.mergeSort fun a b => decide (a ≤ b)).eraseDups

/-! ### Sections -/

structure Section where
  kind : Nat
  offset : Nat
  size : Nat
  /-- The index of a section that belongs to this one. -/
  link : Nat
  info : Nat

def symbolTableKind : Nat := 2

def stringTableKind : Nat := 3

def emptyKind : Nat := 8

def dynamicSymbolsKind : Nat := 11

def indexTableKind : Nat := 18

def relocationKinds : List Nat := [4, 9, 0x40000014]

def section? (file : ByteArray) (start : Nat) : Option Section := do
  return {
    kind := ← number? file (start + 4) 4
    offset := ← number? file (start + 24) 8
    size := ← number? file (start + 32) 8
    link := ← number? file (start + 40) 4
    info := ← number? file (start + 44) 4 }

/-- The number of sections, which the first section holds when it is too large for the header. -/
def sectionCount? (file : ByteArray) (h : Header) : Option Nat :=
  if h.sectionOffset = 0 then some 0
  else if h.sectionCount ≠ 0 then some h.sectionCount
  else if h.sectionSize ≠ 64 then none
  else (section? file h.sectionOffset).map Section.size

def sections? (file : ByteArray) (h : Header) : Option (List Section) := do
  let count ← sectionCount? file h
  if count = 0 then return []
  guard (h.sectionSize = 64)
  guard (h.sectionOffset + 64 * count ≤ file.size)
  (List.range count).mapM fun i => section? file (h.sectionOffset + 64 * i)

def Section.data? (s : Section) (file : ByteArray) : Option ByteArray :=
  if s.kind = emptyKind then some ByteArray.empty else slice? file s.offset s.size

/-! ### Segments -/

/-- The number of segments; a full field asks the first section. -/
def programCount? (file : ByteArray) (h : Header) : Option Nat :=
  if h.programOffset = 0 then some 0
  else if h.programCount ≠ 0xffff then some h.programCount
  else if h.sectionOffset = 0 ∨ h.sectionSize ≠ 64 then none
  else (section? file h.sectionOffset).map Section.info

def segmentsFit (file : ByteArray) (h : Header) : Bool :=
  match programCount? file h with
  | none => false
  | some count => count = 0 || (h.programSize = 56 && h.programOffset + 56 * count ≤ file.size)

/-! ### Symbols -/

/-- An entry of a symbol table. -/
structure Entry where
  nameOffset : Nat
  binding : Nat
  kind : Nat
  sectionIndex : Nat
  size : Nat

def entry? (table : ByteArray) (start : Nat) : Option Entry := do
  let info ← number? table (start + 4) 1
  return {
    nameOffset := ← number? table start 4
    binding := info / 16
    kind := info % 16
    sectionIndex := ← number? table (start + 6) 2
    size := ← number? table (start + 16) 8 }

/-- Whether an entry is seen outside its file. -/
def Entry.isGlobal (e : Entry) : Bool := e.binding != 0

/-- Whether an entry names code or data of its file. -/
def Entry.isDefinition (e : Entry) : Bool :=
  e.sectionIndex != 0 && (e.sectionIndex < 0xff00 || e.sectionIndex == 0xffff) &&
    (e.kind == 1 || e.kind == 2 || (e.kind == 0 && e.size != 0))

/-- Where the names of symbols lie in a file. -/
structure NameTable where
  start : Nat
  stop : Nat

/-- The name at an offset: the bytes up to the next zero, which has to lie in the table. The table has to lie in the
    file. -/
def NameTable.name? (t : NameTable) (file : ByteArray) (offset : Nat) : Option String := do
  let start := t.start + offset
  guard (start ≤ t.stop ∧ t.stop ≤ file.size)
  let bytes := (file.extract start t.stop).toList
  guard (bytes.any (· == 0))
  String.fromUTF8? (bytes.takeWhile (· != 0)).toByteArray

/-- The names that a section index links to: none for index zero, and otherwise those of a string table. -/
def linkedNames? (sections : List Section) (index : Nat) : Option NameTable :=
  if index = 0 then some ⟨0, 0⟩
  else do
    let s ← sections[index]?
    guard (s.kind = stringTableKind)
    guard (s.offset + s.size < Number.twoPow 64)
    return ⟨s.offset, s.offset + s.size⟩

/-- The bytes of a section with entries of a size, if it has no part of an entry at its end. -/
def Section.entries? (s : Section) (file : ByteArray) (size : Nat) : Option ByteArray :=
  (s.data? file).filter fun data => data.size % size = 0

/-- The symbols of the first table of a kind; a file without one has no symbols of that kind. The first entry of a
    table is no symbol. -/
def symbolsOf? (file : ByteArray) (sections : List Section) (kind : Nat) : Option (List Symbol) :=
  match sections.findIdx? (·.kind == kind) with
  | none => some []
  | some index => do
    let s ← sections[index]?
    let data ← s.entries? file 24
    let entries ← (List.range (data.size / 24 - 1)).mapM fun i => entry? data (24 * (i + 1))
    let names ← linkedNames? sections s.link
    for t in sections do
      if t.kind = indexTableKind ∧ t.link = index then
        let _ ← t.entries? file 4
    return entries.map fun e => ⟨names.name? file e.nameOffset, e.isDefinition, e.isGlobal⟩

def Section.isRelocation (s : Section) : Bool := relocationKinds.contains s.kind

/-- Whether the relocation sections that belong to a symbol table apply to sections of the file that are no such
    sections themselves. -/
def relocationsFit (sections : List Section) (tableIndex : Nat) : Bool :=
  sections.all fun s =>
    !(s.isRelocation && s.link == tableIndex && s.info != 0) || sections[s.info]?.any fun target => !target.isRelocation

/-- Whether the names of sections can be found. A full index field asks the first section, which
    is never the one with the names. -/
def sectionNamesFit (h : Header) (sections : List Section) : Bool :=
  match sections with
  | [] => true
  | first :: _ =>
    let index := if h.nameIndex = 0xffff then first.link else h.nameIndex
    match sections[index]? with
    | some s => index != 0 && (s.kind == emptyKind || s.offset + s.size < Number.twoPow 64)
    | none => false

def symbols? (file : ByteArray) : Option Symbols := do
  let h ← header? file
  guard (segmentsFit file h)
  let sections ← sections? file h
  guard (sectionNamesFit h sections)
  let static ← symbolsOf? file sections symbolTableKind
  let dynamic ← symbolsOf? file sections dynamicSymbolsKind
  guard (relocationsFit sections ((sections.findIdx? (·.kind == symbolTableKind)).getD 0))
  return { dynamic, static }

def exports (file : ByteArray) : List String := exportedNames (symbols? file)

end BenchKernel.ObjectFile
