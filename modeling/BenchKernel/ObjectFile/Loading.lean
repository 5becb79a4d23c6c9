import BenchKernel.ObjectFile.Header

/-! # Loading object files

Whether the loader takes a file, and which names it then finds in it. The loader looks at segments only: it puts
parts of the file at addresses and reads the tables of dynamic symbols there. -/

namespace BenchKernel.ObjectFile

structure Segment where
  kind : Nat
  offset : Nat
  address : Nat
  fileSize : Nat
  memorySize : Nat

def loadedKind : Nat := 1

def dynamicKind : Nat := 2

def segment? (file : ByteArray) (start : Nat) : Option Segment := do
  return {
    kind := ← number? file start 4
    offset := ← number? file (start + 8) 8
    address := ← number? file (start + 16) 8
    fileSize := ← number? file (start + 32) 8
    memorySize := ← number? file (start + 40) 8 }

def segments? (file : ByteArray) (h : Header) : Option (List Segment) := do
  guard (h.programSize = 56)
  (List.range h.programCount).mapM fun i => segment? file (h.programOffset + 56 * i)

def sharedObjectKind : Nat := 3

def loadingMachine : Nat := 62

def currentVersion : Nat := 1

def pageSize : Nat := 4096

/-- The systems for which objects may be made, with the number of versions of their interface. -/
def loadingSystems : List (Nat × Nat) := [(0, 1), (3, 4)]

/-- Whether the first bytes of a file name a system of the loader and nothing else. -/
def identifies (file : ByteArray) : Bool :=
  match (file.extract 7 16).toList.map UInt8.toNat with
  | system :: version :: padding =>
    ((loadingSystems.lookup system).any fun versions => version < versions) && padding.all (· == 0)
  | _ => false

def Segment.isAligned (s : Segment) : Bool := s.address % pageSize == s.offset % pageSize

/-- The segments of a file that can be loaded: a shared object with segments to load and one for the loader. -/
def image? (file : ByteArray) : Option (List Segment) := do
  let h ← header? file
  guard (identifies file)
  guard (h.version = currentVersion ∧ h.machine = loadingMachine ∧ h.kind = sharedObjectKind)
  let segments ← segments? file h
  let loaded := segments.filter fun s => s.kind == loadedKind
  guard (!loaded.isEmpty && loaded.all Segment.isAligned)
  guard (segments.any fun s => s.kind == dynamicKind && s.fileSize != 0 && s.address != 0)
  return segments

def isLoadable (file : ByteArray) : Bool := (image? file).isSome

/-! ### Addresses -/

def Segment.covers (s : Segment) (address : Nat) : Bool :=
  s.address / pageSize * pageSize ≤ address && address < (s.address + s.fileSize + pageSize - 1) / pageSize * pageSize

/-- The byte at an address. Behind the bytes of a segment that go on in memory there are zeros. -/
def byteAt (file : ByteArray) (segments : List Segment) (address : Nat) : Option UInt8 :=
  let isLoaded (s : Segment) : Bool := s.kind == loadedKind && s.covers address
  match segments.find? isLoaded with
  | none => none
  | some s =>
    if s.address + s.fileSize ≤ address && s.fileSize < s.memorySize then some 0
    else some ((file[s.offset + address - s.address]?).getD 0)

def numberAt (file : ByteArray) (segments : List Segment) (address length : Nat) : Option Nat :=
  ((List.range length).mapM fun i => byteAt file segments (address + i)).map Codec.ofBytes

def nameAt (file : ByteArray) (segments : List Segment) (address : Nat) (name : List UInt8) : Bool :=
  ((name ++ [0]).zipIdx).all fun (byte, i) => byteAt file segments (address + i) == some byte

/-! ### Dynamic symbols -/

/-- The entries for the loader up to the empty one: what they are and their values. -/
def dynamicEntries (file : ByteArray) (segments : List Segment) : (most address : Nat) → List (Nat × Nat)
  | 0, _ => []
  | most + 1, address =>
    match numberAt file segments address 8, numberAt file segments (address + 8) 8 with
    | some 0, _ => []
    | some tag, some value => (tag, value) :: dynamicEntries file segments most (address + 16)
    | _, _ => []

/-- How names are looked up: by a table of chains, or by one that has a filter in front of its chains. -/
inductive LookupTable
  | chained (address : Nat)
  | filtered (address : Nat)

/-- The tables in which the loader looks names up, by their addresses. -/
structure LoaderTables where
  lookup : LookupTable
  symbols : Nat
  names : Nat

/-- The kinds of the entries that give the addresses of tables. -/
def chainedKind : Nat := 4

def namesKind : Nat := 5

def symbolsKind : Nat := 6

def filteredKind : Nat := 0x6ffffef5

def loaderTables? (file : ByteArray) (segments : List Segment) : Option LoaderTables := do
  let s ← (segments.filter fun s => s.kind == dynamicKind && s.fileSize != 0).getLast?
  let entries := (dynamicEntries file segments file.size s.address).reverse
  let table ←
    match entries.lookup filteredKind with
    | some address => some (.filtered address)
    | none => (entries.lookup chainedKind).map .chained
  return { lookup := table, names := ← entries.lookup namesKind, symbols := ← entries.lookup symbolsKind }

/-- Whether the symbol at an address is one that can be found: it has a value, a kind that can be referred to, and is
    not hidden. -/
def isFound (file : ByteArray) (segments : List Segment) (address : Nat) : Option Bool := do
  let info ← numberAt file segments (address + 4) 1
  let other ← numberAt file segments (address + 5) 1
  let sectionIndex ← numberAt file segments (address + 6) 2
  let value ← numberAt file segments (address + 8) 8
  let kind := info % 16
  let hasValue := value != 0 || sectionIndex == 0xfff1 || kind == 6
  let isVisible := other % 4 == 0 || other % 4 == 3
  return hasValue && isVisible && [0, 1, 2, 5, 6, 10].contains kind && [1, 2, 10].contains (info / 16)

def isSymbol (file : ByteArray) (segments : List Segment) (t : LoaderTables) (name : List UInt8) (index : Nat) :
    Option Bool := do
  let address := t.symbols + 24 * index
  let nameOffset ← numberAt file segments address 4
  return nameAt file segments (t.names + nameOffset) name && (← isFound file segments address)

/-! ### Chains -/

/-- The number by which a name is looked up in a table of chains. -/
def nameHash (name : List UInt8) : Nat :=
  name.foldl (fun h c =>
    let h := (h * 16 + c.toNat) % Number.twoPow 32
    let high := h / Number.twoPow 28
    (h % Number.twoPow 28) ^^^ (high * 16)) 0

/-- Looks a name up along the chain of its bucket, of which at most so many links are followed. -/
def findAlong (file : ByteArray) (segments : List Segment) (t : LoaderTables) (chains : Nat) (name : List UInt8) :
    (most index : Nat) → Option Bool
  | 0, _ => some false
  | most + 1, index => do
    if index = 0 then return false
    if ← isSymbol file segments t name index then return true
    let next ← numberAt file segments (chains + 4 * index) 4
    findAlong file segments t chains name most next

def findChained (file : ByteArray) (segments : List Segment) (t : LoaderTables) (table : Nat) (name : List UInt8) :
    Option Bool := do
  let buckets ← numberAt file segments table 4
  let links ← numberAt file segments (table + 4) 4
  guard (buckets != 0)
  let first ← numberAt file segments (table + 8 + 4 * (nameHash name % buckets)) 4
  findAlong file segments t (table + 8 + 4 * buckets) name (links + 1) first

/-! ### Chains behind a filter -/

/-- The number by which a name is looked up in a table with a filter. -/
def filterHash (name : List UInt8) : Nat :=
  name.foldl (fun h c => (h * 33 + c.toNat) % Number.twoPow 32) 5381

/-- Looks a name up among the symbols from an index on. Each symbol from the first one on has a number whose last
    bit marks the end and whose other bits are those of the name's number. -/
def findFrom (file : ByteArray) (segments : List Segment) (t : LoaderTables) (numbers first hash : Nat)
    (name : List UInt8) : (most index : Nat) → Option Bool
  | 0, _ => some false
  | most + 1, index => do
    let number ← numberAt file segments (numbers + 4 * (index - first)) 4
    if number / 2 == hash / 2 then
      if ← isSymbol file segments t name index then return true
    if number % 2 == 1 then return false
    findFrom file segments t numbers first hash name most (index + 1)

/-- Looks a name up in a table with a filter: a row of words in which two bits tell that a name may be there. -/
def findFiltered (file : ByteArray) (segments : List Segment) (t : LoaderTables) (table : Nat) (name : List UInt8) :
    Option Bool := do
  let buckets ← numberAt file segments table 4
  let first ← numberAt file segments (table + 4) 4
  let words ← numberAt file segments (table + 8) 4
  let shift ← numberAt file segments (table + 12) 4
  guard (buckets != 0 && words != 0)
  let hash := filterHash name
  let word ← numberAt file segments (table + 16 + 8 * (hash / 64 % words)) 8
  if !(word.testBit (hash % 64) && word.testBit (hash / Number.twoPow (shift % 32) % 64)) then return false
  let bucketStart := table + 16 + 8 * words
  let index ← numberAt file segments (bucketStart + 4 * (hash % buckets)) 4
  if index = 0 then return false
  guard (first ≤ index)
  findFrom file segments t (bucketStart + 4 * buckets) first hash name file.size index

def defines (file : ByteArray) (name : String) : Bool :=
  let bytes := name.toUTF8.toList
  let found : Option Bool := do
    let segments ← image? file
    let t ← loaderTables? file segments
    match t.lookup with
    | .chained table => findChained file segments t table bytes
    | .filtered table => findFiltered file segments t table bytes
  found.getD false

end BenchKernel.ObjectFile
