import BenchKernel.Host.Awk.Value
import Std.Data.HashMap

/-! # Tables of programs on records

A table has entries by their names, and knows numbers that were used as names. The entries are gone through slot by
slot, and within a slot the one that was used last comes first. -/

namespace BenchKernel.Awk

/-- An entry, and when it was last asked for by its name. -/
structure Entry where
  value : Value := .unset
  named : Nat := 0
  /-- When the entry was last asked for by its number, if it was, and the number. -/
  numbered : Option (Nat × Int) := none

inductive Key
  | name (text : String)
  | number (n : Int)
  deriving DecidableEq, Repr

def Key.text : Key → String
  | name text => text
  | number n => toString n

/-- A table with its entries and the time, which counts questions. -/
structure Table where
  entries : Std.HashMap String Entry := {}
  clock : Nat := 1
  slots : Nat := 64
  hasNames : Bool := false
  /-- Whether the entries are the parts of a text, and nothing else was put in. -/
  isSequence : Bool := false

namespace Table

def crowd : Nat := 12

/-- The number that chooses the slot of a name. -/
def hash (name : String) : UInt32 :=
  name.toList.foldl (fun h c => (h ^^^ c.toNat.toUInt32) * 16777619) 2166136261

variable (t : Table)

def slot (name : String) : Nat := (hash name).toNat % t.slots

def size : Nat := t.entries.size

/-- Doubles the slots of a table that is too crowded. -/
def withRoom (count : Nat) : (rounds : Nat) → Table → Table
  | 0, t => t
  | rounds + 1, t => if t.slots * crowd < count then withRoom count rounds { t with slots := 2 * t.slots } else t

def add (name : String) (entry : Entry) : Table :=
  let t := t.withRoom (t.size + 1) 1
  { t with entries := t.entries.insert name entry, clock := t.clock + 1 }

def put (name : String) (entry : Entry) : Table :=
  { t with entries := t.entries.insert name entry, clock := t.clock + 1 }

def ofList (values : List Value) : Table :=
  let numbered := values.zip (List.range values.length)
  { entries := numbered.foldl (fun found (value, index) => found.insert (toString (index + 1)) { value }) {}, isSequence := true }

/-- A table that knows its entries by their numbers. -/
def spread : Table :=
  if t.isSequence then
    let start : Table := { t with isSequence := false }
    let wide := start.withRoom t.size t.size
    (List.range t.size).foldl (fun t index =>
      let name := toString (index + 1)
      t.put name { (t.entries.getD name {}) with numbered := some (t.clock, ((index + 1 : Nat) : Int)) }) wide
  else t

/-- A table that knows all entries by their names. -/
def withNames : Table :=
  let t := t.spread
  if t.hasNames then t
  else
    let numbered := t.entries.toList.filterMap fun (name, entry) => entry.numbered.map fun (time, n) => (name, time, (n % t.slots).toNat)
    let sorted := numbered.mergeSort fun a b => decide (a.2.2 < b.2.2) || (a.2.2 == b.2.2 && decide (b.2.1 ≤ a.2.1))
    sorted.foldl (fun t (name, _) => t.put name { (t.entries.getD name {}) with named := t.clock }) { t with hasNames := true }

def tick : Table := { t with clock := t.clock + 1 }

/-- Asks for an entry by its name. It may be made. -/
def findName (name : String) (isMade : Bool) : Table :=
  let t := t.tick.withNames
  let present := t.clock
  if t.entries.contains name then
    { t with entries := t.entries.modify name fun entry => { entry with named := present } }
  else if isMade then t.add name { named := present }
  else t

def number (n : Int) : Table :=
  let present := t.clock
  { t with entries := t.entries.modify (toString n) fun entry => { entry with numbered := some (present, n) } }

/-- Asks for an entry by its number. It may be made. -/
def findNumber (n : Int) (isMade : Bool) : Table :=
  let name := toString n
  let t := t.tick
  if t.isSequence && (t.entries.contains name || !isMade) then t
  else
    let t := t.spread
    if ((t.entries[name]?).bind Entry.numbered).isSome then t.number n
    else if t.hasNames then (t.findName name isMade).number n
    else if isMade then
      let present := t.clock
      t.add name { numbered := some (present, n) }
    else t

variable (key : Key)

def find (isMade : Bool) : Table :=
  if t.size = 0 && !isMade then t
  else
    match key with
    | .name text => t.findName text isMade
    | .number n => t.findNumber n isMade

def has : Bool := t.entries.contains key.text

def value : Value := (t.entries.getD key.text {}).value

def set (value : Value) : Table :=
  let t := t.find key true
  { t with entries := t.entries.modify key.text fun entry => { entry with value } }

def erase : Table :=
  let t := t.find key false
  if !t.has key then t
  else
    let t := t.spread
    if t.size ≤ 1 then {} else { t with entries := t.entries.erase key.text }

/-- The names of the entries, in the order in which they are gone through. -/
def names : List String :=
  let placed := t.entries.toList.map fun (name, entry) => (name, t.slot name, entry.named)
  let sorted := placed.mergeSort fun a b => decide (a.2.1 < b.2.1) || (a.2.1 == b.2.1 && decide (b.2.2 ≤ a.2.2))
  sorted.map Prod.fst

end Table

def greatestIndex : Int := 9223372036854775807

/-- The key that a value is in tables. -/
def Value.key (format : String) : Value → Key
  | unset => .name ""
  | number n =>
    match whole? n with
    | some value => if -greatestIndex ≤ value && value ≤ greatestIndex then .number value else .name (toString value)
    | none => .name (formatNumber format n)
  | text content | input content => .name content

end BenchKernel.Awk
