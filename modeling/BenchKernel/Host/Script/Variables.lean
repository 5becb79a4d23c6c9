import BenchKernel.Host.Script.FormulaExtended
import BenchKernel.Host.Script.Shell

/-! # Values of variables

Giving values to variables and to elements of arrays, and computing formulas with them. -/

namespace BenchKernel.Script

namespace Shell

variable (s : Shell)

/-- The variable at the end of references. -/
def target (name : String) : (fuel : Nat) → String
  | 0 => name
  | fuel + 1 =>
    match s.find? name with
    | some { value := some other, reference := true, .. } => target other fuel
    | _ => name

def mostReferences : Nat := 8

variable (name : String)

def meant : String := if s.dialect = .extended then s.target name mostReferences else name

def elements? : Option Elements := (s.find? (s.meant name)).map Variable.elements

def isKeyed : Bool := ((s.find? (s.meant name)).bind Variable.array).any Elements.isKeyed

/-- The values that the shell itself keeps. -/
def ownValue? : Option String :=
  match name with
  | "LINENO" => some (toString s.line)
  | "RANDOM" => some (toString ((s.line * 7919 + s.vars.length * 104729 + 12345) % 32768))
  | "SECONDS" => some "0"
  | "BASHPID" => some (toString s.own)
  | "BASH_SUBSHELL" => some (toString s.copies)
  | "FUNCNAME" => s.callers.head?.map Prod.fst
  | "SHELLOPTS" => some (":".intercalate ((extendedOptions.filter fun entry => s.has entry.1).map Prod.snd))
  | "BASHOPTS" => some (":".intercalate (s.modes.mergeSort fun a b => decide (a ≤ b)))
  | "EPOCHSECONDS" => some (toString s.machine.seconds)
  | _ => none

def valueOf? : Option String :=
  if s.dialect = .extended then
    match s.value? (s.meant name) with
    | some value => some value
    | none => s.ownValue? name
  else s.value? name

def formulaView : Formula.View :=
  { value := fun slot =>
      match slot.2 with
      | none => s.valueOf? slot.1
      | some key => (s.elements? slot.1).bind fun elements => elements.get? key
    isKeyed := s.isKeyed
    strict := s.has 'u' }

end Shell

def Casing.apply (casing : Casing) (c : Char) : Char :=
  match casing with
  | .upper => c.toUpper
  | .lower => c.toLower
  | .toggled => if c.isUpper then c.toLower else c.toUpper

namespace Act

variable (name : String)

/-- Stores a text, whatever the marks of the variable are. -/
def storeText (key : Option String) (value : String) : Act Unit := do
  let s ← get
  let v := (s.find? name).getD {}
  let exported := v.exported || s.has 'a'
  match key, v.array with
  | none, none => set (s.setVariable name { v with value := some value, exported })
  | key, _ =>
    match v.elements.set? (key.getD "0") value with
    | some elements => set (s.setVariable name { v.withElements elements with exported })
    | none => discard (name ++ "[" ++ key.getD "" ++ "]: bad array subscript")

def storeNumber (slot : Formula.Slot) (n : Int64) : Act Unit := do
  let s ← get
  let name := s.meant slot.1
  if ((s.find? name).map Variable.fixed).getD false then
    if s.dialect = .extended then discard s!"{name}: readonly variable" else fail s!"{name}: is read only"
  storeText name slot.2 (toString n.toInt)

/-- The value of a formula. What it assigns is assigned. -/
def formula (text : String) : Act Int64 := do
  let s ← get
  let result :=
    if s.dialect = .extended then Formula.computeExtended s.formulaView text else Formula.compute s.value? text
  match result with
  | .error (.formula why) => fail s!"arithmetic expression: {why}: \"{text}\""
  | .error (.number content) => fail s!"Illegal number: {content}"
  | .error (.located whole why token) => discard s!"{whole}: {why} (error token is \"{token}\")"
  | .error (.unset name) => abort s!"{name}: unbound variable"
  | .ok (value, assigned) =>
    assigned.forM fun (slot, n) => storeNumber slot n
    return value

/-- A value as the marks of a variable have it. -/
def keptValue (v : Variable) (value : String) : Act String := do
  if v.integer then return toString (← formula value).toInt
  else
    match v.casing with
    | some casing => return value.map casing.apply
    | none => return value

/-- The variable that a name stands for, unless it must not change. -/
def writable : Act (String × Variable) := do
  let s ← get
  let name := s.meant name
  let v := (s.find? name).getD {}
  if v.fixed then
    reportAt s.line s!"{name}: readonly variable"
    setStatus 1
    throw .discard
  return (name, v)

/-- Gives a variable or an element a value, or adds to it. -/
def assignTo (key : Option String) (append : Bool) (value : String) : Act Unit := do
  let (name, v) ← writable name
  let before :=
    match key with
    | none => v.value.getD ""
    | some key => (v.elements.get? key).getD ""
  let added := if append then (if v.integer then s!"{before}+{value}" else before ++ value) else value
  storeText name key (← keptValue v added)

def assign (name value : String) : Act Unit := do
  let s ← get
  if s.dialect = .extended then assignTo name none false value
  else
    let v := (s.find? name).getD {}
    if v.fixed then fail s!"{name}: is read only"
    set (s.setVariable name { v with value := some value, exported := v.exported || s.has 'a' })
  modify fun s =>
    { s with
      optionOffset := if name = "OPTIND" then 0 else s.optionOffset
      hashed := if name = "PATH" then [] else s.hashed }

def assignArray (elements : Elements) : Act Unit := do
  let (name, v) ← writable name
  modify fun s => s.setVariable name (v.withElements elements)

/-- Gives an array elements one after the other. Those without a key follow the one before. -/
def assignItems : (next : Nat) → List (Option String × String) → Act Unit
  | _, [] => return
  | next, (key, value) :: rest => do
    match key with
    | none =>
      assignTo name (some (toString next)) false value
      assignItems (next + 1) rest
    | some text =>
      if (← get).isKeyed name then
        assignTo name (some text) false value
        assignItems next rest
      else
        let index := (← formula text).toInt
        assignTo name (some (toString index)) false value
        assignItems (index.toNat + 1) rest

/-- Texts without keys, taken as keys and values by turns. -/
def pairsOf : List (Option String × String) → List (Option String × String)
  | (none, key) :: (none, value) :: rest => (some key, value) :: pairsOf rest
  | [(none, key)] => [(some key, "")]
  | entry :: rest => entry :: pairsOf rest
  | [] => []

def assignList (append : Bool) (items : List (Option String × String)) : Act Unit := do
  let s ← get
  let isKeyed := s.isKeyed name
  if !append then assignArray name (if isKeyed then .keyed [] else .indexed [])
  else assignArray name ((s.elements? name).getD (.indexed []))
  let next := (((← get).elements? name).map Elements.next).getD 0
  assignItems name next (if isKeyed then pairsOf items else items)

def unassign : Act Unit := do
  let s ← get
  if ((s.find? name).map Variable.fixed).getD false then fail s!"{name}: is read only"
  set (s.dropVariable name)

end Act

end BenchKernel.Script
