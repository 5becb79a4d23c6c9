import BenchKernel.Number.Reading
import BenchKernel.Text.Pieces

/-! # Modes of files

Who may read, write and run a file, as digits and as letters. -/

namespace BenchKernel

namespace Mode

def all : Nat := 4095

def without (mode bits : Nat) : Nat := mode - (mode &&& bits)

/-- A mode as it is listed: what the owner, the group and others may do. -/
def letters (mode : Nat) : String :=
  let has (bit : Nat) : Bool := mode &&& bit != 0
  let group (shift special : Nat) (set unset : Char) : List Char :=
    [if has (4 * shift) then 'r' else '-', if has (2 * shift) then 'w' else '-',
      if has special then (if has shift then set else unset) else if has shift then 'x' else '-']
  String.ofList (group 64 2048 's' 'S' ++ group 8 1024 's' 'S' ++ group 1 512 't' 'T')

def bitsOf (who : Char) : Nat :=
  match who with
  | 'u' => 2048 + 448
  | 'g' => 1024 + 56
  | 'o' => 512 + 7
  | _ => all

/-- The bits for letters, some of which stand for what a mode already has. -/
def rights (isDirectory : Bool) (mode : Nat) (cs : List Char) : Nat :=
  cs.foldl (fun bits c =>
    bits ||| match c with
      | 'r' => 292
      | 'w' => 146
      | 'x' => 73
      | 'X' => if isDirectory || mode &&& 73 != 0 then 73 else 0
      | 's' => 3072
      | 't' => 512
      | 'u' => (mode / 64 % 8) * 73
      | 'g' => (mode / 8 % 8) * 73
      | 'o' => (mode % 8) * 73
      | _ => 0) 0

def applyOperators (mask : Nat) (who : List Char) (isDirectory : Bool) : (fuel : Nat) → List Char → Nat → Option Nat
  | 0, _, mode => some mode
  | _ + 1, [], mode => some mode
  | fuel + 1, operator :: rest, mode =>
    let copied := rest.head?.any fun c => ['u', 'g', 'o'].contains c
    let what := if copied then rest.take 1 else rest.takeWhile fun c => ['r', 'w', 'x', 'X', 's', 't'].contains c
    let affected := who.foldl (fun bits c => bits ||| bitsOf c) 0
    let bits := rights isDirectory mode what &&& (if who.isEmpty then without all mask else affected)
    let next (mode : Nat) : Option Nat := applyOperators mask who isDirectory fuel (rest.drop what.length) mode
    match operator with
    | '+' => next (mode ||| bits)
    | '-' => next (without mode bits)
    | '=' => next ((if who.isEmpty then 0 else without mode affected) ||| bits)
    | _ => none

/-- A mode changed by octal digits, or by clauses that say for whom it is changed and how. -/
def change? (mask : Nat) (isDirectory : Bool) (text : String) (mode : Nat) : Option Nat :=
  let cs := text.toList
  if !cs.isEmpty && cs.all fun c => (Number.digit? 8 c).isSome then
    let n := cs.foldl (fun n c => n * 8 + (c.toNat - '0'.toNat)) 0
    if n ≤ all then some n else none
  else
    (Text.splitAt ',' cs).foldlM (fun mode clause =>
      let who := clause.takeWhile fun c => ['u', 'g', 'o', 'a'].contains c
      let operators := clause.drop who.length
      if operators.isEmpty then none
      else applyOperators mask who isDirectory (operators.length + 1) operators mode) mode

end Mode

end BenchKernel
