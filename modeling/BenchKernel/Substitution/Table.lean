import BenchKernel.Text.Pieces
import BenchKernel.Text.Replace

/-! # Substitution tables

A table is a list of keys with the texts that replace them. It is applied to a line by byte length of the key,
longest first, so that a key inside a longer one never damages it; keys of one length apply in table order.
Empty keys replace nothing. -/

namespace BenchKernel

structure Table where
  entries : List (String × String) := []
  deriving DecidableEq, Repr

namespace Table

def push (t : Table) (key value : String) : Table := ⟨t.entries ++ [(key, value)]⟩

def get? (t : Table) (key : String) : Option String := t.entries.lookup key

def size (t : Table) : Nat := t.entries.length

def longest (t : Table) : Nat := t.entries.foldl (fun n e => max n e.1.utf8ByteSize) 0

def replaceEntry (cs : List Char) (entry : String × String) : List Char :=
  if Text.occurs entry.1.toList cs then Text.replaceAll entry.1.toList entry.2.toList cs else cs

/-- Applies the entries whose keys have a given byte length. -/
def onLength (t : Table) (length : Nat) (cs : List Char) : List Char :=
  (t.entries.filter fun e => e.1.utf8ByteSize == length).foldl replaceEntry cs

/-- Applies the entries whose keys have at most a given byte length, longest first. -/
def onUpTo (t : Table) : (length : Nat) → List Char → List Char
  | 0, cs => cs
  | length + 1, cs => onUpTo t length (onLength t (length + 1) cs)

def onLine (t : Table) (line : String) : String := String.ofList (onUpTo t t.longest line.toList)

def isComment (mark line : String) : Bool :=
  Text.startsWith (mark.toList ++ [' ']) (Text.trimStart line.toList)

/-- The lines with all keys replaced, cut anew where a text brought in newlines. With a comment mark, comments
    are copied. -/
def onCode (t : Table) (mark : Option String) (lines : List String) : List String :=
  lines.flatMap fun line =>
    if mark.any (isComment · line) then [line] else Text.newlinePieces (t.onLine line)

def onLines (t : Table) (lines : List String) : List String := t.onCode none lines

end Table

end BenchKernel
