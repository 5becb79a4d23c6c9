import BenchKernel.Host.Script.Source

/-! # The parts of a reader

A word may hold commands and a command holds words, so the functions that read them call each other. Each of them is
written for a reader that is given, and a reader with a bound is made of them. -/

namespace BenchKernel.Script

inductive TestToken
  | symbol (text : String)
  | word (parts : Word)
  | eof

/-- What reads the pieces of a script that may stand in one another, or that come one after another. A list that is
    read further is given last one first. -/
structure Reader where
  parts : Region → (inner : Bool) → List Part → Read (List Part)
  items : List (Option Word × Word) → Read (List (Option Word × Word))
  token : Read Token
  next : (lines keyword : Bool) → Read Token
  documents : Read Unit
  commands : Extent → List Command → Read (List Command)
  chainAfter : Command → Read Command
  pipeline : (lines : Bool) → Read Command
  pipes : List Command → Read (List Command)
  command : (lines : Bool) → Read Command
  redirections : List Redirection → Read (List Redirection)
  target : (number : Option Nat) → (operator : String) → Read Redirection
  simple : (line : Nat) → List Assignment → List Word → List Redirection → Read Command
  conditional : Read Command
  words : List Word → Read (List Word × Token)
  cases : List (List Word × List Command × CaseEnd) → Read (List (List Word × List Command × CaseEnd))
  patterns : Token → List Word → Read (List Word)
  testToken : Read TestToken
  testOr : Read Test
  testAnd : Read Test
  testOne : Read Test

def Reader.list (r : Reader) (extent : Extent) : Read (List Command) := r.commands extent []

end BenchKernel.Script
