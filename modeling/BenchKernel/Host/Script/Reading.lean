import BenchKernel.Host.Script.CommandReading
import BenchKernel.Host.Script.TokenReading
import BenchKernel.Host.Script.WordReading

/-! # Reading a shell script

A script is read command by command, so that a fault shows only when reading comes to it. The reader is bounded by a
number that the length of the script gives. -/

namespace BenchKernel.Script

/-- The reader whose functions call each other at most so often. -/
def Reader.bounded : Nat → Reader
  | 0 =>
    { parts := fun _ _ _ => fault "too deep"
      items := fun _ => fault "too deep"
      token := fault "too deep"
      next := fun _ _ => fault "too deep"
      documents := fault "too deep"
      commands := fun _ _ => fault "too deep"
      chainAfter := fun _ => fault "too deep"
      pipeline := fun _ => fault "too deep"
      pipes := fun _ => fault "too deep"
      command := fun _ => fault "too deep"
      redirections := fun _ => fault "too deep"
      target := fun _ _ => fault "too deep"
      simple := fun _ _ _ _ => fault "too deep"
      conditional := fault "too deep"
      words := fun _ => fault "too deep"
      cases := fun _ => fault "too deep"
      patterns := fun _ _ => fault "too deep"
      testToken := fault "too deep"
      testOr := fault "too deep"
      testAnd := fault "too deep"
      testOne := fault "too deep" }
  | n + 1 =>
    { parts := fun region inner parts => (bounded n).partsStep region inner parts
      items := fun items => (bounded n).itemsStep items
      token := fun s => (bounded n).tokenStep s
      next := fun lines keyword => (bounded n).nextStep lines keyword
      documents := fun s => (bounded n).documentsStep s
      commands := fun extent commands => (bounded n).commandsStep extent commands
      chainAfter := fun first => (bounded n).chainAfterStep first
      pipeline := fun lines => (bounded n).pipelineStep lines
      pipes := fun commands => (bounded n).pipesStep commands
      command := fun lines => (bounded n).commandStep lines
      redirections := fun redirections => (bounded n).redirectionsStep redirections
      target := fun number operator => (bounded n).targetStep number operator
      simple := fun line assignments words redirections => (bounded n).simpleStep line assignments words redirections
      conditional := fun s => (bounded n).conditionalStep s
      words := fun words => (bounded n).wordsStep words
      cases := fun cases => (bounded n).casesStep cases
      patterns := fun t patterns => (bounded n).patternsStep t patterns
      testToken := fun s => (bounded n).testTokenStep s
      testOr := fun s => (bounded n).testOrStep s
      testAnd := fun s => (bounded n).testAndStep s
      testOne := fun s => (bounded n).testOneStep s }

def readingBound (s : Source) : Nat := 20 * s.rest.length + 100

/-- The parts of a text in which only expansions count. -/
def textParts (d : Dialect) (text : String) : Word :=
  let source : Source := { rest := text.toList, dialect := d }
  match ((Reader.bounded (readingBound source)).parts .document false []).run source with
  | .ok (parts, _) => parts.reverse
  | .error _ => [.text true text]

def Source.next (s : Source) : Except ReadFault (Option (List Command) × Source) :=
  match ((Reader.bounded (readingBound s)).next false true).run s with
  | .error e => .error e
  | .ok (t, after) =>
    match t with
    | .eof => .ok (none, after)
    | _ =>
      match ((Reader.bounded (readingBound s)).list .line).run { after with pushed := some t } with
      | .error e => .error e
      | .ok (commands, after) => .ok (some commands, after)

end BenchKernel.Script
