import BenchKernel.Target.Arch
import BenchKernel.Target.Direction
import BenchKernel.Text.Quoted

/-! # Grammar errors

What can be wrong with the structure of a template's body. -/

namespace BenchKernel

inductive GrammarError
  /-- A region does not start or end with its marker. -/
  | missingMarker (tag line : String)
  /-- A marker whose parentheses do not match. -/
  | malformedMarker (line reason : String)
  | argumentCount (tag : String) (expected found : Nat) (line : String)
  | labelMismatch (tag opened closed : String)
  | keywordMismatch (label openTag closeTag : String)
  | duplicateLabel (tag label : String)
  | unmatchedOpen (tag label : String)
  | unmatchedClose (tag label : String)
  | registerBinding (tag argument : String)
  | direction (text : String)
  | unsupportedDirection (arch : Arch) (direction : Direction)
  | emptyBody (tag label : String)
  | noProgress (line : String)
  deriving DecidableEq, Repr

namespace GrammarError

def name : GrammarError → String
  | missingMarker .. => "MissingPrefix"
  | malformedMarker .. => "MalformedMarker"
  | argumentCount .. => "ArgumentCount"
  | labelMismatch .. => "LabelMismatch"
  | keywordMismatch .. => "KeywordMismatch"
  | duplicateLabel .. => "DuplicateLabel"
  | unmatchedOpen .. => "UnmatchedOpen"
  | unmatchedClose .. => "UnmatchedClose"
  | registerBinding .. => "RegisterBinding"
  | direction .. => "Direction"
  | unsupportedDirection .. => "UnsupportedDirection"
  | emptyBody .. => "EmptyBody"
  | noProgress .. => "NoProgress"

def message : GrammarError → String
  | missingMarker tag line => s!"expected `{tag}(` on line `{line}`"
  | malformedMarker line reason => s!"malformed keyword marker `{line}`: {reason}"
  | argumentCount tag expected found line => s!"{tag} expects {expected} arguments, found {found} in `{line}`"
  | labelMismatch tag opened closed => s!"{tag} block `{opened}` closed by label `{closed}`"
  | keywordMismatch label openTag closeTag => s!"block `{label}` opened by {openTag} closed by {closeTag}"
  | duplicateLabel tag label => s!"{tag} block `{label}` opened again inside itself"
  | unmatchedOpen tag label => s!"{tag} block `{label}` is never closed"
  | unmatchedClose tag label => s!"{tag} for `{label}` without a preceding open"
  | registerBinding tag argument => s!"expected `register=value` in {tag} argument `{argument}`"
  | direction text => s!"unknown loop direction `{text}`"
  | unsupportedDirection arch d => s!"loop direction `{d.symbol}` has no {arch.name} loop form"
  | emptyBody tag label => s!"{tag} block `{label}` has an empty body"
  | noProgress line => s!"expansion made no progress on `{line}`"

def fields : GrammarError → List (String × String)
  | missingMarker tag line => [("tag", Text.quoted tag), ("line", Text.quoted line)]
  | malformedMarker line reason => [("line", Text.quoted line), ("reason", Text.quoted reason)]
  | argumentCount tag expected found line =>
    [("tag", Text.quoted tag), ("expected", toString expected), ("found", toString found),
      ("line", Text.quoted line)]
  | labelMismatch tag opened closed =>
    [("tag", Text.quoted tag), ("open", Text.quoted opened), ("close", Text.quoted closed)]
  | keywordMismatch label openTag closeTag =>
    [("label", Text.quoted label), ("open_tag", Text.quoted openTag), ("close_tag", Text.quoted closeTag)]
  | duplicateLabel tag label | unmatchedOpen tag label | unmatchedClose tag label | emptyBody tag label =>
    [("tag", Text.quoted tag), ("label", Text.quoted label)]
  | registerBinding tag argument => [("tag", Text.quoted tag), ("arg", Text.quoted argument)]
  | direction _ => []
  | unsupportedDirection arch d => [("arch", Text.quoted arch.name), ("direction", Text.quoted d.symbol)]
  | noProgress line => [("line", Text.quoted line)]

def describe (e : GrammarError) : String :=
  match e with
  | direction text => Text.showWrapped e.name (Text.quoted text)
  | _ => Text.showRecord e.name e.fields

end GrammarError

end BenchKernel
