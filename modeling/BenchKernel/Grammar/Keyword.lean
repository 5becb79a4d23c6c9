import BenchKernel.Grammar.Marker
import BenchKernel.Target.Emission
import BenchKernel.Template.Basic

/-! # Keywords

A keyword pairs an opening and a closing tag with a rendering of the regions between them. Two keywords are
built in: a loop, which puts the target's loop lines around its interior, and a block, which only delimits.
Both keep their markers as comments. -/

namespace BenchKernel

/-- What a keyword may look at besides its region. -/
structure Context where
  arch : Arch
  template : Template

/-- The outcome of rendering a region or expanding lines. -/
abbrev Rendered := Except (Stop GrammarError) (List String)

structure Keyword where
  openTag : String
  closeTag : String
  /-- The lines that stand for a region, given with both its marker lines. -/
  render : Context → List String → Rendered

namespace Keyword

def opens (k : Keyword) (line : String) : Bool := Marker.isTagged line k.openTag

def closes (k : Keyword) (line : String) : Bool := Marker.isTagged line k.closeTag

def marks (k : Keyword) (line : String) : Bool := k.opens line || k.closes line

def sameTags (k l : Keyword) : Bool := k.openTag == l.openTag && k.closeTag == l.closeTag

def describe (k : Keyword) : String :=
  Text.showRecord "KeywordDefinition"
    [("begin_tag", Text.quoted k.openTag), ("end_tag", Text.quoted k.closeTag)]

end Keyword

/-! ### Regions -/

/-- A region with its marker lines, the arguments of the opening one and the lines between them. -/
structure Region where
  opening : String
  closing : String
  label : String
  arguments : List String
  interior : List String

/-- Takes a region apart: the first line has to open it, a different last line has to close it with the label
    of the first as its only argument, and the first has one argument for the label and `extra` more. -/
def Region.ofLines (openTag closeTag : String) (extra : Nat) (lines : List String) :
    Except GrammarError Region := do
  let opening := lines.head?.getD ""
  unless Marker.isTagged opening openTag do throw (.missingMarker openTag opening)
  let closing := lines.getLast?.getD ""
  unless 1 < lines.length && Marker.isTagged closing closeTag do throw (.missingMarker closeTag closing)
  match ← Marker.arguments opening with
  | label :: arguments =>
    unless arguments.length = extra do
      throw (.argumentCount openTag (extra + 1) (arguments.length + 1) (Text.trimmed opening))
    match ← Marker.arguments closing with
    | [closeLabel] =>
      unless closeLabel = label do throw (.labelMismatch openTag label closeLabel)
      return ⟨opening, closing, label, arguments, lines.tail.dropLast⟩
    | found => throw (.argumentCount closeTag 1 found.length (Text.trimmed closing))
  | [] => throw (.argumentCount openTag (extra + 1) 0 (Text.trimmed opening))

namespace Keyword

def loopTag : String := "LOOP"

def loopEndTag : String := "LOOPEND"

def blockTag : String := "BLOCK"

def blockEndTag : String := "BLOCKEND"

def readLoop (arch : Arch) (label : String) (arguments : List String) : Except GrammarError Loop :=
  match arguments with
  | [first, direction, second, step] => do
    let (counter, start) ← Marker.binding loopTag first
    match Direction.ofSymbol? direction with
    | none => throw (.direction (Text.trimmed direction))
    | some direction =>
      unless arch.supports direction do throw (.unsupportedDirection arch direction)
      let (limit, stop) ← Marker.binding loopTag second
      return { label, counter, start, limit, stop, direction, step }
  | _ => throw (.argumentCount loopTag 5 (arguments.length + 1) label)

/-- Renders `LOOP(label, register=start, direction, register=end, step)`. -/
def renderLoop (ctx : Context) (lines : List String) : Rendered := do
  let region ← reported (Region.ofLines loopTag loopEndTag 4 lines)
  let l ← reported (readLoop ctx.arch region.label region.arguments)
  let header ← faulting (ctx.arch.loopPrologue l)
  return [ctx.arch.comment (Text.trimmed region.opening)] ++ header ++ region.interior ++
    ctx.arch.loopEpilogue l ++ [ctx.arch.comment (Text.trimmed region.closing)]

/-- Renders `BLOCK(label)`, whose interior may not be empty. -/
def renderBlock (ctx : Context) (lines : List String) : Rendered := do
  let region ← reported (Region.ofLines blockTag blockEndTag 0 lines)
  if region.interior.isEmpty then throw (.error (.emptyBody blockTag region.label))
  return [ctx.arch.comment (Text.trimmed region.opening)] ++ region.interior ++
    [ctx.arch.comment (Text.trimmed region.closing)]

def loop : Keyword := ⟨loopTag, loopEndTag, renderLoop⟩

def block : Keyword := ⟨blockTag, blockEndTag, renderBlock⟩

def builtin : List Keyword := [loop, block]

end Keyword

end BenchKernel
