import BenchKernel.Grammar.Keyword

/-! # Expansion

Expanding lines replaces every region by what its keyword renders, until no marker is left. A pass replaces
the first outermost region; what the keyword renders is itself expanded, one level deeper, before it takes the
region's place. So each pass removes the two markers of a region and brings in none, and the passes end. -/

namespace BenchKernel

/-- The keywords that an expansion knows, in the order in which a line is compared with them. -/
abbrev Registry := List Keyword

/-- A region that has been opened and not yet closed. -/
structure Opening where
  keyword : Keyword
  label : String

inductive MarkerLine
  | opens (opening : Opening)
  | closes (closing : Opening)

namespace Registry

/-- Whether some keyword opens or closes a region on this line. -/
def isMarker (r : Registry) (line : String) : Bool := r.any fun k => k.marks line

def anyMarker (r : Registry) (lines : List String) : Bool := lines.any r.isMarker

def markerCount (r : Registry) (lines : List String) : Nat := lines.countP r.isMarker

/-- What a line opens or closes, by the first keyword that has a tag on it. The label is the first argument, or
    empty if there is none. -/
def classify (r : Registry) (line : String) : Except GrammarError (Option MarkerLine) :=
  match r.find? fun k => k.marks line with
  | none => .ok none
  | some k => do
    let opening : Opening := ⟨k, ((← Marker.arguments line).head?).getD ""⟩
    return some (if k.opens line then .opens opening else .closes opening)

/-- The lines before the first opening marker, that line with what it opens, and the lines after it. -/
def firstOpening (r : Registry) : List String →
    Except GrammarError (Option (List String × (String × Opening) × List String))
  | [] => .ok none
  | line :: rest => do
    match ← r.classify line with
    | none => return (← firstOpening r rest).map fun (before, first, after) => (line :: before, first, after)
    | some (.opens opening) => return some ([], (line, opening), rest)
    | some (.closes closing) => throw (.unmatchedClose closing.keyword.closeTag closing.label)

/-- Whether a region of the same keyword and label is open. -/
def isOpen (stack : List Opening) (o : Opening) : Bool :=
  stack.any fun p => p.keyword.sameTags o.keyword && p.label == o.label

/-- The lines up to the one that closes the outermost open region, and the lines after it. The innermost open
    region is `top`, the others are `below`. -/
def closeRegion (r : Registry) : (top : Opening) → (below : List Opening) → List String →
    Except GrammarError (List String × List String)
  | top, _, [] => .error (.unmatchedOpen top.keyword.openTag top.label)
  | top, below, line :: rest => do
    match ← r.classify line with
    | none =>
      let (inside, after) ← closeRegion r top below rest
      return (line :: inside, after)
    | some (.opens opening) =>
      if isOpen (top :: below) opening then
        throw (.duplicateLabel opening.keyword.openTag opening.label)
      let (inside, after) ← closeRegion r opening (top :: below) rest
      return (line :: inside, after)
    | some (.closes closing) =>
      unless top.keyword.sameTags closing.keyword do
        throw (.keywordMismatch top.label top.keyword.openTag closing.keyword.closeTag)
      unless top.label = closing.label do
        throw (.labelMismatch top.keyword.openTag top.label closing.label)
      match below with
      | [] => return ([line], rest)
      | next :: below =>
        let (inside, after) ← closeRegion r next below rest
        return (line :: inside, after)

/-- One pass: replaces the first region by its expanded rendering, and gives nothing if there is no marker.
    `deeper` expands a rendering; without it no region may be opened. -/
def onePass (r : Registry) (ctx : Context) (deeper : Option (List String → Rendered)) (lines : List String) :
    Except (Stop GrammarError) (Option (List String)) := do
  match ← reported (r.firstOpening lines) with
  | none => return none
  | some (before, (line, opening), rest) =>
    match deeper with
    | none => throw (.error (.noProgress line))
    | some expand =>
      let (inside, after) ← reported (r.closeRegion opening [] rest)
      let produced ← opening.keyword.render ctx (line :: inside)
      let expanded ← expand produced
      return some (before ++ expanded ++ after)

/-- Passes until there is no marker. A pass that removes no marker line would not end, and is an error. -/
def settle (r : Registry) (pass : List String → Except (Stop GrammarError) (Option (List String)))
    (lines : List String) : Rendered :=
  match pass lines with
  | .error e => .error e
  | .ok none => .ok lines
  | .ok (some next) =>
    if r.markerCount next < r.markerCount lines then settle r pass next
    else .error (.error (.noProgress ((lines.find? r.isMarker).getD "")))
termination_by r.markerCount lines

def expandWithin (r : Registry) (ctx : Context) : (levels : Nat) → List String → Rendered
  | 0 => settle r (onePass r ctx none)
  | levels + 1 => settle r (onePass r ctx (some (expandWithin r ctx levels)))

end Registry

def nestingLimit : Nat := 256

def expand (r : Registry) (ctx : Context) (lines : List String) : Rendered :=
  Registry.expandWithin r ctx nestingLimit lines

/-- The body of a template, expanded with the built-in keywords. -/
def Template.expanded (t : Template) (arch : Arch) : Rendered :=
  expand Keyword.builtin { arch, template := t } t.body

end BenchKernel
