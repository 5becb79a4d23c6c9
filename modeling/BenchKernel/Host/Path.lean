import BenchKernel.Text.Pieces
import BenchKernel.Text.Replace

/-! # Paths

A path is a text whose names are separated by slashes. Joining and taking apart work on the text alone and
look at no file. -/

namespace BenchKernel.Path

def isAbsolute (path : String) : Bool := path.toList.head? == some '/'

/-- The path of `rest` seen from `base`. An absolute `rest` replaces the base; otherwise one slash is put
    between them, unless the base is empty or ends in one. Nothing is normalised. -/
def join (base rest : String) : String :=
  if isAbsolute rest then rest
  else if base.isEmpty || base.toList.getLast? == some '/' then base ++ rest
  else base ++ "/" ++ rest

def names (path : String) : List String := (Text.runs (· != '/') path.toList).map String.ofList

/-- A part of a path. Dots that stand for the directory itself count only at the start of a relative path. -/
inductive Component
  | root
  | here
  | up
  | name (text : String)
  deriving DecidableEq, Repr

def Component.ofName (text : String) : Component :=
  if text = "." then .here else if text = ".." then .up else .name text

def components (path : String) : List Component :=
  let parts := (names path).map Component.ofName
  if isAbsolute path then .root :: parts.filter (· != .here)
  else
    match parts with
    | .here :: rest => .here :: rest.filter (· != .here)
    | _ => parts.filter (· != .here)

def isSame (a b : String) : Bool := components a == components b

def Component.text : Component → String
  | .root => ""
  | .here => "."
  | .up => ".."
  | .name text => text

def ofComponents : List Component → String
  | [.root] => "/"
  | parts => "/".intercalate (parts.map Component.text)

def fileName? (path : String) : Option String :=
  match (components path).getLast? with
  | some (.name text) => some text
  | _ => none

/-- A name without its extension: the text before its last dot. A name whose only dot is its first character has
    no extension. -/
def stem (name : String) : String :=
  match Text.cutAt? '.' name.toList.reverse with
  | none => name
  | some (_, before) => if before.isEmpty then name else String.ofList before.reverse

def fileStem? (path : String) : Option String := (fileName? path).map stem

end BenchKernel.Path
