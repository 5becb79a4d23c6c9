import BenchKernel.Host.Script.BuiltinExtended

/-! # Which command a name stands for

Programs are searched by their names in the directories of the search path. Keywords, functions and builtin
commands come before them. -/

namespace BenchKernel.Script

def ownSearchPath : String := "/usr/local/sbin:/usr/local/bin:/usr/sbin:/usr/bin:/sbin:/bin"

def inDirectory (directory name : String) : String := if directory.isEmpty then name else s!"{directory}/{name}"

/-- The paths at which a program may be found. -/
def candidates (searchPath name : String) : List String :=
  (Text.splitAt ':' searchPath.toList).map fun directory => inDirectory (String.ofList directory) name

/-- The path of a program. A file that may not be executed is no program. -/
def searchIn (fs : FileStore) (cwd : Place) (searchPath name : String) : Except OsError String :=
  let paths := candidates searchPath name
  let found (path : String) : Option Bool :=
    match fs.find cwd (Shell.path path) with
    | .ok (.file _ marks) => some marks.isExecutable
    | .ok (.program _) => some true
    | _ => none
  match paths.find? fun path => found path == some true with
  | some path => .ok path
  | none => .error (if paths.any fun path => (found path).isSome then .permissionDenied else .notFound)

def searchProgram (s : Shell) (name : String) : Except OsError String :=
  if name.isEmpty then .error .permissionDenied
  else searchIn s.machine.files s.cwd ((s.value? "PATH").getD "") name

/-- Why a program cannot be started, and the status for that. -/
def launchFailure (e : OsError) : String × Nat :=
  match e with
  | .notFound | .notDirectory => ("not found", 127)
  | .nameTooLong | .tooManyLinks => (e.description, 127)
  | _ => (e.description, 126)

/-! ### Programs that were found -/

namespace Shell

variable (s : Shell)

def remember (name path : String) (count : Nat) : Shell :=
  { s with hashed := s.hashed.filter (fun entry => entry.1 != name) ++ [(name, path, count)] }

/-- The programs that were found, in the order of the shell's table. -/
def remembered : List (String × String × Nat) :=
  let plainBucket (name : String) : Nat :=
    (name.toList.foldl (fun sum c => sum + c.toNat) ((name.toList.head?.getD ' ').toNat * 16)) % 32768 % 31
  let bucket := if s.dialect = .extended then Elements.bucketOf 256 else plainBucket
  let entries := if s.dialect = .extended then s.hashed.reverse else s.hashed
  entries.mergeSort fun a b => decide (bucket a.1 ≤ bucket b.1)

/-- The path of a program, and the shell that has used it once more. -/
def lookFor (name : String) : Except OsError String × Shell :=
  match if s.dialect = .extended && !s.temporary.contains "PATH" then s.hashed.lookup name else none with
  | some (path, count) =>
    let change (entry : String × String × Nat) : String × String × Nat :=
      if entry.1 == name then (name, path, count + 1) else entry
    (.ok path, { s with hashed := s.hashed.map change })
  | none =>
    match searchProgram s name with
    | .ok path =>
      let isKept := !s.temporary.contains "PATH" && (s.hashed.lookup name).isNone
      (.ok path, if isKept then s.remember name path 1 else s)
    | .error why => (.error why, s)

def touch (name : String) : Shell := if (s.hashed.lookup name).isSome then (s.lookFor name).2 else s

end Shell

/-- What a name stands for, as a sentence and as a short text. -/
def describeCommand (s : Shell) (name : String) : Option (String × String) :=
  if (keywords s.dialect).contains name then some (name ++ " is a shell keyword", name)
  else if let some text := s.aliases.lookup name then
    some (s!"{name} is an alias for {text}", s!"alias {name}={quotedText text}")
  else if (s.functions.lookup name).isSome then some (name ++ " is a shell function", name)
  else if builtinNames.contains name then
    let kind := if specialBuiltins.contains name then " is a special shell builtin" else " is a shell builtin"
    some (name ++ kind, name)
  else
    let path :=
      if name.toList.contains '/' then
        match s.machine.files.find s.cwd (Shell.path name) with
        | .ok _ => some name
        | .error _ => none
      else (searchProgram s name).toOption
    let tracked := if (s.hashed.lookup name).isSome then "a tracked alias for " else ""
    path.map fun path => (s!"{name} is {tracked}{path}", path)

def isProgram (s : Shell) (name : String) : Bool :=
  !name.toList.contains '/' && !(keywords s.dialect).contains name && (s.aliases.lookup name).isNone &&
    (s.functions.lookup name).isNone && !builtinNames.contains name

/-- Prints what names stand for. A name that stands for nothing is said so only with `full`. -/
def describeCommands (full : Bool) (names : List String) : Act Nat := do
  Act.forEach names fun name => do
    let s ← get
    match describeCommand s name with
    | some (sentence, short) =>
      Act.print ((if full then sentence else short) ++ "\n")
      if isProgram s name then modify fun s => (s.lookFor name).2
      return 0
    | none =>
      if full then Act.print s!"{name}: not found\n"
      return 127

def hashCommands (arguments : List String) : Act Nat := do
  let (given, names) ← options "r" arguments
  if !given.isEmpty then
    modify fun s => { s with hashed := [] }
    return 0
  else if names.isEmpty then
    (← get).remembered.forM fun (_, path, _) => Act.print s!"{path}\n"
    return 0
  else
    Act.forEach names fun name => do
      let s ← get
      let isKnown := (s.functions.lookup name).isSome || builtinNames.contains name || name.toList.contains '/'
      if isKnown then return 0
      else
        match s.lookFor name with
        | (.ok _, s) =>
          set s
          return 0
        | (.error _, _) =>
          Act.report s!"{name}: not found"
          return 1

/-! ### The extended language -/

namespace Extended

/-- What a name stands for as a command: the kind, a sentence, and a short text. -/
structure Meaning where
  kind : String
  sentence : String
  short : String

/-- All that a name stands for. -/
def meanings (s : Shell) (functions : Bool) (name : String) : List Meaning :=
  let isProgram (path : String) : Bool :=
    match s.machine.files.find s.cwd (Shell.path path) with
    | .ok (.file _ marks) => marks.isExecutable
    | .ok (.program _) => true
    | _ => false
  let files := if name.toList.contains '/' then [name] else candidates ((s.value? "PATH").getD "") name
  (if (keywords .extended).contains name then [⟨"keyword", name ++ " is a shell keyword", name⟩] else []) ++
  (match s.aliases.lookup name with
    | some text =>
      if s.hasMode "expand_aliases" then
        [⟨"alias", s!"{name} is aliased to {ticked text}", s!"alias {name}={quotedWord text}"⟩]
      else []
    | none => []) ++
  (if functions && (s.functions.lookup name).isSome then [⟨"function", name ++ " is a function", name⟩] else []) ++
  (if extendedBuiltins.contains name && !s.disabled.contains name then
    [⟨"builtin", name ++ " is a shell builtin", name⟩] else []) ++
  (match s.hashed.lookup name with
    | some (path, _) => [⟨"hashed", s!"{name} is hashed ({path})", path⟩]
    | none => []) ++
  (files.filter isProgram).map fun path => ⟨"file", s!"{name} is {path}", path⟩

def describe (arguments : List String) : Act Nat := do
  let (given, names) ← options "afptP" arguments
  let s ← get
  Act.forEach names fun name => do
    if !isGiven given 'a' && !isGiven given 'P' then modify (·.touch name)
    let found := meanings s (!isGiven given 'f') name
    let all := if isGiven given 'a' || isGiven given 'P' then found.filter fun m => m.kind != "hashed" else found
    let wanted :=
      if isGiven given 'P' then all.filter fun m => m.kind == "file"
      else if isGiven given 'p' then
        (if isGiven given 'a' then all else all.take 1).filter fun m => m.kind == "file" || m.kind == "hashed"
      else all
    (if isGiven given 'a' then wanted else wanted.take 1).forM fun m =>
      let kind := if m.kind = "hashed" then "file" else m.kind
      Act.print ((if isGiven given 't' then kind else if isGiven given 'p' || isGiven given 'P' then m.short else m.sentence) ++ "\n")
    if all.isEmpty then
      if !isGiven given 't' && !isGiven given 'p' && !isGiven given 'P' then Act.report s!"{name}: not found"
      return 1
    else return if wanted.isEmpty && isGiven given 'P' then 1 else 0

/-- Prints what names stand for, as sentences or as short texts. It fails only if none of them stands for
    something. -/
def describeShortly (sentences : Bool) (names : List String) : Act Nat := do
  let s ← get
  let results ← names.mapM fun name => do
    modify (·.touch name)
    match (meanings s true name).head? with
    | some m =>
      Act.print ((if sentences then m.sentence else m.short) ++ "\n")
      return true
    | none =>
      if sentences then Act.report s!"{name}: not found"
      return false
  return if results.any id || names.isEmpty then 0 else 1

/-- Remembers programs, forgets them or lists them. -/
def hash (arguments : List String) : Act Nat := do
  let (given, names) ← options "lrp:dt" arguments
  if isGiven given 'r' then modify fun s => { s with hashed := [] }
  let s ← get
  if isGiven given 't' && names.isEmpty then Act.refuse 1 "-t: option requires an argument"
  if names.isEmpty then
    if s.hashed.isEmpty then
      if given.isEmpty || isGiven given 'l' then Act.print "hash: hash table empty\n"
    else if isGiven given 'l' then
      s.remembered.forM fun (name, path, _) => Act.print s!"builtin hash -p {path} {name}\n"
    else if given.isEmpty then
      Act.print "hits\tcommand\n"
      s.remembered.forM fun (_, path, count) =>
        let text := toString count
        Act.print ("".pushn ' ' (4 - text.length) ++ s!"{text}\t{path}\n")
    return 0
  else
    forNames names fun name => do
      let s ← get
      let missing : Act Unit := Act.refuse 1 s!"{name}: not found"
      if isGiven given 't' then
        match s.hashed.lookup name with
        | some (path, _) =>
          set (s.lookFor name).2
          Act.print (if isGiven given 'l' then s!"builtin hash -p {path} {name}\n"
            else if 1 < names.length then name ++ "\t" ++ path ++ "\n" else path ++ "\n")
        | none => missing
      else if isGiven given 'd' then
        if (s.hashed.lookup name).isNone then missing
        set { s with hashed := s.hashed.filter fun entry => entry.1 != name }
      else
        match valueOf given 'p' with
        | some path => set (s.remember name path 0)
        | none =>
          let isKnown := (s.functions.lookup name).isSome || extendedBuiltins.contains name || name.toList.contains '/'
          if !isKnown then
            match searchProgram s name with
            | .ok path => set (s.remember name path 0)
            | .error _ => missing

end Extended

end BenchKernel.Script
