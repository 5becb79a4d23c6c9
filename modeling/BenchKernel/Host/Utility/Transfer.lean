import BenchKernel.Host.Utility.Modes

/-! # Programs that give files other names

Programs that copy, move and link files. -/

namespace BenchKernel

namespace Utility

/-- How files are copied or moved. -/
structure Transfer where
  tree : Bool := false
  asLinks : Bool := false
  verbose : Bool := false
  asks : Bool := false
  keeps : Bool := false
  newer : Bool := false
  removes : Bool := false
  backup : Option String := none
  hard : Bool := false
  symbolic : Bool := false
  marked : Bool := false
  mode : Option Nat := none

variable (o : Transfer)

def Transfer.say (word source target : String) (kept : Bool) : Work Unit := do
  if o.verbose then
    let note := if kept then " (backup: " ++ shown (target ++ o.backup.getD "") ++ ")" else ""
    print s!"{word}{shown source} -> {shown target}{note}\n"

def isSameFile (a b : Place) : Work Bool := do return a == b || ((← get).namesOf a).contains b

/-- Keeps a target under another name, and says whether it did. -/
def Transfer.keep (target : String) : Work Bool := do
  match o.backup, ← namePlace? target with
  | some ending, some place =>
    match place.getLast? with
    | some name =>
      modify fun m => m.rename place (place.dropLast ++ [name ++ ending])
      return true
    | none => return false
  | _, _ => return false

/-- Whether a target that is there may be replaced. -/
def Transfer.mayReplace (target : String) (source there : Node) : Work Bool := do
  if o.keeps then return false
  else if o.newer && (marksOf source).modified ≤ (marksOf there).modified then return false
  else if o.asks then agrees s!"overwrite {shown target}"
  else return true

/-- Copies what is not a directory. The target may be there. -/
def Transfer.copyLeaf (source target : String) (node : Node) (isNew : Bool) : Work Nat := do
  let call ← read
  let kept ← if isNew then pure false else o.keep target
  let isNew := isNew || kept
  let failed (what : String) (e : OsError) : Work Nat :=
    complain s!"cannot create {what} {shown target}: {e.description}"
  if o.removes && !isNew then
    match ← namePlace? target with
    | some place => modify fun m => m.unlink place
    | none => pure ()
  let isNew := isNew || o.removes
  let made : String × Option Node :=
    if o.symbolic then ("symbolic link", some (.link (Script.Shell.path source)))
    else
      match node with
      | .link goal => ("symbolic link", some (.link goal))
      | .program name => ("regular file", some (.program name))
      | _ => ("regular file", none)
  match made with
  | (what, some made) =>
    match (← get).files.locateName call.cwd (Script.Shell.path target) with
    | .error e => failed what e
    | .ok place =>
      if !((← get).files.get? place.dropLast).any Node.isDirectory then failed what .notFound
      else if !isNew && o.symbolic then failed what .alreadyExists
      else
        modify fun m =>
          let m := if isNew then m else m.unlink place
          { m with files := m.files.put place made }
        o.say "" source target kept
        return 0
  | (what, none) =>
    if o.hard then
      match ← place? source, (← get).files.locateName call.cwd (Script.Shell.path target) with
      | some origin, .ok place =>
        if isNew then modify fun m => m.addName origin place node
        o.say "" source target kept
        return 0
      | _, .error e => complain s!"cannot create hard link {shown target} to {shown source}: {e.description}"
      | none, _ => return 1
    else
      let text ← fileText source
      match text with
      | .error e => complain s!"error reading {shown source}: {e.description}"
      | .ok text =>
        match ← writeFile target text with
        | .error e => failed what e
        | .ok () =>
          match ← place? target with
          | none => pure ()
          | some place =>
            let marks := marksOf node
            let mode := o.mode.getD (if isNew then Machine.maskedMode call.mask marks.mode else marks.mode)
            if o.marked then setMarks place fun _ => marks
            else if isNew || o.mode.isSome then setMarks place fun old => { old with mode := mode }
          o.say "" source target kept
          return 0

/-- Copies a file or, with everything below it, a directory. A directory that is made on the way is not copied into
    itself. -/
def Transfer.copy : (fuel : Nat) → (made : Option Place) → (source target : String) → Work Nat
  | 0, _, _, _ => return 0
  | fuel + 1, made, source, target => do
    let call ← read
    match ← (if o.asLinks then findName source else find source) with
    | .error e => cannot "stat" source e
    | .ok node =>
      let there ← if node matches .link _ then findName target else find target
      let isDangling := (there matches .error .notFound) && ((← findName target) matches .ok (.link _))
      match node, there with
      | .directory marks, there =>
        if !o.tree then
          complain ((if o.mode.isSome then "" else "-r not specified; ") ++ "omitting directory " ++ shown source)
        else
          let place := (← place? source).getD []
          let below (made : Option Place) : Work Nat := do
            forEach (← entriesOf place) fun name => do
              if made = some (place ++ [name]) then
                complain s!"cannot copy a directory, {shown source}, into itself, {shown target}"
              else Transfer.copy fuel made (Path.join source name) (Path.join target name)
          match there with
          | .ok (.directory _) => below made
          | .ok _ => complain s!"cannot overwrite non-directory {shown target} with directory {shown source}"
          | .error .notFound =>
            match (← get).files.makeDirectory call.cwd (Script.Shell.path target) with
            | .error e => cannot "create directory" target e
            | .ok files =>
              modify fun m => { m with files := files }
              let new ← place? target
              match new with
              | some new =>
                setMarks new fun _ => if o.marked then marks else { marks with mode := Machine.maskedMode call.mask marks.mode }
              | none => pure ()
              o.say "" source target false
              below (made.orElse fun _ => new)
          | .error e => cannot "stat" target e
      | _, .ok (.directory _) => complain s!"cannot overwrite directory {shown target} with non-directory"
      | _, .ok there =>
        let isSame ← do
          match ← (if o.asLinks then namePlace? source else place? source),
              ← (if o.asLinks || o.symbolic then namePlace? target else place? target) with
          | some a, some b => isSameFile a b
          | _, _ => pure false
        if isSame && o.backup.isNone && !(there matches .device _) then
          complain s!"{shown source} and {shown target} are the same file"
        else if ← o.mayReplace target node there then o.copyLeaf source target node false
        else return if o.asks then 1 else 0
      | _, .error .notFound =>
        if isDangling && !o.removes then complain s!"not writing through dangling symlink {shown target}"
        else if FileStore.namesDirectory target then
          complain s!"cannot create regular file {shown target}: Not a directory"
        else o.copyLeaf source target node true
      | _, .error e => cannot "stat" target e

def nameOf (operand : String) : String := lastName operand ""

/-- Runs work on every source with its target in a directory. A source that is named twice is left out. -/
def intoDirectory (warns : Bool) (work : (source target : String) → Work Nat) (directory : String) :
    (seen : List Place) → List String → Work Nat
  | _, [] => return 0
  | seen, source :: rest => do
    let place ← namePlace? source
    if warns && place.any seen.contains then
      let _ ← complain s!"warning: source file {shown source} specified more than once"
      intoDirectory warns work directory seen rest
    else
      let name := nameOf source
      let target := if name = "." || name = ".." then directory else Path.join directory name
      let status ← work source target
      return max status (← intoDirectory warns work directory (seen ++ place.toList) rest)

variable (given : Given)

/-- Runs work on sources with a target, which may be a directory. -/
def toTarget (warns : Bool) (work : (source target : String) → Work Nat) (operands : List String) :
    Work Nat := do
  match given.value? 't', given.has 'T', operands with
  | some _, true, _ => complain "cannot combine --target-directory (-t) and --no-target-directory (-T)"
  | _, _, [] => misuse "missing file operand"
  | some directory, _, sources =>
    match ← find directory with
    | .ok (.directory _) => intoDirectory warns work directory [] sources
    | .ok _ => complain s!"target directory {shown directory}: {OsError.notDirectory.description}"
    | .error e => complain s!"target directory {shown directory}: {e.description}"
  | none, _, [only] => misuse s!"missing destination file operand after {shown only}"
  | none, true, _ :: _ :: extra :: _ => extraOperand extra
  | none, true, source :: rest => work source (rest.head?.getD "")
  | none, false, _ =>
    let target := operands.getLast?.getD ""
    let sources := operands.dropLast
    match ← find target with
    | .ok (.directory _) => intoDirectory warns work target [] sources
    | there =>
      match sources with
      | [source] => work source target
      | _ =>
        let why := (match there with
          | .ok _ => OsError.notDirectory
          | .error e => e).description
        complain s!"target {shown target}: {why}"

def backupOf : Option String :=
  if given.has 'b' || given.has 'S' then some ((given.value? 'S').getD "~") else none

def Transfer.ofOptions : Transfer :=
  { verbose := given.has 'v', asks := given.last? ['f', 'i', 'n'] = some 'i', keeps := given.last? ['f', 'i', 'n'] = some 'n',
    newer := given.has 'u', backup := backupOf given }

def transferNames : List (String × Char) :=
  [("backup", 'b'), ("force", 'f'), ("interactive", 'i'), ("no-clobber", 'n'), ("no-target-directory", 'T'), ("suffix", 'S'),
    ("strip-trailing-slashes", 'Ā'), ("target-directory", 't'), ("update", 'u'), ("verbose", 'v')]

def copy : Work Nat :=
  let long := transferNames ++ [("archive", 'a'), ("dereference", 'L'), ("link", 'l'), ("no-dereference", 'P'),
    ("preserve", 'ā'), ("recursive", 'r'), ("symbolic-link", 's'), ("remove-destination", 'Ă'), ("one-file-system", 'x')]
  withOptionSet { letters := "abdfHilLnPprRsS:t:TuvxĀā::Ă", long } 1 fun given operands => do
    let tree := given.has 'r' || given.has 'R' || given.has 'a'
    let asLinks :=
      match given.last? ['L', 'H', 'P', 'd', 'a'] with
      | some 'L' => false
      | some 'H' => false
      | some _ => true
      | none => tree
    let o : Transfer :=
      { Transfer.ofOptions given with
        tree, asLinks, hard := given.has 'l', symbolic := given.has 's', removes := given.has 'Ă',
        marked := given.has 'p' || given.has 'a' || given.has 'ā' }
    toTarget given true (o.copy ((← get).files.nodes.length + 2) none) operands

def Transfer.move (source target : String) : Work Nat := do
  let fail (e : OsError) : Work Nat :=
    complain s!"cannot move {shown source} to {shown target}: {e.description}"
  match ← findName source with
  | .error e => cannot "stat" source e
  | .ok node =>
    let sourcePlace := (← namePlace? source).getD []
    let there ← findName target
    let place? ← namePlace? target
    let isTree := node.isDirectory
    let last := (Path.names source).getLast?.getD "."
    let put (place : Place) : Work Nat := do
      let kept ← if (there matches .ok _) then o.keep target else pure false
      modify fun m => m.rename sourcePlace place
      o.say "renamed " source target kept
      return 0
    match there, place? with
    | .ok found, some place =>
      if place = sourcePlace then complain s!"{shown source} and {shown target} are the same file"
      else if ← isSameFile sourcePlace place then
        modify fun m => m.unlink sourcePlace
        return 0
      else if found.isDirectory && !isTree then
        complain s!"cannot overwrite directory {shown target} with non-directory"
      else if isTree && !found.isDirectory then
        complain s!"cannot overwrite non-directory {shown target} with directory {shown source}"
      else if isTree && sourcePlace.isPrefixOf place then
        complain s!"cannot move {shown source} to a subdirectory of itself, {shown target}"
      else if isTree && !((← get).files.entries place).isEmpty then
        complain s!"cannot overwrite {shown target}: {OsError.notEmpty.description}"
      else if ← o.mayReplace target node found then put place
      else return if o.asks then 1 else 0
    | .error .notFound, some place =>
      if FileStore.namesDirectory target && !isTree then fail .notDirectory
      else if !((← get).files.get? place.dropLast).any Node.isDirectory then fail .notFound
      else if last = "." || last = ".." || sourcePlace.isEmpty then
        complain s!"cannot move {shown source} to {shown target}: Device or resource busy"
      else if isTree && sourcePlace.isPrefixOf place then
        complain s!"cannot move {shown source} to a subdirectory of itself, {shown target}"
      else put place
    | .error .notFound, none => fail .notFound
    | .error e, _ => cannot "stat" target e
    | .ok _, none => return 1

def move : Work Nat :=
  withOptionSet { letters := "bfinS:t:TuvĀ", long := transferNames } 1 fun given operands =>
    let o := Transfer.ofOptions given
    toTarget given false o.move operands

/-! ### Links -/

/-- How links are made. -/
structure Linking where
  symbolic : Bool
  forced : Bool
  relative : Bool
  verbose : Bool
  /-- Whether a link is followed before another name is given to what it stands for. -/
  followed : Bool
  backup : Option String

/-- Gives a file another name, or makes a link to it. -/
def Linking.link (o : Linking) (source target : String) : Work Nat := do
  let call ← read
  let kind := if o.symbolic then "symbolic link " else "hard link "
  let fail (e : OsError) : Work Nat := complain s!"failed to create {kind}{shown target}: {e.description}"
  let found ← if o.followed then find source else findName source
  let origin := (← (if o.followed then place? source else namePlace? source)).getD []
  let put (place : Place) (node : Node) : Work Nat := do
    let there := ((← get).files.get? place).isSome
    if there && !o.forced && o.backup.isNone then fail .alreadyExists
    else if there && ((← get).files.get? place).any Node.isDirectory then
      complain s!"{shown target}: cannot overwrite directory"
    else if there && !o.symbolic && (← isSameFile origin place) then
      complain s!"{shown source} and {shown target} are the same file"
    else if !((← get).files.get? place.dropLast).any Node.isDirectory then fail .notFound
    else
      let transfer : Transfer := { backup := o.backup }
      let kept ← if there then transfer.keep target else pure false
      if there && !kept then modify fun m => m.unlink place
      if o.symbolic then changeFiles fun fs => fs.put place node else modify fun m => m.addName origin place node
      if o.verbose then
        let note := if kept then " ~ " else ""
        print (note ++ shown target ++ (if o.symbolic then " -> " else " => ") ++ shown source ++ "\n")
      return 0
  if o.symbolic then
    if source.isEmpty then
      complain s!"failed to create symbolic link {shown target} -> '': No such file or directory"
    else
      match (← get).files.locateName call.cwd (Script.Shell.path target) with
      | .error e => fail e
      | .ok place =>
        let origin := (← get).files.locate call.cwd (Script.Shell.path source)
        match origin, o.relative with
        | .ok goal, true => put place (.link (relativePath place.dropLast goal))
        | _, _ => put place (.link (Script.Shell.path source))
  else
    match found with
    | .error e => complain s!"failed to access {shown source}: {e.description}"
    | .ok (.directory _) => complain s!"{shownFirst source}: hard link not allowed for directory"
    | .ok node =>
      match (← get).files.locateName call.cwd (Script.Shell.path target) with
      | .error e => fail e
      | .ok place => put place node

def link : Work Nat :=
  let long := [("backup", 'b'), ("force", 'f'), ("interactive", 'i'), ("logical", 'L'), ("no-dereference", 'n'),
    ("physical", 'P'), ("relative", 'r'), ("symbolic", 's'), ("suffix", 'S'), ("target-directory", 't'),
    ("no-target-directory", 'T'), ("verbose", 'v')]
  withOptionSet { letters := "bdfFiLnPrsS:t:Tv", long } 1 fun given operands => do
    let o : Linking :=
      { symbolic := given.has 's', forced := given.has 'f', relative := given.has 'r',
        verbose := given.has 'v', followed := given.last? ['L', 'P'] = some 'L', backup := backupOf given }
    match operands with
    | [only] =>
      if given.has 't' || given.has 'T' then toTarget given false o.link operands
      else o.link only s!"./{nameOf only}"
    | _ =>
      let target := operands.getLast?.getD ""
      let isLink := given.has 'n' && operands.length = 2 && ((← findName target) matches .ok (.link _))
      toTarget (if isLink then ('T', "") :: given else given) false o.link operands

def linkOne : Work Nat := withOptions "" fun _ operands => do
  match operands with
  | [] => missingOperand
  | [only] => misuse s!"missing operand after {shown only}"
  | [source, target] =>
    let fail (e : OsError) : Work Nat :=
      complain s!"cannot create link {shown target} to {shown source}: {e.description}"
    match ← findName source, (← get).files.locateName (← read).cwd (Script.Shell.path target) with
    | .error e, _ | _, .error e => fail e
    | .ok node, .ok place =>
      if ((← get).files.get? place).isSome then fail .alreadyExists
      else if !((← get).files.get? place.dropLast).any Node.isDirectory then fail .notFound
      else
        match ← namePlace? source with
        | some origin =>
          modify fun m => m.addName origin place node
          return 0
        | none => return 1
  | _ :: _ :: extra :: _ => extraOperand extra

/-! ### Directories -/

def makeOne (said : Option String) (mode : Nat) (path : String) : Work (Except OsError Unit) := do
  let call ← read
  match (← get).files.makeDirectory call.cwd (Script.Shell.path path) with
  | .error e => return .error e
  | .ok files =>
    modify fun m => { m with files := files }
    match ← place? path with
    | some place => setMarks place fun marks => { marks with mode := mode }
    | none => pure ()
    match said with
    | some word => print s!"{call.name}: {word} directory {shown path}\n"
    | none => pure ()
    return .ok ()

/-- The paths of a directory and of all above it. -/
def pathsTo (path : String) : List String :=
  let parts := Path.components path
  (List.range parts.length).map fun i => Path.ofComponents (parts.take (i + 1))

/-- Makes directories one after the other, up to the first that cannot be made. All but the last may be written. -/
def makeEach (said : Option String) (mode : Nat) : List String → Work Nat
  | [] => return 0
  | path :: rest => do
    let call ← read
    match ← makeOne said (if rest.isEmpty then mode else Machine.maskedMode call.mask 511 ||| 192) path with
    | .ok () => makeEach said mode rest
    | .error e =>
      if (← get).files.isDirectory call.cwd (Script.Shell.path path) then makeEach said mode rest
      else
        let why := if e = .alreadyExists && !rest.isEmpty then OsError.notDirectory else e
        cannot "create directory" path why

def makeDirectory : Work Nat :=
  let long := [("mode", 'm'), ("parents", 'p'), ("verbose", 'v')]
  withOptionSet { letters := "m:pv", long } 1 fun given operands => do
    let call ← read
    let text := given.value? 'm'
    if operands.isEmpty then missingOperand
    else
      match (text.map fun text => Mode.change? call.mask true text 511).getD (some (Machine.maskedMode call.mask 511)) with
      | none => complain ("invalid mode " ++ shown (text.getD ""))
      | some mode =>
        let said := if given.has 'v' then some "created" else none
        forEach operands fun path => do
          if given.has 'p' && !path.isEmpty then makeEach said mode (pathsTo path)
          else
            match ← makeOne said mode path with
            | .ok () => return 0
            | .error e => cannot "create directory" path e

/-! ### Named pipes -/

def makeFifoAt (path : String) (mode : Nat) : Work (Except OsError Unit) := do
  let m ← get
  match m.files.locateName (← read).cwd (Script.Shell.path path) with
  | .error e => return .error e
  | .ok place =>
    if (m.files.get? place).isSome then return .error .alreadyExists
    else if !FileStore.takesNew place then return .error .notFound
    else
      changeFiles fun fs => fs.put place (.fifo { mode, modified := m.fileTime })
      return .ok ()

def fileMode? : Work (Option Nat) := do
  let mask := (← read).mask
  return ((given.value? 'm').map fun text => Mode.change? mask false text 438).getD (some (Machine.maskedMode mask 438))

def makeFifo : Work Nat :=
  withOptionSet { letters := "m:Z", long := [("mode", 'm')] } 1 fun given operands => do
    if operands.isEmpty then missingOperand
    else
      match ← fileMode? given with
      | none => complain "invalid mode"
      | some mode =>
        forEach operands fun path => do
          match ← makeFifoAt path mode with
          | .ok () => return 0
          | .error e => cannot "create fifo" path e

def makeNode : Work Nat :=
  withOptionSet { letters := "m:Z", long := [("mode", 'm')] } 1 fun given operands => do
    match ← fileMode? given, operands with
    | none, _ => complain "invalid mode"
    | some _, [] => missingOperand
    | some _, [only] => misuse s!"missing operand after {shown only}"
    | some mode, path :: kind :: rest =>
      if kind.toList.head? = some 'p' then
        match rest with
        | extra :: _ => misuse s!"extra operand {shown extra}\nFifos do not have major and minor device numbers."
        | [] =>
          match ← makeFifoAt path mode with
          | .ok () => return 0
          | .error e => complainOf path e
      else
        match rest with
        | [] => misuse s!"missing operand after {shown kind}\nSpecial files require major and minor device numbers."
        | [major] => misuse s!"missing operand after {shown major}"
        | _ :: _ :: extra :: _ => extraOperand extra
        | [_, _] =>
          if ['b', 'c', 'u'].any fun c => kind.toList.head? = some c then complain s!"{shownFirst path}: Operation not permitted"
          else misuse s!"invalid device type {shown kind}"

/-! ### Installing -/

def install : Work Nat :=
  let long := transferNames ++ [("directory", 'd'), ("mode", 'm'), ("owner", 'o'), ("group", 'g'), ("preserve-timestamps", 'p'),
    ("strip", 's'), ("compare", 'C')]
  withOptionSet { letters := "bcCdDg:m:o:psS:t:Tvfinuā", long } 1 fun given operands => do
    let call ← read
    let text := (given.value? 'm').getD "755"
    match Mode.change? 0 false text 0 with
    | none => complain s!"invalid mode {shown text}"
    | some mode =>
      let said := if given.has 'v' then some "creating" else none
      if given.has 'd' then
        if operands.isEmpty then misuse "missing file operand"
        else forEach operands fun path => makeEach said mode (pathsTo path)
      else
        let o : Transfer := { verbose := given.has 'v', backup := backupOf given, removes := true, mode := some mode }
        let work (source target : String) : Work Nat := o.copy 2 none source target
        if given.has 'D' then
          let parents : List String :=
            match given.value? 't', operands with
            | some directory, _ => pathsTo directory
            | none, [_, target] => (pathsTo target).dropLast
            | none, _ => []
          let status ← makeEach said (Machine.maskedMode call.mask 511) parents
          if status != 0 then return status
        toTarget given false work operands

end Utility

end BenchKernel
