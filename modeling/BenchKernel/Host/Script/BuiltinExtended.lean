import BenchKernel.Host.Regex
import BenchKernel.Host.Script.Builtin

/-! # Builtin commands of the extended language

The commands that a shell of the extended language carries out by itself and that run no other commands. Most faults
end only the command. -/

namespace BenchKernel.Script

namespace Extended

/-- How each command is to be used. -/
def usages : List (String × String) :=
  [(".", ". filename [arguments]"), ("alias", "alias [-p] [name[=value] ... ]"), ("bind", "bind"),
    ("cd", "cd [-L|[-P [-e]] [-@]] [dir]"), ("command", "command [-pVv] command [arg ...]"),
    ("declare", "declare [-aAfFgiIlnrtux] [name[=value] ...] or declare -p [-aAfFilnrtux] [name ...]"),
    ("dirs", "dirs [-clpv] [+N] [-N]"), ("disown", "disown [-h] [-ar] [jobspec ... | pid ...]"),
    ("enable", "enable [-a] [-dnps] [-f filename] [name ...]"), ("eval", "eval [arg ...]"),
    ("exec", "exec [-cl] [-a name] [command [argument ...]] [redirection ...]"),
    ("export", "export [-fn] [name[=value] ...] or export -p"), ("getopts", "getopts optstring name [arg ...]"),
    ("hash", "hash [-lr] [-p pathname] [-dt] [name ...]"), ("jobs", "jobs [-lnprs] [jobspec ...] or jobs -x command [args]"),
    ("kill", "kill [-s sigspec | -n signum | -sigspec] pid | jobspec ... or kill -l [sigspec]"),
    ("local", "local [option] name[=value] ..."),
    ("mapfile", "mapfile [-d delim] [-n count] [-O origin] [-s count] [-t] [-u fd] [-C callback] [-c quantum] [array]"),
    ("popd", "popd [-n] [+N | -N]"), ("printf", "printf [-v var] format [arguments]"), ("pushd", "pushd [-n] [+N | -N | dir]"),
    ("pwd", "pwd [-LP]"),
    ("read", "read [-ers] [-a array] [-d delim] [-i text] [-n nchars] [-N nchars] [-p prompt] [-t timeout] [-u fd] [name ...]"),
    ("readarray",
      "readarray [-d delim] [-n count] [-O origin] [-s count] [-t] [-u fd] [-C callback] [-c quantum] [array]"),
    ("readonly", "readonly [-aAf] [name[=value] ...] or readonly -p"),
    ("set", "set [-abefhkmnptuvxBCEHPT] [-o option-name] [--] [-] [arg ...]"), ("shopt", "shopt [-pqsu] [-o] [optname ...]"),
    ("source", "source filename [arguments]"), ("trap", "trap [-lp] [[arg] signal_spec ...]"),
    ("type", "type [-afptP] name [name ...]"),
    ("typeset", "typeset [-aAfFgiIlnrtux] name[=value] ... or typeset -p [-aAfFilnrtux] [name ...]"),
    ("ulimit", "ulimit [-SHabcdefiklmnpqrstuvxPRT] [limit]"), ("umask", "umask [-p] [-S] [mode]"),
    ("unalias", "unalias [-a] name [name ...]"), ("unset", "unset [-f] [-v] [-n] [name ...]"),
    ("wait", "wait [-fn] [-p var] [id ...]")]

/-- Ends a command that is used wrongly. -/
def misuse {α : Type} : Act α := do
  let name := (← get).builtin.getD ""
  Act.printError (name ++ ": usage: " ++ (usages.lookup name).getD "" ++ "\n")
  Act.setStatus 2
  throw .refused

def signedOptions (known : String) (plus : Bool) (arguments : List String) : Act (SignedOptions × List String) :=
  let fault (isMissing : Bool) (sign c : Char) : Act (SignedOptions × List String) := do
    Act.report (String.ofList [sign, c] ++ (if isMissing then ": option requires an argument" else ": invalid option"))
    misuse
  readOptions known.toList plus fault (optionBound arguments) arguments

def options (known : String) (arguments : List String) : Act (List (Char × String) × List String) := do
  let (given, rest) ← signedOptions known false arguments
  return (given.map Prod.snd, rest)

variable (given : List (Char × String))

def isGiven (letter : Char) : Bool := (given.lookup letter).isSome

def valueOf (letter : Char) : Option String := given.reverse.lookup letter

/-- Does something for each name. The status says whether one was refused. -/
def forNames (names : List String) (work : String → Act Unit) : Act Nat := do
  Act.forEach names fun name => do
    match ← Act.outcome (work name) with
    | .ok () => return 0
    | .error .refused | .error .discard => return 1
    | .error stop => throw stop

def badIdentifier {α : Type} (text : String) : Act α := Act.refuse 1 s!"{ticked text}: not a valid identifier"

/-! ### Printing -/

variable (arguments : List String)

def echo : Act Nat := do
  let (bare, escapes, words) := echoOptions false ((← get).hasMode "xpg_echo") arguments
  let text := " ".intercalate words
  if escapes then
    let (cs, ends) := unescaped { hex := true, octal := false } text.toList
    Act.print (String.ofList (if bare || ends then cs else cs ++ ['\n']))
  else Act.print (if bare then text else text ++ "\n")
  return 0

def printStyle : PrintStyle :=
  { float := Number.binary80, hex := true, quotes := ['"', '\'', '?'], quoted := some backslashed, times := true }

variable (text : String)

/-- A variable, or an element of an array with its key. -/
def slotOf? : Option (String × Option String) :=
  let name := String.ofList (text.toList.takeWhile (· != '['))
  match text.toList.drop name.length with
  | [] => if isName name then some (name, none) else none
  | '[' :: rest =>
    if isName name && rest.getLast? = some ']' && 1 < rest.length then some (name, some (String.ofList rest.dropLast))
    else none
  | _ => none

/-- A key of an array, which is a formula unless the array has texts as keys. -/
def keyOf (name key : String) : Act String := do
  if (← get).isKeyed name then return key else return toString (← Act.formula key).toInt

def assignSlot (text value : String) : Act Unit := do
  match slotOf? text with
  | none => badIdentifier text
  | some (name, none) => Act.assignTo name none false value
  | some (name, some key) => Act.assignTo name (some (← keyOf name key)) false value

def slotValue? : Act (Option String) := do
  match slotOf? text with
  | none => return none
  | some (name, none) => return (← get).value? name
  | some (name, some key) =>
    let key ← keyOf name key
    return ((← get).find? name).bind fun v => v.elements.get? key

def printf : Act Nat := do
  let (given, arguments) ← options "v:" arguments
  match arguments with
  | [] => misuse
  | format :: rest =>
    let (ended, s) := printed printStyle format rest
    match valueOf given 'v' with
    | some name => assignSlot name s.text
    | none => Act.print s.text
    s.warnings.forM fun (text, why) =>
      match why with
      | .range => Act.report s!"warning: {text}: {why.message}"
      | _ => Act.report s!"{text}: invalid number"
    let failed := s.warnings.any fun entry => entry.2 != .range
    match ended with
    | some (.bad text true) =>
      Act.report s!"{ticked text}: missing format character"
      return 1
    | some (.bad text false) =>
      Act.report s!"{ticked (String.ofList (text.toList.reverse.take 1))}: invalid format character"
      return 1
    | _ => return if failed then 1 else 0

/-! ### Conditions -/

namespace Condition

def unaryOperators : List String :=
  ["-a", "-b", "-c", "-d", "-e", "-f", "-g", "-h", "-k", "-n", "-o", "-p", "-r", "-s", "-t", "-u", "-v", "-w", "-x", "-z",
    "-G", "-L", "-N", "-O", "-R", "-S"]

def binaryOperators : List String :=
  ["=", "==", "!=", "<", ">", "-nt", "-ot", "-ef", "-eq", "-ne", "-lt", "-le", "-gt", "-ge"]

/-- What conditions ask about files and the shell. -/
structure Facts where
  files : FileFacts
  isSet : String → Bool
  isOn : String → Bool

variable (f : Facts)

def unary (operator argument : String) : Bool :=
  match operator with
  | "-z" => argument.isEmpty
  | "-n" => !argument.isEmpty
  | "-v" => f.isSet argument
  | "-o" => f.isOn argument
  | "-t" => false
  | "-a" => f.files.holds "-e" argument
  | _ => f.files.holds operator argument

def integer (text : String) : Except String Int :=
  match wholeNumber? false text with
  | some n => .ok n
  | none => .error s!"{text}: integer expression expected"

mutual

def readOr : Nat → List String → Except String (Bool × List String)
  | 0, _ => .error "too many arguments"
  | n + 1, arguments => do
    let (a, rest) ← readAnd n arguments
    match rest with
    | "-o" :: rest =>
      let (b, rest) ← readOr n rest
      return (a || b, rest)
    | _ => return (a, rest)

def readAnd : Nat → List String → Except String (Bool × List String)
  | 0, _ => .error "too many arguments"
  | n + 1, arguments => do
    let (a, rest) ← readTerm n arguments
    match rest with
    | "-a" :: rest =>
      let (b, rest) ← readAnd n rest
      return (a && b, rest)
    | _ => return (a, rest)

def readTerm : Nat → List String → Except String (Bool × List String)
  | 0, _ => .error "too many arguments"
  | n + 1, arguments => do
    match arguments with
    | [] => throw "argument expected"
    | "!" :: rest =>
      let (a, rest) ← readTerm n rest
      return (!a, rest)
    | "(" :: rest =>
      let (a, rest) ← readOr n rest
      match rest with
      | ")" :: rest => return (a, rest)
      | [] => throw (ticked ")" ++ " expected")
      | found :: _ => throw (ticked ")" ++ " expected, found " ++ found)
    | first :: rest =>
      match rest with
      | operator :: second :: after =>
        if binaryOperators.contains operator then return (← Condition.binary f.files integer operator first second, after)
        else if unaryOperators.contains first then return (unary f first operator, second :: after)
        else return (!first.isEmpty, rest)
      | [operand] =>
        if unaryOperators.contains first then return (unary f first operand, [])
        else return (!first.isEmpty, rest)
      | [] => return (!first.isEmpty, [])

end

def ofTwo (a b : String) : Except String Bool :=
  if a = "!" then .ok b.isEmpty
  else if unaryOperators.contains a then .ok (unary f a b)
  else .error s!"{a}: unary operator expected"

def ofThree (a b c : String) : Except String Bool :=
  if binaryOperators.contains b then Condition.binary f.files integer b a c
  else if b = "-a" then .ok (!a.isEmpty && !c.isEmpty)
  else if b = "-o" then .ok (!a.isEmpty || !c.isEmpty)
  else if a = "!" then (ofTwo f b c).map (!·)
  else if a = "(" && c = ")" then .ok (!b.isEmpty)
  else .error s!"{b}: binary operator expected"

/-- Whether the arguments hold. Up to four of them are looked at as a whole. -/
def evaluate (arguments : List String) : Except String Bool := do
  let general : Except String Bool := do
    let (holds, rest) ← readOr f (4 * arguments.length + 8) arguments
    if rest.isEmpty then return holds else throw "too many arguments"
  match arguments with
  | [] => return false
  | [a] => return !a.isEmpty
  | [a, b] => ofTwo f a b
  | [a, b, c] => ofThree f a b c
  | [a, b, c, d] =>
    if a = "!" then return !(← ofThree f b c d)
    else if a = "(" && d = ")" then ofTwo f b c
    else general
  | _ => general

end Condition

def conditionFacts (s : Shell) : Condition.Facts :=
  { files := Builtin.fileFacts true s.machine s.numbers s.cwd
    isSet := fun text =>
      match slotOf? text with
      | some (name, none) => (s.valueOf? name).isSome
      | some (name, some key) =>
        match s.elements? name with
        | some elements => if key = "@" || key = "*" then !elements.values.isEmpty else (elements.get? key).isSome
        | none => false
      | none => ((number? text.toList).bind fun n => s.parameter? (.positional n)).isSome
    isOn := fun name => (Shell.extendedOptions.find? fun entry => entry.2 == name).any fun entry => s.has entry.1 }

def test : Act Nat := do
  match Condition.evaluate (conditionFacts (← get)) arguments with
  | .ok holds => return if holds then 0 else 1
  | .error why => Act.refuse 2 why

def bracket : Act Nat :=
  if arguments.getLast? = some "]" then test arguments.dropLast else Act.refuse 2 ("missing " ++ ticked "]")

/-! ### Variables -/

/-- The elements of an array as a script lists them. -/
def elementsText (elements : Elements) : String :=
  let items := (elements.keys.zip elements.values).map fun (key, value) =>
    let isBare := key.toList.all fun c => isBareChar c
    "[" ++ (if isBare then key else doubleQuoted key) ++ "]=" ++ doubleQuoted value
  "(" ++ " ".intercalate items ++ (if elements.isKeyed then " )" else ")")

variable (name : String)

/-- The command that would declare a variable. -/
def declaration (v : Variable) : String :=
  let letters := v.letters
  let start := "declare -" ++ (if letters.isEmpty then "-" else letters) ++ " " ++ name
  match v.array with
  | some elements => if elements.values.isEmpty then start else s!"{start}={elementsText elements}"
  | none => start ++ ((v.value.map fun text => "=" ++ doubleQuoted text).getD "")

def plainlyQuoted : String :=
  if text.isEmpty then "" else if text.toList.all isBareChar then text else quotedWord text

/-- Prints a line for each of some variables, in order. -/
def listVariables (isListed : Variable → Bool) (line : String → Variable → String) : Act Unit := do
  let entries := ((← get).vars.filter fun entry => isListed entry.2).mergeSort fun a b => decide (a.1 ≤ b.1)
  entries.forM fun (name, v) => Act.print s!"{line name v}\n"

def settingLine (v : Variable) : String :=
  match v.array with
  | some elements => s!"{name}={elementsText elements}"
  | none => name ++ "=" ++ plainlyQuoted (v.value.getD "")

/-- A variable with the marks that options give it or take from it. -/
def marked (given : List (Bool × Char × String)) (v : Variable) : Variable :=
  given.foldl (fun v (on, letter, _) =>
    match letter with
    | 'x' => { v with exported := on }
    | 'r' => { v with fixed := on || v.fixed }
    | 'i' => { v with integer := on }
    | 'n' => { v with reference := on }
    | 'u' => { v with casing := if on then some .upper else none }
    | 'l' => { v with casing := if on then some .lower else none }
    | 'c' => { v with casing := if on then some .toggled else none }
    | 'a' => if on && v.array.isNone then { v with array := some v.elements } else v
    | 'A' => if on && v.array.isNone then { v with array := some (.keyed []), value := none } else v
    | _ => v) v

/-- Declares one variable, with a value if it has one. A local one is kept, to be restored when the function ends. -/
def declareOne (isLocal : Bool) (given : List (Bool × Char × String)) (argument : String) : Act Unit := do
  let (start, value) := nameAndValue argument
  let append := value.isSome && start.toList.getLast? = some '+'
  let target := if append then String.ofList start.toList.dropLast else start
  match slotOf? target with
  | none => badIdentifier argument
  | some (name, key) =>
    if isLocal then
      let isNew := ((← get).saved.head?.getD []).lookup name |>.isNone
      Builtin.keepVariable name
      if isNew then
        let before := ((← get).find? name).getD {}
        if before.fixed then
          Act.reportAt (← get).line ((← get).builtin.getD "" ++ s!": {name}: readonly variable")
          throw .refused
        modify fun s => s.setVariable name { exported := before.exported && value.isNone && false }
    let s ← get
    let name := if given.any fun (_, letter, _) => letter == 'n' then name else s.meant name
    let v := (s.find? name).getD {}
    let early := given.filter fun (_, letter, _) => letter != 'r'
    if !v.fixed then set (s.setVariable name (marked early v))
    match (← get).lists.lookup name with
    | some (append, items) => Act.assignList name append items
    | none => pure ()
    match value with
    | some text =>
      let isReference := given.any fun (on, letter, _) => on && letter == 'n'
      if isReference then modify fun s => s.setVariable name { (s.find? name).getD {} with value := some text, reference := true }
      else
        let key ← match key with
          | some key => do pure (some (← keyOf name key))
          | none => pure none
        Act.assignTo name key append text
    | none => pure ()
    modify fun s => s.setVariable name (marked (given.filter fun (_, letter, _) => letter == 'r') ((s.find? name).getD {}))

def declareVariables : Act Nat := do
  let (given, names) ← signedOptions "aAfFgiIlnprtuxc" true arguments
  let has (letter : Char) : Bool := given.any fun (_, found, _) => found == letter
  let s ← get
  if has 'f' || has 'F' then
    if names.isEmpty then
      let shown := (s.functions.map Prod.fst).mergeSort fun a b => decide (a ≤ b)
      shown.forM fun name => Act.print s!"declare -f {name}\n"
      return 0
    else
      let found := names.filter fun name => (s.functions.lookup name).isSome
      if has 'F' then found.forM fun name => Act.print s!"{name}\n"
      return if found.length = names.length then 0 else 1
  else if has 'p' then
    if names.isEmpty then
      listVariables (fun _ => true) declaration
      return 0
    else
      forNames names fun name => do
        match (← get).find? name with
        | some v => Act.print s!"{declaration name v}\n"
        | none => Act.refuse 1 s!"{name}: not found"
  else if names.isEmpty then
    if given.isEmpty then listVariables (fun v => v.value.isSome) settingLine
    else
      let wanted := marked given {}
      listVariables (fun v => (!wanted.exported || v.exported) && (!wanted.fixed || v.fixed) && (!wanted.integer || v.integer) &&
        (wanted.array.isNone || v.array.isSome)) declaration
    return 0
  else
    let isLocal := 0 < s.functionDepth && !has 'g'
    forNames names (declareOne isLocal given)

def localVariables : Act Nat := do
  let s ← get
  if s.functionDepth = 0 then Act.refuse 1 "can only be used in a function"
  let (given, names) ← signedOptions "aAfFgiIlnprtuxc" true arguments
  if names.contains "-" then Builtin.keepOptions
  forNames (names.filter (· != "-")) (declareOne true given)

def exportVariables : Act Nat := do
  let (given, names) ← options "fnp" arguments
  let on := !isGiven given 'n'
  if names.isEmpty then
    listVariables Variable.exported declaration
    return 0
  else if isGiven given 'f' then
    forNames names fun name => do
      if ((← get).functions.lookup name).isNone then Act.refuse 1 s!"{name}: not a function"
  else forNames names (declareOne false [(on, 'x', "")])

def fixVariables : Act Nat := do
  let (given, names) ← options "aAfp" arguments
  if names.isEmpty then
    listVariables Variable.fixed declaration
    return 0
  else
    let kinds := given.filterMap fun (letter, _) => if letter = 'a' || letter = 'A' then some (true, letter, "") else none
    forNames names (declareOne false (kinds ++ [(true, 'r', "")]))

def unset (arguments : List String) : Act Nat := do
  let (given, names) ← options "fvn" arguments
  forNames names fun text => do
    let s ← get
    let dropFunction : Act Unit :=
      modify fun s => { s with functions := s.functions.filter fun entry => entry.1 != text }
    if isGiven given 'f' then dropFunction
    else
      match slotOf? text with
      | none => if isGiven given 'v' then badIdentifier text else dropFunction
      | some (name, key) =>
        let name := if isGiven given 'n' then name else s.meant name
        match s.find? name with
        | none => if isGiven given 'v' || key.isSome then return else dropFunction
        | some v =>
          if v.fixed then Act.refuse 1 s!"{name}: cannot unset: readonly variable"
          match key with
          | none => set (s.dropVariable name)
          | some key =>
            let key ← keyOf name key
            modify fun s => s.setVariable name (v.withElements (v.elements.erase key))

/-! ### Options -/

/-- The modes of the shell. -/
def modeNames : List String :=
  ["autocd", "assoc_expand_once", "cdable_vars", "cdspell", "checkhash", "checkjobs", "checkwinsize", "cmdhist",
    "compat31", "compat32", "compat40", "compat41", "compat42", "compat43", "compat44", "complete_fullquote",
    "direxpand", "dirspell", "dotglob", "execfail", "expand_aliases", "extdebug", "extglob", "extquote", "failglob",
    "force_fignore", "globasciiranges", "globskipdots", "globstar", "gnu_errfmt", "histappend", "histreedit",
    "histverify", "hostcomplete", "huponexit", "inherit_errexit", "interactive_comments", "lastpipe", "lithist",
    "localvar_inherit", "localvar_unset", "login_shell", "mailwarn", "no_empty_cmd_completion", "nocaseglob",
    "nocasematch", "noexpand_translation", "nullglob", "patsub_replacement", "progcomp", "progcomp_alias",
    "promptvars", "restricted_shell", "shift_verbose", "sourcepath", "varredir_close", "xpg_echo"]

/-- The modes that are on at first. -/
def firstModes : List String :=
  ["checkwinsize", "cmdhist", "complete_fullquote", "extquote", "force_fignore", "globasciiranges", "globskipdots",
    "hostcomplete", "interactive_comments", "patsub_replacement", "progcomp", "promptvars", "sourcepath"]

def optionLetters : List Char := "abefhkmnptuvxBCEHPT".toList

def listOptions (on : Bool) : Act Unit := do
  let s ← get
  Shell.extendedOptions.forM fun (letter, name) =>
    let isOn := s.has letter || name = "interactive-comments"
    if on then Act.print (name ++ "".pushn ' ' (15 - name.length) ++ "\t" ++ (if isOn then "on" else "off") ++ "\n")
    else Act.print ("set " ++ (if isOn then "-o " else "+o ") ++ name ++ "\n")

def setOption (on : Bool) (letter : Char) : Act Unit := do
  if optionLetters.contains letter then Builtin.switch on letter
  else
    Act.report (String.ofList [if on then '-' else '+', letter] ++ ": invalid option")
    misuse

def setNamedOption (on : Bool) (name : String) : Act Unit := do
  match Shell.extendedOptions.find? fun entry => entry.2 == name with
  | some (letter, _) => Builtin.switch on letter
  | none => Act.refuse 2 s!"{name}: invalid option name"

def optionSetting : Builtin.OptionSetting := ⟨setOption, setNamedOption, listOptions⟩

def shopt (arguments : List String) : Act Nat := do
  let (given, names) ← options "opqsu" arguments
  let s ← get
  let isOn (name : String) : Bool := s.hasMode name
  let show' (name : String) : Act Unit := do
    if isGiven given 'q' then return
    else if isGiven given 'p' then Act.print ("shopt " ++ (if isOn name then "-s " else "-u ") ++ name ++ "\n")
    else Act.print (name ++ "".pushn ' ' (15 - name.length) ++ "\t" ++ (if isOn name then "on" else "off") ++ "\n")
  if isGiven given 'o' then
    forNames names fun name => do
      match Shell.extendedOptions.find? fun entry => entry.2 == name with
      | some (letter, _) =>
        if isGiven given 's' then Builtin.switch true letter
        else if isGiven given 'u' then Builtin.switch false letter
        else if !(← get).has letter then throw .refused
      | none => Act.refuse 1 s!"{name}: invalid option name"
  else if names.isEmpty then
    let isChosen (name : String) : Bool := (!isGiven given 's' || isOn name) && (!isGiven given 'u' || !isOn name)
    (modeNames.filter isChosen).forM show'
    return 0
  else
    forNames names fun name => do
      if !modeNames.contains name then Act.refuse 1 s!"{name}: invalid shell option name"
      if isGiven given 's' || isGiven given 'u' then
        modify fun s =>
          let others := s.modes.filter (· != name)
          { s with modes := if isGiven given 's' then name :: others else others }
      else
        show' name
        if !isOn name then throw .refused

/-! ### Arguments, loops and functions -/

def numberOf (status : Nat) (text : String) : Act Int := do
  match wholeNumber? false text with
  | some n => return n
  | none => Act.refuse status s!"{text}: numeric argument required"

def shift (arguments : List String) : Act Nat := do
  let count ← (arguments.head?.map (numberOf 1)).getD (pure 1)
  let s ← get
  if count < 0 then Act.refuse 1 s!"{count}: shift count out of range"
  if s.arguments.length < count then return 1
  else
    set { s with arguments := s.arguments.drop count.toNat }
    return 0

/-- Leaves loops, or goes to their next rounds. -/
def leaveLoops (make : Nat → Skip) (arguments : List String) : Act Nat := do
  let depth := (← get).loopDepth
  if depth = 0 then
    Act.report ("only meaningful in a " ++ ticked "for" ++ ", " ++ ticked "while" ++ ", or " ++ ticked "until" ++ " loop")
    return 0
  else
    let count ← (arguments.head?.map (numberOf 128)).getD (pure 1)
    if count ≤ 0 then
      modify fun s => { s with skip := some (.loops depth) }
      Act.refuse 1 s!"{count}: loop count out of range"
    modify fun s => { s with skip := some (make (min count.toNat depth)) }
    return 0

def leaveFunction : Act Nat := do
  let s ← get
  let status : Nat ←
    match arguments.head? with
    | none => pure s.status
    | some text =>
      match wholeNumber? false text with
      | some n => pure (n % 256).toNat
      | none => do
        Act.report s!"{text}: numeric argument required"
        pure 2
  if s.functionDepth = 0 && s.file.isNone then
    Act.refuse 2 ("can only " ++ ticked "return" ++ " from a function or sourced script")
  modify fun s => { s with skip := some .function }
  return status

def exit : Act Nat := do
  match arguments with
  | [] =>
    modify fun s => { s with status := s.leaving.getD s.status }
    throw .exit
  | text :: rest =>
    match wholeNumber? false text with
    | none =>
      Act.report s!"{text}: numeric argument required"
      Act.setStatus 2
      throw .exit
    | some n =>
      if !rest.isEmpty then Act.refuse 1 "too many arguments"
      Act.setStatus (n % 256).toNat
      throw .exit

/-! ### Directories -/

def goTo (physical : Bool) (target : String) : Act Bool := do
  let s ← get
  let why :=
    match s.machine.files.find s.cwd (Shell.path target) with
    | .ok _ => OsError.notDirectory
    | .error e => e
  Builtin.goTo (Act.refuse 1 s!"{target}: {why.description}") physical target

def cd : Act Nat := do
  let (given, arguments) ← options "LPe@" arguments
  let s ← get
  let physical := (given.filter fun option => option.1 == 'L' || option.1 == 'P').getLast?.any fun option => option.1 == 'P'
  match arguments with
  | _ :: _ :: _ => Act.refuse 1 "too many arguments"
  | [] =>
    match s.value? "HOME" with
    | none => Act.refuse 1 "HOME not set"
    | some home =>
      let _ ← goTo physical home
      return 0
  | [target] =>
    if target = "-" then
      match s.value? "OLDPWD" with
      | none => Act.refuse 1 "OLDPWD not set"
      | some before =>
        let _ ← goTo physical before
        Act.print (Shell.placeText (← get).way ++ "\n")
        return 0
    else
      if (← goTo physical target) then Act.print (Shell.placeText (← get).way ++ "\n")
      return 0

/-- The directories of the stack, with a tilde for the home directory. -/
def stackText (s : Shell) : List String :=
  (s.way :: s.stack).map fun place =>
    let text := Shell.placeText place
    match s.value? "HOME" with
    | some home =>
      if text = home then "~"
      else if (home ++ "/").toList.isPrefixOf text.toList then "~" ++ String.ofList (text.toList.drop home.length)
      else text
    | none => text

def showStack (lines : Bool) : Act Unit := do
  let texts := stackText (← get)
  if lines then texts.forM fun text => Act.print s!"{text}\n" else Act.print (" ".intercalate texts ++ "\n")

def pushDirectory : Act Nat := do
  let s ← get
  match arguments with
  | [] =>
    match s.stack with
    | [] => Act.refuse 1 "no other directory"
    | first :: rest =>
      let _ ← goTo false (Shell.placeText first)
      modify fun after => { after with stack := s.way :: rest }
  | target :: _ =>
    let _ ← goTo false target
    modify fun after => { after with stack := s.way :: s.stack }
  showStack false
  return 0

def popDirectory (_ : List String) : Act Nat := do
  let s ← get
  match s.stack with
  | [] => Act.refuse 1 "directory stack empty"
  | first :: rest =>
    let _ ← goTo false (Shell.placeText first)
    modify fun s => { s with stack := rest }
    showStack false
    return 0

def showDirectories : Act Nat := do
  let (given, _) ← options "clpv" arguments
  if isGiven given 'c' then modify fun s => { s with stack := [] } else showStack (isGiven given 'p' || isGiven given 'v')
  return 0

/-! ### Input -/

/-- Characters up to an ending, whether it came, and how many were read. -/
def readUntil (raw : Bool) (ending : Char) : (most : Nat) → List Char → List Glyph × Bool × Nat
  | 0, _ => ([], true, 0)
  | _ + 1, [] => ([], false, 0)
  | most + 1, c :: rest =>
    if c = ending then ([], true, 1)
    else if c = '\\' && !raw then
      match rest with
      | [] => ([], false, 1)
      | '\n' :: rest =>
        let (glyphs, ended, count) := readUntil raw ending most rest
        (glyphs, ended, count + 2)
      | d :: rest =>
        let (glyphs, ended, count) := readUntil raw ending most rest
        (⟨d, true⟩ :: glyphs, ended, count + 2)
    else
      let (glyphs, ended, count) := readUntil raw ending most rest
      (⟨c, false⟩ :: glyphs, ended, count + 1)

/-- Seconds with a fraction as nanoseconds. -/
def secondsOf? : Option Nat :=
  let whole := text.toList.takeWhile (· != '.')
  let part := (text.toList.dropWhile (· != '.')).drop 1
  if text.isEmpty || !(whole ++ part).all Char.isDigit then none
  else some ((number? (whole ++ (part ++ List.replicate 9 '0').take 9)).getD 0)

/-- The open file that a command is told to read. -/
def inputIndex : Act Nat := do
  let s ← get
  let number := (valueOf given 'u').getD "0"
  match (number? number.toList).bind fun n => s.numbers.lookup n with
  | some index => return index
  | none => Act.refuse 1 s!"{number}: invalid file descriptor: Bad file descriptor"

def read (arguments : List String) : Act Nat := do
  let (given, names) ← options "ersa:d:i:n:N:p:t:u:" arguments
  match names.find? fun name => (slotOf? name).isNone with
  | some name => badIdentifier name
  | none =>
    let index ← inputIndex given
    let s ← get
    let raw := isGiven given 'r'
    let exact := (valueOf given 'N').bind fun text => number? text.toList
    let most := (exact.orElse fun _ => (valueOf given 'n').bind fun text => number? text.toList)
    let ending : Char := if exact.isSome then Char.ofNat 256 else ((valueOf given 'd').map fun text => text.toList.head?.getD '\x00').getD '\n'
    let time ←
      match valueOf given 't' with
      | none => pure none
      | some text => do
        match secondsOf? text with
        | some limit => pure (some (s.machine.clock + limit))
        | none => Act.refuse 1 s!"{text}: invalid timeout specification"
    let cut (text : List Char) : List Glyph × Bool × Nat := readUntil raw ending (most.getD (text.length + 1)) text
    match ← Builtin.takeInput index time cut patience [] with
    | .error e => Act.refuse 1 s!"read error: 0: {e.description}"
    | .ok (line, ended) =>
      let now := (← get).machine.clock
      let isLate := !ended && time.any fun time => time ≤ now
      let line := line.filter fun g => g.char.toNat != 0
      let whole := String.ofList (line.map Glyph.char)
      let isEnough := ended || (most.any fun n => n ≤ line.length)
      match valueOf given 'a' with
      | some name =>
        let fields := Fields.ofPieces s.separators (line.map fun g => .glyph g (!g.quoted))
        let items := fields.zipIdx.map fun (field, i) => (i, String.ofList (field.map Glyph.char))
        Act.assignArray name (.indexed items)
      | none =>
        if names.isEmpty then Act.assign "REPLY" whole
        else if exact.isSome then
          names.zipIdx.forM fun (name, i) => assignSlot name (if i = 0 then whole else "")
        else
          let fields := Builtin.cutLine s.separators names.length line
          names.zipIdx.forM fun (name, i) => assignSlot name ((fields[i]?).getD "")
      return if isEnough then 0 else if isLate then 142 else 1

def readLines : Act Nat := do
  let (given, names) ← options "d:n:O:s:tu:C:c:" arguments
  let index ← inputIndex given
  let number (letter : Char) : Nat := ((valueOf given letter).bind fun text => number? text.toList).getD 0
  let ending := ((valueOf given 'd').map fun text => text.toList.head?.getD '\x00').getD '\n'
  match ← Act.readAll index patience ByteArray.empty with
  | .error _ => return 1
  | .ok bytes =>
    let pieces := (Text.splitAt ending (Text.ofBytes bytes).toList).map String.ofList
    let last := pieces.getLast?.getD ""
    let lines := (pieces.dropLast.map fun line => if isGiven given 't' then line else line.push ending) ++
      (if last.isEmpty then [] else [last])
    let lines := lines.drop (number 's')
    let lines := if 0 < number 'n' then lines.take (number 'n') else lines
    let name := names.head?.getD "MAPFILE"
    if !isName name then badIdentifier name
    let origin := number 'O'
    Act.assignArray name (.indexed (lines.zipIdx.map fun (line, i) => (i + origin, line)))
    return 0

/-! ### Signals and jobs -/

def failureTrap : Nat := 1000

def commandTrap : Nat := 1001

def returnTrap : Nat := 1002

/-- What a trap can be set for beside signals. -/
def ownTraps : List (String × Nat) := [("ERR", failureTrap), ("DEBUG", commandTrap), ("RETURN", returnTrap)]

def badSignal {α : Type} (text : String) : Act α := Act.refuse 1 s!"{text}: invalid signal specification"

def signal? : Option Nat :=
  let upper := text.map Char.toUpper
  match ownTraps.lookup upper with
  | some n => some n
  | none => Builtin.signal? (if "SIG".toList.isPrefixOf upper.toList then String.ofList (upper.toList.drop 3) else text)

def trapName (signal : Nat) : String :=
  if signal = 0 then "EXIT"
  else
    match ownTraps.find? fun entry => entry.2 == signal with
    | some (name, _) => name
    | none => "SIG" ++ Builtin.signalName signal

def signalTable : String :=
  let numbers := ((List.range 65).drop 1).filter fun n => n != 32 && n != 33
  let cell (n : Nat) : String := (if n < 10 then " " else "") ++ s!"{n}) {trapName n}"
  let rec' := numbers.zipIdx.map fun (n, i) => cell n ++ (if (i + 1) % 5 = 0 || i + 1 = numbers.length then "\n" else "\t")
  String.join rec'

def trap (arguments : List String) : Act Nat := do
  let (given, arguments) ← options "lp" arguments
  let s ← get
  let shown (entry : Nat × String) : String := s!"trap -- {quotedWord entry.2} {trapName entry.1}\n"
  let sorted := s.traps.mergeSort fun a b => decide (a.1 ≤ b.1)
  if isGiven given 'l' then
    Act.print signalTable
    return 0
  else if isGiven given 'p' || arguments.isEmpty then
    if arguments.isEmpty then
      sorted.forM fun entry => Act.print (shown entry)
      return 0
    else
      forNames arguments fun text => do
        match signal? text with
        | none => badSignal text
        | some signal => (sorted.filter fun entry => entry.1 == signal).forM fun entry => Act.print (shown entry)
  else
    let first := arguments.head?.getD ""
    let rest := arguments.drop 1
    let isSignal := rest.isEmpty || (number? first.toList).isSome
    if rest.isEmpty && (signal? first).isNone then misuse
    let action := if isSignal || first = "-" then none else some first
    let status ← forNames (if isSignal then arguments else rest) fun text => do
      match signal? text with
      | none => badSignal text
      | some signal =>
        modify fun s => s.withTrap signal action
    Act.settleTraps
    return status

def jobOf : Act Job := do
  match (← get).findJob name with
  | .ok j => return j
  | .error .ambiguous => Act.refuse 1 s!"{String.ofList (name.toList.drop 1)}: ambiguous job spec"
  | .error _ => Act.refuse 1 s!"{name}: no such job"

/-- Sends a signal to processes and jobs. It fails only if none of them got it. -/
def sendTo (signal : Nat) (targets : List String) : Act Nat := do
  if targets.isEmpty then misuse
  let results ← targets.mapM fun target => do
    forNames [target] fun target => do
      if target.toList.head? = some '%' then
        let j ← jobOf target
        j.processes.forM fun number => do
          let _ ← Act.send number signal
          return
      else
        match wholeNumber? false target with
        | none => Act.refuse 1 s!"{target}: arguments must be process or job IDs"
        | some n =>
          match ← if n < 0 then pure (.error .noProcess) else Act.send n.toNat signal with
          | .ok () => return
          | .error _ => Act.refuse 1 s!"({target}) - No such process"
  return if results.any (· == 0) then 0 else 1

def kill : Act Nat := do
  match arguments with
  | [] => misuse
  | "-l" :: [] | "-L" :: [] =>
    Act.print signalTable
    return 0
  | "-l" :: texts =>
    forNames texts fun text => do
      match number? text.toList with
      | some n => Act.print (Builtin.signalName (if 128 < n then n - 128 else n) ++ "\n")
      | none =>
        match signal? text with
        | some n => Act.print s!"{n}\n"
        | none => badSignal text
  | "-s" :: text :: targets | "-n" :: text :: targets =>
    match signal? text with
    | some signal => sendTo signal targets
    | none => badSignal text
  | "--" :: targets => sendTo 15 targets
  | argument :: targets =>
    match argument.toList with
    | '-' :: c :: cs =>
      match signal? (String.ofList (c :: cs)) with
      | some signal => sendTo signal (if targets.head? = some "--" then targets.tail else targets)
      | none => badSignal (String.ofList (c :: cs))
    | _ => sendTo 15 arguments

/-- Waits until a job has ended, unless a signal comes. -/
def waitForJob (job : Job) : Act (Except Nat (Nat × ExitStatus)) := do
  match ← Act.awaitUntil (fun s => (s.job? job.number).all Job.isDone) [] patience with
  | some signal => return .error signal
  | none =>
    let status := (((← get).job? job.number).bind Job.status?).getD (.exited 127)
    modify Shell.withoutOver
    return .ok (job.last, status)

/-- Waits for a process or a job that an argument names. -/
def waitForName : Act (Except Nat (Nat × ExitStatus)) := do
  let s ← get
  match name.toList with
  | '%' :: _ =>
    match s.findJob name with
    | .ok j => waitForJob j
    | .error .ambiguous =>
      Act.report s!"{String.ofList (name.toList.drop 1)}: ambiguous job spec"
      return .ok (0, .exited 127)
    | .error _ =>
      Act.report s!"{name}: no such job"
      return .ok (0, .exited 127)
  | _ =>
    match wholeNumber? false name with
    | none =>
      Act.report s!"{ticked name}: not a pid or valid job spec"
      return .ok (0, .exited 1)
    | some n =>
      match s.jobs.find? fun j => j.processes.contains n.toNat with
      | some j => waitForJob j
      | none =>
        let isKnown (s : Shell) : Bool := (s.known.lookup n.toNat).isSome || (s.machine.table.find? n.toNat).all (·.parent != s.own)
        match ← Act.awaitUntil isKnown [] patience with
        | some signal => return .error signal
        | none =>
          match (← get).known.lookup n.toNat with
          | some status => return .ok (n.toNat, status)
          | none =>
            Act.report s!"pid {name} is not a child of this shell"
            return .ok (0, .exited 127)

def waitForNames (status : Nat) : List String → Act Nat
  | [] => return status
  | name :: rest => do
    match ← waitForName name with
    | .error signal => return 128 + signal
    | .ok (_, status) => waitForNames status.code rest

/-- Waits until one of some jobs has ended. -/
def waitForAny (numbers : List Nat) : Act (Except Nat (Nat × ExitStatus)) := do
  let isMeant (j : Job) : Bool := numbers.contains j.number
  if !(← get).jobs.any isMeant then return .ok (0, .exited 127)
  else
    match ← Act.awaitUntil (fun s => s.jobs.any fun j => isMeant j && j.isDone) [] patience with
    | some signal => return .error signal
    | none =>
      let s ← get
      match s.jobs.reverse.find? fun j => isMeant j && j.isDone with
      | none => return .ok (0, .exited 127)
      | some j =>
        let status := j.status?.getD (.exited 127)
        set { s.dropJob j.number with known := (j.last, status) :: s.known }
        return .ok (j.last, status)

def wait : Act Nat := do
  let (given, names) ← options "fnp:" arguments
  let keep (process : Nat) : Act Unit := do
    match valueOf given 'p' with
    | some name => if process = 0 then Act.unassign name else Act.assign name (toString process)
    | none => return
  if isGiven given 'n' then
    let s ← get
    let chosen ← names.mapM fun name => do
      match if name.toList.head? = some '%' then s.findJob name
        else ((s.jobs.find? fun j => some j.last == number? name.toList).map Except.ok).getD (.error .unknown) with
      | .ok j => return [j.number]
      | .error _ =>
        Act.report s!"{name}: no such job"
        return []
    match ← waitForAny (if names.isEmpty then s.jobs.map Job.number else chosen.flatten) with
    | .error signal => return 128 + signal
    | .ok (process, status) =>
      keep process
      return status.code
  else if names.isEmpty then
    match ← Act.awaitUntil (fun s => s.jobs.all Job.isDone) [] patience with
    | some signal => return 128 + signal
    | none =>
      modify fun s => { s with jobs := s.jobs.filter fun j => !j.isDone, known := [] }
      return 0
  else
    let status ← waitForNames 0 names
    keep ((names.getLast?.bind fun name => number? name.toList).getD 0)
    return status

def jobText (s : Shell) (withProcess : Bool) (j : Job) : String :=
  let exited := ("Done", fun code => s!"Exit {code}")
  let state := (((if j.isDone then j.status? else none).map (endText exited))).getD "Running"
  let process := if withProcess then s!" {j.processes.head?.getD 0} " else "  "
  s!"[{j.number}]{String.singleton (s.jobMark j)}{process}{state}" ++ "".pushn ' ' (24 - state.length) ++
    j.text ++ (if j.isDone then "" else " &") ++ "\n"

def jobs : Act Nat := do
  let (given, names) ← options "lnprs" arguments
  let _ ← Act.reap
  let s ← get
  let list (js : List Job) : Act Unit :=
    js.forM fun j => do
      if isGiven given 'p' then Act.print s!"{j.processes.head?.getD 0}\n"
      else
        Act.print (jobText s (isGiven given 'l') j)
        if j.isDone then
          modify fun s => { s.dropJob j.number with known := (j.last, j.status?.getD (.exited 0)) :: s.known }
  if names.isEmpty then
    let isWanted (j : Job) : Bool := !(isGiven given 's') && !(isGiven given 'r' && j.isDone)
    list (s.jobs.reverse.filter isWanted)
    return 0
  else
    forNames names fun name => do
      let j ← jobOf name
      list [j]

def disown : Act Nat := do
  let (given, names) ← options "ahr" arguments
  let s ← get
  let forget (j : Job) : Act Unit := if isGiven given 'h' then return else modify fun s => s.dropJob j.number
  if names.isEmpty then
    if isGiven given 'a' || isGiven given 'r' then
      s.jobs.forM forget
      return 0
    else
      match s.currentJob? with
      | some j =>
        forget j
        return 0
      | none => Act.refuse 1 "current: no such job"
  else
    forNames names fun name => do
      let found := (number? name.toList).bind fun n => s.jobs.find? fun j => j.processes.contains n
      match found with
      | some j => forget j
      | none =>
        let j ← jobOf (if name.toList.head? = some '%' then name else "%" ++ name)
        forget j

/-! ### The rest -/

def letFormulas : Act Nat := do
  if arguments.isEmpty then Act.refuse 1 "expression expected"
  let values ← arguments.mapM fun text => do
    match ← Act.outcome (Act.formula text) with
    | .ok n => return n
    | .error .discard =>
      Act.setStatus 1
      throw .refused
    | .error stop => throw stop
  return if values.getLast? = some 0 then 1 else 0

def umask (arguments : List String) : Act Nat := do
  let (given, rest) ← options "pS" arguments
  match rest with
  | [] =>
    let command := if isGiven given 'p' then (if isGiven given 'S' then "umask -S " else "umask ") else ""
    Act.print (command ++ Builtin.maskText (isGiven given 'S') (← get).mask ++ "\n")
    return 0
  | text :: _ =>
    Builtin.changeMask (Act.refuse 1 s!"{text}: octal number out of range")
      (Act.refuse 1 s!"{ticked (String.ofList (text.toList.take 1))}: invalid symbolic mode operator") text

def limitTable : List (Char × String × String × Nat) :=
  [('R', "real-time non-blocking time", "microseconds, ", 1), ('c', "core file size", "blocks, ", 512),
    ('d', "data seg size", "kbytes, ", 1024), ('e', "scheduling priority", "", 1), ('f', "file size", "blocks, ", 1024),
    ('i', "pending signals", "", 1), ('l', "max locked memory", "kbytes, ", 1024), ('m', "max memory size", "kbytes, ", 1024),
    ('n', "open files", "", 1), ('p', "pipe size", "512 bytes, ", 1), ('q', "POSIX message queues", "bytes, ", 1),
    ('r', "real-time priority", "", 1), ('s', "stack size", "kbytes, ", 1024), ('t', "cpu time", "seconds, ", 1),
    ('u', "max user processes", "", 1), ('v', "virtual memory", "kbytes, ", 1024), ('x', "file locks", "", 1)]

def ulimit : Act Nat := do
  let (given, rest) ← options "HSaRcdefilmnpqrstuvxbkPT" arguments
  let s ← get
  let letters := given.map Prod.fst
  let side := (letters.filter fun c => c == 'H' || c == 'S').getLast?
  let letter := ((letters.filter fun c => !(['H', 'S', 'a'].contains c)).getLast?).getD 'f'
  let current (letter : Char) : Option Nat × Option Nat :=
    match Builtin.limitTable.find? fun l => l.letter == letter with
    | some l => l.current s
    | none => (s.limits.lookup letter).getD (if letter = 'e' || letter = 'r' then (some 0, some 0) else (none, none))
  let shownOf (letter : Char) (unit : Nat) : String :=
    let value := if side = some 'H' then (current letter).2 else (current letter).1
    if letter = 'p' then "8" else (value.map fun n => toString (n / unit)).getD "unlimited"
  match rest with
  | [] =>
    if letters.contains 'a' then
      limitTable.forM fun (letter, name, unit, size) =>
        let label := s!"({unit}-{letter})"
        Act.print (name ++ "".pushn ' ' (20 - name.length) ++ " " ++ "".pushn ' ' (20 - label.length) ++ label ++ " " ++
          shownOf letter size ++ "\n")
    else
      (limitTable.filter fun entry => entry.1 == letter).forM fun (letter, _, _, size) =>
        Act.print s!"{shownOf letter size}\n"
    return 0
  | text :: _ =>
    let isNumber := text.toList.all Char.isDigit
    if !isNumber && text != "unlimited" && text != "hard" && text != "soft" then Act.refuse 1 s!"{text}: invalid number"
    let size := ((limitTable.lookup letter).map fun entry => entry.2.2).getD 1
    let value := if isNumber then some ((number? text.toList).getD 0 * size) else none
    let (soft, hard) := current letter
    let newHard := if side = some 'S' then hard else value
    let newSoft := if side = some 'H' then soft else value
    if !Builtin.withinLimit newHard hard then
      let name := ((limitTable.lookup letter).map Prod.fst).getD ""
      Act.refuse 1 s!"{name}: cannot modify limit: Operation not permitted"
    set { s with limits := (letter, newSoft, newHard) :: s.limits.filter fun entry => entry.1 != letter }
    return 0

def caller : Act Nat := do
  let s ← get
  match arguments with
  | [] =>
    match s.callers with
    | [] =>
      Act.print "0 NULL\n"
      return 0
    | (_, line) :: _ =>
      Act.print s!"{line} {s.file.getD s.name}\n"
      return 0
  | text :: _ =>
    let depth := (number? text.toList).getD 0
    match s.callers[depth]? with
    | none => return 1
    | some (_, line) =>
      let name := ((s.callers[depth + 1]?).map Prod.fst).getD "main"
      Act.print s!"{line} {name} {s.file.getD s.name}\n"
      return 0

def notFound (name : String) : Act Unit := Act.report s!"{name}: not found"

def builtins : List (String × (List String → Act Nat)) :=
  [("echo", echo), ("printf", printf), ("test", test), ("[", bracket), ("declare", declareVariables),
    ("typeset", declareVariables), ("local", localVariables), ("export", exportVariables), ("readonly", fixVariables),
    ("unset", unset),
    ("set", optionSetting.setShell (listVariables (fun v => v.value.isSome || v.array.isSome) settingLine)),
    ("shopt", shopt), ("shift", shift), ("break", leaveLoops .loops), ("continue", leaveLoops .rounds),
    ("return", leaveFunction), ("exit", exit), ("cd", cd),
    ("pwd", fun arguments => do Builtin.pwd (← options "LP" arguments).1), ("pushd", pushDirectory),
    ("popd", popDirectory), ("dirs", showDirectories), ("read", read), ("mapfile", readLines), ("readarray", readLines),
    ("getopts", Builtin.getopts misuse),
    ("alias", fun arguments => do
      let (_, names) ← options "p" arguments
      Builtin.defineAliases (fun name value => s!"alias {name}={quotedWord value}\n") notFound names),
    ("unalias", fun arguments => do
      let (given, names) ← options "a" arguments
      if given.isEmpty && names.isEmpty then misuse
      Builtin.dropAliases notFound (!given.isEmpty) names),
    ("trap", trap), ("kill", kill), ("wait", wait), ("let", letFormulas), ("umask", umask), ("ulimit", ulimit),
    ("caller", caller),
    ("times", fun _ => do
      Act.print "0m0.000s 0m0.000s\n0m0.000s 0m0.000s\n"
      return 0),
    ("bg", fun _ => Act.refuse 1 "no job control"), ("fg", fun _ => Act.refuse 1 "no job control"), ("jobs", jobs),
    ("disown", disown), ("suspend", fun _ => Act.refuse 1 "cannot suspend: no job control"),
    ("logout", fun _ => Act.refuse 1 ("not login shell: use " ++ ticked "exit")), ("false", fun _ => return 1)]

end Extended

def extendedBuiltins : List String :=
  [".", ":", "[", "alias", "bg", "bind", "break", "builtin", "caller", "cd", "command", "compgen", "complete", "compopt",
    "continue", "declare", "dirs", "disown", "echo", "enable", "eval", "exec", "exit", "export", "false", "fc", "fg",
    "getopts", "hash", "help", "history", "jobs", "kill", "let", "local", "logout", "mapfile", "popd", "printf", "pushd",
    "pwd", "read", "readarray", "readonly", "return", "set", "shift", "shopt", "source", "suspend", "test", "times", "trap",
    "true", "type", "typeset", "ulimit", "umask", "unalias", "unset", "wait"]

def runExtendedBuiltin (name : String) : List String → Act Nat :=
  (Extended.builtins.lookup name).getD fun _ => return 0

end BenchKernel.Script
