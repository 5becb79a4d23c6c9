import BenchKernel.Host.Awk.Run
import BenchKernel.Host.Utility.Difference
import BenchKernel.Host.Utility.Directories
import BenchKernel.Host.Utility.Editing
import BenchKernel.Host.Utility.Files
import BenchKernel.Host.Utility.Finding
import BenchKernel.Host.Utility.Joining
import BenchKernel.Host.Utility.Matching
import BenchKernel.Host.Utility.Paragraphs

/-! # The programs of the host

The programs that come with the host, by their names. -/

namespace BenchKernel

namespace Utility

def test : Work Nat := do
  let call ← read
  let isBracket := (Path.names call.name).getLast? = some "["
  if isBracket && call.arguments.getLast? != some "]" then failWith 2 "missing ']'"
  else
    let arguments := if isBracket then call.arguments.dropLast else call.arguments
    let facts := Script.Builtin.fileFacts true (← get) call.numbers call.cwd
    match Script.Condition.evaluate facts (arguments.length + 1) arguments with
    | .ok holds => return if holds then 0 else 1
    | .error why => failWith 2 why

def plainPrograms : List (String × Work Nat) :=
  [("[", test), ("arch", constantLine "x86_64"), ("awk", Awk.work), ("base64", letters64), ("basename", baseName),
    ("cat", concatenate), ("chmod", changeMode), ("chgrp", return 0), ("chown", return 0), ("cksum", cyclicCheck),
    ("cmp", compareBytes), ("comm", common), ("cp", copy), ("cut", cut), ("date", date), ("dd", copyBlocks),
    ("diff", Difference.compare), ("dir", listFrom { arrangement := .down, quoting := .escape }),
    ("dirname", directoryName), ("du", diskUse), ("echo", echo), ("egrep", matchingLines (some 'E')),
    ("expand", expandTabs), ("expr", expression), ("factor", factor), ("false", return 1), ("find", Finder.search),
    ("fgrep", matchingLines (some 'F')), ("fmt", fillParagraphs), ("fold", fold), ("grep", matchingLines none),
    ("groups", groups), ("head", head), ("hostname", constantLine "localhost"), ("id", identity), ("install", install),
    ("join", join), ("link", linkOne), ("ln", link), ("logname", loginName), ("ls", list), ("mawk", Awk.work),
    ("md5sum", digest "md5"), ("mkdir", makeDirectory), ("mkfifo", makeFifo), ("mknod", makeNode),
    ("mktemp", makeTemporary), ("mv", move), ("nl", numberLines), ("nproc", constantLine "1"), ("numfmt", scale),
    ("od", dump), ("paste", paste), ("printenv", printEnvironment), ("printf", printf), ("pwd", workingDirectory),
    ("readlink", readLinks), ("realpath", realPaths), ("rev", reverseChars), ("rm", remove), ("rmdir", removeDirectory),
    ("sed", Editor.edit), ("seq", sequence), ("sha1sum", digest "sha1"), ("sha224sum", digest "sha224"),
    ("sha256sum", digest "sha256"), ("sha384sum", digest "sha384"), ("sha512sum", digest "sha512"), ("sleep", sleep),
    ("sort", sort), ("split", splitFile), ("stat", fileState), ("sum", sumBytes), ("sync", return 0),
    ("tac", reverseLines), ("tail", tail), ("tee", tee), ("test", test), ("touch", touch), ("tr", replaceChars),
    ("true", return 0), ("truncate", truncate), ("tsort", orderPairs), ("tty", terminalName), ("uname", systemName),
    ("unexpand", unexpandTabs), ("uniq", unique), ("unlink", unlink),
    ("vdir", listFrom { arrangement := .long, quoting := .escape }), ("wc", countAll), ("which", which),
    ("whoami", constantLine "root"), ("xargs", startForWords), ("yes", yes)]

def handovers : List (String × Handover) :=
  [("env", environment), ("nice", withPriority), ("nohup", startAfter "" [] 0 125), ("setsid", startAfter "cfw" [] 0 1),
    ("stdbuf", startAfter "i:o:e:" [("input", 'i'), ("output", 'o'), ("error", 'e')] 0 125), ("timeout", withTimeLimit)]

def program? (name : String) : Option Handover :=
  match handovers.lookup name with
  | some work => some work
  | none => (plainPrograms.lookup name).map ending

def programNames : List String := plainPrograms.map Prod.fst ++ handovers.map Prod.fst

end Utility

end BenchKernel
