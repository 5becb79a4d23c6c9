import BenchKernel.Host.Utility.Digest
import BenchKernel.Host.Utility.Letters

/-! # Programs that look at bytes

The bytes of files in digits and letters, checksums, and the first byte in which two files differ. -/

namespace BenchKernel

namespace Utility

/-! ### Bytes in digits -/

namespace Dump

/-- How bytes are shown: the letter of the kind, how many bytes belong together, and whether the characters stand
    behind. -/
structure Kind where
  letter : Char
  size : Nat
  trailed : Bool := false
  deriving DecidableEq, Repr

def charNames : Array String :=
  #["nul", "soh", "stx", "etx", "eot", "enq", "ack", "bel", "bs", "ht", "nl", "vt", "ff", "cr", "so", "si", "dle", "dc1",
    "dc2", "dc3", "dc4", "nak", "syn", "etb", "can", "em", "sub", "esc", "fs", "gs", "rs", "us", "sp"]

def digitCount (base size : Nat) : Nat := (Nat.toDigits base (Number.twoPow (8 * size) - 1)).length

def Kind.width (k : Kind) : Nat :=
  match k.letter with
  | 'a' | 'c' => 3
  | 'd' => (Nat.toDigits 10 (Number.twoPow (8 * k.size - 1))).length + 1
  | 'u' => digitCount 10 k.size
  | 'x' => digitCount 16 k.size
  | _ => digitCount 8 k.size

def charText (n : Nat) : String :=
  match [(0, "\\0"), (7, "\\a"), (8, "\\b"), (12, "\\f"), (10, "\\n"), (13, "\\r"), (9, "\\t"), (11, "\\v")].lookup n with
  | some text => text
  | none => if 32 ≤ n && n < 127 then String.singleton (Char.ofNat n) else Number.padded 8 3 n

def Kind.text (k : Kind) (n : Nat) : String :=
  match k.letter with
  | 'a' =>
    let c := n % 128
    if c = 127 then "del" else (charNames[c]?).getD (String.singleton (Char.ofNat c))
  | 'c' => charText n
  | 'd' =>
    let half := Number.twoPow (8 * k.size - 1)
    if half ≤ n then s!"-{2 * half - n}" else toString n
  | 'u' => toString n
  | 'x' => Number.padded 16 (digitCount 16 k.size) n
  | _ => Number.padded 8 (digitCount 8 k.size) n

/-- Numbers in columns, with padding spread over all of them. -/
def spread (width pad count : Nat) : (left : Nat) → (pad : Nat) → List String → String
  | _, _, [] => ""
  | left, remaining, text :: rest =>
    let next := if count = 0 then 0 else pad * (left - 1) / count
    padLeft (width + 1 + (remaining - next)) text ++ spread width pad count (left - 1) next rest

def Kind.row (k : Kind) (rowSize blockWidth : Nat) (bytes : List Nat) : String :=
  let count := rowSize / k.size
  let pad := blockWidth - (k.width + 1) * count
  let words := (chunks k.size (bytes.length + 1) bytes).map fun part => Digest.ofHighBytes part.reverse
  let text := spread k.width pad count count pad (words.map k.text)
  if k.trailed then
    let shownChar (n : Nat) : Char := if 32 ≤ n && n < 127 then Char.ofNat n else '.'
    s!"{padRight blockWidth text}  >{String.ofList (bytes.map shownChar)}<"
  else text

def sizeLetters : List (Char × Nat) := [('C', 1), ('S', 2), ('I', 4), ('L', 8)]

/-- Reads kinds of digits and their sizes. -/
def readKinds (whole : String) : (fuel : Nat) → List Char → Except String (List Kind)
  | 0, _ => .ok []
  | _ + 1, [] => .ok []
  | fuel + 1, c :: rest =>
    let finish (size : Nat) (rest : List Char) : Except String (List Kind) := do
      let trailed := rest.head? = some 'z'
      return ⟨c, size, trailed⟩ :: (← readKinds whole fuel (if trailed then rest.drop 1 else rest))
    if c = 'a' || c = 'c' then finish 1 rest
    else if ['d', 'o', 'u', 'x'].contains c then
      match rest with
      | letter :: after =>
        match sizeLetters.lookup letter with
        | some size => finish size after
        | none =>
          let number := rest.takeWhile Char.isDigit
          match Script.number? number with
          | none => finish 4 rest
          | some size =>
            if [1, 2, 4, 8].contains size then finish size (rest.drop number.length)
            else
              .error (s!"invalid type string {shown whole};\nthis system doesn't provide a {size}" ++
                "-byte integral type")
      | [] => finish 4 []
    else .error s!"invalid character {shown (String.singleton c)} in type string {shown whole}"

def shortKinds : List (Char × Kind) :=
  [('a', ⟨'a', 1, false⟩), ('b', ⟨'o', 1, false⟩), ('c', ⟨'c', 1, false⟩), ('d', ⟨'u', 2, false⟩), ('i', ⟨'d', 4, false⟩),
    ('l', ⟨'d', 8, false⟩), ('o', ⟨'o', 2, false⟩), ('s', ⟨'d', 2, false⟩), ('x', ⟨'x', 2, false⟩)]

def address (radix : Char) (n : Nat) : String :=
  match radix with
  | 'd' => Number.padded 10 7 n
  | 'x' => Number.padded 16 6 n
  | 'n' => ""
  | _ => Number.padded 8 7 n

/-- How a file is shown in digits. -/
structure Style where
  kinds : List Kind
  radix : Char
  rowSize : Nat
  all : Bool

/-- Where the dump stands, and the row before. -/
structure State where
  start : Nat
  before : Option (List Nat) := none
  starred : Bool := false
  rest : List Nat := []
  skipped : Nat := 0
  left : Option Nat := none

variable (d : Style)

/-- A row. A star stands for rows that are like the one before. -/
def Style.row (s : State) (bytes : List Nat) : List String × State :=
  let next := { s with start := s.start + bytes.length, before := some bytes, starred := false }
  if !d.all && bytes.length = d.rowSize && s.before = some bytes then
    (if s.starred then [] else ["*"], { next with starred := true })
  else
    let blockWidth := (d.kinds.map fun k => (k.width + 1) * (d.rowSize / k.size)).foldl max 0
    let label := address d.radix s.start
    let lines := d.kinds.zipIdx.map fun (k, i) =>
      (if i = 0 then label else "".pushn ' ' label.length) ++ k.row d.rowSize blockWidth bytes
    (lines, next)

def Style.bytes (s : State) (bytes : List Nat) : List String × State :=
  let skipped := min s.skipped bytes.length
  let shown := bytes.drop skipped
  let shown := (s.left.map fun n => shown.take n).getD shown
  let s := { s with skipped := s.skipped - skipped, left := s.left.map fun n => n - shown.length }
  let all := s.rest ++ shown
  let full := all.length / d.rowSize * d.rowSize
  let (texts, s) := TextFilter.each d.row s (chunks d.rowSize (all.length + 1) (all.take full))
  (texts.flatten, { s with rest := all.drop full })

def Style.filter : TextFilter State :=
  { take := fun s text =>
      let (lines, s) := d.bytes s (text.toList.map Char.toNat)
      (joinEnded '\n' lines, s)
    isOver := fun s => s.left = some 0
    most := fun s => s.left.map fun n => n + s.skipped }

/-- The bytes that do not fill a row, and the last address. -/
def Style.last (s : State) : List String :=
  let (lines, s) := if s.rest.isEmpty then ([], s) else d.row s s.rest
  if d.radix = 'n' then lines else lines ++ [address d.radix s.start]

end Dump

def dump : Work Nat :=
  let long := [("address-radix", 'A'), ("skip-bytes", 'j'), ("read-bytes", 'N'), ("format", 't'), ("output-duplicates", 'v'),
    ("width", 'w')]
  withOptionSet { letters := "A:abcdij:lN:ost:vw::x", long } 1 fun given operands => do
    let radix := (given.value? 'A').getD "o"
    let number (letter : Char) (usual : Nat) : Option Nat := ((given.value? letter).map sizeOf?).getD (some usual)
    let kinds : Except String (List (List Dump.Kind)) := given.mapM fun (letter, value) =>
      if letter = 't' then Dump.readKinds value (value.length + 1) value.toList
      else .ok ((Dump.shortKinds.lookup letter).toList)
    match kinds with
    | .error why => complain why
    | .ok found =>
      if !(["d", "o", "x", "n"].contains radix) then
        complain s!"invalid output address radix {shown radix}; it must be one character from [doxn]"
      else
        let kinds := if found.flatten.isEmpty then [⟨'o', 2, false⟩] else found.flatten
        let letter := radix.toList.head?.getD 'o'
        let rowSize := max 1 (((given.value? 'w').map fun text => if text.isEmpty then 32 else (sizeOf? text).getD 16).getD 16)
        let d : Dump.Style := { kinds, radix := letter, rowSize, all := given.has 'v' }
        let skipped := (number 'j' 0).getD 0
        let start : Dump.State := { start := skipped, skipped, left := (given.value? 'N').bind sizeOf? }
        let (statuses, s) ← (inputs operands).foldlM (fun (statuses, s) operand => do
          let (status, s) ← d.filter.overEach complainOf [operand] s ""
          return (status :: statuses, s)) ([], start)
        if 0 < s.skipped then complain "cannot skip past end of combined input"
        else
          if statuses.contains 0 then print (joinEnded '\n' (d.last s))
          return statuses.foldl max 0

/-! ### Bytes in letters -/

namespace Letters64

def alphabet : Array Char := "ABCDEFGHIJKLMNOPQRSTUVWXYZabcdefghijklmnopqrstuvwxyz0123456789+/".toList.toArray

def digit (n : Nat) : Char := (alphabet[n]?).getD 'A'

/-- Four letters for three bytes. -/
def encode : List Nat → List Char
  | a :: b :: c :: rest =>
    digit (a / 4) :: digit (a % 4 * 16 + b / 16) :: digit (b % 16 * 4 + c / 64) :: digit (c % 64) :: encode rest
  | [a, b] => [digit (a / 4), digit (a % 4 * 16 + b / 16), digit (b % 16 * 4), '=']
  | [a] => [digit (a / 4), digit (a % 4 * 16), '=', '=']
  | [] => []

/-- The bytes of letters, and whether the letters were good. -/
def decode : List Char → List Nat × Bool
  | a :: b :: c :: d :: rest =>
    match alphabet.idxOf? a, alphabet.idxOf? b with
    | some w, some x =>
      match alphabet.idxOf? c, alphabet.idxOf? d with
      | some y, some z =>
        let (bytes, isGood) := decode rest
        ([w * 4 + x / 16, x % 16 * 16 + y / 4, y % 4 * 64 + z] ++ bytes, isGood)
      | some y, none => ([w * 4 + x / 16, x % 16 * 16 + y / 4], d == '=' && rest.isEmpty)
      | none, _ => ([w * 4 + x / 16], c == '=' && d == '=' && rest.isEmpty)
    | _, _ => ([], false)
  | [] => ([], true)
  | a :: b :: more =>
    match alphabet.idxOf? a, alphabet.idxOf? b, (more.head?.bind fun c => alphabet.idxOf? c) with
    | some w, some x, some y => ([w * 4 + x / 16, x % 16 * 16 + y / 4], false)
    | some w, some x, none => ([w * 4 + x / 16], false)
    | _, _, _ => ([], false)
  | [_] => ([], false)

def wrapped (width : Nat) (column : Nat) (cs : List Char) : List Char × Nat :=
  if width = 0 then (cs, column)
  else
    let (written, column) := cs.foldl (fun (written, column) c =>
      if column + 1 = width then ('\n' :: c :: written, 0) else (c :: written, column + 1)) ([], column)
    (written.reverse, column)

def filter (width : Nat) : TextFilter (List Nat × Nat) :=
  { take := fun (kept, column) text =>
      let bytes := kept ++ text.toList.map Char.toNat
      let full := bytes.length / 3 * 3
      let (cs, column) := wrapped width column (encode (bytes.take full))
      (String.ofList cs, bytes.drop full, column)
    close := fun (kept, column) =>
      let (cs, column) := wrapped width column (encode kept)
      (String.ofList (if column = 0 || width = 0 then cs else cs ++ ['\n']), [], 0) }

end Letters64

def letters64 : Work Nat :=
  let long := [("decode", 'd'), ("ignore-garbage", 'i'), ("wrap", 'w')]
  withOptionSet { letters := "diw:", long } 1 fun given operands => do
    match operands with
    | _ :: extra :: _ => extraOperand extra
    | _ =>
      let width := (given.value? 'w').getD "76"
      match Script.number? width.toList with
      | none => complain s!"invalid wrap size: {shown width}"
      | some width =>
        if !given.has 'd' then (Letters64.filter width).onOperands ([], 0) operands
        else
          forEachText operands fun _ text => do
            let isLetter (c : Char) : Bool := (Letters64.alphabet.contains c) || c == '='
            let cs := text.toList.filter fun c => c != '\n' && (!given.has 'i' || isLetter c)
            let (bytes, isGood) := Letters64.decode cs
            print (String.ofList (bytes.map Char.ofNat))
            if isGood then return 0 else complain "invalid input"

/-! ### Checksums -/

/-- A kind of digest: its name, how many digits it has, and how it is computed. -/
structure DigestKind where
  name : String
  digits : Nat
  compute : List Nat → String

def digestKinds : List (String × DigestKind) :=
  [("md5", ⟨"MD5", 32, Digest.md5⟩), ("sha1", ⟨"SHA1", 40, Digest.sha1⟩), ("sha224", ⟨"SHA224", 56, Digest.sha224.digest⟩),
    ("sha256", ⟨"SHA256", 64, Digest.sha256.digest⟩), ("sha384", ⟨"SHA384", 96, Digest.sha384.digest⟩),
    ("sha512", ⟨"SHA512", 128, Digest.sha512.digest⟩)]

def bytesOf (text : String) : List Nat := text.toList.map Char.toNat

/-- The digest and the name of a line. -/
def digestLine? (digits : Nat) (line : String) : Option (String × String) :=
  let cs := line.toList
  let digest := cs.takeWhile fun c => (Number.digit? 16 c).isSome
  match cs.drop digest.length with
  | ' ' :: mark :: name =>
    if digest.length = digits && (mark = ' ' || mark = '*') && !name.isEmpty then
      some (String.ofList (digest.map Char.toLower), String.ofList name)
    else none
  | _ => none

/-- Checks that files have the digests that a list gives. -/
def checkDigests (k : DigestKind) (given : Given) (operand : String) : Work Nat := do
  let silent := given.has 'ā'
  let label := if operand = "-" then "'standard input'" else shownFirst operand
  match ← content operand with
  | .error e => complainOf operand e
  | .ok text =>
    let lines := (linesOf '\n' text).filter fun line => line.toList.head? != some '#'
    let entries := lines.filterMap (digestLine? k.digits)
    if entries.isEmpty then complain s!"{label}: no properly formatted checksum lines found"
    else
      let results ← entries.mapM fun (digest, name) => do
        match ← content name with
        | .error e =>
          let _ ← complainOf name e
          if !silent then print s!"{name}: FAILED open or read\n"
          return 2
        | .ok found =>
          let isSame := k.compute (bytesOf found) == digest
          if !silent && !(isSame && given.has 'Ă') then print (name ++ ": " ++ (if isSame then "OK" else "FAILED") ++ "\n")
          return if isSame then 0 else 1
      let warn (count : Nat) (one many : String) : Work Unit := do
        if 0 < count && !silent then
          let _ ← complain (s!"WARNING: {count} " ++ (if count = 1 then one else many))
      warn (lines.length - entries.length) "line is improperly formatted" "lines are improperly formatted"
      warn (results.count 2) "listed file could not be read" "listed files could not be read"
      warn (results.count 1) "computed checksum did NOT match" "computed checksums did NOT match"
      return if results.all (· == 0) then 0 else 1

def digest (kind : String) : Work Nat :=
  let long := [("binary", 'b'), ("check", 'c'), ("text", 't'), ("tag", 'Ā'), ("status", 'ā'), ("quiet", 'Ă'), ("zero", 'z')]
  withOptionSet { letters := "bctzĀāĂw", long } 1 fun given operands => do
    match digestKinds.lookup kind with
    | none => return 1
    | some k =>
      if given.has 'c' then forEach (inputs operands) (checkDigests k given)
      else
        let ending := if given.has 'z' then "\x00" else "\n"
        forEachText operands fun operand text => do
          let digest := k.compute (bytesOf text)
          if given.has 'Ā' then print s!"{k.name} ({operand}) = {digest}{ending}"
          else print (digest ++ (if given.has 'b' then " *" else "  ") ++ operand ++ ending)
          return 0

def cyclicCheck : Work Nat :=
  withOptionSet { letters := "a:", long := [("algorithm", 'a')] } 1 fun given operands => do
    match (given.value? 'a').bind fun name => digestKinds.lookup name with
    | some k =>
      forEachText operands fun operand text => do
        print s!"{k.name} ({operand}) = {k.compute (bytesOf text)}\n"
        return 0
    | none =>
      forEachText operands fun operand text => do
        let name := if operands.isEmpty then "" else " " ++ operand
        print s!"{Digest.cyclicCheck (bytesOf text)} {text.length}{name}\n"
        return 0

def sumBytes : Work Nat :=
  withOptionSet { letters := "rs", long := [("sysv", 's')] } 1 fun given operands =>
    forEachText operands fun operand text => do
      let name := if operands.isEmpty then "" else " " ++ operand
      let blocks (size : Nat) : Nat := (text.length + size - 1) / size
      if given.last? ['r', 's'] = some 's' then
        print s!"{Digest.foldedSum (bytesOf text)} {blocks 512}{name}\n"
      else
        let sum := Number.padded 10 5 (Digest.turningSum (bytesOf text))
        print s!"{sum} {padLeft 5 (toString (blocks 1024))}{name}\n"
      return 0

/-! ### The first difference -/

def differences (a b : List Char) : List (Nat × Char × Char) :=
  ((a.zip b).zipIdx.filter fun entry => entry.1.1 != entry.1.2).map fun entry => (entry.2 + 1, entry.1)

def compareBytes : Work Nat := do
  let o : OptionSet :=
    { letters := "bi:ln:sv", long := [("print-bytes", 'b'), ("ignore-initial", 'i'), ("verbose", 'l'), ("bytes", 'n'),
        ("quiet", 's'), ("silent", 's')] }
  let call ← read
  match o.read call.arguments with
  | .error why => misuseComparing why
  | .ok (given, operands) =>
    match operands with
    | [] => misuseComparing s!"missing operand after {shown call.name}"
    | first :: rest =>
      match rest[3]? with
      | some extra => misuseComparing s!"extra operand {shown extra}"
      | none =>
        let second := rest.head?.getD "-"
        match ← content first, ← content second with
        | .error e, _ => if given.has 's' then return 2 else failWith 2 s!"{first}: {e.description}"
        | _, .error e => if given.has 's' then return 2 else failWith 2 s!"{second}: {e.description}"
        | .ok a, .ok b =>
          let skip (index : Nat) (part : Nat) : Nat :=
            match rest[index]? with
            | some text => (sizeOf? text).getD 0
            | none =>
              match (given.value? 'i').map fun text => Text.splitAt ':' text.toList with
              | some parts => (((parts[part]?).orElse fun _ => parts[0]?).bind fun cs => sizeOf? (String.ofList cs)).getD 0
              | none => 0
          let limit (cs : List Char) : List Char := (((given.value? 'n').bind sizeOf?).map fun n => cs.take n).getD cs
          let a := limit (a.toList.drop (skip 1 0))
          let b := limit (b.toList.drop (skip 2 1))
          let found := differences a b
          let endOf : Option (String × List Char) :=
            if a.length < b.length then some (first, a) else if b.length < a.length then some (second, b) else none
          if given.has 's' then return if found.isEmpty && endOf.isNone then 0 else 1
          else
            let octal (c : Char) : String := padLeft 3 (Number.padded 8 1 c.toNat)
            let shownByte (c : Char) : String := octal c ++ " " ++ ({ unprinted := true : Display }).shownChar c
            let atEnd : Work Nat := do
              match endOf with
              | none => return if found.isEmpty then 0 else 1
              | some (name, cs) =>
                if cs.isEmpty then complain s!"EOF on {name} which is empty"
                else
                  let lines := cs.count '\n'
                  let line := if cs.getLast? = some '\n' then s!"line {lines}" else s!"in line {lines + 1}"
                  let place := if given.has 'l' then "" else ", " ++ line
                  complain s!"EOF on {name} after byte {cs.length}{place}"
            if given.has 'l' then
              let width := (toString (min a.length b.length)).length
              found.forM fun (position, x, y) =>
                print (padLeft width (toString position) ++ " " ++
                  (if given.has 'b' then padRight 9 (shownByte x) ++ shownByte y else octal x ++ " " ++ octal y) ++ "\n")
              atEnd
            else
              match found with
              | [] => atEnd
              | (position, x, y) :: _ =>
                let line := (a.take (position - 1)).count '\n' + 1
                let bytes := if given.has 'b' then s!" is {shownByte x} {shownByte y}" else ""
                print (s!"{first} {second} differ: " ++ (if given.has 'b' then "byte " else "char ") ++
                  toString position ++ ", line " ++ toString line ++ bytes ++ "\n")
                return 1

end Utility

end BenchKernel
