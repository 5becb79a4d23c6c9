import BenchKernel.Text.Blank

/-! # Text for a terminal

Messages set off some of their parts by control sequences. A stream that is no terminal gets the text without
them: `plain` drops control sequences and control characters other than white space, whether they come from a
style or from a text that is quoted in the message. -/

namespace BenchKernel.Text.Terminal

inductive Style
  | error
  | literal
  | valid
  | invalid
  deriving DecidableEq, Repr

def Style.start : Style → String
  | error => "\x1b[1m\x1b[31m"
  | literal => "\x1b[1m"
  | valid => "\x1b[32m"
  | invalid => "\x1b[33m"

def reset : String := "\x1b[0m"

def styled (style : Style) (text : String) : String := style.start ++ text ++ reset

/-- What the next character of a text belongs to. -/
inductive Mode
  | text
  | escape
  /-- An escape sequence with characters before its last one. -/
  | escapeTail
  /-- A control sequence, which a character from `@` to `~` ends. -/
  | control
  /-- The start of a string for a device, before anything that says which string it is. -/
  | device
  | deviceParameter
  /-- What stands between the parameters of a string for a device and the string. -/
  | deviceTail
  /-- A string for a device or for the terminal, which the code 9C or an escape ends. -/
  | payload
  /-- A string for the operating system, which the bell or an escape ends. -/
  | command
  deriving DecidableEq, Repr

/-- White space of the first 128 characters, which counts as text also inside a sequence. -/
def isSpace (c : Char) : Bool := c == ' ' || c == '\t' || c == '\n' || c == '\x0c' || c == '\r'

/-- The mode after a character that starts a sequence after the escape character. -/
def Mode.afterEscape (c : Char) : Mode :=
  if c = '[' then .control
  else if c = ']' then .command
  else if c = 'P' then .device
  else if c ∈ ['X', '^', '_'] then .payload
  else if c < '0' then .escapeTail
  else .text

def Mode.next (mode : Mode) (c : Char) : Mode :=
  if c = '\x18' ∨ c = '\x1a' then .text
  else if c = '\x1b' then .escape
  else if c < ' ' ∨ c = '\x7f' then (if mode = .command ∧ c = '\x07' then .text else mode)
  else
    match mode with
    | .text => .text
    | .escape => .afterEscape c
    | .escapeTail => if c < '0' then .escapeTail else .text
    | .control => if c < '@' then .control else .text
    | .device => if c < '0' then .deviceTail else if c < '@' then .deviceParameter else .payload
    | .deviceParameter => if c < '0' then .deviceTail else if c < '<' then .deviceParameter else .payload
    | .deviceTail => if c < '0' then .deviceTail else .payload
    | .payload => .payload
    | .command => .command

def Mode.shows (mode : Mode) (c : Char) : Bool :=
  match mode with
  | .text => isSpace c || (' ' < c && c < '\x7f')
  | .escape | .escapeTail | .control => isSpace c && c != ' '
  | .device | .deviceParameter | .deviceTail | .payload | .command => false

def endsPayload (c : Char) : Bool := (String.singleton c).toUTF8.toList.contains 0x9c

/-- The state of dropping sequences. While text is shown, a sequence that white space has interrupted stays
    remembered in `mode`, and a control character takes it up again. -/
structure Filter where
  showing : Bool := false
  mode : Mode := .text

/-- Whether a character is shown, and the state after it. -/
def Filter.step (f : Filter) (c : Char) : Bool × Filter :=
  if c.toNat < 128 then
    if (if f.showing then Mode.text else f.mode).shows c then (true, ⟨true, f.mode⟩)
    else (false, ⟨false, f.mode.next c⟩)
  else if f.showing || f.mode = .text then (true, ⟨true, .text⟩)
  else if f.mode = .payload && endsPayload c then (false, ⟨false, .text⟩)
  else (false, f)

def shown : Filter → List Char → List Char
  | _, [] => []
  | f, c :: cs =>
    let (keep, f) := f.step c
    if keep then c :: shown f cs else shown f cs

/-- A text without control sequences and control characters. -/
def plain (text : String) : String := String.ofList (shown {} text.toList)

end BenchKernel.Text.Terminal
