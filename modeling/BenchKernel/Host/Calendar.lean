import BenchKernel.Text.Pieces

/-! # Dates and times

Seconds since the start of 1970 as dates and times of day, without zones, and the texts that formats make of them. -/

namespace BenchKernel

/-- A date with a time of day. -/
structure Moment where
  year : Int
  month : Nat
  day : Nat
  hour : Nat := 0
  minute : Nat := 0
  second : Nat := 0
  deriving DecidableEq, Repr

namespace Moment

def secondsOfDay : Nat := 86400

/-- The days from the start of 1970 to a date. Years are counted from March on, in eras of 400 years. -/
def daysOf (year : Int) (month day : Nat) : Int :=
  let y := if month ≤ 2 then year - 1 else year
  let era := y / 400
  let ofEra := (y % 400).toNat
  let ofYear := (153 * ((month + 9) % 12) + 2) / 5 + day - 1
  era * 146097 + ((ofEra * 365 + ofEra / 4 - ofEra / 100 + ofYear : Nat) : Int) - 719468

/-- The date some days from the start of 1970. -/
def ofDays (days : Int) : Int × Nat × Nat :=
  let z := days + 719468
  let era := z / 146097
  let ofEra := (z % 146097).toNat
  let years := (ofEra - ofEra / 1460 + ofEra / 36524 - ofEra / 146096) / 365
  let ofYear := ofEra - (365 * years + years / 4 - years / 100)
  let part := (5 * ofYear + 2) / 153
  let month := if part < 10 then part + 3 else part - 9
  (era * 400 + years + (if month ≤ 2 then 1 else 0), month, ofYear - (153 * part + 2) / 5 + 1)

def ofSeconds (seconds : Int) : Moment :=
  let (year, month, day) := ofDays (seconds / secondsOfDay)
  let rest := (seconds % secondsOfDay).toNat
  ⟨year, month, day, rest / 3600, rest / 60 % 60, rest % 60⟩

variable (m : Moment)

def days : Int := daysOf m.year m.month m.day

def toSeconds : Int := m.days * secondsOfDay + ((m.hour * 3600 + m.minute * 60 + m.second : Nat) : Int)

/-- The day of the week, counted from Sunday. -/
def weekday : Nat := ((m.days + 4) % 7).toNat

def dayOfYear : Nat := (m.days - daysOf m.year 1 1).toNat

def monthNames : List String :=
  ["January", "February", "March", "April", "May", "June", "July", "August", "September", "October", "November", "December"]

def dayNames : List String := ["Sunday", "Monday", "Tuesday", "Wednesday", "Thursday", "Friday", "Saturday"]

def monthName : String := (monthNames[m.month - 1]?).getD ""

def dayName : String := (dayNames[m.weekday]?).getD ""

def short (name : String) : String := String.ofList (name.toList.take 3)

/-- The week of the year, which is the year of its Thursday. -/
def week : Int × Nat :=
  let weekday := (m.weekday + 6) % 7
  let thursday := m.days - weekday + 3
  let (year, _, _) := ofDays thursday
  (year, ((thursday - daysOf year 1 1) / 7).toNat + 1)

/-- The number of a week when weeks begin with the given day. -/
def weekFrom (first : Nat) : Nat := (m.dayOfYear + 7 - (m.weekday + 7 - first) % 7) / 7

/-! ### Texts -/

def filled (fill : Char) (width : Nat) (n : Int) : String :=
  let text := toString n.natAbs
  (if n < 0 then "-" else "") ++ "".pushn fill (width - text.length) ++ text

/-- A number with its usual filling, or with the one that a flag asks for. -/
def padded (flag : Option Char) (usual : Char) (width : Nat) (n : Int) : String :=
  match flag with
  | some '-' => toString n
  | some '_' => filled ' ' width n
  | some '0' => filled '0' width n
  | _ => filled usual width n

def clockHour : Nat := if m.hour % 12 = 0 then 12 else m.hour % 12

def timeText : String :=
  filled '0' 2 m.hour ++ ":" ++ filled '0' 2 m.minute ++ ":" ++ filled '0' 2 m.second

def dateText : String :=
  filled '0' 4 m.year ++ "-" ++ filled '0' 2 m.month ++ "-" ++ filled '0' 2 m.day

def halfDay : String := if m.hour < 12 then "AM" else "PM"

/-- What a letter stands for after a percent sign. -/
def letterText? (flag : Option Char) (letter : Char) : Option String :=
  let number := padded flag
  let clock := filled '0' 2 m.clockHour ++ ":" ++ filled '0' 2 m.minute ++ ":" ++ filled '0' 2 m.second
  let american := filled '0' 2 m.month ++ "/" ++ filled '0' 2 m.day ++ "/" ++ filled '0' 2 (m.year % 100)
  match letter with
  | 'a' => some (short m.dayName)
  | 'A' => some m.dayName
  | 'b' | 'h' => some (short m.monthName)
  | 'B' => some m.monthName
  | 'c' =>
    some (s!"{short m.dayName} {short m.monthName} " ++ filled ' ' 2 m.day ++ s!" {m.timeText} {m.year}")
  | 'C' => some (number '0' 2 (m.year / 100))
  | 'd' => some (number '0' 2 m.day)
  | 'D' | 'x' => some american
  | 'e' => some (number ' ' 2 m.day)
  | 'F' => some m.dateText
  | 'g' => some (number '0' 2 (m.week.1 % 100))
  | 'G' => some (number '0' 4 m.week.1)
  | 'H' => some (number '0' 2 m.hour)
  | 'I' => some (number '0' 2 m.clockHour)
  | 'j' => some (number '0' 3 (m.dayOfYear + 1))
  | 'k' => some (number ' ' 2 m.hour)
  | 'l' => some (number ' ' 2 m.clockHour)
  | 'm' => some (number '0' 2 m.month)
  | 'M' => some (number '0' 2 m.minute)
  | 'n' => some "\n"
  | 'N' => some "000000000"
  | 'p' => some m.halfDay
  | 'P' => some (m.halfDay.map Char.toLower)
  | 'q' => some (toString ((m.month - 1) / 3 + 1))
  | 'r' => some s!"{clock} {m.halfDay}"
  | 'R' => some (filled '0' 2 m.hour ++ ":" ++ filled '0' 2 m.minute)
  | 's' => some (toString m.toSeconds)
  | 'S' => some (number '0' 2 m.second)
  | 't' => some "\t"
  | 'T' | 'X' => some m.timeText
  | 'u' => some (toString (if m.weekday = 0 then 7 else m.weekday))
  | 'U' => some (number '0' 2 (m.weekFrom 0))
  | 'V' => some (number '0' 2 m.week.2)
  | 'w' => some (toString m.weekday)
  | 'W' => some (number '0' 2 (m.weekFrom 1))
  | 'y' => some (number '0' 2 (m.year % 100))
  | 'Y' => some (number '0' 4 m.year)
  | 'z' => some "+0000"
  | 'Z' => some "UTC"
  | '%' => some "%"
  | _ => none

/-- The text of a format, where letters after percent signs stand for parts of the moment. -/
def formatted : (format : List Char) → List Char
  | '%' :: ':' :: 'z' :: rest => "+00:00".toList ++ formatted rest
  | '%' :: flag :: letter :: rest =>
    if ['-', '_', '0', '^', '#'].contains flag then
      match m.letterText? (some flag) letter with
      | some text => (if flag = '^' then (text.map Char.toUpper).toList else text.toList) ++ formatted rest
      | none => '%' :: flag :: letter :: formatted rest
    else
      match m.letterText? none flag with
      | some text => text.toList ++ formatted (letter :: rest)
      | none => '%' :: flag :: formatted (letter :: rest)
  | ['%', letter] => ((m.letterText? none letter).map String.toList).getD ['%', letter]
  | c :: rest => c :: formatted rest
  | [] => []

/-! ### Reading -/

def digits? (least most : Nat) (cs : List Char) : Option Nat :=
  if least ≤ cs.length && cs.length ≤ most && cs.all Char.isDigit then (String.ofList cs).toNat? else none

def daysInMonth (year : Int) (month : Nat) : Nat :=
  if month = 12 then 31 else (daysOf year (month + 1) 1 - daysOf year month 1).toNat

/-- The moment with these parts, if there is one. -/
def make? (year : Int) (month day hour minute second : Nat) : Option Moment :=
  if 1 ≤ month && month ≤ 12 && 1 ≤ day && day ≤ daysInMonth year month && hour < 24 && minute < 60 && second < 61 then
    some ⟨year, month, day, hour, minute, second⟩
  else none

def readDate? (cs : List Char) : Option (Int × Nat × Nat) := do
  match Text.splitAt '-' cs with
  | [year, month, day] => return ((← digits? 4 4 year : Nat), ← digits? 1 2 month, ← digits? 1 2 day)
  | _ => none

def readTime? (cs : List Char) : Option (Nat × Nat × Nat) := do
  match Text.splitAt ':' cs with
  | [hour, minute] => return (← digits? 1 2 hour, ← digits? 2 2 minute, 0)
  | [hour, minute, second] => return (← digits? 1 2 hour, ← digits? 2 2 minute, ← digits? 2 2 (second.takeWhile (· != '.')))
  | _ => none

/-- The seconds that a text names: seconds after an `@`, a date, or a date with a time of day. -/
def read? (present : Int) (text : String) : Option Int :=
  let words := (Text.runs (fun c => c != ' ' && c != 'T') text.toList)
  let words := words.filter fun word => word != ['Z'] && word != "UTC".toList && word != "GMT".toList
  let unzoned (cs : List Char) : List Char := if cs.getLast? = some 'Z' then cs.dropLast else cs
  match text.toList with
  | '@' :: rest =>
    match rest with
    | '-' :: digits => (String.ofList digits).toNat?.map fun n => -(n : Int)
    | _ => (String.ofList (rest.takeWhile (· != '.'))).toNat?.map Int.ofNat
  | _ =>
    match words with
    | [] => some (present - present % secondsOfDay)
    | [word] =>
      if word = "now".toList then some present
      else if word = "yesterday".toList then some (present - secondsOfDay)
      else if word = "tomorrow".toList then some (present + secondsOfDay)
      else
        (readDate? word).bind fun (year, month, day) => (make? year month day 0 0 0).map toSeconds
    | [date, time] => do
      let (year, month, day) ← readDate? date
      let (hour, minute, second) ← readTime? (unzoned time)
      (make? year month day hour minute second).map toSeconds
    | _ => none

/-- The seconds that eight digits name, from the month to the minute, or more with a year before them. -/
def readStamp? (present : Int) (text : String) : Option Int := do
  let (digits, second) :=
    match Text.cutAt? '.' text.toList with
    | some (digits, second) => (digits, digits? 2 2 second)
    | none => (text.toList, some 0)
  let second ← second
  if !digits.all Char.isDigit then none
  else
    let number (start : Nat) : Nat := ((digits? 2 2 ((digits.drop start).take 2)).getD 0)
    let make (year : Int) (start : Nat) : Option Int :=
      (make? year (number start) (number (start + 2)) (number (start + 4)) (number (start + 6)) second).map toSeconds
    match digits.length with
    | 8 => make (ofSeconds present).year 0
    | 10 => make ((if number 0 < 69 then 2000 else 1900) + number 0) 2
    | 12 => make (number 0 * 100 + number 2) 4
    | _ => none

end Moment

end BenchKernel
