import BenchKernel.Host.Flow

/-! # Starting programs

What a program gets when it is started. A program that starts others is given the means for that, so that what it
does can be said without saying how programs are run. -/

namespace BenchKernel

/-- A program that is to be started. Texts have one character for each byte. -/
structure Launch where
  path : String
  name : String
  arguments : List String
  environment : List (String × String)
  cwd : Place
  numbers : Numbers
  mask : Nat := 18

def Launch.held (l : Launch) : List Nat := l.numbers.map Prod.snd

/-- The means to start programs. -/
abbrev Starter := Launch → Machine → Except OsError Program

/-- A program that has been started, with what it needs to start others. -/
structure Call extends Launch where
  process : Nat
  start : Starter

end BenchKernel
