import HarnessRepair.Text.Numeral

/-!
# Signals

Signals have numbers and names, and most of them end a process that does nothing about
them.

## Main definitions

* `signalName` — the name of a signal.
* `signalNumber?` — the signal that a text names or numbers.
* `endsProcess`, `stopsProcess` — what a signal does to a process.
* `deathText` — what is told of a process that a signal has ended.
-/

namespace HarnessRepair.Shell

/-- One more than the largest number of a signal. -/
def signalLimit : Nat := 65

/-- The names of the signals with small numbers; zero stands for the end of a shell. -/
def smallSignals : List String :=
  ["EXIT", "HUP", "INT", "QUIT", "ILL", "TRAP", "ABRT", "BUS", "FPE", "KILL", "USR1", "SEGV",
    "USR2", "PIPE", "ALRM", "TERM", "16", "CHLD", "CONT", "STOP", "TSTP", "TTIN", "TTOU", "URG",
    "XCPU", "XFSZ", "VTALRM", "PROF", "WINCH", "IO", "PWR", "SYS", "32", "33", "RTMIN"]

/-- The name of a signal. -/
def signalName (n : Nat) : String :=
  match smallSignals[n]? with
  | some name => name
  | none =>
    if n < 50 then "RTMIN+" ++ toString (n - 34)
    else if n < 64 then "RTMAX-" ++ toString (64 - n)
    else "RTMAX"

/-- The signal that a text names or numbers, from `least` on. -/
def signalNumber? (least : Nat) (s : String) : Option Nat :=
  match Text.natOfDigits? s.toList with
  | some n => if n < signalLimit then some n else none
  | none =>
    let upper := s.toUpper
    ((List.range signalLimit).drop least).find? fun n => signalName n == upper

/-- Whether a signal stops a process for good. -/
def stopsProcess (n : Nat) : Bool := 19 ≤ n && n ≤ 22

/-- Whether a signal ends a process that does nothing about it. -/
def endsProcess (n : Nat) : Bool :=
  n != 0 && !stopsProcess n && !([17, 18, 23, 28].contains n)

/-- Whether nothing can be done about a signal. -/
def isFinal (n : Nat) : Bool := n == 9 || n == 19

/-- What is told of processes that signals with small numbers have ended. -/
def deathTexts : List String :=
  ["", "Hangup", "", "Quit", "Illegal instruction", "Trace/breakpoint trap", "Aborted",
    "Bus error", "Floating point exception", "Killed", "User defined signal 1",
    "Segmentation fault", "User defined signal 2", "", "Alarm clock", "Terminated", "Stack fault",
    "", "", "", "", "", "", "", "CPU time limit exceeded", "File size limit exceeded",
    "Virtual timer expired", "Profiling timer expired", "", "I/O possible", "Power failure",
    "Bad system call", "Unknown signal 32", "Unknown signal 33"]

/-- What is told of a process that a signal has ended; nothing is told of some. -/
def deathText (n : Nat) : String :=
  match deathTexts[n]? with
  | some text => text
  | none => "Real-time signal " ++ toString (n - 34)

end HarnessRepair.Shell
