/-!
# Signals

The signals that a script can send, by name and by number. Most of them stop a
program that does nothing about them; the rest leave it alone.

## Main definitions

* `Signal.ofText?`: The number of a signal.
* `Signal.stops`: Whether a signal stops a program.
-/

namespace EnvProfiles.Shell.Signal

/-- The names of the signals, from the one with number one. -/
def names : List String :=
  ["HUP", "INT", "QUIT", "ILL", "TRAP", "ABRT", "BUS", "FPE", "KILL", "USR1", "SEGV", "USR2",
    "PIPE", "ALRM", "TERM", "STKFLT", "CHLD", "CONT", "STOP", "TSTP", "TTIN", "TTOU", "URG",
    "XCPU", "XFSZ", "VTALRM", "PROF", "WINCH", "IO", "PWR", "SYS"]

/-- The signal that is sent if none is named. -/
def standard : Nat := 15

/-- The greatest number of a signal. -/
def last : Nat := 64

/-- The number of a signal that is given by its name or its number. -/
def ofText? (text : String) : Option Nat :=
  if !text.isEmpty && text.all Char.isDigit then text.toNat?.filter (· ≤ last)
  else
    let name := text.map Char.toUpper
    if names.contains name then some (names.idxOf name + 1) else none

/-- The words for what has stopped a program. -/
def description? (signal : Nat) : Option String :=
  [(1, "Hangup"), (2, "Interrupt"), (3, "Quit"), (4, "Illegal instruction"),
    (5, "Trace/breakpoint trap"), (6, "Aborted"), (7, "Bus error"), (8, "Floating point exception"),
    (9, "Killed"), (10, "User defined signal 1"), (11, "Segmentation fault"),
    (12, "User defined signal 2"), (13, "Broken pipe"), (14, "Alarm clock"), (15, "Terminated"),
    (16, "Stack fault"), (24, "CPU time limit exceeded"), (25, "File size limit exceeded"),
    (26, "Virtual timer expired"), (27, "Profiling timer expired"), (29, "I/O possible"),
    (30, "Power failure"), (31, "Bad system call")].lookup signal

/-- What is said about a program that was stopped: nothing, if that was to be expected. -/
def notice? (signal : Nat) : Option String :=
  if signal == 2 || signal == 13 then none else description? signal

/-- The signals that stop no program for good. -/
def harmless : List Nat := [0, 17, 18, 19, 20, 21, 22, 23, 28]

/-- Whether a signal stops a program that does nothing about it. -/
def stops (signal : Nat) : Bool := !harmless.contains signal

end EnvProfiles.Shell.Signal
