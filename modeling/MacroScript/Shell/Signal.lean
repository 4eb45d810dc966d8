import MacroScript.Text.Scan

/-! Signals: their numbers, their names and what a shell says of a command that one has ended. -/

namespace MacroScript.Shell

def signals : List (Nat × String × String) :=
  [(1, "HUP", "Hangup"), (2, "INT", "Interrupt"), (3, "QUIT", "Quit"),
    (4, "ILL", "Illegal instruction"), (5, "TRAP", "Trace/breakpoint trap"), (6, "ABRT", "Aborted"),
    (7, "BUS", "Bus error"), (8, "FPE", "Floating point exception"), (9, "KILL", "Killed"),
    (10, "USR1", "User defined signal 1"), (11, "SEGV", "Segmentation fault"),
    (12, "USR2", "User defined signal 2"), (13, "PIPE", "Broken pipe"), (14, "ALRM", "Alarm clock"),
    (15, "TERM", "Terminated"), (16, "STKFLT", "Stack fault"), (17, "CHLD", "Child exited"),
    (18, "CONT", "Continued"), (19, "STOP", "Stopped (signal)"), (20, "TSTP", "Stopped"),
    (21, "TTIN", "Stopped (tty input)"), (22, "TTOU", "Stopped (tty output)"),
    (23, "URG", "Urgent I/O condition"), (24, "XCPU", "CPU time limit exceeded"),
    (25, "XFSZ", "File size limit exceeded"), (26, "VTALRM", "Virtual timer expired"),
    (27, "PROF", "Profiling timer expired"), (28, "WINCH", "Window changed"),
    (29, "IO", "I/O possible"), (30, "PWR", "Power failure"), (31, "SYS", "Bad system call")]

def signalName? (number : Nat) : Option String := (signals.lookup number).map (·.1)

/-- The signals that a process does not end by: the first checks for it, and the others pass unless
it waits for them or stop it. -/
def harmlessSignals : List Nat := [0, 17, 18, 19, 20, 21, 22, 23, 28]

def signalNumber? (text : String) : Option Nat :=
  match Text.digits? text.toList with
  | some n => if n ≤ 64 then some n else none
  | none =>
    let upper := text.map Char.toUpper
    if upper = "EXIT" then some 0
    else if upper = "STKFLT" then none
    else (signals.find? fun (_, name, _) => name = upper).map (·.1)

end MacroScript.Shell
