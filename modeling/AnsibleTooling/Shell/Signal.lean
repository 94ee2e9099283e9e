import AnsibleTooling.Shell.Command

set_option autoImplicit false

namespace AnsibleTooling.Shell.Signal

def table : List (Nat × String × String) := [
  (1, "HUP", "Hangup"),
  (2, "INT", "Interrupt"),
  (3, "QUIT", "Quit"),
  (4, "ILL", "Illegal instruction"),
  (5, "TRAP", "Trace/breakpoint trap"),
  (6, "ABRT", "Aborted"),
  (7, "BUS", "Bus error"),
  (8, "FPE", "Floating point exception"),
  (9, "KILL", "Killed"),
  (10, "USR1", "User defined signal 1"),
  (11, "SEGV", "Segmentation fault"),
  (12, "USR2", "User defined signal 2"),
  (13, "PIPE", "Broken pipe"),
  (14, "ALRM", "Alarm clock"),
  (15, "TERM", "Terminated"),
  (16, "16", "Stack fault"),
  (17, "CHLD", "Child exited"),
  (18, "CONT", "Continued"),
  (19, "STOP", "Stopped (signal)"),
  (20, "TSTP", "Stopped"),
  (21, "TTIN", "Stopped (tty input)"),
  (22, "TTOU", "Stopped (tty output)"),
  (23, "URG", "Urgent I/O condition"),
  (24, "XCPU", "CPU time limit exceeded"),
  (25, "XFSZ", "File size limit exceeded"),
  (26, "VTALRM", "Virtual timer expired"),
  (27, "PROF", "Profiling timer expired"),
  (28, "WINCH", "Window changed"),
  (29, "IO", "I/O possible"),
  (30, "PWR", "Power failure"),
  (31, "SYS", "Bad system call")]

def killNumber : Nat := 9

def pipeNumber : Nat := 13

def terminateNumber : Nat := 15

def exitNumber : Nat := 0

def isHarmless (signal : Nat) : Bool :=
  [17, 18, 19, 20, 21, 22, 23, 28].contains signal

def largest : Nat := 64

def freeName? (signal : Nat) : Option String :=
  if signal < 34 || largest < signal then none
  else if signal == 34 then some "RTMIN"
  else if signal == largest then some "RTMAX"
  else if signal < 50 then some s!"RTMIN+{signal - 34}"
  else some s!"RTMAX-{largest - signal}"

def name? (signal : Nat) : Option String :=
  if signal == exitNumber then some "EXIT"
  else if signal == 32 || signal == 33 then some (toString signal)
  else
    match table.find? fun entry => entry.1 == signal with
    | some entry => some entry.2.1
    | none => freeName? signal

def names : List String :=
  "0" :: (List.range largest).filterMap fun before => name? (before + 1)

def label? (signal : Nat) : Option String :=
  if signal == 16 then some "SIGSTKFLT"
  else (table.find? fun entry => entry.1 == signal).map fun entry => "SIG" ++ entry.2.1

def description (signal : Nat) : String :=
  match table.find? fun entry => entry.1 == signal with
  | some entry => entry.2.2
  | none =>
    if 34 <= signal && signal <= largest then s!"Real-time signal {signal - 34}"
    else s!"Unknown signal {signal}"

def number? (text : Chars) : Option Nat :=
  let spelling := String.ofList text
  if !text.isEmpty && text.all Char.isDigit then
    let number := spelling.toNat?.getD 0
    if number <= largest then some number else none
  else
    (List.range (largest + 1)).find? fun signal => name? signal == some (spelling.map Char.toUpper)

def isSilent (signal : Nat) : Bool :=
  signal == 2 || signal == pipeNumber

end AnsibleTooling.Shell.Signal
