import EnvProfiles.Fault

/-!
# Levels of Logging

How much is logged, in seven steps from nothing to everything. A level is
written as a number from zero to six.

## Main definitions

* `LogLevel`: The seven levels.
* `LogLevel.toNat`, `LogLevel.ofNat?`: The number of a level.
* `LogLevel.checked`: The level of a number, or the fault that there is none.
* `LogLevel.readJson?`: The level that a JSON text denotes.
* `LogLevel.filter`: Which messages a level lets through.
-/

namespace EnvProfiles

/-- How much is logged. -/
inductive LogLevel where
  | silent
  | error
  | warn
  | info
  | debug
  | trace
  /-- Everything, the libraries included. -/
  | dump
deriving DecidableEq, Repr

namespace LogLevel

/-- The number of a level. -/
def toNat : LogLevel → Nat
  | silent => 0
  | error => 1
  | warn => 2
  | info => 3
  | debug => 4
  | trace => 5
  | dump => 6

/-- The level of a number. -/
def ofNat? : Nat → Option LogLevel
  | 0 => some silent
  | 1 => some error
  | 2 => some warn
  | 3 => some info
  | 4 => some debug
  | 5 => some trace
  | 6 => some dump
  | _ => none

/-- The level of a number, or the fault that there is none. -/
def checked (n : Nat) : Except SettingsFault LogLevel :=
  match ofNat? n with
  | some level => .ok level
  | none => .error (.invalidValue "log" "level" ("log level must be 0-6, got " ++ toString n))

/-- The severity that a message must have at least; the level `silent` lets none through. -/
def severity? : LogLevel → Option String
  | silent => none
  | error => some "ERROR"
  | warn => some "WARN"
  | info => some "INFO"
  | debug => some "DEBUG"
  | trace => some "TRACE"
  | dump => some "TRACE"

/-- Which messages a level lets through. Below the last level the libraries are held to warnings,
so that only this program becomes talkative. -/
def filter : LogLevel → String
  | silent => "off"
  | error => "error"
  | warn => "warn"
  | info => "warn,denv=info"
  | debug => "warn,denv=debug"
  | trace => "warn,denv=trace"
  | dump => "trace"

/-- The text of a level in JSON. -/
def json (level : LogLevel) : String := toString level.toNat

/-- Whether a character is white space in JSON. -/
def isJsonSpace (c : Char) : Bool := c == ' ' || c == '\t' || c == '\n' || c == '\r'

/-- The level that a JSON text denotes: a number without a sign, a point or leading zeros. -/
def readJson? (text : String) : Option LogLevel :=
  let cs := text.toList.dropWhile isJsonSpace
  let digits := cs.takeWhile Char.isDigit
  if !(cs.dropWhile Char.isDigit).all isJsonSpace then none
  else
    match digits with
    | [d] => ofNat? (d.toNat - '0'.toNat)
    | _ => none

end LogLevel

end EnvProfiles
