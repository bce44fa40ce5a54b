import EnvProfiles.Tool.Lines

/-!
# Dates

Seconds since the start of the year 1970 as dates, and back, in the one time zone
of the machine. Days are counted from the first of March of the year zero, so that
leap days are last in their year.

## Main definitions

* `Date`: A date with the time of the day.
* `Date.ofSeconds`, `Date.toSeconds`: Dates and seconds.
* `Date.format`: A date as a text.
* `Date.ofText?`: The date that a text stands for.
-/

namespace EnvProfiles

/-- A date with the time of the day. -/
structure Date where
  year : Int
  month : Nat
  day : Nat
  hour : Nat
  minute : Nat
  second : Nat
deriving DecidableEq, Repr

namespace Date

/-- The days from the first of March of the year zero to the start of the year 1970. -/
def epochDays : Int := 719468

/-- The number of days since the start of the year 1970. -/
def daysOf (year : Int) (month day : Nat) : Int :=
  let y := if month ≤ 2 then year - 1 else year
  let era := y.fdiv 400
  let ofEra := y - era * 400
  let ofYear : Int := ((153 * ((month + 9) % 12) + 2) / 5 + day - 1 : Nat)
  era * 146097 + ofEra * 365 + ofEra.fdiv 4 - ofEra.fdiv 100 + ofYear - epochDays

/-- The date of a number of seconds. -/
def ofSeconds (seconds : Int) : Date :=
  let days := seconds.fdiv 86400
  let rest := (seconds - days * 86400).toNat
  let z := days + epochDays
  let era := z.fdiv 146097
  let e := (z - era * 146097).toNat
  let y := (e - e / 1460 + e / 36524 - e / 146096) / 365
  let d := e - (365 * y + y / 4 - y / 100)
  let m := (5 * d + 2) / 153
  let month := if m < 10 then m + 3 else m - 9
  { year := (y : Int) + era * 400 + if month ≤ 2 then 1 else 0
    month, day := d - (153 * m + 2) / 5 + 1
    hour := rest / 3600, minute := rest / 60 % 60, second := rest % 60 }

/-- The number of seconds of a date. -/
def toSeconds (d : Date) : Int :=
  daysOf d.year d.month d.day * 86400 + d.hour * 3600 + d.minute * 60 + d.second

/-- The day of the week, from Sunday on. -/
def weekday (d : Date) : Nat := ((daysOf d.year d.month d.day + 4).emod 7).toNat

/-- The day of the year, from zero on. -/
def yearDay (d : Date) : Nat := (daysOf d.year d.month d.day - daysOf d.year 1 1).toNat

def dayNames : List String :=
  ["Sunday", "Monday", "Tuesday", "Wednesday", "Thursday", "Friday", "Saturday"]

def monthNames : List String :=
  ["January", "February", "March", "April", "May", "June", "July", "August", "September",
    "October", "November", "December"]

/-- A number with zeros or blanks before it. -/
def padded (pad : Char) (width : Nat) (n : Int) : String :=
  let digits := toString n.natAbs
  let padding := String.ofList (List.replicate (width - digits.length) pad)
  (if n < 0 then "-" else "") ++ padding ++ digits

/-- The year and the week of the calendar in which weeks belong to the year of their Thursday. -/
def isoWeek (d : Date) : Int × Nat :=
  let monday := (d.weekday + 6) % 7
  let thursday := ofSeconds ((daysOf d.year d.month d.day - monday + 3) * 86400)
  (thursday.year, thursday.yearDay / 7 + 1)

/-- What a letter of a format stands for, given a part of a second in nanoseconds. -/
def field (d : Date) (nanos : Nat) (letter : Char) : Option String :=
  let two (n : Nat) : String := padded '0' 2 n
  let twelve := if d.hour % 12 == 0 then 12 else d.hour % 12
  let short (names : List String) (i : Nat) : String := takeText 3 (names.getD i "")
  let ymd := padded '0' 4 d.year ++ "-" ++ two d.month ++ "-" ++ two d.day
  let time := two d.hour ++ ":" ++ two d.minute ++ ":" ++ two d.second
  let half := if d.hour < 12 then "AM" else "PM"
  match letter with
  | '%' => some "%"
  | 'a' => some (short dayNames d.weekday)
  | 'A' => some (dayNames.getD d.weekday "")
  | 'b' => some (short monthNames (d.month - 1))
  | 'h' => some (short monthNames (d.month - 1))
  | 'B' => some (monthNames.getD (d.month - 1) "")
  | 'c' => some (short dayNames d.weekday ++ " " ++ short monthNames (d.month - 1) ++ " " ++
      padded ' ' 2 d.day ++ " " ++ time ++ " " ++ padded '0' 4 d.year)
  | 'C' => some (two (d.year / 100).toNat)
  | 'd' => some (two d.day)
  | 'D' => some (two d.month ++ "/" ++ two d.day ++ "/" ++ two (d.year % 100).toNat)
  | 'x' => some (two d.month ++ "/" ++ two d.day ++ "/" ++ two (d.year % 100).toNat)
  | 'e' => some (padded ' ' 2 d.day)
  | 'F' => some ymd
  | 'g' => some (two (d.isoWeek.1 % 100).toNat)
  | 'G' => some (padded '0' 4 d.isoWeek.1)
  | 'H' => some (two d.hour)
  | 'I' => some (two twelve)
  | 'j' => some (padded '0' 3 (d.yearDay + 1))
  | 'k' => some (padded ' ' 2 d.hour)
  | 'l' => some (padded ' ' 2 twelve)
  | 'm' => some (two d.month)
  | 'M' => some (two d.minute)
  | 'n' => some "\n"
  | 'N' => some (padded '0' 9 nanos)
  | 'p' => some half
  | 'P' => some (half.map Char.toLower)
  | 'q' => some (toString ((d.month - 1) / 3 + 1))
  | 'r' => some (two twelve ++ ":" ++ two d.minute ++ ":" ++ two d.second ++ " " ++ half)
  | 'R' => some (two d.hour ++ ":" ++ two d.minute)
  | 's' => some (toString d.toSeconds)
  | 'S' => some (two d.second)
  | 't' => some "\t"
  | 'T' => some time
  | 'X' => some time
  | 'u' => some (toString (if d.weekday == 0 then 7 else d.weekday))
  | 'U' => some (two ((d.yearDay + 7 - d.weekday) / 7))
  | 'V' => some (two d.isoWeek.2)
  | 'w' => some (toString d.weekday)
  | 'W' => some (two ((d.yearDay + 7 - (d.weekday + 6) % 7) / 7))
  | 'y' => some (two (d.year % 100).toNat)
  | 'Y' => some (padded '0' 4 d.year)
  | 'z' => some "+0000"
  | 'Z' => some "UTC"
  | _ => none

/-- A date as a format says. -/
def format (d : Date) (nanos : Nat) : List Char → List Char
  | '%' :: '-' :: c :: r =>
    match d.field nanos c with
    | some t =>
      let cs := t.toList.dropWhile fun c => c == '0' || c == ' '
      (if cs.isEmpty then ['0'] else cs) ++ format d nanos r
    | none => '%' :: '-' :: c :: format d nanos r
  | '%' :: c :: r =>
    match d.field nanos c with
    | some t => t.toList ++ format d nanos r
    | none => '%' :: c :: format d nanos r
  | c :: r => c :: format d nanos r
  | [] => []

/-- Numbers between signs. -/
def numbers? (sign : Char) (text : String) : Option (List Nat) :=
  ((splitAt sign text.toList).map String.ofList).mapM fun t =>
    if t.toList.all Char.isDigit then t.toNat? else none

/-- How many seconds a unit has, if it always has as many. -/
def unitSeconds? (unit : String) : Option Int :=
  let unit := if "s".toList.isSuffixOf unit.toList && 3 < unit.length then
      takeText (unit.length - 1) unit else unit
  [("sec", 1), ("second", 1), ("min", 60), ("minute", 60), ("hour", 3600), ("day", 86400),
    ("week", 604800)].lookup unit

/-- The time that words stand for, given the present. Both are seconds. -/
def ofWords? (now : Int) : Nat → List String → Option Int
  | 0, _ => none
  | _ + 1, [] => some now
  | n + 1, word :: r =>
    match word, r with
    | "now", r => ofWords? now n r
    | "today", r => ofWords? now n r
    | "yesterday", r => ofWords? (now - 86400) n r
    | "tomorrow", r => ofWords? (now + 86400) n r
    | "UTC", r => ofWords? now n r
    | "Z", r => ofWords? now n r
    | word, r =>
      match numbers? '-' word, numbers? ':' word with
      | some [y, m, d], _ =>
        if 1 ≤ m && m ≤ 12 && 1 ≤ d && d ≤ 31 then ofWords? (daysOf y m d * 86400) n r else none
      | _, some [h, m] => ofWords? (now.fdiv 86400 * 86400 + h * 3600 + m * 60) n r
      | _, some [h, m, s] => ofWords? (now.fdiv 86400 * 86400 + h * 3600 + m * 60 + s) n r
      | _, _ =>
        match splitAt 'T' word.toList with
        | [a, b] => if a.isEmpty || b.isEmpty then none
          else ofWords? now n (String.ofList a :: String.ofList (b.filter (· != 'Z')) :: r)
        | _ =>
          let (negative, ds) := match word.toList with
            | '-' :: ds => (true, ds)
            | '+' :: ds => (false, ds)
            | ds => (false, ds)
          match (if ds.all Char.isDigit then (String.ofList ds).toNat? else none), r with
          | some k, unit :: r =>
            match unitSeconds? unit, r with
            | some s, "ago" :: r => ofWords? (now - k * s) n r
            | some s, r => ofWords? (if negative then now - k * s else now + k * s) n r
            | none, _ => none
          | _, _ => none

/-- The time that a text stands for, in seconds, given the present. -/
def ofText? (now : Int) (text : String) : Option Int :=
  match text.toList with
  | '@' :: '-' :: ds =>
    if ds.all Char.isDigit then (String.ofList ds).toNat?.map fun n => -(n : Int)
      else none
  | '@' :: ds =>
    let ds := ds.takeWhile (· != '.')
    if ds.all Char.isDigit then (String.ofList ds).toNat?.map fun n => (n : Int) else none
  | cs =>
    let words := ((splitAt ' ' cs).map String.ofList).filter (· != "")
    if words.isEmpty then some (now.fdiv 86400 * 86400)
    else ofWords? now (2 * words.length + 8) words

end Date

end EnvProfiles
