import EnvProfiles.Toml.Value

/-!
# Dates and Times of TOML

A date, a time of day, or a date and a time that may be related to universal
time. A moment is read in order to check it, and its usual form is what remains:
the letter T between date and time, a capital Z, and no zeros at the end of a
fraction of a second.

## Main definitions

* `moment?`: The usual form of the moment that a word denotes.
-/

namespace EnvProfiles.TomlReader

/-- A number of exactly `n` digits. -/
def fixed? (n : Nat) (cs : List Char) : Option (Nat × List Char) :=
  let ds := cs.take n
  if ds.length == n && ds.all Char.isDigit then
    some (ds.foldl (fun v d => v * 10 + (d.toNat - '0'.toNat)) 0, cs.drop n)
  else none

/-- Passes a character that must come next. -/
def expect? (c : Char) : List Char → Option (List Char)
  | x :: r => if x == c then some r else none
  | [] => none

/-- A number as text with zeros before it up to a width. -/
def padded (width n : Nat) : String :=
  let ds := Nat.toDigits 10 n
  String.ofList (List.replicate (width - ds.length) '0' ++ ds)

/-- How many days a month has. -/
def daysIn (year month : Nat) : Nat :=
  if month == 2 then
    if year % 4 == 0 && (year % 100 != 0 || year % 400 == 0) then 29 else 28
  else if month == 4 || month == 6 || month == 9 || month == 11 then 30
  else 31

/-- A date. -/
def date? (cs : List Char) : Option (String × List Char) := do
  let (year, cs) ← fixed? 4 cs
  let cs ← expect? '-' cs
  let (month, cs) ← fixed? 2 cs
  let cs ← expect? '-' cs
  let (day, cs) ← fixed? 2 cs
  if 1 ≤ month && month ≤ 12 && 1 ≤ day && day ≤ daysIn year month then
    return (padded 4 year ++ "-" ++ padded 2 month ++ "-" ++ padded 2 day, cs)
  else none

/-- A fraction of a second, of which nine digits count. -/
def fraction? : List Char → Option (String × List Char)
  | '.' :: r =>
    let ds := r.takeWhile Char.isDigit
    if ds.isEmpty then none
    else
      let kept := ((ds.take 9).reverse.dropWhile (· == '0')).reverse
      some ("." ++ (if kept.isEmpty then "0" else String.ofList kept), r.drop ds.length)
  | cs => some ("", cs)

/-- A time of day, whose seconds may be left out. -/
def time? (cs : List Char) : Option (String × List Char) := do
  let (hour, cs) ← fixed? 2 cs
  let cs ← expect? ':' cs
  let (minute, cs) ← fixed? 2 cs
  if hour < 24 && minute < 60 then
    let front := padded 2 hour ++ ":" ++ padded 2 minute
    match cs with
    | ':' :: r =>
      let (second, r) ← fixed? 2 r
      let (fraction, r) ← fraction? r
      if second ≤ 60 then return (front ++ ":" ++ padded 2 second ++ fraction, r) else none
    | _ => return (front, cs)
  else none

/-- How a time is related to universal time, if that is said. -/
def offset? : List Char → Option (String × List Char)
  | [] => some ("", [])
  | c :: r =>
    if c == 'Z' || c == 'z' then some ("Z", r)
    else if c == '+' || c == '-' then do
      let (hour, r) ← fixed? 2 r
      let r ← expect? ':' r
      let (minute, r) ← fixed? 2 r
      if hour < 24 && minute < 60 then
        let sign := if c == '-' && !(hour == 0 && minute == 0) then "-" else "+"
        return (sign ++ padded 2 hour ++ ":" ++ padded 2 minute, r)
      else none
    else some ("", c :: r)

/-- A moment, and what follows it in the word. -/
def momentPart? (cs : List Char) : Option (String × List Char) :=
  match date? cs with
  | some (date, r) =>
    match r with
    | c :: r =>
      if c == 'T' || c == 't' || c == ' ' then do
        let (time, r) ← time? r
        let (offset, r) ← offset? r
        return (date ++ "T" ++ time ++ offset, r)
      else none
    | [] => some (date, [])
  | none => time? cs

/-- The usual form of the moment that a word denotes. -/
def moment? (word : List Char) : Option Toml :=
  match momentPart? word with
  | some (text, []) => some (.moment text)
  | _ => none

end EnvProfiles.TomlReader
