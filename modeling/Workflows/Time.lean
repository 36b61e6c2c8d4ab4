import Workflows.Text.Blank
import Workflows.Decimal.Reading

/-!
# Points in time

* `Time`: whole seconds since the start of 1970 (UTC) and nanoseconds, of which there are more than
  `10 ^ 9` within a leap second; `Time.le`, `Time.nanosSince`;
* `Calendar.daysOfCivil`, `Calendar.civilOfDays`: the proleptic Gregorian calendar;
* `Time.read?`: a date and a time of day with any offset, as RFC 3339 writes them, also with blanks
  between the parts; `Time.text` and `Time.offsetText`: the same in UTC.
-/

namespace Workflows

/-- A point in time: seconds since 1970-01-01 00:00:00 UTC and nanoseconds. -/
structure Time where
  seconds : Int
  nanos : Nat
  deriving DecidableEq, Inhabited

/-! ## The calendar -/

namespace Calendar

/-- A day of the proleptic Gregorian calendar. -/
structure Date where
  year : Int
  month : Nat
  day : Nat
  deriving DecidableEq

/-- Whether `year` has 366 days. -/
def isLeap (year : Int) : Bool := year % 4 = 0 ∧ (year % 100 ≠ 0 ∨ year % 400 = 0)

/-- How many days `month` has in `year`. -/
def daysInMonth (year : Int) (month : Nat) : Nat :=
  if month = 2 then if isLeap year then 29 else 28
  else if month = 4 ∨ month = 6 ∨ month = 9 ∨ month = 11 then 30
  else 31

/-- The days from 1970-01-01 to a date. Years run from March here, so that the leap day comes last,
and 400 years have 146097 days. -/
def daysOfCivil (d : Date) : Int :=
  let y := if d.month ≤ 2 then d.year - 1 else d.year
  let era := y.fdiv 400
  let yearOfEra := y - era * 400
  let monthFromMarch : Int := (d.month + 9) % 12
  let dayOfYear := (153 * monthFromMarch + 2) / 5 + d.day - 1
  let dayOfEra := yearOfEra * 365 + yearOfEra / 4 - yearOfEra / 100 + dayOfYear
  era * 146097 + dayOfEra - 719468

/-- The date that lies `days` days after 1970-01-01. -/
def civilOfDays (days : Int) : Date :=
  let z := days + 719468
  let era := z.fdiv 146097
  let dayOfEra := z - era * 146097
  let yearOfEra := (dayOfEra - dayOfEra / 1460 + dayOfEra / 36524 - dayOfEra / 146096) / 365
  let dayOfYear := dayOfEra - (365 * yearOfEra + yearOfEra / 4 - yearOfEra / 100)
  let monthFromMarch := (5 * dayOfYear + 2) / 153
  let day := dayOfYear - (153 * monthFromMarch + 2) / 5 + 1
  let month := if monthFromMarch < 10 then monthFromMarch + 3 else monthFromMarch - 9
  let year := yearOfEra + era * 400 + if month ≤ 2 then 1 else 0
  ⟨year, month.toNat, day.toNat⟩

/-- The first and the last year that a time may fall in. -/
def inRange (year : Int) : Bool := -262143 ≤ year ∧ year ≤ 262142

end Calendar

namespace Time

/-- The order in time. -/
def le (a b : Time) : Bool := a.seconds < b.seconds || (a.seconds = b.seconds && a.nanos ≤ b.nanos)

/-- The second of its day that a time falls in. -/
def secondOfDay (t : Time) : Int := t.seconds.fmod 86400

/-- Nanoseconds from `a` to `b`. The leap second of the one that is earlier in its day counts, whatever
the days are. -/
def nanosSince (b a : Time) : Int :=
  let leap : Int :=
    if a.secondOfDay < b.secondOfDay then if 1000000000 ≤ a.nanos then 1 else 0
    else if b.secondOfDay < a.secondOfDay then if 1000000000 ≤ b.nanos then -1 else 0
    else 0
  (b.seconds - a.seconds + leap) * 1000000000 + (b.nanos - a.nanos)

/-! ## Reading -/

/-- `cs` without the blank characters at its start. -/
def skipBlank (cs : List Char) : List Char := cs.dropWhile Text.isBlankChar

/-- One to `most` digits after blank characters, and what follows them. -/
def digits? (most : Nat) (cs : List Char) : Option (Nat × List Char) :=
  let cs := skipBlank cs
  let ds := (cs.take most).takeWhile Decimal.isDigit
  if ds.isEmpty then none else some (Decimal.natOfDigits ds, cs.drop ds.length)

/-- What follows `c` after blank characters. -/
def expect? (c : Char) (cs : List Char) : Option (List Char) :=
  match skipBlank cs with
  | d :: rest => if c = d then some rest else none
  | [] => none

/-- A year: up to four digits, or any number of them after a sign. -/
def year? (cs : List Char) : Option (Int × List Char) :=
  match skipBlank cs with
  | '-' :: rest => signed rest |>.map fun (n, rest) => (-(n : Int), rest)
  | '+' :: rest => signed rest |>.map fun (n, rest) => ((n : Int), rest)
  | rest => (digits? 4 rest).map fun (n, rest) => ((n : Int), rest)
where
  /-- The digits after a sign, with no blank between. -/
  signed (cs : List Char) : Option (Nat × List Char) :=
    let (ds, rest) := Decimal.splitDigits cs
    if ds.isEmpty then none else some (Decimal.natOfDigits ds, rest)

/-- The nanoseconds of a fraction, if there is one, and what follows it. -/
def fraction? : List Char → Option (Nat × List Char)
  | '.' :: rest =>
    let (ds, rest) := Decimal.splitDigits rest
    if ds.isEmpty then none
    else
      let ds := ds.take 9
      some (Decimal.natOfDigits ds * Nat.pow 10 (9 - ds.length), rest)
  | cs => some (0, cs)

/-- The seconds of an offset from UTC, and what follows it: `Z`, `UTC`, or a sign, two digits of hours
and two of minutes with colons or blanks between them. -/
def offset? (cs : List Char) : Option (Int × List Char) :=
  match cs with
  | 'Z' :: rest | 'z' :: rest => some (0, rest)
  | '+' :: rest => (hoursAndMinutes rest).map fun (n, rest) => ((n : Int), rest)
  | '-' :: rest | '−' :: rest => (hoursAndMinutes rest).map fun (n, rest) => (-(n : Int), rest)
  | a :: b :: c :: rest =>
    if Text.upperAscii (String.ofList [a, b, c]) = "UTC" then some (0, rest) else none
  | _ => none
where
  /-- Two digits of hours and two of minutes, in seconds. -/
  hoursAndMinutes : List Char → Option (Nat × List Char)
    | h₁ :: h₂ :: rest =>
      match rest.dropWhile fun c => c = ':' || Text.isBlankChar c with
      | m₁ :: m₂ :: rest =>
        if [h₁, h₂, m₁, m₂].all Decimal.isDigit && m₁ < '6' then
          some (Decimal.natOfDigits [h₁, h₂] * 3600 + Decimal.natOfDigits [m₁, m₂] * 60, rest)
        else none
      | _ => none
    | _ => none

/-- The time of a date, a time of day and an offset from UTC; the sixtieth second is a leap second. -/
def ofCivil? (date : Calendar.Date) (hour minute second nanos : Nat) (offset : Int) : Option Time :=
  if Calendar.inRange date.year && 1 ≤ date.month && date.month ≤ 12 && 1 ≤ date.day &&
      date.day ≤ Calendar.daysInMonth date.year date.month && hour < 24 && minute < 60 &&
      second ≤ 60 && offset.natAbs < 86400 then
    let wallSeconds := Calendar.daysOfCivil date * 86400 + hour * 3600 + minute * 60 + min second 59
    let seconds := wallSeconds - offset
    if Calendar.inRange (Calendar.civilOfDays (seconds.fdiv 86400)).year then
      some ⟨seconds, if second = 60 then nanos + 1000000000 else nanos⟩
    else none
  else none

/-- The time written by `cs`. -/
def readChars? (cs : List Char) : Option Time := do
  let (year, cs) ← year? cs
  let cs ← expect? '-' cs
  let (month, cs) ← digits? 2 cs
  let cs ← expect? '-' cs
  let (day, cs) ← digits? 2 cs
  let cs ← match cs with
    | 'T' :: cs | 't' :: cs | ' ' :: cs => some cs
    | _ => none
  let (hour, cs) ← digits? 2 cs
  let cs ← expect? ':' cs
  let (minute, cs) ← digits? 2 cs
  let cs ← expect? ':' cs
  let (second, cs) ← digits? 2 cs
  let (nanos, cs) ← fraction? cs
  let (offset, cs) ← offset? (skipBlank cs)
  if (skipBlank cs).isEmpty then ofCivil? ⟨year, month, day⟩ hour minute second nanos offset else none

/-- The time written by `s`. -/
def read? (s : String) : Option Time := readChars? s.toList

/-! ## Writing -/

/-- `n` with at least `width` digits. -/
def padded (width n : Nat) : String := String.ofList (go (Nat.toDigits 10 n))
where
  /-- Puts the missing zeros before the digits. -/
  go (ds : List Char) : List Char := List.replicate (width - ds.length) '0' ++ ds

/-- A year: four digits, or a sign and at least four digits outside 0 to 9999. -/
def yearText (year : Int) : String :=
  if 0 ≤ year ∧ year ≤ 9999 then padded 4 year.toNat
  else (if year < 0 then "-" else "+") ++ padded 4 year.natAbs

/-- The date of a time. -/
def dateText (t : Time) : String :=
  let d := Calendar.civilOfDays (t.seconds.fdiv 86400)
  yearText d.year ++ "-" ++ padded 2 d.month ++ "-" ++ padded 2 d.day

/-- The time of day, to the second. -/
def clockText (t : Time) : String :=
  let s := (t.seconds.fmod 86400).toNat
  let second := s % 60 + if 1000000000 ≤ t.nanos then 1 else 0
  padded 2 (s / 3600) ++ ":" ++ padded 2 (s / 60 % 60) ++ ":" ++ padded 2 second

/-- The fraction of the second: nothing, or the fewest of 3, 6 and 9 digits that are exact. -/
def fractionText (t : Time) : String :=
  let n := t.nanos % 1000000000
  if n = 0 then ""
  else if n % 1000000 = 0 then "." ++ padded 3 (n / 1000000)
  else if n % 1000 = 0 then "." ++ padded 6 (n / 1000)
  else "." ++ padded 9 n

/-- The time without an offset. -/
def bareText (t : Time) : String := t.dateText ++ "T" ++ t.clockText ++ t.fractionText

/-- The time in UTC, marked `Z`. -/
def text (t : Time) : String := t.bareText ++ "Z"

/-- The time in UTC with a written offset. -/
def offsetText (t : Time) : String := t.bareText ++ "+00:00"

/-- The time to the second, for people. -/
def shortText (t : Time) : String := t.dateText ++ " " ++ t.clockText

end Time

end Workflows
