import Tenancy.Text.Blank
import Tenancy.Text.Digits

/-!
# Points in time

A point in time is written as a date and a time of day with an offset, in a way
that leaves some freedom.  Its normal form has whole seconds and no offset.
-/

namespace Tenancy

/-- A point in time to the second, as it is written on a calendar without
offset. -/
structure Timestamp where
  year : Int
  month : Nat
  day : Nat
  hour : Nat
  minute : Nat
  second : Nat
  deriving Repr, DecidableEq

namespace Timestamp

/-- Whether a year has a leap day. -/
def isLeap (year : Int) : Bool := year % 4 == 0 && (year % 100 != 0 || year % 400 == 0)

/-- The number of days of a month. -/
def monthLength (year : Int) (month : Nat) : Nat :=
  if month = 2 then (if isLeap year then 29 else 28)
  else if [4, 6, 9, 11].contains month then 30
  else 31

/-- The day before a date. -/
def previousDay (time : Timestamp) : Timestamp :=
  if 1 < time.day then { time with day := time.day - 1 }
  else if 1 < time.month then
    { time with month := time.month - 1, day := monthLength time.year (time.month - 1) }
  else { time with year := time.year - 1, month := 12, day := 31 }

/-- The day after a date. -/
def nextDay (time : Timestamp) : Timestamp :=
  if time.day < monthLength time.year time.month then { time with day := time.day + 1 }
  else if time.month < 12 then { time with month := time.month + 1, day := 1 }
  else { time with year := time.year + 1, month := 1, day := 1 }

/-- Move a time by less than a day. -/
def addMinutes (time : Timestamp) (minutes : Int) : Timestamp :=
  let total := (time.hour * 60 + time.minute : Nat) + minutes
  let date := if total < 0 then time.previousDay else if 1440 ≤ total then time.nextDay else time
  let ofDay := (total % 1440).toNat
  { date with hour := ofDay / 60, minute := ofDay % 60 }

/-! ## Reading

Blanks may stand in front of every number and of the signs between them, and at
the end.  Numbers need no zeros in front.
-/

/-- What follows blanks. -/
def skipBlanks (chars : List Char) : List Char := chars.dropWhile Text.isBlank

/-- The number of at least one and at most some digits at the front, and what follows it. -/
def number? (most : Nat) (chars : List Char) : Option (Nat × List Char) :=
  let digits := (chars.take most).takeWhile Char.isDigit
  if digits.isEmpty then none else some (Text.decimalValue digits 0, chars.drop digits.length)

/-- A number of at most two digits between two limits, and what follows it. -/
def part? (least greatest : Nat) (chars : List Char) : Option (Nat × List Char) :=
  (number? 2 (skipBlanks chars)).filter fun (value, _) => least ≤ value && value ≤ greatest

/-- A year, which has at most four digits unless it has a sign, and what follows it. -/
def year? (chars : List Char) : Option (Int × List Char) :=
  match skipBlanks chars with
  | '-' :: rest => (number? rest.length rest).map fun (value, rest) => (-(value : Int), rest)
  | '+' :: rest => (number? rest.length rest).map fun (value, rest) => ((value : Int), rest)
  | rest => (number? 4 rest).map fun (value, rest) => ((value : Int), rest)

/-- What follows a sign. -/
def behind? (sign : Char) (chars : List Char) : Option (List Char) :=
  match skipBlanks chars with
  | char :: rest => if char == sign then some rest else none
  | [] => none

/-- What follows the sign between a date and a time of day. -/
def behindDate? : List Char → Option (List Char)
  | char :: rest => if ['T', 't', ' '].contains char then some rest else none
  | [] => none

/-- What follows a fraction of a second, if there is one. -/
def skipFraction? : List Char → Option (List Char)
  | '.' :: rest =>
      if (rest.head?.map Char.isDigit).getD false then some (rest.dropWhile Char.isDigit) else none
  | rest => some rest

/-- A number of exactly two digits up to a limit, and what follows it. -/
def pair? (limit : Nat) (chars : List Char) : Option (Nat × List Char) := do
  guard ((chars.take 2).length = 2 && (chars.take 2).all Char.isDigit)
  let value := Text.decimalValue (chars.take 2) 0
  guard (value ≤ limit)
  return (value, chars.drop 2)

/-- An offset that is written with its sign, in minutes, and what follows it. -/
def signedOffset? : List Char → Option (Int × List Char)
  | sign :: rest => do
      guard (['+', '-', '\u2212'].contains sign)
      let (hours, rest) ← pair? 23 rest
      let (minutes, rest) ← pair? 59 (rest.dropWhile fun char => char == ':' || Text.isBlank char)
      let offset : Int := (hours * 60 + minutes : Nat)
      return (if sign == '+' then offset else -offset, rest)
  | [] => none

/-- An offset in minutes, and what follows it. -/
def offset? (chars : List Char) : Option (Int × List Char) :=
  if (chars.take 3).map Char.toUpper == ['U', 'T', 'C'] then some (0, chars.drop 3)
  else
    match chars with
    | 'Z' :: rest => some (0, rest)
    | 'z' :: rest => some (0, rest)
    | chars => signedOffset? chars

/-- Whether a year is among the ones that are counted. -/
def isYear (year : Int) : Bool := -262143 ≤ year && year ≤ 262142

/-- Read a point in time. -/
def ofText? (text : String) : Option Timestamp := do
  let (year, rest) ← year? text.toList
  let (month, rest) ← part? 1 12 (← behind? '-' rest)
  let (day, rest) ← part? 1 31 (← behind? '-' rest)
  guard (isYear year && day ≤ monthLength year month)
  let (hour, rest) ← part? 0 23 (← behindDate? rest)
  let (minute, rest) ← part? 0 59 (← behind? ':' rest)
  let (second, rest) ← part? 0 60 (← behind? ':' rest)
  let (offset, rest) ← offset? (skipBlanks (← skipFraction? rest))
  guard (skipBlanks rest).isEmpty
  let time := addMinutes ⟨year, month, day, hour, minute, second⟩ (-offset)
  guard (isYear time.year)
  return time

/-! ## Writing -/

/-- A number with zeros in front up to some digits. -/
def padded (length number : Nat) : String :=
  let digits := toString number
  String.ofList (List.replicate (length - digits.length) '0') ++ digits

/-- The text of a year, with a sign unless it is one of the common era with four digits. -/
def yearText (year : Int) : String :=
  (if year < 0 then "-" else if 9999 < year then "+" else "") ++ padded 4 year.natAbs

/-- The text of a point in time. -/
def text (time : Timestamp) : String :=
  yearText time.year ++ "-" ++ padded 2 time.month ++ "-" ++ padded 2 time.day ++ "T" ++
    padded 2 time.hour ++ ":" ++ padded 2 time.minute ++ ":" ++ padded 2 time.second ++ "Z"

end Timestamp

end Tenancy
