import PolicyEngine.Number.Decimal

/-! Date-times of the internet profile: `2024-02-29T23:59:60.5+01:00`. Any one ASCII character may
stand between date and time. A second 60 is a leap second, the last one of a month in UTC. -/
namespace PolicyEngine

/-- A date-time as written; `offset` counts the minutes that the clock is ahead of UTC. -/
structure DateTime where
  year : Nat
  month : Nat
  day : Nat
  hour : Nat
  minute : Nat
  second : Nat
  offset : Int
  deriving Repr, DecidableEq

namespace DateTime

def isLeapYear (year : Nat) : Bool := year % 4 = 0 && (year % 100 != 0 || year % 400 = 0)

/-- How many days a month has; the months are counted from 1. -/
def daysIn (year month : Nat) : Nat :=
  if month = 2 then if isLeapYear year then 29 else 28
  else if month ∈ [4, 6, 9, 11] then 30
  else 31

/-- The minutes since the start of the day, seen in UTC. -/
def minutesInUtc (d : DateTime) : Int := d.hour * 60 + d.minute - d.offset

/-- Whether the minute is the last one of a month in UTC. -/
def isLastMinute (d : DateTime) : Bool :=
  let last := daysIn d.year d.month
  if d.minutesInUtc = 1439 then d.day = last
  else if d.minutesInUtc = 1439 - 1440 then d.day = 1
  else if d.minutesInUtc = 1439 + 1440 then d.day + 1 = last
  else false

/-- A real day, a time on a clock, and a leap second only where there can be one. -/
def isValid (d : DateTime) : Bool :=
  1 ≤ d.month && d.month ≤ 12 && 1 ≤ d.day && d.day ≤ daysIn d.year d.month && d.hour ≤ 23 &&
    d.minute ≤ 59 && (d.second ≤ 59 || (d.second = 60 && d.isLastMinute))

/-- Exactly `count` digits. -/
def number? (count : Nat) (cs : List Char) : Option (Nat × List Char) :=
  let digits := cs.take count
  if digits.length = count && digits.all Char.isDigit then
    some (Number.digitsValue digits, cs.drop count)
  else none

def literal? (c : Char) : List Char → Option (List Char)
  | [] => none
  | d :: rest => if d = c then some rest else none

def separator? : List Char → Option (List Char)
  | [] => none
  | c :: rest => if c.toNat < 0x80 then some rest else none

/-- The text after a fraction of a second; a point needs digits. -/
def afterFraction? (cs : List Char) : Option (List Char) :=
  match cs with
  | '.' :: rest =>
    let (digits, after) := Number.digitRun rest
    if digits.isEmpty then none else some after
  | _ => some cs

/-- The offset from UTC that ends the text. -/
def offset? : List Char → Option Int
  | [] => none
  | c :: rest =>
    if c = 'Z' ∨ c = 'z' then if rest.isEmpty then some 0 else none
    else if c = '+' ∨ c = '-' then do
      let (hours, rest) ← number? 2 rest
      let (minutes, rest) ← number? 2 (← literal? ':' rest)
      if rest.isEmpty && hours ≤ 23 && minutes ≤ 59 then
        let ahead : Int := hours * 60 + minutes
        some (if c = '-' then -ahead else ahead)
      else none
    else none

/-- Reads the parts of a date-time, not asking whether there is such a day or time. -/
def parts? (cs : List Char) : Option DateTime := do
  let (year, cs) ← number? 4 cs
  let (month, cs) ← number? 2 (← literal? '-' cs)
  let (day, cs) ← number? 2 (← literal? '-' cs)
  let (hour, cs) ← number? 2 (← separator? cs)
  let (minute, cs) ← number? 2 (← literal? ':' cs)
  let (second, cs) ← number? 2 (← literal? ':' cs)
  return ⟨year, month, day, hour, minute, second, ← offset? (← afterFraction? cs)⟩

def ofText? (text : String) : Option DateTime := (parts? text.toList).filter isValid

/-- The date in UTC, `days` days after the first of January 1970. The years are counted from March on,
so that a leap day ends one. -/
def ofDays (days : Nat) : DateTime :=
  let fromMarch := days + 719468
  let day := fromMarch % 146097
  let year := (day - day / 1460 + day / 36524 - day / 146096) / 365
  let dayOfYear := day - (365 * year + year / 4 - year / 100)
  let month := (5 * dayOfYear + 2) / 153
  let isNext := 10 ≤ month
  ⟨fromMarch / 146097 * 400 + year + (if isNext then 1 else 0), if isNext then month - 9 else month + 3,
    dayOfYear - (153 * month + 2) / 5 + 1, 0, 0, 0, 0⟩

/-- The date-time in UTC, a number of seconds after the start of 1970. -/
def ofSeconds (seconds : Nat) : DateTime :=
  let ofDay := seconds % 86400
  { ofDays (seconds / 86400) with hour := ofDay / 3600, minute := ofDay / 60 % 60, second := ofDay % 60 }

/-- Digits with zeros before them up to a width. -/
def padded (width n : Nat) : List Char :=
  let digits := Nat.toDigits 10 n
  List.replicate (width - digits.length) '0' ++ digits

/-- The text of a date-time in UTC with a count of nanoseconds, zeros at the end left out. -/
def render (d : DateTime) (nanoseconds : Nat) : String :=
  let fraction := ((padded 9 nanoseconds).reverse.dropWhile (· = '0')).reverse
  String.ofList (padded 4 d.year ++ '-' :: padded 2 d.month ++ '-' :: padded 2 d.day ++ 'T' :: padded 2 d.hour ++
    ':' :: padded 2 d.minute ++ ':' :: padded 2 d.second ++ (if fraction.isEmpty then [] else '.' :: fraction) ++
    ['Z'])

example : (ofSeconds 951782399).render 500000000 = "2000-02-28T23:59:59.5Z" := by decide
example : (ofSeconds 951868799).render 0 = "2000-02-29T23:59:59Z" := by decide
example : (ofText? "2016-12-31T23:59:60Z").isSome := by decide
example : (ofText? "2017-01-01T00:59:60+01:00").isSome := by decide
example : (ofText? "2023-02-29t00:00:00z").isNone := by decide

end DateTime

end PolicyEngine
