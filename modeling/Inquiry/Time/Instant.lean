/-!
Instants of universal time as calendar dates with a clock, and the whole days between two of them.

A leap second stays what it is: it is the 59th second of its minute with a fraction of one second
or more.
-/
namespace Inquiry.Time

def isLeap (year : Int) : Bool := year % 4 == 0 && (year % 100 != 0 || year % 400 == 0)

def daysIn (year : Int) (month : Nat) : Nat :=
  match month with
  | 2 => if isLeap year then 29 else 28
  | 4 | 6 | 9 | 11 => 30
  | _ => 31

/-- Years reach as far as a signed day of the year fits into 32 bits beside them. -/
def firstYear : Int := -262143

def lastYear : Int := 262142

/-- A day of the Gregorian calendar, which is extended to all years. -/
structure Date where
  year : Int
  month : Nat
  day : Nat
  year_bounds : firstYear ≤ year ∧ year ≤ lastYear
  month_bounds : 1 ≤ month ∧ month ≤ 12
  day_bounds : 1 ≤ day ∧ day ≤ daysIn year month
deriving DecidableEq

namespace Date

def of? (year : Int) (month day : Nat) : Option Date :=
  if h : (firstYear ≤ year ∧ year ≤ lastYear) ∧ (1 ≤ month ∧ month ≤ 12) ∧
      (1 ≤ day ∧ day ≤ daysIn year month) then
    some ⟨year, month, day, h.1, h.2.1, h.2.2⟩
  else none

/-- The following day: in the month, or the first of the next month or year. -/
def next? (d : Date) : Option Date :=
  of? d.year d.month (d.day + 1) <|> of? d.year (d.month + 1) 1 <|> of? (d.year + 1) 1 1

def previous? (d : Date) : Option Date :=
  of? d.year d.month (d.day - 1) <|> of? d.year (d.month - 1) (daysIn d.year (d.month - 1))
    <|> of? (d.year - 1) 12 31

/-- The days from the first day of year 1. -/
def number (d : Date) : Int :=
  let past := d.year - 1
  let months := (List.range (d.month - 1)).foldl (fun n m => n + daysIn d.year (m + 1)) 0
  past * 365 + past / 4 - past / 100 + past / 400 + (months + d.day - 1 : Nat)

end Date

/-- A time of day. Only the last second of a minute can be a leap second. -/
structure Clock where
  hour : Nat
  minute : Nat
  second : Nat
  nanosecond : Nat
  hour_lt : hour < 24
  minute_lt : minute < 60
  second_lt : second < 60
  nanosecond_lt : nanosecond < 2000000000
  second_of_leap : 1000000000 ≤ nanosecond → second = 59
deriving DecidableEq

namespace Clock

def midnight : Clock := ⟨0, 0, 0, 0, by decide, by decide, by decide, by decide, by decide⟩

/-- The time of day, if the numbers are in range. The second numbered 60 is a leap second. -/
def of? (hour minute second nanosecond : Nat) : Option Clock :=
  let (second, nanosecond) :=
    if second = 60 then (59, nanosecond + 1000000000) else (second, nanosecond)
  if h : hour < 24 ∧ minute < 60 ∧ second < 60 ∧ nanosecond < 2000000000 ∧
      (1000000000 ≤ nanosecond → second = 59) then
    some ⟨hour, minute, second, nanosecond, h.1, h.2.1, h.2.2.1, h.2.2.2.1, h.2.2.2.2⟩
  else none

def secondOfDay (c : Clock) : Nat := (c.hour * 60 + c.minute) * 60 + c.second

def isLeap (c : Clock) : Bool := 1000000000 ≤ c.nanosecond

/-- The time so many minutes earlier, and by how many days its day is another. -/
def back (c : Clock) (minutes : Int) : Clock × Int :=
  let total : Int := ((c.hour * 60 + c.minute : Nat) : Int) - minutes
  let rest := (total % 1440).toNat
  have rest_lt : rest < 1440 := by omega
  ({ c with
      hour := rest / 60
      minute := rest % 60
      hour_lt := by omega
      minute_lt := by omega }, total / 1440)

end Clock

structure Instant where
  date : Date
  clock : Clock
deriving DecidableEq

namespace Instant

def epoch : Instant := ⟨⟨1970, 1, 1, by decide, by decide, by decide⟩, Clock.midnight⟩

instance : Inhabited Instant := ⟨epoch⟩

/-- The moment when a clock set so many minutes ahead of universal time shows a date and time. -/
def ofLocal? (date : Date) (clock : Clock) (minutesAhead : Int) : Option Instant :=
  let (clock, days) := clock.back minutesAhead
  let date :=
    if days < 0 then date.previous? else if 0 < days then date.next? else some date
  date.map (⟨·, clock⟩)

/-- The nanoseconds from `earlier` to `later`. A leap second counts if it lies between them on
the day's clock. -/
def nanosecondsSince (later earlier : Instant) : Int :=
  let days := later.date.number - earlier.date.number
  let first := earlier.clock.secondOfDay
  let last := later.clock.secondOfDay
  let leap : Int :=
    if first < last ∧ earlier.clock.isLeap then 1
    else if last < first ∧ later.clock.isLeap then -1
    else 0
  (days * 86400 + ((last : Int) - first) + leap) * 1000000000
    + ((later.clock.nanosecond : Int) - earlier.clock.nanosecond)

/-- The whole days from `earlier` to `later`; a part of a day is dropped, before as well as
after. -/
def daysSince (later earlier : Instant) : Int :=
  (later.nanosecondsSince earlier).tdiv (86400 * 1000000000)

def padded (width n : Nat) : String :=
  let digits := Nat.toDigits 10 n
  String.ofList (List.replicate (width - digits.length) '0' ++ digits)

/-- Years outside 0 to 9999 carry a sign. -/
def yearText (year : Int) : String :=
  if 0 ≤ year ∧ year ≤ 9999 then padded 4 year.natAbs
  else (if year < 0 then "-" else "+") ++ padded 4 year.natAbs

/-- A fraction of a second in the fewest groups of three digits. -/
def fractionText (nanosecond : Nat) : String :=
  let n := nanosecond % 1000000000
  if n = 0 then ""
  else if n % 1000000 = 0 then "." ++ padded 3 (n / 1000000)
  else if n % 1000 = 0 then "." ++ padded 6 (n / 1000)
  else "." ++ padded 9 n

def text (t : Instant) : String :=
  let d := t.date
  let c := t.clock
  let second := if c.isLeap then c.second + 1 else c.second
  yearText d.year ++ "-" ++ padded 2 d.month ++ "-" ++ padded 2 d.day ++ "T"
    ++ padded 2 c.hour ++ ":" ++ padded 2 c.minute ++ ":" ++ padded 2 second
    ++ fractionText c.nanosecond ++ "Z"

end Instant

end Inquiry.Time
