/-!
Dates as a properties file states them. A moment is a number of seconds since the beginning of 1970;
the calendar is the Gregorian one, counted in periods of 400 years that begin on the first of March.
-/
namespace TestBench.Timestamp
set_option autoImplicit false

structure Day where
  year : Int
  month : Nat
  day : Nat
deriving DecidableEq, Repr

/-- Days from the first of March of the year 0 to the beginning of 1970. -/
def daysBefore1970 : Int := 719468

def periodDays : Int := 146097

/-- The day that is so many days after the beginning of 1970. -/
def dayOf (days : Int) : Day :=
  let shifted := days + daysBefore1970
  let period := shifted / periodDays
  let within := (shifted % periodDays).toNat
  let year := (within - within / 1460 + within / 36524 - within / 146096) / 365
  let dayOfYear := within - (365 * year + year / 4 - year / 100)
  let monthFromMarch := (5 * dayOfYear + 2) / 153
  let day := dayOfYear - (153 * monthFromMarch + 2) / 5 + 1
  let month := if monthFromMarch < 10 then monthFromMarch + 3 else monthFromMarch - 9
  ⟨period * 400 + year + (if month ≤ 2 then 1 else 0), month, day⟩

/-- The names of the days of the week, from the one on which 1970 began. -/
def weekdays : List String :=
  ["Thu", "Fri", "Sat", "Sun", "Mon", "Tue", "Wed"]

def months : List String :=
  ["Jan", "Feb", "Mar", "Apr", "May", "Jun", "Jul", "Aug", "Sep", "Oct", "Nov", "Dec"]

def twoDigits (value : Nat) : String :=
  toString (value / 10 % 10) ++ toString (value % 10)

def text (moment : Int) : String :=
  let days := moment / 86400
  let seconds := (moment % 86400).toNat
  let date := dayOf days
  weekdays.getD (days % 7).toNat "" ++ " " ++ months.getD (date.month - 1) "" ++ " "
    ++ twoDigits date.day ++ " " ++ twoDigits (seconds / 3600) ++ ":"
    ++ twoDigits (seconds / 60 % 60) ++ ":" ++ twoDigits (seconds % 60) ++ " UTC "
    ++ toString date.year

end TestBench.Timestamp
