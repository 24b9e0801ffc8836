import JudgingServer.Go.Text

/-! Database times have millisecond precision. A time counts milliseconds from
Go's zero time, the start of the year 1 in the proleptic Gregorian calendar. -/

namespace JudgingServer.Go

/-- `DATETIME(3)` and `time.Time` values, in milliseconds after the zero time. -/
abbrev Time := Nat

/-- `time.Duration`, in nanoseconds. -/
abbrev Duration := Int

/-- `DATE` values, in days after the zero time. -/
abbrev Day := Nat

def millisecond : Duration := 1000000

def second : Duration := 1000 * millisecond

def minute : Duration := 60 * second

def hour : Duration := 60 * minute

variable (time : Time)

/-- `time.Time.IsZero`. -/
def Time.isZero : Bool := time == 0

/-- `time.Time.Add` for a time that is stored in a `DATETIME(3)` column, which
rounds the sum to whole milliseconds. -/
def Time.add (duration : Duration) : Time := ((time : Int) + (duration + 500000) / millisecond).toNat

/-- A `time.Time` that need not be a database time, in nanoseconds after the zero time. -/
abbrev Instant := Int

def Time.instant : Instant := time * millisecond

/-- What a `DATETIME(3)` column keeps of an instant. -/
def Instant.stored (instant : Instant) : Time := ((instant + 500000) / millisecond).toNat

def Day.millis : Nat := 86400000

/-- Midnight at the start of the day. -/
def Day.start (day : Day) : Time := day * Day.millis

/-- `AddDate(0, 0, 1)` and `DATE_ADD(day, INTERVAL 1 DAY)`. -/
def Day.next (day : Day) : Day := day + 1

/-- The civil date of a day: year, month and day of the month. The year is taken
to start in March, so the leap day is its last one. -/
def Day.civil (day : Day) : Nat × Nat × Nat :=
  let shifted := day + 306
  let era := shifted / 146097
  let dayOfEra := shifted % 146097
  let yearOfEra := (dayOfEra - dayOfEra / 1460 + dayOfEra / 36524 - dayOfEra / 146096) / 365
  let dayOfYear := dayOfEra - (365 * yearOfEra + yearOfEra / 4 - yearOfEra / 100)
  let monthIndex := (5 * dayOfYear + 2) / 153
  let month := if monthIndex < 10 then monthIndex + 3 else monthIndex - 9
  (yearOfEra + era * 400 + (if month ≤ 2 then 1 else 0), month, dayOfYear - (153 * monthIndex + 2) / 5 + 1)

/-- `time.UTC().Format("2006-01-02T15:04:05.000Z")`. -/
def Time.format : GoString :=
  let (year, month, dayOfMonth) := Day.civil (time / Day.millis)
  let millis := time % Day.millis
  formatPadded 4 year ++ lit "-" ++ formatPadded 2 month ++ lit "-" ++ formatPadded 2 dayOfMonth ++ lit "T" ++
    formatPadded 2 (millis / 3600000) ++ lit ":" ++ formatPadded 2 (millis / 60000 % 60) ++ lit ":" ++
    formatPadded 2 (millis / 1000 % 60) ++ lit "." ++ formatPadded 3 (millis % 1000) ++ lit "Z"

end JudgingServer.Go
