import LinkMeter.Number.Basic

/-! # The calendar

Seconds since the start of 1970 as a date and a time of day in universal time. Years are counted from March, so the day
that a leap year adds is the last of its year, and 400 years always have the same number of days. -/

namespace LinkMeter.Log

/-- A day of the Gregorian calendar. -/
structure Date where
  year : Int
  month : Nat
  day : Nat
deriving DecidableEq

namespace Date

/-- The days from the first of March of the year 0 to the first day of 1970. -/
def epoch : Int := 719468

/-- The years of 400 that are over after a number of days. -/
def yearOfEra (day : Nat) : Nat := (day - day / 1460 + day / 36524 - day / 146096) / 365

/-- The days of 400 years, counted from March, before a year of them. -/
def daysBefore (year : Nat) : Nat := 365 * year + year / 4 - year / 100

/-- The day that lies a number of days after the first day of 1970. -/
def ofDays (days : Int) : Date :=
  let shifted := days + epoch
  let era := shifted.fdiv 146097
  let ofEra := (shifted.fmod 146097).toNat
  let year := yearOfEra ofEra
  let ofYear := ofEra - daysBefore year
  let march := (5 * ofYear + 2) / 153
  let day := ofYear - (153 * march + 2) / 5 + 1
  let month := if march < 10 then march + 3 else march - 9
  ⟨era * 400 + year + (if month ≤ 2 then 1 else 0), month, day⟩

/-- The date with the year first. -/
def toText (d : Date) : Text := .cat [.ofInt d.year, "-", .padded 2 d.month, "-", .padded 2 d.day]

example : (ofDays 0).toText = "1970-01-01" ∧ (ofDays 11016).toText = "2000-02-29" ∧
    (ofDays (-1)).toText = "1969-12-31" := by
  decide +kernel

end Date

/-- The second in which a time lies. -/
def secondOf : Number → Int
  | .int n => n
  | .float x => x.floor

/-- A second of universal time as text. -/
def stamp (seconds : Int) : Text :=
  let ofDay := (seconds.fmod 86400).toNat
  .cat [(Date.ofDays (seconds.fdiv 86400)).toText, " ", .padded 2 (ofDay / 3600), ":", .padded 2 (ofDay / 60 % 60), ":",
    .padded 2 (ofDay % 60)]

/-- The first and the last second that have a stamp: the years since 1900, and the year itself, take 32 bits at most. -/
def firstSecond : Int := -67768040609740800

def lastSecond : Int := 67767976233532799

/-- The stamp of a second, if it has one. -/
def stamp? (seconds : Int) : Option Text :=
  if firstSecond ≤ seconds ∧ seconds ≤ lastSecond then some (stamp seconds) else none

example : stamp 1709164799 = "2024-02-28 23:59:59" := by decide +kernel

end LinkMeter.Log
