/-!
# Instants

An instant is a number of seconds since 1970 and a part of a second. The seconds lie in the years
that a calendar date is given for, -262143 to 262142. `Instant.rfc3339` writes an instant to the
second.
-/

namespace IdentityToken

/-- A point in time: the whole seconds since the start of 1970 and the rest in units of `10⁻⁹`
seconds. A leap second is counted in the part of the second before it. -/
structure Instant where
  seconds : Int
  nanos : Nat := 0
  inRange : -8334601228800 ≤ seconds ∧ seconds ≤ 8210266876799
  nanos_lt : nanos < 2000000000 := by decide
deriving DecidableEq

namespace Instant

/-- The instant of a number of seconds, if there is a date for it. -/
def ofSeconds? (seconds : Int) : Option Instant :=
  if h : -8334601228800 ≤ seconds ∧ seconds ≤ 8210266876799 then some { seconds, inRange := h }
  else none

def of? (seconds : Int) (nanos : Nat) : Option Instant :=
  if h : -8334601228800 ≤ seconds ∧ seconds ≤ 8210266876799 then
    if h' : nanos < 2000000000 then some ⟨seconds, nanos, h, h'⟩ else none
  else none

structure Date where
  year : Int
  month : Nat
  day : Nat
deriving DecidableEq

/-- The date of a day, counted from the start of 1970. Years are counted from March, so that a leap
day ends its year, and in spans of 400 years, which all have the same number of days. -/
def Date.ofDays (days : Int) : Date :=
  let shifted := days + 719468
  let span := shifted.fdiv 146097
  let inSpan := (shifted.fmod 146097).toNat
  let yearInSpan := (inSpan - inSpan / 1460 + inSpan / 36524 - inSpan / 146096) / 365
  let inYear := inSpan - (365 * yearInSpan + yearInSpan / 4 - yearInSpan / 100)
  let fromMarch := (5 * inYear + 2) / 153
  let day := inYear - (153 * fromMarch + 2) / 5 + 1
  let month := if fromMarch < 10 then fromMarch + 3 else fromMarch - 9
  let year : Int := yearInSpan + 400 * span
  ⟨if month ≤ 2 then year + 1 else year, month, day⟩

/-- A natural in decimal with zeros in front up to a width. -/
def padded (width n : Nat) : String :=
  let ds := Nat.toDigits 10 n
  String.ofList (List.replicate (width - ds.length) '0' ++ ds)

/-- A year: four digits, or beyond these with its sign. -/
def Date.yearText (year : Int) : String :=
  if 0 ≤ year ∧ year ≤ 9999 then padded 4 year.toNat
  else if year < 0 then "-" ++ padded 4 year.natAbs
  else "+" ++ padded 4 year.natAbs

def rfc3339 (t : Instant) : String :=
  let date := Date.ofDays (t.seconds.fdiv 86400)
  let time := (t.seconds.fmod 86400).toNat
  let second := time % 60 + t.nanos / 1000000000
  Date.yearText date.year ++ "-" ++ padded 2 date.month ++ "-" ++ padded 2 date.day ++ "T"
    ++ padded 2 (time / 3600) ++ ":" ++ padded 2 (time / 60 % 60) ++ ":" ++ padded 2 second ++ "Z"

example : (Instant.ofSeconds? 0).map rfc3339 = some "1970-01-01T00:00:00Z" := by decide +kernel
example : (Instant.ofSeconds? 951782400).map rfc3339 = some "2000-02-29T00:00:00Z" := by
  decide +kernel
example : (Instant.ofSeconds? (-1)).map rfc3339 = some "1969-12-31T23:59:59Z" := by decide +kernel
example : (Instant.ofSeconds? 253402300800).map rfc3339 = some "+10000-01-01T00:00:00Z" := by
  decide +kernel

end Instant

end IdentityToken
