import WeDecent.Library.Calendar
import WeDecent.Library.Decimal

/-!
# Date and time of day as text

The common front of the ISO 8601 profiles, `YYYY-MM-DDThh:mm:ss`, for the years
from 0 to 9999. What may follow, a fraction and a zone, is left to each profile.
-/

namespace Timestamp

open Calendar Decimal

structure Clock where
  hour : Nat
  minute : Nat
  second : Nat
  hourHigh : hour ≤ 23
  minuteHigh : minute ≤ 59
  secondHigh : second ≤ 59

def Clock.seconds (c : Clock) : Nat := c.hour * 3600 + c.minute * 60 + c.second

/-- The time of day after a number of seconds. -/
def Clock.ofSeconds (n : Nat) : Clock where
  hour := n / 3600 % 24
  minute := n / 60 % 60
  second := n % 60
  hourHigh := by omega
  minuteHigh := by omega
  secondHigh := by omega

theorem Clock.seconds_ofSeconds {n : Nat} (h : n < 86400) : (ofSeconds n).seconds = n := by
  simp only [seconds, ofSeconds]
  omega

/-- What follows the year. -/
def afterYear (date : Date) (clock : Clock) : List UInt8 :=
  45 :: (padded 2 date.month ++ 45 :: (padded 2 date.day ++ 84 :: (padded 2 clock.hour ++
    58 :: (padded 2 clock.minute ++ 58 :: padded 2 clock.second))))

def text (date : Date) (clock : Clock) : List UInt8 :=
  padded 4 date.year.toNat ++ afterYear date clock

/-- Read a date and a time of day from the front. -/
def read (text : List UInt8) : Option (Date × Clock × List UInt8) := do
  let (year, text) ← field 4 0 9999 text
  let text ← expect 45 text
  let (month, text) ← field 2 1 12 text
  let text ← expect 45 text
  let (day, text) ← field 2 1 31 text
  let date ← Date.of? year month day
  let text ← expect 84 text
  let (hour, text) ← field 2 0 23 text
  let text ← expect 58 text
  let (minute, text) ← field 2 0 59 text
  let text ← expect 58 text
  let (second, text) ← field 2 0 59 text
  if h : hour ≤ 23 ∧ minute ≤ 59 ∧ second ≤ 59 then
    some (date, ⟨hour, minute, second, h.1, h.2.1, h.2.2⟩, text)
  else none

theorem day_le (date : Date) : date.day ≤ 31 := by
  have high := date.dayHigh
  unfold daysIn at high
  split_ifs at high <;> omega

theorem read_text {date : Date} (clock : Clock) (low : 0 ≤ date.year) (high : date.year ≤ 9999)
    (rest : List UInt8) : read (text date clock ++ rest) = some (date, clock, rest) := by
  have year : date.year.toNat ≤ 9999 := by omega
  have cast : ((date.year.toNat : Nat) : Int) = date.year := Int.toNat_of_nonneg low
  have month := date.monthHigh
  have day := day_le date
  have hour := clock.hourHigh
  have minute := clock.minuteHigh
  have second := clock.secondHigh
  simp only [read, text, afterYear, List.append_assoc, List.cons_append, bind, Option.bind_some,
    expect_cons, field_padded (show date.year.toNat < 10 ^ 4 by omega) (Nat.zero_le _) year,
    field_padded (show date.month < 10 ^ 2 by omega) date.monthLow month,
    field_padded (show date.day < 10 ^ 2 by omega) date.dayLow day,
    field_padded (show clock.hour < 10 ^ 2 by omega) (Nat.zero_le _) hour,
    field_padded (show clock.minute < 10 ^ 2 by omega) (Nat.zero_le _) minute,
    field_padded (show clock.second < 10 ^ 2 by omega) (Nat.zero_le _) second, cast,
    Date.of?_self]
  exact dif_pos ⟨hour, minute, second⟩

/-- The seconds from the beginning of 1970. -/
def seconds (date : Date) (clock : Clock) : Int := date.toDay * 86400 + clock.seconds

end Timestamp
