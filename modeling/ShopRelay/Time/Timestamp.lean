import ShopRelay.Time.Calendar
import ShopRelay.Text.Digits

/-!
Instants in universal time. A leap second is the second before it with an overlong fraction.
-/

namespace ShopRelay.Time

def nanosPerSecond : Nat := 1000000000

/-- Seconds from 1970-01-01T00:00:00, and nanoseconds. -/
structure Timestamp where
  seconds : Int
  nanos : Nat
  min_le : minDays * 86400 ≤ seconds
  lt_max : seconds < (maxDays + 1) * 86400
  nanos_lt : nanos < 2 * nanosPerSecond
  leap : nanosPerSecond ≤ nanos → seconds % 60 = 59
deriving DecidableEq

namespace Timestamp

def ofParts? (seconds : Int) (nanos : Nat) : Option Timestamp :=
  if h : minDays * 86400 ≤ seconds ∧ seconds < (maxDays + 1) * 86400 ∧
      nanos < 2 * nanosPerSecond ∧ (nanosPerSecond ≤ nanos → seconds % 60 = 59) then
    some ⟨seconds, nanos, h.1, h.2.1, h.2.2.1, h.2.2.2⟩
  else none

def epoch : Timestamp := ⟨0, 0, by decide, by decide, by decide, by decide⟩

end Timestamp

/-- A date and a time of day; a leap second is number 60. -/
structure Clock where
  date : Date
  hour : Nat
  minute : Nat
  second : Nat
  nanos : Nat
deriving DecidableEq, Repr

def Timestamp.clock (t : Timestamp) : Clock :=
  let ofDay := (t.seconds % 86400).toNat
  let leap := t.nanos / nanosPerSecond
  ⟨Date.ofDays (t.seconds / 86400), ofDay / 3600, ofDay / 60 % 60, ofDay % 60 + leap,
    t.nanos % nanosPerSecond⟩

/-- The instant at which a clock that is some seconds ahead of universal time shows a reading. -/
def Clock.toTimestamp? (c : Clock) (ahead : Int) : Option Timestamp := do
  guard (c.date.isValid && minYear ≤ c.date.year && c.date.year ≤ maxYear)
  guard (c.hour < 24 && c.minute < 60 && c.second ≤ 60 && c.nanos < nanosPerSecond)
  let leap := c.second / 60
  let ofDay : Nat := c.hour * 3600 + c.minute * 60 + (c.second - leap)
  Timestamp.ofParts? (c.date.toDays * 86400 + ofDay - ahead) (c.nanos + leap * nanosPerSecond)

/-- Four digits; other years need a sign. -/
def yearText (year : Int) : List Char :=
  if 0 ≤ year ∧ year ≤ 9999 then Text.paddedDigits 4 year.natAbs
  else (if year < 0 then '-' else '+') :: Text.paddedDigits 4 year.natAbs

def Date.text (d : Date) : List Char :=
  yearText d.year ++ '-' :: Text.paddedDigits 2 d.month ++ '-' :: Text.paddedDigits 2 d.day

def Clock.timeText (c : Clock) : List Char :=
  Text.paddedDigits 2 c.hour ++ ':' :: Text.paddedDigits 2 c.minute ++
    ':' :: Text.paddedDigits 2 c.second

/-- As few groups of three digits as hold the fraction. -/
def fractionText (nanos : Nat) : List Char :=
  if nanos = 0 then []
  else if nanos % 1000000 = 0 then '.' :: Text.paddedDigits 3 (nanos / 1000000)
  else if nanos % 1000 = 0 then '.' :: Text.paddedDigits 6 (nanos / 1000)
  else '.' :: Text.paddedDigits 9 nanos

/-- The date, `T`, the time, its fraction and `Z`. -/
def Timestamp.text (t : Timestamp) : String :=
  let c := t.clock
  String.ofList (c.date.text ++ 'T' :: c.timeText ++ fractionText c.nanos ++ ['Z'])

end ShopRelay.Time
