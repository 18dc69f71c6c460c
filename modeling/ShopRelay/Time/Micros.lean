import ShopRelay.Time.Timestamp

/-!
Instants as a database keeps them: whole microseconds, counted from the start of the year 2000.
-/

namespace ShopRelay.Time

/-- The start of 2000 in seconds from the start of 1970. -/
def millennium : Int := 946684800

/-- Cut towards the start of 2000; a leap second runs into the next one. -/
def Timestamp.micros (t : Timestamp) : Int :=
  ((t.seconds - millennium) * nanosPerSecond + t.nanos).tdiv 1000

def Timestamp.ofMicros? (n : Int) : Option Timestamp :=
  Timestamp.ofParts? (millennium + n / 1000000) ((n % 1000000).toNat * 1000)

/-- The instant that is left of one when it has been kept. -/
def Timestamp.kept (t : Timestamp) : Timestamp := (Timestamp.ofMicros? t.micros).getD t

/-- The date, `T`, the time with six digits of its fraction, and `Z`. -/
def Timestamp.microsText (t : Timestamp) : String :=
  let c := t.clock
  String.ofList (c.date.text ++ 'T' :: c.timeText ++
    '.' :: Text.paddedDigits 6 (c.nanos / 1000) ++ ['Z'])

end ShopRelay.Time
