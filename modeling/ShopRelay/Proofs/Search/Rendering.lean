import ShopRelay.Proofs.Time.Timestamp
import ShopRelay.Search.Rendering

/-!
The text of an instant in the search document is read as that instant, cut to whole microseconds.
-/

namespace ShopRelay.Time.Timestamp

/-- The instant without what is less than a microsecond. -/
def truncated (t : Timestamp) : Timestamp where
  seconds := t.seconds
  nanos := t.nanos / 1000 * 1000
  min_le := t.min_le
  lt_max := t.lt_max
  nanos_lt := Nat.lt_of_le_of_lt (Nat.div_mul_le_self t.nanos 1000) t.nanos_lt
  leap h := t.leap (Nat.le_trans h (Nat.div_mul_le_self t.nanos 1000))

/-- The two lie in the same microsecond, of the same second. -/
structure Agree (t u : Timestamp) : Prop where
  seconds : t.seconds = u.seconds
  micros : t.nanos / 1000 = u.nanos / 1000

/-- A second is a whole number of microseconds, a leap second too. -/
theorem clock_truncated (t : Timestamp) :
    t.truncated.clock = { t.clock with nanos := t.clock.nanos / 1000 * 1000 } := by
  have hleap : t.nanos / 1000 * 1000 / nanosPerSecond = t.nanos / nanosPerSecond := by
    unfold nanosPerSecond
    omega
  have hfraction : t.nanos / 1000 * 1000 % nanosPerSecond =
      t.nanos % nanosPerSecond / 1000 * 1000 := by
    unfold nanosPerSecond
    omega
  simp only [clock, truncated, hleap, hfraction]

theorem truncated_eq_iff {t u : Timestamp} : t.truncated = u.truncated ↔ t.Agree u := by
  constructor
  · intro h
    have hseconds : t.truncated.seconds = u.truncated.seconds := by rw [h]
    have hnanos : t.truncated.nanos = u.truncated.nanos := by rw [h]
    simp only [truncated] at hseconds hnanos
    exact ⟨hseconds, by omega⟩
  · rintro ⟨hseconds, hmicros⟩
    simp only [truncated, hseconds, hmicros]

end ShopRelay.Time.Timestamp

namespace ShopRelay.Search

open Text (paddedDigits)
open Time (Timestamp)
open Time.Timestamp (truncated)

/-- A point and six digits, or nothing at all when there are no nanoseconds. -/
inductive Fraction : Nat → List Char → Prop where
  | none : Fraction 0 []
  | micros {nanos : Nat} {ds : List Char} (hnanos : nanos ≠ 0) (hlength : ds.length = 6)
    (hdigits : ∀ c ∈ ds, c.isDigit = true) : Fraction nanos ('.' :: ds)

/-- The digits of a text after its first point, and the offset of universal time behind them. -/
def Renders (s : String) (nanos : Nat) : Prop :=
  ∃ whole fraction, s.toList = whole ++ fraction ++ "+00:00".toList ∧ '.' ∉ whole ∧
    Fraction nanos fraction

/-- What stands behind the seconds. -/
def fractionDigits (t : Timestamp) : List Char :=
  if t.nanos = 0 then [] else '.' :: paddedDigits 6 (t.clock.nanos / 1000)

theorem isoText_toList (t : Timestamp) : (isoText t).toList =
    t.clock.date.text ++ 'T' :: t.clock.timeText ++ fractionDigits t ++ "+00:00".toList :=
  String.toList_ofList

theorem micros_lt (t : Timestamp) : t.clock.nanos / 1000 < Nat.pow 10 6 := by
  obtain ⟨-, -, -, hnanos⟩ := t.clock_bounds
  unfold Time.nanosPerSecond at hnanos
  change t.clock.nanos / 1000 < 1000000
  omega

theorem fraction_fractionDigits (t : Timestamp) : Fraction t.nanos (fractionDigits t) := by
  unfold fractionDigits
  split
  · next hzero =>
    rw [hzero]
    exact .none
  · next hnanos =>
    exact .micros hnanos (Text.paddedDigits_length (by decide) (micros_lt t))
      fun _ => Text.isDigit_of_mem_paddedDigits

theorem renders_isoText (t : Timestamp) : Renders (isoText t) t.nanos := by
  refine ⟨_, fractionDigits t, isoText_toList t, ?_, fraction_fractionDigits t⟩
  have hdate : '.' ∉ t.clock.date.text :=
    t.clock.date.not_mem_text rfl (by decide) (by decide)
  have htime : '.' ∉ t.clock.timeText := t.clock.not_mem_timeText rfl (by decide)
  simp [hdate, htime]

theorem read_fractionDigits (t : Timestamp) :
    Time.Reader.fraction? (fractionDigits t ++ "+00:00".toList) =
      some (t.clock.nanos / 1000 * 1000, "+00:00".toList) := by
  unfold fractionDigits
  split
  · next hzero =>
    have hnone : t.clock.nanos = 0 := by simp [Timestamp.clock, hzero]
    rw [hnone]
    rfl
  · exact Time.Reader.fraction_padded (by decide) (by decide) (micros_lt t) rfl

theorem read_isoText (t : Timestamp) : Timestamp.read? (isoText t) = some t.truncated := by
  have hmark : ∃ c cs, fractionDigits t ++ "+00:00".toList = c :: cs ∧ c.isDigit = false := by
    unfold fractionDigits
    split
    · exact ⟨'+', _, rfl, rfl⟩
    · exact ⟨'.', _, rfl, rfl⟩
  rw [Timestamp.read?, isoText_toList,
    t.readChars_clock hmark (read_fractionDigits t) rfl, ← t.clock_truncated]
  exact t.truncated.toTimestamp_clock

/-- In the document an instant has six digits of its fraction, or none when it has no nanoseconds,
and the offset of universal time. What is read from there is the instant cut to microseconds, so two
instants are told apart exactly when they differ by then. -/
theorem instants_cut_to_micros (t : Timestamp) :
    Renders (isoText t) t.nanos ∧ Timestamp.read? (isoText t) = some t.truncated ∧
    ∀ u, Timestamp.read? (isoText t) = Timestamp.read? (isoText u) ↔ t.Agree u := by
  refine ⟨renders_isoText t, read_isoText t, fun u => ?_⟩
  rw [read_isoText, read_isoText, Option.some.injEq, Timestamp.truncated_eq_iff]

/-- Of the last nanosecond of a leap second the last three digits are cut off. -/
example : isoText ⟨1483228799, 1999999999, by decide, by decide, by decide, by decide⟩ =
    "2016-12-31T23:59:60.999999+00:00" := by
  decide +kernel

end ShopRelay.Search
