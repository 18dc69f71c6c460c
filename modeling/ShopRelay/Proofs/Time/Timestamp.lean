import Mathlib.Data.List.TakeWhile
import Mathlib.Data.Option.Basic
import ShopRelay.Proofs.Text.Digits
import ShopRelay.Proofs.Time.Calendar
import ShopRelay.Time.Reader

/-!
An instant reads back from its text, leap seconds and years of any length included.
-/

namespace ShopRelay.Time

open Text (ofDigits paddedDigits)

namespace Reader

variable {c : Char} {ds rest : List Char} {n : Nat}

theorem isBlank_digit (hc : c.isDigit = true) : Text.isBlank c = false := by
  simp only [Char.isDigit, Bool.and_eq_true, decide_eq_true_eq] at hc
  have hne (d : Char) (hd : ¬('0' ≤ d ∧ d ≤ '9')) : (c == d) = false := by
    rw [beq_eq_false_iff_ne]
    rintro rfl
    exact hd hc
  have hreturn : ¬c ≤ '\r' := fun h => absurd (Char.le_trans hc.1 h) (by decide)
  have hquad : ¬ '\u2000' ≤ c := fun h => absurd (Char.le_trans h hc.2) (by decide)
  simp [Text.isBlank, hne, hreturn, hquad]

theorem skipBlanks_digit (hc : c.isDigit = true) : skipBlanks (c :: rest) = c :: rest := by
  rw [skipBlanks, List.dropWhile_cons_of_neg (by simp [isBlank_digit hc])]

theorem number_digits {width : Nat} (hne : ds ≠ []) (hds : ∀ c ∈ ds, c.isDigit = true)
    (hlength : ds.length ≤ width) (hc : c.isDigit = false) :
    number? width (ds ++ c :: rest) = some (ofDigits ds, c :: rest) := by
  have htake : ((ds ++ c :: rest).take width).takeWhile Char.isDigit = ds := by
    obtain ⟨n, rfl⟩ := Nat.exists_eq_add_of_le hlength
    rw [List.take_length_add_append, List.takeWhile_append_of_pos hds]
    cases n with
    | zero => simp
    | succ n => simp [hc]
  unfold number?
  rw [htake]
  split
  · exact absurd rfl hne
  · rw [List.drop_left]

theorem padded_cons (width n : Nat) :
    ∃ d ds, paddedDigits width n = d :: ds ∧ d.isDigit = true := by
  obtain ⟨d, ds, hcons⟩ :=
    List.exists_cons_of_ne_nil (Text.paddedDigits_ne_nil : paddedDigits width n ≠ [])
  exact ⟨d, ds, hcons, Text.isDigit_of_mem_paddedDigits (hcons ▸ List.mem_cons_self)⟩

theorem number_padded {width least : Nat} (hlength : (paddedDigits least n).length ≤ width)
    (hc : c.isDigit = false) :
    number? width (paddedDigits least n ++ c :: rest) = some (n, c :: rest) := by
  rw [number_digits Text.paddedDigits_ne_nil (fun _ => Text.isDigit_of_mem_paddedDigits) hlength hc,
    Text.ofDigits_paddedDigits]

theorem part_padded (h : n < 100) (hc : c.isDigit = false) :
    part? (paddedDigits 2 n ++ c :: rest) = some (n, c :: rest) := by
  have hlength : (paddedDigits 2 n).length = 2 := Text.paddedDigits_length (by decide) h
  obtain ⟨d, ds, hcons, hd⟩ := padded_cons 2 n
  rw [part?, ← number_padded (Nat.le_of_eq hlength) hc, hcons, List.cons_append,
    skipBlanks_digit hd]

/-- A year without a sign has at most four digits. -/
theorem year_unsigned (hc : c.isDigit = true) (cs : List Char) :
    year? (c :: cs) = (number? 4 (c :: cs)).map fun read => ((read.1 : Int), read.2) := by
  unfold year?
  rw [skipBlanks_digit hc]
  split
  · next heq =>
    rw [(List.cons.inj heq).1] at hc
    cases hc
  · next heq =>
    rw [(List.cons.inj heq).1] at hc
    cases hc
  · cases number? 4 (c :: cs) with
    | none => rfl
    | some read => rfl

theorem year_minus (cs : List Char) :
    year? ('-' :: cs) = (number? cs.length cs).map fun read => (-(read.1 : Int), read.2) := by
  have hskip : skipBlanks ('-' :: cs) = '-' :: cs := rfl
  rw [year?, hskip, Option.map_eq_bind]
  rfl

theorem year_plus (cs : List Char) :
    year? ('+' :: cs) = (number? cs.length cs).map fun read => ((read.1 : Int), read.2) := by
  have hskip : skipBlanks ('+' :: cs) = '+' :: cs := rfl
  rw [year?, hskip, Option.map_eq_bind]
  rfl

theorem year_text (year : Int) (hc : c.isDigit = false) :
    year? (yearText year ++ c :: rest) = some (year, c :: rest) := by
  have hread {width : Nat} (hlength : (paddedDigits 4 year.natAbs).length ≤ width) :
      number? width (paddedDigits 4 year.natAbs ++ c :: rest) = some (year.natAbs, c :: rest) :=
    number_padded hlength hc
  unfold yearText
  by_cases hshort : 0 ≤ year ∧ year ≤ 9999
  · have hfits : year.natAbs < 10000 := by omega
    have hlength : (paddedDigits 4 year.natAbs).length = 4 :=
      Text.paddedDigits_length (by decide) hfits
    have hvalue : (year.natAbs : Int) = year := by omega
    obtain ⟨d, ds, hcons, hd⟩ := padded_cons 4 year.natAbs
    rw [if_pos hshort, hcons, List.cons_append, year_unsigned hd, ← List.cons_append, ← hcons,
      hread (Nat.le_of_eq hlength), Option.map_some, hvalue]
  · rw [if_neg hshort]
    by_cases hneg : year < 0
    · have hvalue : -(year.natAbs : Int) = year := by omega
      rw [if_pos hneg, List.cons_append, year_minus, hread (by simp), Option.map_some, hvalue]
    · have hvalue : (year.natAbs : Int) = year := by omega
      rw [if_neg hneg, List.cons_append, year_plus, hread (by simp), Option.map_some, hvalue]

/-- The digits after a point, up to nine. -/
theorem fraction_padded {width : Nat} (hwidth : 0 < width) (hle : width ≤ 9)
    (h : n < Nat.pow 10 width) (hc : c.isDigit = false) :
    fraction? ('.' :: paddedDigits width n ++ c :: rest) =
      some (n * Nat.pow 10 (9 - width), c :: rest) := by
  have hds : ∀ c ∈ paddedDigits width n, c.isDigit = true :=
    fun _ => Text.isDigit_of_mem_paddedDigits
  have hlength : (paddedDigits width n).length = width := Text.paddedDigits_length hwidth h
  have htake : (paddedDigits width n ++ c :: rest).takeWhile Char.isDigit =
      paddedDigits width n := by
    rw [List.takeWhile_append_of_pos hds, List.takeWhile_cons_of_neg (by simp [hc]),
      List.append_nil]
  have hdrop : (paddedDigits width n ++ c :: rest).dropWhile Char.isDigit = c :: rest := by
    rw [List.dropWhile_append_of_pos hds, List.dropWhile_cons_of_neg (by simp [hc])]
  have hfilled : (!(paddedDigits width n).isEmpty) = true := by
    simp [Text.paddedDigits_ne_nil]
  have hguard : (guard ((!(paddedDigits width n).isEmpty) = true) : Option Unit) = some () :=
    if_pos hfilled
  have hall : (paddedDigits width n).take 9 = paddedDigits width n :=
    List.take_of_length_le (by omega)
  have hvalue : ofDigits (paddedDigits width n) = n := Text.ofDigits_paddedDigits
  rw [List.cons_append, fraction?, htake, hdrop, hguard, hall]
  change some (ofDigits (paddedDigits width n) *
    Nat.pow 10 (9 - (paddedDigits width n).length), c :: rest) = _
  rw [hvalue, hlength]

theorem fraction_text (h : n < nanosPerSecond) (rest : List Char) :
    fraction? (fractionText n ++ 'Z' :: rest) = some (n, 'Z' :: rest) := by
  have hZ : 'Z'.isDigit = false := by decide
  have hread (width : Nat) (hwidth : 0 < width) (hle : width ≤ 9) {m : Nat}
      (hfits : m < Nat.pow 10 width) (hvalue : m * Nat.pow 10 (9 - width) = n) :
      fraction? ('.' :: paddedDigits width m ++ 'Z' :: rest) = some (n, 'Z' :: rest) := by
    rw [fraction_padded hwidth hle hfits hZ, hvalue]
  unfold nanosPerSecond at h
  unfold fractionText
  split
  · next hzero =>
    rw [hzero]
    rfl
  · split
    · have hfits : n / 1000000 < 1000 := by omega
      have hvalue : n / 1000000 * 1000000 = n := by omega
      exact hread 3 (by decide) (by decide) hfits hvalue
    · split
      · have hfits : n / 1000 < 1000000 := by omega
        have hvalue : n / 1000 * 1000 = n := by omega
        exact hread 6 (by decide) (by decide) hfits hvalue
      · exact hread 9 (by decide) (by decide) h (Nat.mul_one n)

/-- A fraction, or the mark after it, ends the seconds. -/
theorem fraction_cons (n : Nat) (rest : List Char) :
    ∃ c cs, fractionText n ++ 'Z' :: rest = c :: cs ∧ c.isDigit = false := by
  unfold fractionText
  split
  · exact ⟨'Z', rest, rfl, rfl⟩
  · split
    · exact ⟨'.', _, rfl, rfl⟩
    · split
      · exact ⟨'.', _, rfl, rfl⟩
      · exact ⟨'.', _, rfl, rfl⟩

end Reader

/-- A date holds digits and signs. -/
theorem Date.not_mem_text (d : Date) {c : Char} (hdigit : c.isDigit = false) (hplus : c ≠ '+')
    (hminus : c ≠ '-') : c ∉ d.text := by
  have hpadded {width n : Nat} : c ∉ paddedDigits width n := Text.not_mem_paddedDigits hdigit
  have hyear : c ∉ yearText d.year := by
    unfold yearText
    split
    · exact hpadded
    · split <;> simp [hpadded, hplus, hminus]
  simp [Date.text, hyear, hpadded, hminus]

theorem Clock.not_mem_timeText (clock : Clock) {c : Char} (hdigit : c.isDigit = false)
    (hcolon : c ≠ ':') : c ∉ clock.timeText := by
  have hpadded {width n : Nat} : c ∉ paddedDigits width n := Text.not_mem_paddedDigits hdigit
  simp [Clock.timeText, hpadded, hcolon]

/-- The parts of a reading and the marks between them, one after the other. -/
theorem Clock.chars_eq (c : Clock) (fraction rest : List Char) :
    c.date.text ++ 'T' :: c.timeText ++ fraction ++ rest =
      yearText c.date.year ++ '-' :: (paddedDigits 2 c.date.month ++ '-' ::
        (paddedDigits 2 c.date.day ++ 'T' :: (paddedDigits 2 c.hour ++ ':' ::
          (paddedDigits 2 c.minute ++ ':' :: (paddedDigits 2 c.second ++
            (fraction ++ rest)))))) := by
  simp only [Date.text, Clock.timeText, List.append_assoc, List.cons_append]

/-- A valid reading is turned into the seconds and nanoseconds that it counts. -/
theorem Clock.toTimestamp_of_valid {c : Clock} (hdate : c.date.isValid = true)
    (hfirst : minYear ≤ c.date.year) (hlast : c.date.year ≤ maxYear) (hhour : c.hour < 24)
    (hminute : c.minute < 60) (hsecond : c.second ≤ 60) (hnanos : c.nanos < nanosPerSecond)
    (ahead : Int) : c.toTimestamp? ahead =
      Timestamp.ofParts? (c.date.toDays * 86400 +
        (c.hour * 3600 + c.minute * 60 + (c.second - c.second / 60) : Nat) - ahead)
        (c.nanos + c.second / 60 * nanosPerSecond) := by
  have hvalid : (c.date.isValid && minYear ≤ c.date.year && c.date.year ≤ maxYear) = true := by
    simp [hdate, hfirst, hlast]
  have htime : (c.hour < 24 && c.minute < 60 && c.second ≤ 60 && c.nanos < nanosPerSecond) =
      true := by
    simp [hhour, hminute, hsecond, hnanos]
  have hguard {b : Bool} (h : b = true) : (guard (b = true) : Option Unit) = some () := if_pos h
  rw [toTimestamp?, hguard hvalid, hguard htime]
  rfl

namespace Timestamp

theorem clock_bounds (t : Timestamp) : t.clock.hour < 24 ∧ t.clock.minute < 60 ∧
    t.clock.second ≤ 60 ∧ t.clock.nanos < nanosPerSecond := by
  obtain ⟨seconds, nanos, hmin, hmax, hnanos, hleap⟩ := t
  unfold clock nanosPerSecond at *
  dsimp only
  omega

/-- The clock shows the instant, a leap second as number 60. -/
theorem toTimestamp_clock (t : Timestamp) : t.clock.toTimestamp? 0 = some t := by
  obtain ⟨hhour, hminute, hsecond, hfraction⟩ := t.clock_bounds
  obtain ⟨seconds, nanos, hmin, hmax, hnanos, hleap⟩ := t
  obtain ⟨hfirst, hlast⟩ :=
    Date.year_ofDays (by omega : minDays ≤ seconds / 86400) (by omega : seconds / 86400 ≤ maxDays)
  have hcarry : ((seconds % 86400).toNat % 60 + nanos / nanosPerSecond) / 60 =
      nanos / nanosPerSecond := by
    unfold nanosPerSecond at *
    omega
  have hseconds : seconds / 86400 * 86400 + ((seconds % 86400).toNat / 3600 * 3600 +
      (seconds % 86400).toNat / 60 % 60 * 60 + ((seconds % 86400).toNat % 60 +
        nanos / nanosPerSecond - nanos / nanosPerSecond) : Nat) - 0 = seconds := by
    omega
  have hsum : nanos % nanosPerSecond + nanos / nanosPerSecond * nanosPerSecond = nanos := by
    rw [Nat.mul_comm, Nat.mod_add_div]
  have hparts : ofParts? seconds nanos = some ⟨seconds, nanos, hmin, hmax, hnanos, hleap⟩ :=
    dif_pos ⟨hmin, hmax, hnanos, hleap⟩
  rw [Clock.toTimestamp_of_valid (Date.isValid_ofDays _) hfirst hlast hhour hminute hsecond
    hfraction]
  unfold clock
  dsimp only
  rw [Date.toDays_ofDays, hcarry, hseconds, hsum, hparts]

open Reader in
/-- The instant of a reading in universal time, from its parts and the marks between them. -/
theorem readChars_of_parts {cs afterYear afterMonth afterDay afterHour afterMinute afterSecond
    zone : List Char} {year : Int} {month day hour minute second nanos : Nat}
    (hyear : year? cs = some (year, '-' :: afterYear))
    (hmonth : part? afterYear = some (month, '-' :: afterMonth))
    (hday : part? afterMonth = some (day, 'T' :: afterDay))
    (hhour : part? afterDay = some (hour, ':' :: afterHour))
    (hminute : part? afterHour = some (minute, ':' :: afterMinute))
    (hsecond : part? afterMinute = some (second, afterSecond))
    (hnanos : fraction? afterSecond = some (nanos, zone))
    (hzone : offset? (skipBlanks zone) = some (0, [])) :
    readChars? cs = Clock.toTimestamp? ⟨⟨year, month, day⟩, hour, minute, second, nanos⟩ 0 := by
  have hdash {cs : List Char} : mark? '-' ('-' :: cs) = some cs := rfl
  have hcolon {cs : List Char} : mark? ':' (':' :: cs) = some cs := rfl
  have hT {cs : List Char} : separator? ('T' :: cs) = some cs := rfl
  have hnext {α β : Type} (x : α) (f : α → Option β) : (some x >>= f) = f x := rfl
  simp only [readChars?, hyear, hmonth, hday, hhour, hminute, hsecond, hnanos, hdash, hcolon, hT,
    hzone, hnext]
  rfl

/-- The reading of an instant's clock is read again, with whatever fraction stands behind it. -/
theorem readChars_clock (t : Timestamp) {fraction zone : List Char} {nanos : Nat}
    (hmark : ∃ c cs, fraction ++ zone = c :: cs ∧ c.isDigit = false)
    (hnanos : Reader.fraction? (fraction ++ zone) = some (nanos, zone))
    (hzone : Reader.offset? (Reader.skipBlanks zone) = some (0, [])) :
    readChars? (t.clock.date.text ++ 'T' :: t.clock.timeText ++ fraction ++ zone) =
      Clock.toTimestamp? { t.clock with nanos } 0 := by
  obtain ⟨hhour, hminute, hsecond, -⟩ := t.clock_bounds
  obtain ⟨hmonth, hday⟩ : t.clock.date.month < 100 ∧ t.clock.date.day < 100 :=
    Date.lt_hundred (Date.isValid_ofDays (t.seconds / 86400))
  obtain ⟨mark, rest, hrest, hdigit⟩ := hmark
  have hlast : Reader.part? (paddedDigits 2 t.clock.second ++ (fraction ++ zone)) =
      some (t.clock.second, fraction ++ zone) := by
    rw [hrest]
    exact Reader.part_padded (by omega) hdigit
  rw [Clock.chars_eq]
  exact readChars_of_parts (Reader.year_text t.clock.date.year rfl)
    (Reader.part_padded hmonth rfl) (Reader.part_padded hday rfl)
    (Reader.part_padded (by omega : t.clock.hour < 100) rfl)
    (Reader.part_padded (by omega : t.clock.minute < 100) rfl) hlast hnanos hzone

/-- An instant is what its text is read as. -/
theorem read_text (t : Timestamp) : read? t.text = some t := by
  obtain ⟨-, -, -, hfraction⟩ := t.clock_bounds
  rw [read?, text, String.toList_ofList, readChars_clock t
    (Reader.fraction_cons t.clock.nanos []) (Reader.fraction_text hfraction []) rfl]
  exact t.toTimestamp_clock

end Timestamp

end ShopRelay.Time
