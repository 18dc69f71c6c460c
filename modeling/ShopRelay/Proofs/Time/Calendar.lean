import ShopRelay.Time.Calendar

/-!
Every count of days is a date of the calendar, and the date counts the same days.
-/

namespace ShopRelay.Time

/-- A day of an era of 400 years: the centuries, the spans of four years and the years that are
over, and the days since. Years begin in March, so only a leap day has 365 days before it. -/
structure EraDay where
  century : Nat
  span : Nat
  year : Nat
  day : Nat
  century_lt : century < 4
  span_lt : span < 25
  year_lt : year < 4
  day_le : day ≤ 365
  leap : day = 365 → year = 3 ∧ (span = 24 → century = 3)

namespace EraDay

variable (e : EraDay)

def yearOfEra : Nat := 100 * e.century + 4 * e.span + e.year

def dayOfEra : Nat := 36524 * e.century + 1461 * e.span + 365 * e.year + e.day

/-- The month of the day, March being 0. -/
def month : Nat := (5 * e.day + 2) / 153

theorem exists_dayOfEra {n : Nat} (h : n < 146097) : ∃ e : EraDay, e.dayOfEra = n := by
  -- the last day of an era does not begin a fifth century, nor that of a span a fifth year
  have hcentury : ∃ c m, n = 36524 * c + m ∧ c < 4 ∧ m ≤ 36524 ∧ (m = 36524 → c = 3) := by
    by_cases hlast : n = 146096
    · exact ⟨3, 36524, by omega, by omega, by omega, by omega⟩
    · exact ⟨n / 36524, n % 36524, by omega, by omega, by omega, by omega⟩
  obtain ⟨c, m, hm, hc, hle, hlast⟩ := hcentury
  have hyear : ∃ r d, m % 1461 = 365 * r + d ∧ r < 4 ∧ d ≤ 365 ∧ (d = 365 → r = 3) := by
    by_cases hlast : m % 1461 = 1460
    · exact ⟨3, 365, by omega, by omega, by omega, by omega⟩
    · exact ⟨m % 1461 / 365, m % 1461 % 365, by omega, by omega, by omega, by omega⟩
  obtain ⟨r, d, hd, hr, hday, hleap⟩ := hyear
  refine ⟨⟨c, m / 1461, r, d, hc, by omega, hr, hday, by omega⟩, ?_⟩
  simp only [dayOfEra]
  omega

theorem dayOfEra_lt : e.dayOfEra < 146097 := by
  obtain ⟨c, q, r, d, hc, hq, hr, hd, hleap⟩ := e
  simp only [dayOfEra]
  omega

theorem yearOfEra_lt : e.yearOfEra < 400 := by
  obtain ⟨c, q, r, d, hc, hq, hr, hd, hleap⟩ := e
  simp only [yearOfEra]
  omega

theorem days_of_years :
    365 * e.yearOfEra + e.yearOfEra / 4 - e.yearOfEra / 100 + e.day = e.dayOfEra := by
  obtain ⟨c, q, r, d, hc, hq, hr, hd, hleap⟩ := e
  simp only [yearOfEra, dayOfEra]
  omega

/-- Without its leap days the era has years of 365 days. -/
theorem yearOfEra_eq : (e.dayOfEra - e.dayOfEra / 1460 + e.dayOfEra / 36524 -
    e.dayOfEra / 146096) / 365 = e.yearOfEra := by
  obtain ⟨c, q, r, d, hc, hq, hr, hd, hleap⟩ := e
  simp only [yearOfEra, dayOfEra]
  generalize hn : 36524 * c + 1461 * q + 365 * r + d = n
  -- a span is a day longer than 1460 days, which tells at the end of a late one
  have hspans : n / 1460 =
      25 * c + q + if d = 0 then 0 else (24 * c + q + 365 * r + d) / 1460 := by
    split <;> omega
  have hcenturies : n / 36524 = c + if d = 365 ∧ q = 24 then 1 else 0 := by
    split <;> omega
  have heras : n / 146096 = if d = 365 ∧ q = 24 then 1 else 0 := by
    split <;> omega
  rw [hspans, hcenturies, heras]
  by_cases hlast : d = 365
  · obtain ⟨rfl, hcentury⟩ := hleap hlast
    split <;> omega
  · split <;> omega

theorem month_lt : e.month < 12 := by
  have hd := e.day_le
  simp only [month]
  omega

end EraDay

/-- January and February belong to the calendar year after the one that began in March. -/
theorem Date.ofDays_eq (era : Int) (e : EraDay) :
    Date.ofDays (era * 146097 + e.dayOfEra - 719468) =
      ⟨if e.month < 10 then e.yearOfEra + era * 400 else e.yearOfEra + era * 400 + 1,
        if e.month < 10 then e.month + 3 else e.month - 9,
        e.day - (153 * e.month + 2) / 5 + 1⟩ := by
  have hlt := e.dayOfEra_lt
  have hera : (era * 146097 + e.dayOfEra - 719468 + 719468) / 146097 = era := by omega
  have hday : ((era * 146097 + e.dayOfEra - 719468 + 719468) % 146097).toNat = e.dayOfEra := by
    omega
  have hstart : e.dayOfEra - (365 * e.yearOfEra + e.yearOfEra / 4 - e.yearOfEra / 100) = e.day := by
    have h := e.days_of_years
    omega
  have hmonth := e.month_lt
  unfold Date.ofDays
  dsimp only
  rw [hera, hday, e.yearOfEra_eq, hstart, ← EraDay.month]
  congr 1
  split <;> split <;> omega

theorem exists_eraDay (days : Int) :
    ∃ (era : Int) (e : EraDay), days = era * 146097 + e.dayOfEra - 719468 := by
  obtain ⟨e, he⟩ := EraDay.exists_dayOfEra (by omega : ((days + 719468) % 146097).toNat < 146097)
  exact ⟨(days + 719468) / 146097, e, by omega⟩

theorem Date.toDays_ofDays (days : Int) : (Date.ofDays days).toDays = days := by
  obtain ⟨era, e, rfl⟩ := exists_eraDay days
  rw [Date.ofDays_eq]
  have hyear := e.yearOfEra_lt
  have hstart := e.days_of_years
  have hmonth := e.month_lt
  have hday : (153 * e.month + 2) / 5 ≤ e.day := by
    simp only [EraDay.month]
    omega
  unfold Date.toDays
  dsimp only
  by_cases h : e.month < 10
  · simp only [if_pos h]
    rw [if_neg (by omega)]
    omega
  · simp only [if_neg h]
    rw [if_pos (by omega)]
    omega

/-- A day that its month has in every year. -/
theorem le_daysInMonth {d m : Nat} (hd : d < 365) (hm : m = (5 * d + 2) / 153) (year : Int) :
    d - (153 * m + 2) / 5 + 1 ≤ daysInMonth year (if m < 10 then m + 3 else m - 9) := by
  unfold daysInMonth
  by_cases h : m < 10
  · simp only [if_pos h]
    rw [if_neg (by omega)]
    split <;> omega
  · simp only [if_neg h]
    split
    · split <;> omega
    · rw [if_neg (by omega)]
      omega

theorem Date.isValid_ofDays (days : Int) : (Date.ofDays days).isValid = true := by
  obtain ⟨era, e, rfl⟩ := exists_eraDay days
  rw [Date.ofDays_eq]
  have hmonth := e.month_lt
  -- the leap day is the one day that its month does not have in every year
  by_cases hlast : e.day = 365
  · obtain ⟨hyear, hcentury⟩ := e.leap hlast
    have hspan := e.span_lt
    have hleap : isLeapYear ((e.yearOfEra : Int) + era * 400 + 1) = true := by
      simp [isLeapYear, EraDay.yearOfEra]
      omega
    simp [Date.isValid, daysInMonth, EraDay.month, hlast, hleap]
  · have hday := e.day_le
    have hle := le_daysInMonth (by omega : e.day < 365) rfl
      (if e.month < 10 then e.yearOfEra + era * 400 else e.yearOfEra + era * 400 + 1)
    simp only [Date.isValid, Bool.and_eq_true, decide_eq_true_eq]
    exact ⟨⟨⟨by split <;> omega, by split <;> omega⟩, by omega⟩, hle⟩

theorem Date.lt_hundred {d : Date} (h : d.isValid = true) : d.month < 100 ∧ d.day < 100 := by
  simp only [Date.isValid, Bool.and_eq_true, decide_eq_true_eq] at h
  have hlength : daysInMonth d.year d.month ≤ 31 := by
    unfold daysInMonth
    split
    · split <;> omega
    · split <;> omega
  omega

theorem Date.year_ofDays {days : Int} (low : minDays ≤ days) (high : days ≤ maxDays) :
    minYear ≤ (Date.ofDays days).year ∧ (Date.ofDays days).year ≤ maxYear := by
  have hmin : minDays = -96465292 := by decide
  have hmax : maxDays = 95026236 := by decide
  obtain ⟨era, e, rfl⟩ := exists_eraDay days
  rw [Date.ofDays_eq]
  dsimp only
  unfold minYear maxYear
  have hyear : e.yearOfEra = 100 * e.century + 4 * e.span + e.year := rfl
  have hday : e.dayOfEra = 36524 * e.century + 1461 * e.span + 365 * e.year + e.day := rfl
  have hmonth : e.month = (5 * e.day + 2) / 153 := rfl
  have hcentury := e.century_lt
  have hspan := e.span_lt
  have hrest := e.year_lt
  have hlast := e.day_le
  by_cases h : e.month < 10
  · simp only [if_pos h]
    omega
  -- the days end with a December, so the last year has no January
  · have hwinter : 306 ≤ e.day := by omega
    have hera : era ≤ 655 := by omega
    simp only [if_neg h]
    refine ⟨by omega, ?_⟩
    rcases (by omega : era = 655 ∨ era ≤ 654) with rfl | hbefore
    · omega
    · omega

end ShopRelay.Time
