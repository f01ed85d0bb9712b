import ServerManagement.Calendar.Date

/-!
Days and their dates. The date that is made for the number of a day is a date of the calendar, and
its number is the one that it was made for. Years are counted from March here, so that a leap day is
the last day of its year.
-/

set_option autoImplicit false

namespace ServerManagement.Calendar

/-! ## Years that start in March -/

def daysBefore (year : Int) : Int := year * 365 + year / 4 - year / 100 + year / 400

theorem daysBefore_add_era (year era : Int) :
    daysBefore (year + era * 400) = daysBefore year + era * daysOfEra := by
  simp only [daysBefore, daysOfEra]
  omega

/-- A year that starts in March ends with the leap day of the year after it. -/
theorem daysBefore_succ (year : Int) :
    daysBefore (year + 1) = daysBefore year + 365 + if isLeap (year + 1) then 1 else 0 := by
  simp only [daysBefore, isLeap, Bool.and_eq_true, Bool.or_eq_true, beq_iff_eq, bne_iff_ne]
  split <;> omega

def spread (day : Int) : Int := day - day / 1460 + day / 36524 - day / 146096

theorem spread_mono {day later : Int} (order : day ≤ later) : spread day ≤ spread later := by
  simp only [spread]
  omega

theorem le_spread_daysBefore : ∀ year : Nat, year < 400 →
    (year : Int) * 365 ≤ spread (daysBefore year) := by
  decide +kernel

theorem spread_daysBefore_succ_lt : ∀ year : Nat, year < 400 →
    spread (daysBefore (year + 1) - 1) < ((year : Int) + 1) * 365 := by
  decide +kernel

/-- The year of an era in which a day lies. As `spread` does not decrease, only the first and the
last days of the years have to be looked at. -/
theorem yearOfEra_spec {day : Int} (low : 0 ≤ day) (high : day < daysOfEra) :
    ∃ year : Nat, year < 400 ∧ spread day / 365 = year ∧ daysBefore year ≤ day ∧
      day < daysBefore (year + 1) := by
  have first : spread 0 ≤ spread day := spread_mono low
  have last : spread day ≤ spread 146096 := spread_mono (Int.lt_add_one_iff.mp high)
  have whole : spread 146096 = 145999 := rfl
  obtain ⟨year, same⟩ :=
    Int.eq_ofNat_of_zero_le (Int.ediv_nonneg first (by decide : (0 : Int) ≤ 365))
  have within : year < 400 := by omega
  refine ⟨year, within, same, Int.not_lt.mp fun before => ?_, Int.not_le.mp fun after => ?_⟩
  · cases year with
    | zero => exact absurd low (Int.not_le.mpr before)
    | succ year =>
        have early := spread_mono (Int.le_sub_one_of_lt before)
        have bound := spread_daysBefore_succ_lt year (Nat.lt_of_succ_lt within)
        rw [Int.natCast_succ] at early same
        omega
  · have late := spread_mono after
    have more : year + 1 < 400 := by
      refine Nat.lt_of_le_of_ne within fun ends => ?_
      have past : daysBefore ((year : Int) + 1) = daysOfEra := by
        rw [← Int.natCast_succ, Nat.succ_eq_add_one, ends]
        rfl
      exact absurd high (Int.not_lt.mpr (past ▸ after))
    have bound := le_spread_daysBefore (year + 1) more
    rw [Int.natCast_succ] at bound
    omega

/-! ## Months and days -/

def marchLength (year month : Int) : Int :=
  if month = 11 then (if isLeap (year + 1) then 29 else 28)
  else if month = 1 ∨ month = 3 ∨ month = 6 ∨ month = 8 then 30 else 31

def Date.fromMarch (year month day : Int) : Date :=
  if month < 10 then ⟨year, (month + 3).toNat, day.toNat⟩
  else ⟨year + 1, (month - 9).toNat, day.toNat⟩

theorem Date.day_fromMarch (year month day : Int) :
    (Date.fromMarch year month day).day = day.toNat := by
  unfold fromMarch
  split <;> rfl

structure FromMarch (days year month day : Int) : Prop where
  months : 0 ≤ month ∧ month < 12
  length : 1 ≤ day ∧ day ≤ marchLength year month
  place : days + epochOffset = daysBefore year + (153 * month + 2) / 5 + day - 1

/-- Month and day by the place in the year. Five months in a row have 153 days. -/
theorem fromMarch_of_year {days year : Int} (starts : daysBefore year ≤ days + epochOffset)
    (ends : days + epochOffset < daysBefore (year + 1)) :
    let dayOfYear := days + epochOffset - daysBefore year
    let month := (5 * dayOfYear + 2) / 153
    FromMarch days year month (dayOfYear - (153 * month + 2) / 5 + 1) := by
  intro dayOfYear month
  rw [daysBefore_succ] at ends
  have months : 0 ≤ month ∧ month < 12 := by
    split at ends <;> omega
  refine ⟨months, ⟨by omega, ?_⟩, by omega⟩
  unfold marchLength
  split at ends <;> simp_all <;> omega

theorem monthLength_fromMarch {year month : Int} (day : Int) (low : 0 ≤ month)
    (high : month < 12) :
    (monthLength (Date.fromMarch year month day).year (Date.fromMarch year month day).month : Int) =
      marchLength year month := by
  unfold Date.fromMarch monthLength marchLength
  by_cases early : month < 10
  · have february : (month + 3).toNat ≠ 2 := by omega
    have last : month ≠ 11 := by omega
    simp only [early, if_true, february, last, if_false]
    split <;> split <;> omega
  · by_cases last : month = 11
    · subst last
      cases leap : isLeap (year + 1) <;> simp [leap]
    · obtain rfl : month = 10 := by omega
      rfl

theorem FromMarch.isValid {days year month day : Int} (known : FromMarch days year month day) :
    (Date.fromMarch year month day).isValid = true := by
  obtain ⟨⟨low, high⟩, ⟨first, last⟩, _⟩ := known
  rw [← monthLength_fromMarch day low high] at last
  have months : 1 ≤ (Date.fromMarch year month day).month ∧
      (Date.fromMarch year month day).month ≤ 12 := by
    unfold Date.fromMarch
    split <;> constructor <;> dsimp only <;> omega
  simp only [Date.isValid, Bool.and_eq_true, decide_eq_true_eq, months, Date.day_fromMarch,
    true_and]
  omega

theorem FromMarch.toDays {days year month day : Int} (known : FromMarch days year month day) :
    (Date.fromMarch year month day).toDays = days := by
  obtain ⟨⟨low, high⟩, ⟨first, _⟩, place⟩ := known
  simp only [daysBefore, epochOffset] at place
  unfold Date.fromMarch
  split
  · have late : ¬(month + 3).toNat ≤ 2 := by omega
    simp only [Date.toDays, late, if_false, Int.fdiv_eq_ediv, daysOfEra, epochOffset]
    omega
  · have early : (month - 9).toNat ≤ 2 := by omega
    simp only [Date.toDays, early, if_true, Int.fdiv_eq_ediv, daysOfEra, epochOffset]
    omega

/-! ## Dates of numbered days -/

theorem ofDays_eq_fromMarch (days : Int) :
    let era := (days + epochOffset) / daysOfEra
    let dayOfEra := days + epochOffset - era * daysOfEra
    let yearOfEra := spread dayOfEra / 365
    let dayOfYear := dayOfEra - (365 * yearOfEra + yearOfEra / 4 - yearOfEra / 100)
    let month := (5 * dayOfYear + 2) / 153
    Date.ofDays days =
      Date.fromMarch (yearOfEra + era * 400) month (dayOfYear - (153 * month + 2) / 5 + 1) := by
  simp only [Date.ofDays, Int.fdiv_eq_ediv_of_nonneg _ (by decide : 0 ≤ daysOfEra)]
  rfl

theorem exists_fromMarch (days : Int) : ∃ year month day, FromMarch days year month day ∧
    Date.ofDays days = Date.fromMarch year month day := by
  have computed := ofDays_eq_fromMarch days
  generalize eraIs : (days + epochOffset) / daysOfEra = era at computed
  have low : 0 ≤ days + epochOffset - era * daysOfEra := by
    simp only [daysOfEra] at *
    omega
  have high : days + epochOffset - era * daysOfEra < daysOfEra := by
    simp only [daysOfEra] at *
    omega
  obtain ⟨yearOfEra, within, same, starts, ends⟩ := yearOfEra_spec low high
  have before : daysBefore (yearOfEra + era * 400) = daysBefore yearOfEra + era * daysOfEra :=
    daysBefore_add_era ..
  have after : daysBefore (yearOfEra + era * 400 + 1) =
      daysBefore (yearOfEra + 1) + era * daysOfEra := by
    rw [← daysBefore_add_era, Int.add_right_comm]
  have dayOfYear : days + epochOffset - era * daysOfEra -
      (365 * (yearOfEra : Int) + yearOfEra / 4 - yearOfEra / 100) =
        days + epochOffset - daysBefore (yearOfEra + era * 400) := by
    rw [before]
    simp only [daysBefore]
    omega
  simp only [same, dayOfYear] at computed
  exact ⟨_, _, _, fromMarch_of_year (by omega) (by omega), computed⟩

theorem Date.isValid_ofDays (days : Int) : (Date.ofDays days).isValid = true := by
  obtain ⟨_, _, _, known, same⟩ := exists_fromMarch days
  exact same ▸ known.isValid

theorem Date.toDays_ofDays (days : Int) : (Date.ofDays days).toDays = days := by
  obtain ⟨_, _, _, known, same⟩ := exists_fromMarch days
  exact same ▸ known.toDays

end ServerManagement.Calendar
