import Nayasetu.Values.Decimal

/-!
# Dates and times

The proleptic Gregorian calendar, and the two ways in which programs print an instant: one that
writes years outside 0 to 9999 with a sign and six digits, and one that writes the number of the
year in its era with at least four.

Years are counted from March, so that the leap day is the last day of its year.

The two ways agree on the years 1 to 9999 and nowhere else (`expandedText_eq_eraText_iff`): before
that the eras count differently, and behind it the one puts a sign before the year. Where texts
are hashed or signed on the one side and compared on the other, that is the whole difference
between the two.
-/

namespace Values

/-! ## Days

A day is a number counted from the first of January 1970. The computation goes through cycles of
400 years, centuries and cycles of four years, where the last century of a cycle and the last year
of four are longer by a day than the others; `days_marchOfDays` reads the day back, so different
days have different dates.
-/

/-- A day of a year that begins in March. -/
structure MarchDate where
  year : ℤ
  day : ℤ

def marchOfDays (days : ℤ) : MarchDate :=
  let z := days + 719468
  let r400 := z % 146097
  let n100 := min (r400 / 36524) 3
  let r100 := r400 - 36524 * n100
  let r4 := r100 % 1461
  let n1 := min (r4 / 365) 3
  { year := 400 * (z / 146097) + 100 * n100 + 4 * (r100 / 1461) + n1
    day := r4 - 365 * n1 }

/-- The day of a date, counted from 1970-01-01. -/
def MarchDate.days (date : MarchDate) : ℤ :=
  365 * date.year + date.year / 4 - date.year / 100 + date.year / 400 + date.day - 719468

/-- A day of a year is found in its four centuries, its century, its four years and its year. -/
theorem marchOfDays_digits (days : ℤ) : ∃ n400 n100 n4 n1 day : ℤ, (0 ≤ n100 ∧ n100 ≤ 3) ∧
    (0 ≤ n4 ∧ n4 ≤ 24) ∧ (0 ≤ n1 ∧ n1 ≤ 3) ∧ (0 ≤ day ∧ day ≤ 365) ∧
    marchOfDays days = ⟨400 * n400 + 100 * n100 + 4 * n4 + n1, day⟩ ∧
    days = 146097 * n400 + 36524 * n100 + 1461 * n4 + 365 * n1 + day - 719468 := by
  refine ⟨_, _, _, _, _, ?_, ?_, ?_, ?_, rfl, ?_⟩ <;> omega

/-- A day can be read back from its date. -/
theorem days_marchOfDays (days : ℤ) : (marchOfDays days).days = days := by
  obtain ⟨n400, n100, n4, n1, day, h100, h4, h1, -, hdate, hdays⟩ := marchOfDays_digits days
  rw [hdate, MarchDate.days]
  have h4' : (400 * n400 + 100 * n100 + 4 * n4 + n1) / 4 = 100 * n400 + 25 * n100 + n4 := by omega
  have h100' : (400 * n400 + 100 * n100 + 4 * n4 + n1) / 100 = 4 * n400 + n100 := by omega
  have h400' : (400 * n400 + 100 * n100 + 4 * n4 + n1) / 400 = n400 := by omega
  simp only [h4', h100', h400']
  omega

/-- A date of the calendar. -/
@[ext] structure CivilDate where
  year : ℤ
  month : ℕ
  day : ℕ
  deriving DecidableEq, Repr

/-- The months of a year from March have 153 days in every five. -/
def MarchDate.civil (date : MarchDate) : CivilDate :=
  let month := (5 * date.day + 2) / 153
  { year := if month < 10 then date.year else date.year + 1
    month := (if month < 10 then month + 3 else month - 9).toNat
    day := (date.day - (153 * month + 2) / 5 + 1).toNat }

theorem civil_bounds {date : MarchDate} (h : 0 ≤ date.day ∧ date.day ≤ 365) :
    date.civil.month < 10 ^ 2 ∧ date.civil.day < 10 ^ 2 := by
  simp only [MarchDate.civil]
  omega

theorem civil_inj {date date' : MarchDate} (h : 0 ≤ date.day ∧ date.day ≤ 365)
    (h' : 0 ≤ date'.day ∧ date'.day ≤ 365) (hcivil : date.civil = date'.civil) : date = date' := by
  simp only [MarchDate.civil, CivilDate.mk.injEq] at hcivil
  obtain ⟨hyear, hmonth, hday⟩ := hcivil
  cases date
  cases date'
  simp only [MarchDate.mk.injEq] at *
  omega

def civilOfDays (days : ℤ) : CivilDate := (marchOfDays days).civil

theorem march_day_bounds (days : ℤ) : 0 ≤ (marchOfDays days).day ∧
    (marchOfDays days).day ≤ 365 := by
  obtain ⟨n400, n100, n4, n1, day, -, -, -, hday, hdate, -⟩ := marchOfDays_digits days
  rw [hdate]
  exact hday

/-- Different days have different dates. -/
theorem civilOfDays_inj {days days' : ℤ} (h : civilOfDays days = civilOfDays days') :
    days = days' := by
  have hmarch := civil_inj (march_day_bounds days) (march_day_bounds days') h
  rw [← days_marchOfDays days, hmarch, days_marchOfDays]

/-- The years of 200 million days around 1970 have at most six digits. -/
theorem natAbs_year_civilOfDays {days : ℤ} (h : days.natAbs ≤ 100000000) :
    (civilOfDays days).year.natAbs < 10 ^ 6 := by
  obtain ⟨n400, n100, n4, n1, day, h100, h4, h1, hday, hdate, hdays⟩ := marchOfDays_digits days
  rw [civilOfDays, hdate]
  simp only [MarchDate.civil]
  split <;> omega

/-! ## Instants

An instant is a number of milliseconds: a day, and the fields of the time of day, which all have
their ranges.
-/

def utcDate (ms : ℤ) : CivilDate := civilOfDays (ms / 86400000)

/-- The fields of an instant in milliseconds, without its year. -/
def utcFields (ms : ℤ) : List Field :=
  [⟨'-', 2, (utcDate ms).month⟩, ⟨'-', 2, (utcDate ms).day⟩,
    ⟨'T', 2, (ms % 86400000 / 3600000).toNat⟩, ⟨':', 2, (ms % 3600000 / 60000).toNat⟩,
    ⟨':', 2, (ms % 60000 / 1000).toNat⟩, ⟨'.', 3, (ms % 1000).toNat⟩]

theorem utcFields_fit (ms : ℤ) : ∀ field ∈ utcFields ms, field.value < 10 ^ field.width := by
  obtain ⟨hmonth, hday⟩ := civil_bounds (march_day_bounds (ms / 86400000))
  simp only [utcFields, List.forall_mem_cons]
  refine ⟨hmonth, hday, ?_, ?_, ?_, ?_, List.forall_mem_nil _⟩ <;> norm_num <;> omega

/-- A remainder is its last part and the number of whole parts before it. -/
theorem emod_mul_eq {a b n k : ℤ} (hn : 0 < n) (hk : 0 < k) (h : a % n = b % n)
    (hparts : (a % (n * k) / n).toNat = (b % (n * k) / n).toNat) : a % (n * k) = b % (n * k) := by
  have hpos (c : ℤ) : 0 ≤ c % (n * k) / n :=
    Int.ediv_nonneg (Int.emod_nonneg c (mul_pos hn hk).ne') hn.le
  have hsplit (c : ℤ) : n * (c % (n * k) / n) + c % n = c % (n * k) := by
    have hdvd : c % (n * k) % n = c % n := Int.emod_emod_of_dvd c (Dvd.intro k rfl)
    rw [← hdvd, Int.mul_ediv_add_emod]
  have hwhole : a % (n * k) / n = b % (n * k) / n := by
    rw [← Int.toNat_of_nonneg (hpos a), hparts, Int.toNat_of_nonneg (hpos b)]
  rw [← hsplit a, ← hsplit b, h, hwhole]

theorem utc_inj {ms ms' : ℤ} (hyear : (utcDate ms).year = (utcDate ms').year)
    (hfields : (utcFields ms).map (·.value) = (utcFields ms').map (·.value)) : ms = ms' := by
  simp only [utcFields, List.map_cons, List.map_nil, List.cons.injEq, and_true] at hfields
  obtain ⟨hmonth, hday, hhour, hminute, hsecond, hms⟩ := hfields
  have hdays : ms / 86400000 = ms' / 86400000 :=
    civilOfDays_inj (CivilDate.ext hyear hmonth hday)
  have hms' : ms % 1000 = ms' % 1000 := by omega
  have hsecond' : ms % (1000 * 60) = ms' % (1000 * 60) :=
    emod_mul_eq (by decide) (by decide) hms' hsecond
  have hminute' : ms % (60000 * 60) = ms' % (60000 * 60) :=
    emod_mul_eq (by decide) (by decide) hsecond' hminute
  have htime : ms % (3600000 * 24) = ms' % (3600000 * 24) :=
    emod_mul_eq (by decide) (by decide) hminute' hhour
  have htime' : ms % 86400000 = ms' % 86400000 := htime
  rw [← Int.mul_ediv_add_emod ms 86400000, hdays, htime', Int.mul_ediv_add_emod]

/-- An instant after its year. -/
def utcRest (ms : ℤ) : List Char := fieldsText (utcFields ms) ++ ['Z']

theorem length_utcRest (ms ms' : ℤ) : (utcRest ms).length = (utcRest ms').length := by
  have hwidths : (utcFields ms).map (·.width) = (utcFields ms').map (·.width) := rfl
  rw [utcRest, utcRest, List.length_append, List.length_append, length_fieldsText hwidths]

/-! ## Years -/

/-- A year of four digits, or with a sign and six. -/
def expandedYear (year : ℤ) : List Char :=
  if 0 ≤ year ∧ year ≤ 9999 then zeroPadded 4 year.natAbs
  else (if year < 0 then '-' else '+') :: zeroPadded 6 year.natAbs

/-- The number of a year in its era; the year before 1 is the first one before the era. -/
def yearInEra (year : ℤ) : ℕ := if year ≤ 0 then (1 - year).natAbs else year.natAbs

/-- The number of a year in its era, with at least four digits. -/
def eraYear (year : ℤ) : List Char :=
  if yearInEra year < 10 ^ 4 then zeroPadded 4 (yearInEra year) else Nat.toDigits 10
    (yearInEra year)

theorem isDigit_of_mem_eraYear {year : ℤ} {c : Char} (h : c ∈ eraYear year) : c.isDigit = true := by
  rw [eraYear] at h
  split at h
  · exact isDigit_of_mem_zeroPadded h
  · exact Nat.isDigit_of_mem_toDigits (by decide) (by decide) h

theorem expandedYear_eq_eraYear_iff {year : ℤ} :
    expandedYear year = eraYear year ↔ 1 ≤ year ∧ year ≤ 9999 := by
  constructor
  · intro h
    rw [expandedYear] at h
    split at h
    next hyear =>
      refine ⟨?_, hyear.2⟩
      by_contra hzero
      obtain rfl : year = 0 := by omega
      exact absurd h (by decide)
    next =>
      have hdigit : (if year < 0 then '-' else '+').isDigit = true :=
        isDigit_of_mem_eraYear (h ▸ List.mem_cons_self)
      split at hdigit
      · exact absurd hdigit (by decide)
      · exact absurd hdigit (by decide)
  · intro h
    have hera : yearInEra year = year.natAbs := if_neg (by omega)
    rw [expandedYear, if_pos (by omega), eraYear, hera, if_pos (by omega)]

theorem expandedYear_inj {year year' : ℤ} (h : year.natAbs < 10 ^ 6) (h' : year'.natAbs < 10 ^ 6)
    (heq : expandedYear year = expandedYear year') : year = year' := by
  have hlength (y : ℤ) : (expandedYear y).length = if 0 ≤ y ∧ y ≤ 9999 then 4 else 7 := by
    rw [expandedYear]
    split <;> simp
  have hlengths : (if 0 ≤ year ∧ year ≤ 9999 then 4 else 7) =
      if 0 ≤ year' ∧ year' ≤ 9999 then 4 else 7 := by
    rw [← hlength, heq, hlength]
  by_cases hyear : 0 ≤ year ∧ year ≤ 9999
  · have hyear' : 0 ≤ year' ∧ year' ≤ 9999 := by
      by_contra hne
      rw [if_pos hyear, if_neg hne] at hlengths
      exact absurd hlengths (by decide)
    rw [expandedYear, if_pos hyear, expandedYear, if_pos hyear'] at heq
    have := zeroPadded_inj (by omega) (by omega) heq
    omega
  · have hyear' : ¬ (0 ≤ year' ∧ year' ≤ 9999) := by
      intro hpos
      rw [if_neg hyear, if_pos hpos] at hlengths
      exact absurd hlengths (by decide)
    rw [expandedYear, if_neg hyear, expandedYear, if_neg hyear'] at heq
    obtain ⟨hsign, hpadded⟩ := List.cons.inj heq
    have hnatAbs := zeroPadded_inj h h' hpadded
    have hneg : year < 0 ↔ year' < 0 := by
      by_cases hy : year < 0 <;> by_cases hy' : year' < 0 <;> simp [hy, hy'] at hsign ⊢
    omega

/-! ## Texts of instants

Behind the year both texts are the same fields of fixed widths, so that the texts of two instants
agree just when their years are printed alike and the fields are equal.
-/

def expandedText (ms : ℤ) : List Char := expandedYear (utcDate ms).year ++ utcRest ms

def eraText (ms : ℤ) : List Char := eraYear (utcDate ms).year ++ utcRest ms

/-- The two texts of an instant agree in the years 1 to 9999, and only there. -/
theorem expandedText_eq_eraText_iff {ms : ℤ} :
    expandedText ms = eraText ms ↔ 1 ≤ (utcDate ms).year ∧ (utcDate ms).year ≤ 9999 := by
  rw [expandedText, eraText, List.append_left_inj, expandedYear_eq_eraYear_iff]

/-- Instants within 100 million days of 1970 have different texts. -/
theorem expandedText_inj {ms ms' : ℤ} (h : ms.natAbs ≤ 8640000000000000)
    (h' : ms'.natAbs ≤ 8640000000000000) (heq : expandedText ms = expandedText ms') : ms = ms' := by
  obtain ⟨hyear, hrest⟩ := List.append_inj' heq (length_utcRest ms ms')
  have hbound {t : ℤ} (ht : t.natAbs ≤ 8640000000000000) : (utcDate t).year.natAbs < 10 ^ 6 :=
    natAbs_year_civilOfDays (by omega)
  have hfields := (List.append_inj' hrest rfl).1
  exact utc_inj (expandedYear_inj (hbound h) (hbound h') hyear)
    (fieldsText_inj rfl (utcFields_fit ms) (utcFields_fit ms') hfields)

theorem length_utcRest_eq (ms : ℤ) : (utcRest ms).length = 20 := by
  rw [length_utcRest ms 0]
  decide

theorem length_expandedText_le (ms : ℤ) : (expandedText ms).length ≤ 27 := by
  have hyear : (expandedYear (utcDate ms).year).length ≤ 7 := by
    rw [expandedYear]
    split <;> simp
  rw [expandedText, List.length_append, length_utcRest_eq]
  omega

theorem length_eraText_le {ms : ℤ} (h : ms.natAbs ≤ 8640000000000000) :
    (eraText ms).length ≤ 27 := by
  have hbound : (utcDate ms).year.natAbs < 10 ^ 6 := natAbs_year_civilOfDays (by omega)
  have hera : yearInEra (utcDate ms).year < 10 ^ 7 := by
    rw [yearInEra]
    split <;> omega
  have hyear : (eraYear (utcDate ms).year).length ≤ 7 := by
    rw [eraYear]
    split
    · rw [length_zeroPadded]
      decide
    · exact (Nat.length_toDigits_le_iff (by decide) (by decide)).mpr hera
  rw [eraText, List.length_append, length_utcRest_eq]
  omega

example : String.ofList (expandedText 1767225600000) = "2026-01-01T00:00:00.000Z" := by decide

end Values
