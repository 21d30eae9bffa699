import Mathlib.Tactic.IntervalCases
import PolyTrading.CommonTypes.Decimal
import PolyTrading.WindowEngine.Runtime

/-!
# The day of a journal file

`chrono_day` of `runtime.rs` takes whole years and then whole months off the days since 1970, and its text names
the journal file of a record.  `daysFromCivil` is the calendar it is compared with, in closed form; the two agree
from the epoch on, so that one file holds the records of one UTC day.
-/

namespace PolyTrading.WindowEngine

open CommonTypes (paddedDigits ofDigitChars_paddedDigits paddedDigits_length)

def leapYear (y : Int) : Bool := y % 4 = 0 ∧ (y % 100 ≠ 0 ∨ y % 400 = 0)

def yearDays (y : Int) : Int := if leapYear y then 366 else 365

theorem yearDays_pos (y : Int) : 0 < yearDays y := by
  unfold yearDays
  split <;> omega

/-- The `loop`: whole years are taken off while there is one. -/
def yearLoop (y rem : Int) : Int × Int :=
  if rem < yearDays y then (y, rem) else yearLoop (y + 1) (rem - yearDays y)
termination_by rem.toNat
decreasing_by
  have := yearDays_pos y
  omega

def monthDays (y : Int) : List Int :=
  [31, if leapYear y then 29 else 28, 31, 30, 31, 30, 31, 31, 30, 31, 30, 31]

/-- The `for` over the months that are left, the first of them the given one. -/
def monthLoop (month rem : Int) : List Int → Int × Int
  | [] => (month, rem)
  | len :: later => if rem < len then (month, rem) else monthLoop (month + 1) (rem - len) later

@[ext] structure CivilDate where
  year : Int
  month : Int
  day : Int

/-- `{value:0width}`, in which a sign takes a place. -/
def zeroPadded (width : Nat) (value : Int) : List Char :=
  if value < 0 then '-' :: paddedDigits (width - 1) value.natAbs else paddedDigits width value.natAbs

def CivilDate.text (date : CivilDate) : List Char :=
  zeroPadded 4 date.year ++ '-' :: (zeroPadded 2 date.month ++ '-' :: zeroPadded 2 date.day)

/-- The numbers that `chrono_day` writes. -/
def chronoDate (observedAtNs : Int) : CivilDate :=
  let years := yearLoop 1970 (journalDay observedAtNs)
  let months := monthLoop 1 years.2 (monthDays years.1)
  ⟨years.1, months.1, months.2 + 1⟩

def chronoDay (observedAtNs : Int) : String := String.ofList (chronoDate observedAtNs).text

/-- The components of the path. -/
def journalPathFor (journalDir : List String) (observedAtNs : Int) : List String :=
  journalDir ++ ["decisions-" ++ chronoDay observedAtNs ++ ".jsonl"]

/-! ### The calendar -/

def daysInMonth (year month : Int) : Int :=
  if month = 2 then (if leapYear year then 29 else 28)
  else if month = 4 ∨ month = 6 ∨ month = 9 ∨ month = 11 then 30 else 31

namespace CivilDate

structure Valid (date : CivilDate) : Prop where
  month : 1 ≤ date.month ∧ date.month ≤ 12
  day : 1 ≤ date.day ∧ date.day ≤ daysInMonth date.year date.month

/-- The days since the first of January 1970 in the proleptic Gregorian calendar.  The year is counted from March,
so that a leap day is the last of its year. -/
def daysFromCivil (date : CivilDate) : Int :=
  let y := if date.month ≤ 2 then date.year - 1 else date.year
  let m := if date.month ≤ 2 then date.month + 9 else date.month - 3
  365 * y + y / 4 - y / 100 + y / 400 + (153 * m + 2) / 5 + (date.day - 1) - 719468

/-- The order of dates: by the year, then by the month, then by the day. -/
def Before (a b : CivilDate) : Prop :=
  a.year < b.year ∨ a.year = b.year ∧ (a.month < b.month ∨ a.month = b.month ∧ a.day < b.day)

/-- The months from the first of the year 0 to that of the date. -/
def monthIndex (date : CivilDate) : Int := 12 * date.year + (date.month - 1)

end CivilDate

open CivilDate

def monthStart (n : Int) : Int := daysFromCivil ⟨n / 12, n % 12 + 1, 1⟩

theorem monthStart_succ (n : Int) : monthStart (n + 1) = monthStart n + daysInMonth (n / 12) (n % 12 + 1) := by
  obtain ⟨y, m, hm, rfl⟩ : ∃ y m : Int, (0 ≤ m ∧ m < 12) ∧ n = 12 * y + m := ⟨n / 12, n % 12, by omega, by omega⟩
  have hyear : (12 * y + m) / 12 = y := by omega
  have hmonth : (12 * y + m) % 12 = m := by omega
  unfold monthStart
  rw [hyear, hmonth]
  obtain ⟨hlow, hhigh⟩ := hm
  interval_cases m
  all_goals simp [daysFromCivil, daysInMonth, leapYear]
  all_goals omega

theorem monthStart_year (y : Int) : monthStart (12 * (y + 1)) = monthStart (12 * y) + yearDays y := by
  have hyear : ∀ y : Int, 12 * y / 12 = y ∧ 12 * y % 12 = 0 := by omega
  unfold monthStart yearDays
  rw [(hyear _).1, (hyear _).2, (hyear _).1, (hyear _).2]
  simp only [daysFromCivil, leapYear, decide_eq_true_eq]
  split <;> omega

theorem daysInMonth_pos (year month : Int) : 0 < daysInMonth year month := by
  unfold daysInMonth
  split_ifs <;> omega

theorem monthStart_le {m n : Int} (h : m ≤ n) : monthStart m ≤ monthStart n := by
  induction n, h using Int.leInduction with
  | base => exact Int.le_refl _
  | succ n _ ih =>
    have := monthStart_succ n
    have := daysInMonth_pos (n / 12) (n % 12 + 1)
    omega

namespace CivilDate

variable {a b date : CivilDate}

theorem Valid.within (h : date.Valid) : monthStart date.monthIndex ≤ date.daysFromCivil ∧
    date.daysFromCivil < monthStart (date.monthIndex + 1) ∧
    date.daysFromCivil = monthStart date.monthIndex + (date.day - 1) := by
  obtain ⟨⟨hlow, hhigh⟩, hfirst, hlast⟩ := h
  have hyear : date.monthIndex / 12 = date.year := by unfold monthIndex; omega
  have hmonth : date.monthIndex % 12 + 1 = date.month := by unfold monthIndex; omega
  have hstart : date.daysFromCivil = monthStart date.monthIndex + (date.day - 1) := by
    unfold monthStart
    rw [hyear, hmonth]
    dsimp only [daysFromCivil]
    omega
  have hnext := monthStart_succ date.monthIndex
  rw [hyear, hmonth] at hnext
  exact ⟨by omega, by omega, hstart⟩

theorem Valid.days_lt (ha : a.Valid) (hb : b.Valid) (h : a.Before b) : a.daysFromCivil < b.daysFromCivil := by
  obtain ⟨-, hend, hday⟩ := ha.within
  obtain ⟨hstart, -, hday'⟩ := hb.within
  have := ha.month
  have := hb.month
  rcases lt_or_eq_of_le (show a.monthIndex ≤ b.monthIndex by unfold monthIndex; rcases h with h | h <;> omega)
    with hlater | hsame
  · have := monthStart_le (show a.monthIndex + 1 ≤ b.monthIndex by omega)
    omega
  · rw [hsame] at hday
    unfold monthIndex at hsame
    rcases h with h | ⟨-, h | ⟨-, h⟩⟩ <;> omega

theorem Valid.eq_or_before (ha : a.Valid) (hb : b.Valid) (h : a.daysFromCivil ≤ b.daysFromCivil) :
    a = b ∨ a.Before b := by
  by_cases hbefore : b.Before a
  · have := hb.days_lt ha hbefore
    omega
  · by_cases hlater : a.Before b
    · exact .inr hlater
    · obtain ⟨y, m, d⟩ := a
      obtain ⟨y', m', d'⟩ := b
      simp only [Before] at hbefore hlater
      simp only [mk.injEq]
      omega

end CivilDate

theorem yearLoop_days {y rem : Int} (h : 0 ≤ rem) :
    monthStart (12 * (yearLoop y rem).1) + (yearLoop y rem).2 = monthStart (12 * y) + rem ∧
      (0 ≤ (yearLoop y rem).2 ∧ (yearLoop y rem).2 < yearDays (yearLoop y rem).1) ∧ y ≤ (yearLoop y rem).1 := by
  fun_induction yearLoop y rem with
  | case1 y rem hlast => exact ⟨rfl, ⟨h, hlast⟩, le_refl y⟩
  | case2 y rem hmore ih =>
      have hnext := monthStart_year y
      obtain ⟨hdays, hin, hyear⟩ := ih (by omega)
      exact ⟨by omega, hin, by omega⟩

/-- The loop over the months that are left of a year in which the day still is. -/
theorem monthLoop_days {y : Int} {lens : List Int} : ∀ {month rem : Int}, 1 ≤ month → month + lens.length = 13 →
    (∀ i (hi : i < lens.length), lens[i] = daysInMonth y (month + i)) → 0 ≤ rem →
    monthStart (12 * y + (month - 1)) + rem < monthStart (12 * (y + 1)) →
      let found := monthLoop month rem lens
      (1 ≤ found.1 ∧ found.1 ≤ 12) ∧ (0 ≤ found.2 ∧ found.2 < daysInMonth y found.1) ∧
        monthStart (12 * y + (found.1 - 1)) + found.2 = monthStart (12 * y + (month - 1)) + rem := by
  induction lens with
  | nil =>
      intro month rem _ hend _ hrem hyear
      -- past December there is no day of the year left
      rw [show 12 * y + (month - 1) = 12 * (y + 1) by simp at hend; omega] at hyear
      omega
  | cons len later ih =>
      intro month rem hfirst hend hlens hrem hyear
      have hlen := hlens 0 (by simp)
      simp only [List.length_cons, List.getElem_cons_zero, Nat.cast_zero, add_zero] at hend hlen
      have hindex : (12 * y + (month - 1)) / 12 = y ∧ (12 * y + (month - 1)) % 12 + 1 = month := by omega
      have hnext := monthStart_succ (12 * y + (month - 1))
      rw [hindex.1, hindex.2, show 12 * y + (month - 1) + 1 = 12 * y + (month + 1 - 1) by omega] at hnext
      by_cases hin : rem < len
      · simp only [monthLoop, if_pos hin]
        exact ⟨⟨hfirst, by omega⟩, ⟨hrem, hlen ▸ hin⟩, trivial⟩
      · simp only [monthLoop, if_neg hin]
        have hlater : ∀ i (hi : i < later.length), later[i] = daysInMonth y (month + 1 + i) := by
          intro i hi
          have hget := hlens (i + 1) (by simpa using hi)
          rw [List.getElem_cons_succ] at hget
          rw [hget, Nat.cast_succ, add_assoc, add_comm 1 (i : Int)]
        have hrest := ih (show 1 ≤ month + 1 by omega) (by omega) hlater (show 0 ≤ rem - len by omega) (by omega)
        exact ⟨hrest.1, hrest.2.1, by omega⟩

theorem monthDays_get {y : Int} {i : Nat} (hi : i < (monthDays y).length) :
    (monthDays y)[i] = daysInMonth y (1 + i) := by
  rw [show (monthDays y).length = 12 from rfl] at hi
  interval_cases i <;> simp [monthDays, daysInMonth]

/-- An instant since the epoch gets a date of the calendar, that of its day. -/
theorem chronoDate_days {observedAtNs : Int} (h : 0 ≤ observedAtNs) :
    (chronoDate observedAtNs).Valid ∧ (chronoDate observedAtNs).daysFromCivil = observedAtNs / 86400000000000 ∧
      0 ≤ (chronoDate observedAtNs).year := by
  have hday : journalDay observedAtNs = observedAtNs / 86400000000000 := by
    unfold journalDay
    rw [Int.tdiv_eq_ediv_of_nonneg h]
    omega
  have hepoch : monthStart (12 * 1970) = 0 := by decide
  unfold chronoDate
  obtain ⟨hdays, ⟨hrem, hlast⟩, hyear⟩ := @yearLoop_days 1970 (journalDay observedAtNs) (by omega)
  generalize yearLoop 1970 (journalDay observedAtNs) = years at *
  have hnext := monthStart_year years.1
  have hfirst : 12 * years.1 + (1 - 1) = 12 * years.1 := by omega
  obtain ⟨hmonth, hin, hmonths⟩ := monthLoop_days le_rfl rfl (fun i hi => monthDays_get hi) hrem
    (by rw [hfirst]; omega)
  have hvalid : CivilDate.Valid ⟨years.1, (monthLoop 1 years.2 (monthDays years.1)).1,
      (monthLoop 1 years.2 (monthDays years.1)).2 + 1⟩ := ⟨hmonth, by dsimp only; omega⟩
  refine ⟨hvalid, ?_, by dsimp only; omega⟩
  rw [hvalid.within.2.2]
  unfold monthIndex
  rw [hfirst] at hmonths
  dsimp only
  omega

theorem zeroPadded_injective {width : Nat} {a b : Int} (ha : 0 ≤ a) (hb : 0 ≤ b)
    (h : zeroPadded width a = zeroPadded width b) : a = b := by
  unfold zeroPadded at h
  rw [if_neg (by omega), if_neg (by omega)] at h
  have hvalue := congrArg (fun digits => Nat.ofDigitChars 10 digits 0) h
  simp only [ofDigitChars_paddedDigits] at hvalue
  omega

theorem zeroPadded_length {value : Int} (h : 0 ≤ value) (hlt : value < 100) : (zeroPadded 2 value).length = 2 := by
  unfold zeroPadded
  rw [if_neg (by omega), paddedDigits_length (by omega) (by omega)]

/-- Dates since the year 0 are told apart by their texts: the month and the day have two places each. -/
theorem CivilDate.text_injective {a b : CivilDate} (ha : a.Valid) (hb : b.Valid) (hayear : 0 ≤ a.year)
    (hbyear : 0 ≤ b.year) (h : a.text = b.text) : a = b := by
  have hplaces : ∀ {date : CivilDate}, date.Valid → (zeroPadded 2 date.month).length = 2 ∧
      (zeroPadded 2 date.day).length = 2 := by
    intro date hdate
    have hmonth := hdate.month
    have hday := hdate.day
    have hlen : daysInMonth date.year date.month ≤ 31 := by unfold daysInMonth; split_ifs <;> omega
    exact ⟨zeroPadded_length (by omega) (by omega), zeroPadded_length (by omega) (by omega)⟩
  obtain ⟨hamonth, haday⟩ := hplaces ha
  obtain ⟨hbmonth, hbday⟩ := hplaces hb
  unfold text at h
  obtain ⟨hyears, hrest⟩ := List.append_inj' h (by simp [hamonth, haday, hbmonth, hbday])
  obtain ⟨hmonths, hdays⟩ := List.append_inj (List.cons.inj hrest).2 (hamonth.trans hbmonth.symm)
  have hmonth := And.intro ha.month hb.month
  have hday := And.intro ha.day hb.day
  exact CivilDate.ext (zeroPadded_injective hayear hbyear hyears) (zeroPadded_injective (by omega) (by omega) hmonths)
    (zeroPadded_injective (by omega) (by omega) (List.cons.inj hdays).2)

/-- **The day of a journal file**: from the epoch on, the date is one of the calendar and that of the instant, dates
are in the order of the instants, and two records go to one file exactly if they fall on one UTC day. -/
theorem chronoDay_calendar {observedAtNs : Int} (h : 0 ≤ observedAtNs) :
    ((chronoDate observedAtNs).Valid ∧
      (chronoDate observedAtNs).daysFromCivil = observedAtNs / 86400000000000) ∧
      ∀ later, observedAtNs ≤ later →
        (chronoDate observedAtNs = chronoDate later ∨ (chronoDate observedAtNs).Before (chronoDate later)) ∧
        ∀ journalDir, journalPathFor journalDir observedAtNs = journalPathFor journalDir later ↔
          observedAtNs / 86400000000000 = later / 86400000000000 := by
  obtain ⟨hvalid, hdays, hyear⟩ := chronoDate_days h
  refine ⟨⟨hvalid, hdays⟩, fun later hlater => ?_⟩
  obtain ⟨hvalid', hdays', hyear'⟩ := chronoDate_days (h.trans hlater)
  have horder := hvalid.eq_or_before hvalid' (by rw [hdays, hdays']; exact Int.ediv_le_ediv (by decide) hlater)
  refine ⟨horder, fun journalDir => ⟨fun hpath => ?_, fun hday => ?_⟩⟩
  · have hname : chronoDay observedAtNs = chronoDay later := by
      simpa [journalPathFor, String.append_assoc] using hpath
    have htext := congrArg String.toList hname
    simp only [chronoDay, String.toList_ofList] at htext
    rw [← hdays, ← hdays', CivilDate.text_injective hvalid hvalid' hyear hyear' htext]
  · rcases horder with hsame | hbefore
    · unfold journalPathFor chronoDay
      rw [hsame]
    · have := hvalid.days_lt hvalid' hbefore
      omega

theorem chronoDay_leap_day : chronoDate 951782400000000000 = ⟨2000, 2, 29⟩ ∧
    chronoDay 951782400000000000 = "2000-02-29" := by
  obtain ⟨⟨hvalid, hdays⟩, -⟩ := @chronoDay_calendar 951782400000000000 (by decide)
  have hleap : CivilDate.Valid ⟨2000, 2, 29⟩ := ⟨by decide, by decide⟩
  have hdate : chronoDate 951782400000000000 = ⟨2000, 2, 29⟩ := by
    rcases hvalid.eq_or_before hleap (by rw [hdays]; decide) with hsame | hbefore
    · exact hsame
    · have hless := hvalid.days_lt hleap hbefore
      rw [hdays] at hless
      exact absurd hless (by decide)
  exact ⟨hdate, by rw [chronoDay, hdate]; decide⟩

end PolyTrading.WindowEngine
