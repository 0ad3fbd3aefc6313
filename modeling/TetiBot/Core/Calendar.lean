import TetiBot.Core.Validation
import TetiBot.Core.Dates

/-
The calendar behind the ISO texts, and their order.

* `civilFromDays_lt`: a later day has a later date; `daysFromCivil_civilFromDays`: a day is
  found again from its date.
* `toISOString_lt`: for years of four digits the texts are in the order of the times.
* `dateParse_toISOString`: such a text is read back.
-/

namespace TetiBot

open Library Library.JsString

/-! ### Days and dates -/

/-- The days of an era before one of its years; years start in March. -/
def yearStart (yearOfEra : Nat) : Nat := 365 * yearOfEra + yearOfEra / 4 - yearOfEra / 100

def yearOfEra (dayOfEra : Nat) : Nat :=
  (dayOfEra - dayOfEra / 1460 + dayOfEra / 36524 - dayOfEra / 146096) / 365

/-- The month, counted from March. -/
def monthOf (shifted : Nat) : Nat := if shifted < 10 then shifted + 3 else shifted - 9

lemma exists_century {dayOfEra : Nat} (h : dayOfEra < 146096) : ∃ century quad day,
    dayOfEra = 36524 * century + 1461 * quad + day ∧ century ≤ 3 ∧ quad ≤ 24 ∧ day ≤ 1460
      ∧ (quad = 24 → day ≤ 1459) :=
  ⟨dayOfEra / 36524, dayOfEra % 36524 / 1461, dayOfEra % 36524 % 1461, by omega, by omega,
    by omega, by omega, by omega⟩

/-- The year of a day, by its century, the four years in that, and its day in those. -/
lemma yearOfEra_eq {century quad day : Nat} (hcentury : century ≤ 3) (hquad : quad ≤ 24)
    (hday : day ≤ 1460) (hlast : quad = 24 → day ≤ 1459) :
    yearOfEra (36524 * century + 1461 * quad + day)
      = 100 * century + 4 * quad + min (day / 365) 3 := by
  have hcenturies : (36524 * century + 1461 * quad + day) / 36524 = century := by omega
  have heras : (36524 * century + 1461 * quad + day) / 146096 = 0 := by omega
  have hquads : (36524 * century + 1461 * quad + day) / 1460
      = 25 * century + quad + (24 * century + quad + day) / 1460 := by
    omega
  rw [yearOfEra, hcenturies, heras, hquads]
  -- a quotient by 1460 is one too large on the leap day, and on few days before it
  have hone : (24 * century + quad + day) / 1460 ≤ 1 := by omega
  have hzero : day ≤ 1363 → (24 * century + quad + day) / 1460 = 0 := by omega
  have hleap : day = 1460 → (24 * century + quad + day) / 1460 = 1 := by omega
  omega

lemma yearStart_eq {century quad year : Nat} (hquad : quad ≤ 24) (hyear : year ≤ 3) :
    yearStart (100 * century + 4 * quad + year) = 36524 * century + 1461 * quad + 365 * year := by
  have hquads : (100 * century + 4 * quad + year) / 4 = 25 * century + quad := by omega
  have hcenturies : (100 * century + 4 * quad + year) / 100 = century := by omega
  rw [yearStart, hquads, hcenturies]
  omega

lemma yearOfEra_spec {dayOfEra : Nat} (h : dayOfEra < 146097) :
    yearStart (yearOfEra dayOfEra) ≤ dayOfEra
      ∧ dayOfEra ≤ yearStart (yearOfEra dayOfEra) + 365 ∧ yearOfEra dayOfEra < 400 := by
  rcases Nat.lt_or_ge dayOfEra 146096 with hlt | hge
  · obtain ⟨century, quad, day, rfl, hcentury, hquad, hday, hlast⟩ := exists_century hlt
    have hyear : min (day / 365) 3 ≤ 3 := by omega
    rw [yearOfEra_eq hcentury hquad hday hlast, yearStart_eq hquad hyear]
    refine ⟨?_, ?_, ?_⟩ <;> omega
  · obtain rfl : dayOfEra = 146096 := by omega
    decide

lemma yearOfEra_mono {d e : Nat} (h : d < e) (he : e < 146097) : yearOfEra d ≤ yearOfEra e := by
  rcases Nat.lt_or_ge e 146096 with hlt | hge
  · rw [yearOfEra, yearOfEra]
    apply Nat.div_le_div_right
    omega
  · obtain rfl : e = 146096 := by omega
    exact Nat.le_of_lt_succ (yearOfEra_spec (by omega)).2.2

/-- A date from the era of its day, the year in that and the day in this year. -/
lemma civilFromDays_eq (days : Int) : ∃ (era : Int) (year day : Nat),
    days + 719468 = era * 146097 + yearStart year + day ∧ year < 400 ∧ day ≤ 365
      ∧ era = (days + 719468) / 146097 ∧ year = yearOfEra ((days + 719468) % 146097).toNat
      ∧ civilFromDays days
        = (era * 400 + year + (if monthOf ((5 * day + 2) / 153) ≤ 2 then 1 else 0),
          monthOf ((5 * day + 2) / 153), day - (153 * ((5 * day + 2) / 153) + 2) / 5 + 1) := by
  have hdays : ((days + 719468) % 146097).toNat < 146097 := by omega
  obtain ⟨hstart, hend, hyear⟩ := yearOfEra_spec hdays
  refine ⟨(days + 719468) / 146097, yearOfEra ((days + 719468) % 146097).toNat,
    ((days + 719468) % 146097).toNat - yearStart (yearOfEra ((days + 719468) % 146097).toNat),
    ?_, hyear, by omega, rfl, rfl, rfl⟩
  omega

/-- One date is before another. -/
def dateBefore (d e : Int × Nat × Nat) : Prop :=
  d.1 < e.1 ∨ d.1 = e.1 ∧ (d.2.1 < e.2.1 ∨ d.2.1 = e.2.1 ∧ d.2.2 < e.2.2)

/-- **A later day has a later date.** -/
lemma civilFromDays_lt {d e : Int} (h : d < e) :
    dateBefore (civilFromDays d) (civilFromDays e) := by
  obtain ⟨era, year, day, hd, hyear, hday, hera, hyearOf, hcivil⟩ := civilFromDays_eq d
  obtain ⟨era', year', day', hd', hyear', hday', hera', hyearOf', hcivil'⟩ := civilFromDays_eq e
  have hbefore : era < era' ∨ era = era' ∧ (year < year' ∨ year = year' ∧ day < day') := by
    rcases lt_or_eq_of_le (show era ≤ era' by omega) with hlt | rfl
    · exact .inl hlt
    · have hmono : year ≤ year' := by
        rw [hyearOf, hyearOf']
        exact yearOfEra_mono (by omega) (by omega)
      rcases lt_or_eq_of_le hmono with hlt | rfl
      · exact .inr ⟨rfl, .inl hlt⟩
      · exact .inr ⟨rfl, .inr ⟨rfl, by omega⟩⟩
  clear hyearOf hyearOf' hera hera' hd hd' h
  rw [hcivil, hcivil', dateBefore]
  simp only [monthOf]
  split_ifs <;> omega

/-- **A day is found again from its date.** -/
lemma daysFromCivil_civilFromDays (days : Int) :
    daysFromCivil (civilFromDays days).1 (civilFromDays days).2.1 (civilFromDays days).2.2
      = days := by
  obtain ⟨era, year, day, hdays, hyear, hday, -, -, hcivil⟩ := civilFromDays_eq days
  rw [hcivil, daysFromCivil]
  dsimp only
  generalize hshifted : (5 * day + 2) / 153 = shifted
  have hbefore : (153 * shifted + 2) / 5 ≤ day := by omega
  have hmonth : (if monthOf shifted ≤ 2 then monthOf shifted + 9 else monthOf shifted - 3)
      = shifted := by
    simp only [monthOf]
    split_ifs <;> omega
  have hyears : (if monthOf shifted ≤ 2
      then era * 400 + (year : Int) + (if monthOf shifted ≤ 2 then 1 else 0) - 1
      else era * 400 + (year : Int) + (if monthOf shifted ≤ 2 then 1 else 0))
      = era * 400 + year := by
    split_ifs <;> omega
  rw [hmonth, hyears]
  have hera : (era * 400 + (year : Int)) / 400 = era := by omega
  have hyearOf : ((era * 400 + (year : Int)) % 400).toNat = year := by omega
  rw [hera, hyearOf]
  rw [yearStart] at hdays
  omega

lemma civilFromDays_bounds (days : Int) :
    1 ≤ (civilFromDays days).2.1 ∧ (civilFromDays days).2.1 ≤ 12
      ∧ 1 ≤ (civilFromDays days).2.2 ∧ (civilFromDays days).2.2 ≤ 31 := by
  obtain ⟨era, year, day, -, -, hday, -, -, hcivil⟩ := civilFromDays_eq days
  rw [hcivil]
  simp only [monthOf]
  split_ifs <;> omega

/-! ### Texts in order -/

lemma append_lt_of_lt {a b c d : JsString} (h : a < b) (hlength : a.length = b.length) :
    a ++ c < b ++ d := by
  induction a generalizing b with
  | nil =>
    rw [List.length_nil, eq_comm, List.length_eq_zero_iff] at hlength
    rw [hlength] at h
    exact absurd h (List.not_lt_nil [])
  | cons u a ih =>
    cases b with
    | nil => simp at hlength
    | cons v b =>
      rw [List.cons_append, List.cons_append, List.cons_lt_cons_iff]
      rcases List.cons_lt_cons_iff.mp h with huv | ⟨huv, hab⟩
      · exact .inl huv
      · exact .inr ⟨huv, ih hab (by simpa using hlength)⟩

lemma append_lt_append_left (a : JsString) {c d : JsString} (h : c < d) : a ++ c < a ++ d := by
  induction a with
  | nil => exact h
  | cons u a ih => exact List.cons_lt_cons_iff.mpr (.inr ⟨rfl, ih⟩)

/-! ### Digits -/

lemma digit_toNat (n : Nat) : (digit n).toNat = 0x30 + n % 10 := by
  rw [digit, UInt16.toNat_add, Nat.toUInt16, UInt16.toNat_ofNat']
  have hzero : (0x30 : UInt16).toNat = 0x30 := rfl
  omega

variable {n : Nat}

lemma digit_lt {m : Nat} : digit m < digit n ↔ m % 10 < n % 10 := by
  rw [UInt16.lt_iff_toNat_lt, digit_toNat, digit_toNat]
  omega

lemma digit_inj {m : Nat} : digit m = digit n ↔ m % 10 = n % 10 := by
  rw [← UInt16.toNat_inj, digit_toNat, digit_toNat]
  omega

lemma isDigit_digit (n : Nat) : isDigit (digit n) = true := by
  simp only [isDigit, Bool.and_eq_true, decide_eq_true_eq, UInt16.le_iff_toNat_le, digit_toNat]
  have hzero : (0x30 : UInt16).toNat = 0x30 := rfl
  have hnine : (0x39 : UInt16).toNat = 0x39 := rfl
  omega

lemma threeDigits_eq (n : Nat) : threeDigits n = [digit (n / 100)] ++ twoDigits n := rfl

lemma fourDigits_eq (n : Nat) : fourDigits n = twoDigits (n / 100) ++ twoDigits n := by
  rw [fourDigits, twoDigits, Nat.div_div_eq_div_mul]
  rfl

lemma twoDigits_lt {m : Nat} (h : m % 100 < n % 100) : twoDigits m < twoDigits n := by
  simp only [twoDigits, List.cons_lt_cons_iff, digit_lt, digit_inj]
  omega

lemma threeDigits_lt {m : Nat} (hn : n < 1000) (h : m < n) : threeDigits m < threeDigits n := by
  rw [threeDigits_eq, threeDigits_eq]
  rcases lt_or_eq_of_le (show m / 100 ≤ n / 100 by omega) with hlt | heq
  · refine append_lt_of_lt (List.cons_lt_cons_iff.mpr (.inl (digit_lt.mpr ?_))) (by rfl)
    omega
  · rw [heq]
    exact append_lt_append_left _ (twoDigits_lt (by omega))

lemma fourDigits_lt {m : Nat} (hn : n < 10000) (h : m < n) : fourDigits m < fourDigits n := by
  rw [fourDigits_eq, fourDigits_eq]
  rcases lt_or_eq_of_le (show m / 100 ≤ n / 100 by omega) with hlt | heq
  · refine append_lt_of_lt (twoDigits_lt ?_) (by rfl)
    omega
  · rw [heq]
    exact append_lt_append_left _ (twoDigits_lt (by omega))

/-! ### The order of the ISO texts -/

/-- The first and the last time that are written with a year of four digits. -/
def firstIsoTime : Int := -62167219200000
def lastIsoTime : Int := 253402300799999

/-- The time is written with a year of four digits. -/
def IsoTime (t : Int) : Prop := firstIsoTime ≤ t ∧ t ≤ lastIsoTime

instance (t : Int) : Decidable (IsoTime t) := inferInstanceAs (Decidable (_ ∧ _))

lemma IsoTime.year {t : Int} (h : IsoTime t) : 0 ≤ (civilFromDays (t / 86400000)).1
    ∧ (civilFromDays (t / 86400000)).1 ≤ 9999 := by
  have hfirst : civilFromDays (-719528) = (0, 1, 1) := by decide +kernel
  have hlast : civilFromDays 2932896 = (9999, 12, 31) := by decide +kernel
  have hfirstTime : (-62167219200000 : Int) ≤ t := h.1
  have hlastTime : t ≤ (253402300799999 : Int) := h.2
  constructor
  · rcases lt_or_eq_of_le (show -719528 ≤ t / 86400000 by omega) with hlt | heq
    · have hbefore := civilFromDays_lt hlt
      simp only [hfirst, dateBefore] at hbefore
      omega
    · rw [← heq, hfirst]
  · rcases lt_or_eq_of_le (show t / 86400000 ≤ 2932896 by omega) with hlt | heq
    · have hbefore := civilFromDays_lt hlt
      simp only [hlast, dateBefore] at hbefore
      omega
    · rw [heq, hlast]

/-- The date of an ISO text, and its time of the day. -/
def isoDate (date : Int × Nat × Nat) : JsString :=
  fourDigits date.1.toNat ++ [0x2D] ++ twoDigits date.2.1 ++ [0x2D] ++ twoDigits date.2.2

def isoTime (ms : Nat) : JsString :=
  [0x54] ++ twoDigits (ms / 3600000) ++ [0x3A] ++ twoDigits (ms / 60000 % 60) ++ [0x3A]
    ++ twoDigits (ms / 1000 % 60) ++ [0x2E] ++ threeDigits (ms % 1000) ++ [0x5A]

lemma IsoTime.text {t : Int} (h : IsoTime t) : toISOString t
    = isoDate (civilFromDays (t / 86400000)) ++ isoTime (t % 86400000).toNat := by
  simp only [toISOString, isoYear, h.year, and_self, if_true, isoDate, isoTime, List.append_assoc]

lemma isoDate_lt {d e : Int × Nat × Nat} (hd : 0 ≤ d.1) (he : e.1 ≤ 9999)
    (hmonth : e.2.1 ≤ 12) (hday : e.2.2 ≤ 31) (h : dateBefore d e) : isoDate d < isoDate e := by
  obtain ⟨year, month, day⟩ := d
  obtain ⟨year', month', day'⟩ := e
  simp only [dateBefore] at *
  simp only [isoDate, List.append_assoc]
  rcases h with hyear | ⟨rfl, hmonthLt | ⟨rfl, hdayLt⟩⟩
  · refine append_lt_of_lt (fourDigits_lt ?_ ?_) (by rfl) <;> omega
  · refine append_lt_append_left _ (append_lt_append_left _
      (append_lt_of_lt (twoDigits_lt ?_) (by rfl)))
    omega
  · refine append_lt_append_left _ (append_lt_append_left _ (append_lt_append_left _
      (append_lt_append_left _ (twoDigits_lt ?_))))
    omega

lemma isoTime_lt {m : Nat} (hn : n < 86400000) (h : m < n) : isoTime m < isoTime n := by
  have hcases : m / 3600000 < n / 3600000 ∨ m / 3600000 = n / 3600000 ∧
      (m / 60000 % 60 < n / 60000 % 60 ∨ m / 60000 % 60 = n / 60000 % 60 ∧
        (m / 1000 % 60 < n / 1000 % 60 ∨ m / 1000 % 60 = n / 1000 % 60
          ∧ m % 1000 < n % 1000)) := by
    omega
  simp only [isoTime, List.append_assoc]
  apply append_lt_append_left
  rcases hcases with hhours | ⟨hhours, hrest⟩
  · exact append_lt_of_lt (twoDigits_lt (by omega)) (by rfl)
  rw [hhours]
  apply append_lt_append_left
  apply append_lt_append_left
  rcases hrest with hminutes | ⟨hminutes, hrest⟩
  · exact append_lt_of_lt (twoDigits_lt (by omega)) (by rfl)
  rw [hminutes]
  apply append_lt_append_left
  apply append_lt_append_left
  rcases hrest with hseconds | ⟨hseconds, hrest⟩
  · exact append_lt_of_lt (twoDigits_lt (by omega)) (by rfl)
  rw [hseconds]
  apply append_lt_append_left
  apply append_lt_append_left
  exact append_lt_of_lt (threeDigits_lt (Nat.mod_lt _ (by omega)) hrest) (by rfl)

/-- **A later time has a later text.** -/
theorem toISOString_lt {t u : Int} (ht : IsoTime t) (hu : IsoTime u) (h : t < u) :
    toISOString t < toISOString u := by
  rw [ht.text, hu.text]
  rcases lt_or_eq_of_le (show t / 86400000 ≤ u / 86400000 by omega) with hlt | heq
  · obtain ⟨-, hmonth, -, hday⟩ := civilFromDays_bounds (u / 86400000)
    exact append_lt_of_lt (isoDate_lt ht.year.1 hu.year.2 hmonth hday (civilFromDays_lt hlt))
      (by rfl)
  · rw [heq]
    exact append_lt_append_left _ (isoTime_lt (by omega) (by omega))

/-! ### Reading the ISO texts -/

lemma digitChar (n : Nat) : Char.ofNat (digit n).toNat = Nat.digitChar (n % 10) := by
  rw [digit_toNat]
  have hn : n % 10 < 10 := Nat.mod_lt _ (by omega)
  interval_cases n % 10 <;> rfl

lemma digitsValue_append (s : JsString) (n : Nat) :
    digitsValue (s ++ [digit n]) = digitsValue s * 10 + n % 10 := by
  have hvalue : (Nat.digitChar (n % 10)).toNat - '0'.toNat = n % 10 := by
    have hn : n % 10 < 10 := Nat.mod_lt _ (by omega)
    interval_cases n % 10 <;> rfl
  rw [digitsValue, digitsValue, List.map_append, Nat.ofDigitChars_append, List.map_singleton,
    digitChar, Nat.ofDigitChars_cons, hvalue, Nat.mul_comm]
  rfl

lemma digitsValue_twoDigits (n : Nat) : digitsValue (twoDigits n) = n % 100 := by
  have htwo : twoDigits n = [] ++ [digit (n / 10)] ++ [digit n] := rfl
  have hnil : digitsValue [] = 0 := rfl
  rw [htwo, digitsValue_append, digitsValue_append, hnil]
  omega

lemma digitsValue_threeDigits (n : Nat) : digitsValue (threeDigits n) = n % 1000 := by
  have hthree : threeDigits n = [] ++ [digit (n / 100)] ++ [digit (n / 10)] ++ [digit n] := rfl
  have hnil : digitsValue [] = 0 := rfl
  rw [hthree, digitsValue_append, digitsValue_append, digitsValue_append, hnil]
  omega

lemma digitsValue_fourDigits (n : Nat) : digitsValue (fourDigits n) = n % 10000 := by
  have hfour : fourDigits n = threeDigits (n / 10) ++ [digit n] := by
    rw [threeDigits, fourDigits, Nat.div_div_eq_div_mul, Nat.div_div_eq_div_mul]
    rfl
  rw [hfour, digitsValue_append, digitsValue_threeDigits]
  omega

lemma readUnit_cons (u : UInt16) (s : JsString) : readUnit u (u :: s) = some s := by
  rw [readUnit, if_pos rfl]

lemma readDigits_twoDigits (h : n < 100) (s : JsString) :
    readDigits 2 (twoDigits n ++ s) = some (n, s) := by
  have htake : (twoDigits n ++ s).take 2 = twoDigits n := rfl
  rw [readDigits, htake, if_pos ⟨rfl, by simp [twoDigits, isDigit_digit]⟩, digitsValue_twoDigits,
    Nat.mod_eq_of_lt h]
  rfl

lemma readDigits_fourDigits (h : n < 10000) (s : JsString) :
    readDigits 4 (fourDigits n ++ s) = some (n, s) := by
  have htake : (fourDigits n ++ s).take 4 = fourDigits n := rfl
  rw [readDigits, htake, if_pos ⟨rfl, by simp [fourDigits, isDigit_digit]⟩, digitsValue_fourDigits,
    Nat.mod_eq_of_lt h]
  rfl

lemma readSeconds_isoTime {seconds ms : Nat} (hseconds : seconds < 100) (hms : ms < 1000) :
    readSeconds (0x3A :: (twoDigits seconds ++ 0x2E :: (threeDigits ms ++ [0x5A])))
      = some (seconds * 1000 + ms, [0x5A]) := by
  have hstop : isDigit 0x5A = false := rfl
  have htake : (threeDigits ms ++ [0x5A]).takeWhile isDigit = threeDigits ms := by
    simp [threeDigits, List.takeWhile, isDigit_digit, hstop]
  have hdrop : (threeDigits ms ++ [0x5A]).dropWhile isDigit = [0x5A] := by
    simp [threeDigits, List.dropWhile, isDigit_digit, hstop]
  have hthree : (threeDigits ms ++ [0x30, 0x30]).take 3 = threeDigits ms := rfl
  simp only [readSeconds, readUnit_cons, readDigits_twoDigits hseconds, Option.bind_eq_bind,
    Option.bind_some]
  rw [htake, hdrop, if_neg (by simp [threeDigits]), hthree, digitsValue_threeDigits,
    Nat.mod_eq_of_lt hms]

/-- **The text of a time is read back.** -/
theorem dateParse_toISOString {t : Int} (h : IsoTime t) : dateParse (toISOString t) = some t := by
  obtain ⟨hmonth, hmonth', hday, hday'⟩ := civilFromDays_bounds (t / 86400000)
  have hyear := h.year
  have hdays := daysFromCivil_civilFromDays (t / 86400000)
  rw [h.text]
  generalize civilFromDays (t / 86400000) = date at *
  obtain ⟨year, month, day⟩ := date
  dsimp only at hmonth hmonth' hday hday' hyear hdays
  have hms : (t % 86400000).toNat < 86400000 := by omega
  have ht : t = t / 86400000 * 86400000 + (t % 86400000).toNat := by omega
  generalize (t % 86400000).toNat = ms at hms ht ⊢
  obtain ⟨year, rfl⟩ : ∃ n : Nat, year = n := ⟨year.toNat, by omega⟩
  have hseconds := readSeconds_isoTime (show ms / 1000 % 60 < 100 by omega)
    (show ms % 1000 < 1000 by omega)
  have hoffset : readOffset [0x5A] = some 0 := rfl
  simp only [dateParse, isoDate, isoTime, List.append_assoc, Int.toNat_natCast,
    readDigits_fourDigits (show year < 10000 by omega),
    readDigits_twoDigits (show month < 100 by omega),
    readDigits_twoDigits (show day < 100 by omega),
    readDigits_twoDigits (show ms / 3600000 < 100 by omega),
    readDigits_twoDigits (show ms / 60000 % 60 < 100 by omega), List.cons_append, List.nil_append,
    readUnit_cons, Option.bind_eq_bind, Option.bind_some]
  rw [hseconds, Option.bind_some, hoffset, Option.bind_some, if_neg (by omega), hdays]
  have hsum : (t / 86400000 * 1440 + (ms / 3600000 : Nat) * 60 + (ms / 60000 % 60 : Nat) - 0)
      * 60000 + (ms / 1000 % 60 * 1000 + ms % 1000 : Nat) = t := by
    omega
  exact congrArg some hsum

end TetiBot
