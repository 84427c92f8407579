/-
# Durations as clock readings

The text of a duration, as `format_duration` writes it, is read back here by a reader that knows
nothing of how it was made: fields of digits, each with its unit, and seconds with or without a
point (`ClockReading.read?`).  What is proved of a duration is proved of the fields that stand in
its text.

Each of the three forms of the text comes from splitting the number of seconds, exactly, into
whole units and a rest that is less than one unit.  Below an hour the rest is then rounded to a
tenth of a second, and nothing is carried: a rest in the last twentieth of a second before the
full minute is written as `60.0` (`RoundsToMinute`).  That is the only way in which a field can be
as large as the next unit (`formatDuration_reads`).
-/
import Mathlib
import PartialLeastSquares.Decimal.Literal
import PartialLeastSquares.Logging.Duration

namespace PartialLeastSquares

/-! ## 1. Digits -/

namespace Decimal

theorem natOfDigits_digits (n : ℕ) : natOfDigits (digits n) = n := Nat.ofDigitChars_ten_toDigits

theorem isDigit_of_mem_digits {n : ℕ} {c : Char} (h : c ∈ digits n) : c.isDigit = true :=
  Nat.isDigit_of_mem_toDigits (by decide) le_rfl h

theorem digits_ne_nil (n : ℕ) : digits n ≠ [] := Nat.toDigits_ne_nil

theorem exists_digits (n : ℕ) : ∃ d ds, digits n = d :: ds ∧ natOfDigits (d :: ds) = n := by
  obtain ⟨d, ds, h⟩ := List.exists_cons_of_ne_nil (digits_ne_nil n)
  exact ⟨d, ds, h, h ▸ natOfDigits_digits n⟩

theorem digits_of_lt_ten {n : ℕ} (h : n < 10) : digits n = [n.digitChar] :=
  Nat.toDigits_of_lt_base h

theorem takeDigits_digits (n : ℕ) {c : Char} (hc : c.isDigit = false) (rest : List Char) :
    takeDigits (digits n ++ c :: rest) = (digits n, c :: rest) := by
  have hall : ∀ d ∈ digits n, d.isDigit = true := fun d hd => isDigit_of_mem_digits hd
  rw [takeDigits, List.span_eq_takeWhile_dropWhile, List.takeWhile_append_of_pos hall,
    List.dropWhile_append_of_pos hall]
  simp [hc]

/-- **A number with a point before its last digit:** the tenths in it, and what is left. -/
theorem pointed_one_padded (n : ℕ) :
    pointed 1 (padded 2 n) = digits (n / 10) ++ '.' :: digits (n % 10) := by
  have hlast : digits (n % 10) = [(n % 10).digitChar] := digits_of_lt_ten (Nat.mod_lt n (by decide))
  have hsplit : padded 2 n = digits (n / 10) ++ digits (n % 10) := by
    show List.replicate (2 - (digits n).length) '0' ++ digits n = _
    rcases Nat.lt_or_ge n 10 with hn | hn
    · rw [Nat.div_eq_of_lt hn, Nat.mod_eq_of_lt hn, digits_of_lt_ten hn]
      rfl
    · have hpos : 0 < (digits (n / 10)).length := List.length_pos_of_ne_nil (digits_ne_nil _)
      have hdigits : digits n = digits (n / 10) ++ digits (n % 10) := by
        rw [hlast]
        exact Nat.toDigits_of_base_le (by decide) hn
      have henough : 2 - (digits n).length = 0 := by
        rw [hdigits, hlast, List.length_append, List.length_singleton]
        omega
      rw [henough, List.replicate_zero, List.nil_append, hdigits]
  rw [hsplit, hlast, pointed, if_neg one_ne_zero]
  simp

end Decimal

namespace Logging

open Decimal

/-! ## 2. Reading a clock -/

/-- **What a clock shows.** -/
structure ClockReading where
  hours : Option ℕ
  minutes : Option ℕ
  seconds : ℚ

namespace ClockReading

def total (c : ClockReading) : ℚ :=
  3600 * (c.hours.getD 0 : ℕ) + 60 * (c.minutes.getD 0 : ℕ) + c.seconds

/-- A field in front of a text: digits, a unit and a blank. -/
def leadingField (unit : Char) (cs : List Char) : Option ℕ × List Char :=
  match takeDigits cs with
  | (d :: ds, c :: ' ' :: rest) =>
    if c = unit then (some (natOfDigits (d :: ds)), rest) else (none, cs)
  | _ => (none, cs)

/-- The seconds at the end of a text: digits, perhaps a point and more digits, and the unit. -/
def readSeconds (cs : List Char) : Option ℚ :=
  match takeDigits cs with
  | (d :: ds, ['s']) => some (natOfDigits (d :: ds))
  | (d :: ds, '.' :: rest) =>
    match takeDigits rest with
    | (e :: es, ['s']) =>
      some (natOfDigits (d :: ds) + natOfDigits (e :: es) / 10 ^ (e :: es).length)
    | _ => none
  | _ => none

/-- **Reads a text as a clock reading:** hours if there are any, then minutes, then seconds. -/
def read? (cs : List Char) : Option ClockReading :=
  let (hours, cs) := leadingField 'h' cs
  let (minutes, cs) := leadingField 'm' cs
  (readSeconds cs).map fun seconds => ⟨hours, minutes, seconds⟩

theorem leadingField_self (n : ℕ) {unit : Char} (hunit : unit.isDigit = false) (rest : List Char) :
    leadingField unit (digits n ++ unit :: ' ' :: rest) = (some n, rest) := by
  unfold leadingField
  obtain ⟨d, ds, hd, hn⟩ := exists_digits n
  rw [takeDigits_digits n hunit, hd]
  simp only [if_true, hn]

/-- A field is left where it is if another unit is asked for. -/
theorem leadingField_of_ne (n : ℕ) {unit c : Char} (hc : c.isDigit = false) (hne : c ≠ unit)
    (rest : List Char) :
    leadingField unit (digits n ++ c :: rest) = (none, digits n ++ c :: rest) := by
  unfold leadingField
  rw [takeDigits_digits n hc]
  split
  · rename_i hsplit
    obtain rfl := (List.cons.inj (Prod.mk.inj hsplit).2).1
    rw [if_neg hne]
  · rfl

theorem readSeconds_whole (n : ℕ) : readSeconds (digits n ++ ['s']) = some (n : ℚ) := by
  unfold readSeconds
  obtain ⟨d, ds, hd, hn⟩ := exists_digits n
  rw [takeDigits_digits n (by decide), hd]
  simp only [hn]

theorem readSeconds_tenths (n : ℕ) :
    readSeconds (digits (n / 10) ++ '.' :: (digits (n % 10) ++ ['s'])) = some ((n : ℚ) / 10) := by
  have hone : (digits (n % 10)).length = 1 := by
    rw [digits_of_lt_ten (Nat.mod_lt n (by decide)), List.length_singleton]
  have hvalue : ((n / 10 : ℕ) : ℚ) + ((n % 10 : ℕ) : ℚ) / 10 ^ 1 = n / 10 := by
    have hsum : (10 : ℚ) * ((n / 10 : ℕ) : ℚ) + ((n % 10 : ℕ) : ℚ) = n := by
      exact_mod_cast Nat.div_add_mod n 10
    linarith
  unfold readSeconds
  obtain ⟨d, ds, hd, hwhole⟩ := exists_digits (n / 10)
  obtain ⟨e, es, he, htenth⟩ := exists_digits (n % 10)
  have hrest : takeDigits (digits (n % 10) ++ ['s']) = (e :: es, ['s']) := by
    rw [takeDigits_digits _ (by decide), he]
  rw [takeDigits_digits _ (by decide), hd]
  simp only [hrest]
  rw [hwhole, htenth, ← he, hone, hvalue]

/-- Seconds with a tenth are read when nothing stands in front of them. -/
theorem read?_seconds (n : ℕ) :
    read? (digits (n / 10) ++ '.' :: (digits (n % 10) ++ ['s'])) = some ⟨none, none, n / 10⟩ := by
  unfold read?
  simp only [leadingField_of_ne _ (show '.'.isDigit = false by decide)
    (show '.' ≠ 'h' by decide), leadingField_of_ne _ (show '.'.isDigit = false by decide)
    (show '.' ≠ 'm' by decide), readSeconds_tenths, Option.map_some]

theorem read?_minutes (m n : ℕ) :
    read? (digits m ++ 'm' :: ' ' :: (digits (n / 10) ++ '.' :: (digits (n % 10) ++ ['s']))) =
      some ⟨none, some m, n / 10⟩ := by
  unfold read?
  simp only [leadingField_of_ne _ (show 'm'.isDigit = false by decide)
    (show 'm' ≠ 'h' by decide), leadingField_self _ (show 'm'.isDigit = false by decide),
    readSeconds_tenths, Option.map_some]

theorem read?_hours (h m n : ℕ) :
    read? (digits h ++ 'h' :: ' ' :: (digits m ++ 'm' :: ' ' :: (digits n ++ ['s']))) =
      some ⟨some h, some m, n⟩ := by
  unfold read?
  simp only [leadingField_self _ (show 'h'.isDigit = false by decide),
    leadingField_self _ (show 'm'.isDigit = false by decide), readSeconds_whole, Option.map_some]

end ClockReading

/-! ## 3. Tenths of a second -/

/-- The number of tenths that is written for a number of seconds. -/
def tenthsOf (x : ℚ) : ℕ := roundQuotient (x.num.natAbs * 10) x.den

section Tenths

variable {x : ℚ}

theorem natAbs_num_eq (hx : 0 ≤ x) : (x.num.natAbs : ℚ) = x * x.den := by
  rw [Rat.mul_den_eq_num, ← Int.cast_natCast, Int.natAbs_of_nonneg (Rat.num_nonneg.mpr hx)]

theorem abs_tenthsOf_sub_le (hx : 0 ≤ x) : |(tenthsOf x : ℚ) / 10 - x| ≤ 1 / 20 := by
  have hden : (0 : ℚ) < x.den := Nat.cast_pos.mpr x.den_pos
  have habove : (2 * (tenthsOf x * x.den) : ℚ) ≤ 2 * (x * x.den * 10) + x.den := by
    rw [← natAbs_num_eq hx]
    exact_mod_cast two_mul_roundQuotient_le x.den_pos
  have hbelow : (2 * (x * x.den * 10) : ℚ) ≤ 2 * (tenthsOf x * x.den) + x.den := by
    rw [← natAbs_num_eq hx]
    exact_mod_cast two_mul_le_roundQuotient x.den_pos
  rw [abs_le]
  constructor <;> nlinarith

/-- An odd number of tenths is exceeded from half a tenth above it on. -/
theorem lt_tenthsOf_iff (hx : 0 ≤ x) {k : ℕ} (hk : k % 2 = 1) :
    k < tenthsOf x ↔ (2 * k + 1 : ℚ) / 20 ≤ x := by
  have hden : (0 : ℚ) < x.den := Nat.cast_pos.mpr x.den_pos
  rw [tenthsOf, lt_roundQuotient_iff x.den_pos hk, ← Nat.cast_le (α := ℚ)]
  push_cast
  rw [natAbs_num_eq hx, div_le_iff₀ (by norm_num)]
  constructor <;> intro h <;> nlinarith

/-- **What is written of a number of seconds with one decimal.** -/
theorem tenths_eq (hx : 0 ≤ x) : Seconds.tenths x =
    .ok (String.ofList (digits (tenthsOf x / 10) ++ '.' :: digits (tenthsOf x % 10))) := by
  show Except.ok (fractionTenths (decide (x < 0)) x.num.natAbs x.den) = _
  rw [fractionTenths, decide_eq_false hx.not_gt]
  exact congrArg (fun cs => Except.ok (String.ofList cs)) (pointed_one_padded (tenthsOf x))

end Tenths

/-! ## 4. Whole units and a rest -/

/-- What is less than a whole number, and what is not. -/
theorem isBelow_of_lt {s : ℚ} {n : ℕ} (h : s < n) : Seconds.isBelow s n = true := decide_eq_true h

theorem isBelow_of_le {s : ℚ} {n : ℕ} (h : n ≤ s) : Seconds.isBelow s n = false :=
  decide_eq_false h.not_gt

/-- **A number of seconds is some whole units and a rest** that is less than one, and the division
is exact. -/
theorem exists_units (s : ℚ) (hs : 0 ≤ s) {n : ℕ} (hn : 0 < n) :
    ∃ (k : ℕ) (x : ℚ), Seconds.units s n = .ok (k : ℤ) ∧ Seconds.less s ((k : ℤ) * n) = .ok x ∧
      s = k * n + x ∧ 0 ≤ x ∧ x < n := by
  have hpos : (0 : ℚ) < n := Nat.cast_pos.mpr hn
  obtain ⟨k, hk⟩ := Int.eq_ofNat_of_zero_le (Int.floor_nonneg.mpr (div_nonneg hs hpos.le))
  have hbelow : (k : ℚ) ≤ s / n := by exact_mod_cast hk ▸ Int.floor_le (s / n)
  have habove : s / n < k + 1 := by exact_mod_cast hk ▸ Int.lt_floor_add_one (s / n)
  rw [le_div_iff₀ hpos] at hbelow
  rw [div_lt_iff₀ hpos] at habove
  refine ⟨k, s - k * n, congrArg Except.ok hk, ?_, by ring, by linarith, by linarith⟩
  show Except.ok (s - (((k : ℤ) * n : ℤ) : ℚ)) = _
  push_cast
  rfl

theorem exists_whole (x : ℚ) (hx : 0 ≤ x) :
    ∃ n : ℕ, Seconds.whole x = .ok (n : ℤ) ∧ (n : ℚ) ≤ x ∧ x < n + 1 := by
  obtain ⟨n, hn⟩ := Int.eq_ofNat_of_zero_le (Int.floor_nonneg.mpr hx)
  have hwhole : x.num.tdiv x.den = ⌊x⌋ := by
    rw [Int.tdiv_eq_ediv_of_nonneg (Rat.num_nonneg.mpr hx)]
    exact (Rat.floor_def x).symm
  refine ⟨n, congrArg Except.ok (hwhole.trans hn), ?_, ?_⟩
  · exact_mod_cast hn ▸ Int.floor_le x
  · exact_mod_cast hn ▸ Int.lt_floor_add_one x

/-! ## 5. The three forms of the text -/

section Branches

variable {α : Type} [Seconds α] {s rest final : α} {hours minutes whole : ℤ} {text : String}

theorem formatDuration_of_seconds (hbelow : Seconds.isBelow s 60 = true)
    (htext : Seconds.tenths s = .ok text) : formatDuration s = .ok (text ++ "s") := by
  rw [formatDuration, if_pos hbelow, htext]
  rfl

theorem formatDuration_of_minutes (habove : Seconds.isBelow s 60 = false)
    (hbelow : Seconds.isBelow s 3600 = true) (hminutes : Seconds.units s 60 = .ok minutes)
    (hrest : Seconds.less s (minutes * 60) = .ok rest) (htext : Seconds.tenths rest = .ok text) :
    formatDuration s = .ok (toString minutes ++ "m " ++ text ++ "s") := by
  rw [formatDuration, if_neg (Bool.not_eq_true _ ▸ habove), if_pos hbelow]
  simp only [hminutes, hrest, htext, bind, Except.bind, pure, Except.pure]

theorem formatDuration_of_hours (habove : Seconds.isBelow s 60 = false)
    (habove' : Seconds.isBelow s 3600 = false) (hhours : Seconds.units s 3600 = .ok hours)
    (hrest : Seconds.less s (hours * 3600) = .ok rest)
    (hminutes : Seconds.units rest 60 = .ok minutes)
    (hfinal : Seconds.less rest (minutes * 60) = .ok final)
    (hwhole : Seconds.whole final = .ok whole) :
    formatDuration s =
      .ok (toString hours ++ "h " ++ toString minutes ++ "m " ++ toString whole ++ "s") := by
  rw [formatDuration, if_neg (Bool.not_eq_true _ ▸ habove), if_neg (Bool.not_eq_true _ ▸ habove')]
  simp only [hhours, hrest, hminutes, hfinal, hwhole, bind, Except.bind, pure, Except.pure]

end Branches

theorem toList_toString (n : ℕ) : (toString (n : ℤ)).toList = digits n := by
  show (Nat.repr n).toList = digits n
  rw [Nat.repr_eq_ofList_toDigits, String.toList_ofList]
  rfl

/-- **A duration is written as a clock reading:** there is a text, and it reads so. -/
def Shows (s : ℚ) (c : ClockReading) : Prop :=
  ∃ text, formatDuration s = .ok text ∧ ClockReading.read? text.toList = some c

section Forms

variable {s : ℚ}

theorem shows_seconds (hs : 0 ≤ s) (hlt : s < 60) : Shows s ⟨none, none, tenthsOf s / 10⟩ := by
  refine ⟨_, formatDuration_of_seconds (isBelow_of_lt (by exact_mod_cast hlt)) (tenths_eq hs), ?_⟩
  simp only [String.toList_append, String.toList_ofList, List.append_assoc, List.cons_append]
  exact ClockReading.read?_seconds (tenthsOf s)

theorem shows_minutes (hge : 60 ≤ s) (hlt : s < 3600) :
    ∃ (m : ℕ) (x : ℚ), s = m * 60 + x ∧ 0 ≤ x ∧ x < 60 ∧
      Shows s ⟨none, some m, tenthsOf x / 10⟩ := by
  have hminute : Seconds.isBelow s 60 = false := isBelow_of_le (by exact_mod_cast hge)
  have hhour : Seconds.isBelow s 3600 = true := isBelow_of_lt (by exact_mod_cast hlt)
  obtain ⟨m, x, hunits, hless, hsum, hx, hx60⟩ := exists_units s (by linarith) (n := 60) (by decide)
  push_cast at hsum hx60
  have htext := formatDuration_of_minutes hminute hhour hunits hless (tenths_eq hx)
  refine ⟨m, x, hsum, hx, hx60, _, htext, ?_⟩
  simp only [String.toList_append, toList_toString, String.toList_ofList, List.append_assoc,
    List.cons_append]
  exact ClockReading.read?_minutes m (tenthsOf x)

/-- From an hour on there are hours, minutes and whole seconds. -/
theorem shows_hours (hge : 3600 ≤ s) :
    ∃ (h m n : ℕ) (x : ℚ), s = h * 3600 + (m * 60 + x) ∧ (n : ℚ) ≤ x ∧ x < n + 1 ∧ x < 60 ∧
      m * 60 + x < 3600 ∧ Shows s ⟨some h, some m, n⟩ := by
  have hs : (60 : ℚ) ≤ s := by linarith
  have hminute : Seconds.isBelow s 60 = false := isBelow_of_le (by exact_mod_cast hs)
  have hhour : Seconds.isBelow s 3600 = false := isBelow_of_le (by exact_mod_cast hge)
  obtain ⟨h, y, hhours, hrest, hsum, hy, hy3600⟩ :=
    exists_units s (by linarith) (n := 3600) (by decide)
  obtain ⟨m, x, hminutes, hfinal, rfl, hx, hx60⟩ := exists_units y hy (n := 60) (by decide)
  obtain ⟨n, hwhole, hle, hlt⟩ := exists_whole x hx
  push_cast at hsum hx60 hy3600
  have htext := formatDuration_of_hours hminute hhour hhours hrest hminutes hfinal hwhole
  refine ⟨h, m, n, x, hsum, hle, hlt, hx60, hy3600, _, htext, ?_⟩
  simp only [String.toList_append, toList_toString, List.append_assoc]
  exact ClockReading.read?_hours h m n

end Forms

/-! ## 6. The fields -/

/-- **What is left of a duration after its whole minutes is rounded up to a full minute:** below an
hour, and from half a tenth of a second before the full minute on. -/
def RoundsToMinute (s : ℚ) : Prop := s < 3600 ∧ 60 - 1 / 20 ≤ s - 60 * ⌊s / 60⌋

theorem roundsToMinute_iff {m : ℕ} {x : ℚ} (hx : 0 ≤ x) (hx60 : x < 60)
    (hlt : (m * 60 + x : ℚ) < 3600) : RoundsToMinute (m * 60 + x) ↔ 60 - 1 / 20 ≤ x := by
  have hfloor : ⌊(m * 60 + x : ℚ) / 60⌋ = m := by
    rw [Int.floor_eq_iff]
    push_cast
    constructor <;> linarith
  rw [RoundsToMinute, hfloor, and_iff_right hlt]
  push_cast
  constructor <;> intro h <;> linarith

theorem not_roundsToMinute {s : ℚ} (h : 3600 ≤ s) : ¬ RoundsToMinute s := fun hr => hr.1.not_ge h

/-- A rest of less than a minute, as it is written with one decimal. -/
theorem tenthsOf_rest {x : ℚ} (hx : 0 ≤ x) (hx60 : x < 60) :
    (tenthsOf x : ℚ) / 10 ≤ 60 ∧ ((tenthsOf x : ℚ) / 10 < 60 ↔ x < 60 - 1 / 20) := by
  -- 59.95 is a tie between 599 and 600 tenths, and goes to the even one.
  have hodd : 599 < tenthsOf x ↔ (60 - 1 / 20 : ℚ) ≤ x := by
    rw [lt_tenthsOf_iff hx (by decide)]
    norm_num
  have hle : tenthsOf x ≤ 600 := by
    have hnear := (abs_le.mp (abs_tenthsOf_sub_le hx)).2
    have hlt : (tenthsOf x : ℚ) < (601 : ℕ) := by
      push_cast
      linarith
    exact Nat.le_of_lt_succ (Nat.cast_lt.mp hlt)
  have hlt : (tenthsOf x : ℚ) / 10 < 60 ↔ ¬ 599 < tenthsOf x := by
    rw [div_lt_iff₀ (by norm_num), show (60 * 10 : ℚ) = (600 : ℕ) by norm_num, Nat.cast_lt]
    omega
  constructor
  · rw [div_le_iff₀ (by norm_num)]
    exact_mod_cast hle
  · rw [hlt, hodd, not_le]

/-- **A clock reading of a duration,** normalised but for the seconds that round to a full minute.
There are hours from 3600 seconds on, and minutes from 60 seconds on; minutes are less than 60,
and so are seconds unless they are rounded up.  Below an hour the fields add up to the duration,
up to half a tenth of a second; from an hour on the whole seconds are those that have passed. -/
structure ClockReading.IsOf (c : ClockReading) (s : ℚ) : Prop where
  hours : c.hours.isSome ↔ 3600 ≤ s
  minutes : c.minutes.isSome ↔ 60 ≤ s
  minutes_lt : ∀ m ∈ c.minutes, m < 60
  seconds_le : c.seconds ≤ 60
  seconds_lt : c.seconds < 60 ↔ ¬ RoundsToMinute s
  near : s < 3600 → |c.total - s| ≤ 1 / 20
  passed : 3600 ≤ s → c.total ≤ s ∧ s < c.total + 1

theorem isOf_seconds {x : ℚ} (hx : 0 ≤ x) (hx60 : x < 60) :
    ClockReading.IsOf ⟨none, none, tenthsOf x / 10⟩ x where
  hours := by simp; linarith
  minutes := by simp; linarith
  minutes_lt := by simp
  seconds_le := (tenthsOf_rest hx hx60).1
  seconds_lt := by
    have hrounds := roundsToMinute_iff (m := 0) hx hx60 (by push_cast; linarith)
    rw [(tenthsOf_rest hx hx60).2, ← not_le]
    simpa using hrounds.not.symm
  near _ := by simpa [ClockReading.total] using abs_tenthsOf_sub_le hx
  passed h := by linarith

theorem isOf_minutes {m : ℕ} {x : ℚ} (hge : 60 ≤ (m * 60 + x : ℚ)) (hx : 0 ≤ x) (hx60 : x < 60)
    (hlt : (m * 60 + x : ℚ) < 3600) :
    ClockReading.IsOf ⟨none, some m, tenthsOf x / 10⟩ (m * 60 + x) where
  hours := by simpa using hlt
  minutes := by simpa using hge
  minutes_lt := by
    have hm : (m : ℚ) < (60 : ℕ) := by push_cast; linarith
    simpa using Nat.cast_lt.mp hm
  seconds_le := (tenthsOf_rest hx hx60).1
  seconds_lt := by rw [(tenthsOf_rest hx hx60).2, roundsToMinute_iff hx hx60 hlt, not_le]
  near _ := by
    have htotal : ClockReading.total ⟨none, some m, tenthsOf x / 10⟩ - (m * 60 + x) =
        tenthsOf x / 10 - x := by
      simp [ClockReading.total]
      ring
    rw [htotal]
    exact abs_tenthsOf_sub_le hx
  passed h := by linarith

theorem isOf_hours {h m n : ℕ} {x : ℚ} (hge : 3600 ≤ (h * 3600 + (m * 60 + x) : ℚ))
    (hn : (n : ℚ) ≤ x) (hlt : x < n + 1) (hx60 : x < 60) (hrest : (m * 60 + x : ℚ) < 3600) :
    ClockReading.IsOf ⟨some h, some m, n⟩ (h * 3600 + (m * 60 + x)) where
  hours := by simpa using hge
  minutes := by simp; linarith
  minutes_lt := by
    have hx : 0 ≤ x := n.cast_nonneg.trans hn
    have hm : (m : ℚ) < (60 : ℕ) := by push_cast; linarith
    simpa using Nat.cast_lt.mp hm
  seconds_le := hn.trans hx60.le
  seconds_lt := iff_of_true (hn.trans_lt hx60) (not_roundsToMinute hge)
  near h := by linarith
  passed _ := by
    simp only [ClockReading.total, Option.getD_some]
    constructor <;> linarith

/-- **The text of a duration, field by field.**  Every number of seconds that is not negative has a
text, and this reads as a clock.  There are hours from 3600 seconds on.  The minutes are less than
60, and so are the seconds, unless what is left after the whole minutes is rounded up to a full
minute below an hour; then the seconds are 60.  Below an hour the fields add up to the duration up
to half a tenth of a second, and from an hour on up to less than a second. -/
theorem formatDuration_reads {s : ℚ} (hs : 0 ≤ s) :
    ∃ text c, formatDuration s = .ok text ∧ ClockReading.read? text.toList = some c ∧ c.IsOf s := by
  rcases lt_or_ge s 60 with h60 | h60
  · obtain ⟨text, htext, hread⟩ := shows_seconds hs h60
    exact ⟨text, _, htext, hread, isOf_seconds hs h60⟩
  rcases lt_or_ge s 3600 with h3600 | h3600
  · obtain ⟨m, x, rfl, hx, hx60, text, htext, hread⟩ := shows_minutes h60 h3600
    exact ⟨text, _, htext, hread, isOf_minutes h60 hx hx60 h3600⟩
  · obtain ⟨h, m, n, x, rfl, hn, hlt, hx60, hrest, text, htext, hread⟩ := shows_hours h3600
    exact ⟨text, _, htext, hread, isOf_hours h3600 hn hlt hx60 hrest⟩

example : formatDuration (7325 : ℚ) = .ok "2h 2m 5s" := by decide +kernel

/-- Two minutes less a twenty-fifth of a second are written as one minute and sixty seconds. -/
theorem formatDuration_reads_below_two_minutes :
    (0 : ℚ) ≤ 119 + 24 / 25 ∧ formatDuration (119 + 24 / 25 : ℚ) = .ok "1m 60.0s" ∧
      ∃ c, ClockReading.read? "1m 60.0s".toList = some c ∧ c.IsOf (119 + 24 / 25) ∧
        c.seconds = 60 := by
  have hnonneg : (0 : ℚ) ≤ 119 + 24 / 25 := by norm_num
  have hwritten : formatDuration (119 + 24 / 25 : ℚ) = .ok "1m 60.0s" := by decide +kernel
  obtain ⟨text, c, htext, hread, hc⟩ := formatDuration_reads hnonneg
  obtain rfl := Except.ok.inj (hwritten.symm.trans htext)
  refine ⟨hnonneg, hwritten, c, hread, hc, ?_⟩
  have hrounds : RoundsToMinute (119 + 24 / 25) := by
    have h := (roundsToMinute_iff (m := 1) (x := 59 + 24 / 25) (by norm_num) (by norm_num)
      (by norm_num)).mpr (by norm_num)
    norm_num at h ⊢
    exact h
  exact hc.seconds_le.antisymm (not_lt.mp fun hlt => hc.seconds_lt.mp hlt hrounds)

end Logging

end PartialLeastSquares
