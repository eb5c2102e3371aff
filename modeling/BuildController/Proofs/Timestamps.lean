import BuildController.Proofs.Numerals
import BuildController.Time.Text

/-! Every instant is read back from its text, but for leap seconds within a minute, which are taken
for the next second. Each part is written with its full width, so a reader knows where it ends; only
the years beyond four digits and the decimals of the second end where a character comes that is no
digit. -/
namespace BuildController

open Text

namespace Text

theorem isBlank_of_isDigit (digit : isDigit c = true) : isBlank c = false := by
  simp only [isDigit, Bool.and_eq_true, decide_eq_true_eq, Char.le_def,
    UInt32.le_iff_toNat_le] at digit
  simp only [isBlank, Char.toNat, Bool.or_eq_false_iff, Bool.and_eq_false_iff,
    decide_eq_false_iff_not]
  have least : '0'.val.toNat = 48 := rfl
  have greatest : '9'.val.toNat = 57 := rfl
  omega

end Text

namespace Instant

theorem skipBlanks_cons (solid : isBlank c = false) : skipBlanks (c :: cs) = c :: cs := by
  simp [skipBlanks, solid]

theorem skipBlanks_padded : skipBlanks (padded width n ++ rest) = padded width n ++ rest := by
  obtain ⟨c, digits, spelled, digit⟩ := padded_cons width n
  rw [spelled, List.cons_append, skipBlanks_cons (isBlank_of_isDigit digit)]

theorem digits?_padded (positive : 0 < width) (fits : n < 10 ^ width) :
    digits? width (padded width n ++ rest) = some (n, rest) := by
  have length := length_padded positive fits
  have all : (padded width n).takeWhile isDigit = padded width n :=
    List.takeWhile_eq_self_iff.mpr fun _ member => isDigit_of_mem_padded member
  simp only [digits?, skipBlanks_padded, List.take_left' length, all, padded_ne_nil, if_false,
    valueOfDigits_padded, List.drop_left]

theorem separator?_cons (solid : isBlank c = false) : separator? c (c :: rest) = some rest := by
  simp [separator?, skipBlanks_cons solid]

/-- The digits of a year after its sign end at the hyphen that follows. -/
theorem signed_padded (n : Nat) (value : Nat → Int) :
    year?.signed (padded 4 n ++ '-' :: rest) value = some (value n, '-' :: rest) := by
  have digits : (padded 4 n ++ '-' :: rest).takeWhile isDigit = padded 4 n :=
    takeWhile_digits (fun _ member => isDigit_of_mem_padded member) fun c first => by
      cases first
      rfl
  simp only [year?.signed, digits, padded_ne_nil, if_false, valueOfDigits_padded, List.drop_left]

theorem year?_spellYear (year : Int) :
    year? (spellYear year ++ '-' :: rest) = some (year, '-' :: rest) := by
  unfold spellYear
  split
  · next common =>
    simp only [Bool.and_eq_true, decide_eq_true_eq] at common
    have fits : year.toNat < 10 ^ 4 := by omega
    have read : digits? 4 (padded 4 year.toNat ++ '-' :: rest) = some (year.toNat, '-' :: rest) :=
      digits?_padded (by decide) fits
    obtain ⟨c, digits, spelled, digit⟩ := padded_cons 4 year.toNat
    have noMinus : c ≠ '-' := by rintro rfl; cases digit
    have noPlus : c ≠ '+' := by rintro rfl; cases digit
    rw [spelled] at read ⊢
    simp only [year?, List.cons_append, skipBlanks_cons (isBlank_of_isDigit digit)] at read ⊢
    split
    · next same => cases same; contradiction
    · next same => cases same; contradiction
    · simp only [read, Option.map_some, Option.some.injEq, Prod.mk.injEq, and_true,
        Int.ofNat_eq_natCast]
      omega
  split
  · next negative =>
    rw [List.cons_append, year?, skipBlanks_cons rfl]
    simp only [signed_padded, Option.some.injEq, Prod.mk.injEq, and_true, Int.ofNat_eq_natCast]
    omega
  · next common later =>
    rw [List.cons_append, year?, skipBlanks_cons rfl]
    simp only [signed_padded, Option.some.injEq, Prod.mk.injEq, and_true, Int.ofNat_eq_natCast]
    omega

/-- Decimals that are written in full end at the letter that follows. -/
theorem fraction?_padded (positive : 0 < width) (most : width ≤ 9) (fits : n < 10 ^ width) :
    fraction? ('.' :: padded width n ++ ['Z']) = some (n * 10 ^ (9 - width), ['Z']) := by
  have length := length_padded positive fits
  have digits : (padded width n ++ ['Z']).takeWhile isDigit = padded width n :=
    takeWhile_digits (fun _ member => isDigit_of_mem_padded member) fun c first => by
      cases first
      rfl
  have kept : (padded width n).take 9 = padded width n :=
    List.take_of_length_le (by omega)
  simp only [fraction?, List.cons_append, digits, kept, padded_ne_nil, if_false,
    valueOfDigits_padded, List.drop_left, Nat.pow_eq]
  rw [length]

theorem fraction?_spellFraction {n : Nat} (valid : n < 1_000_000_000) :
    fraction? (spellFraction n ++ ['Z']) = some (n, ['Z']) := by
  unfold spellFraction
  split
  · next none => rw [none]; rfl
  split
  · next whole =>
    rw [fraction?_padded (by decide) (by decide) (by omega)]
    simp only [Option.some.injEq, Prod.mk.injEq, and_true]
    omega
  split
  · next whole =>
    rw [fraction?_padded (by decide) (by decide) (by omega)]
    simp only [Option.some.injEq, Prod.mk.injEq, and_true]
    omega
  · rw [fraction?_padded (by decide) (by decide) (by omega)]
    simp

/-- No leap second, or one that ends a minute, as those of universal time do. -/
def Regular (t : Instant) : Prop :=
  t.nanosecond < 1_000_000_000 ∨ t.second = 59

instance (t : Instant) : Decidable t.Regular := inferInstanceAs (Decidable (_ ∨ _))

/-- The instant that is read from the text of another: a leap second within a minute is taken for
the second after it. -/
def asRead (t : Instant) : Instant :=
  if within : ¬t.Regular then
    { t with
      second := t.second + 1
      nanosecond := t.nanosecond - 1_000_000_000
      second_lt := by have := t.second_lt; have := (not_or.mp within).2; omega
      nanosecond_lt := by have := t.nanosecond_lt; omega }
  else t

theorem asRead_of_regular {t : Instant} (regular : t.Regular) : t.asRead = t :=
  dif_neg (not_not.mpr regular)

theorem regular_asRead (t : Instant) : t.asRead.Regular := by
  have fraction := t.nanosecond_lt
  unfold asRead
  split
  · exact .inl (show t.nanosecond - 1_000_000_000 < 1_000_000_000 by omega)
  · next regular => exact not_not.mp regular

theorem asRead_eq_iff {t : Instant} : t.asRead = t ↔ t.Regular :=
  ⟨fun same => same ▸ regular_asRead t, asRead_of_regular⟩

theorem toText_asRead (t : Instant) : t.asRead.toText = t.toText := by
  have written : t.asRead.writtenSecond = t.writtenSecond := by
    have fraction := t.nanosecond_lt
    unfold asRead
    split
    · next within =>
      have leap : ¬t.nanosecond < 1_000_000_000 := (not_or.mp within).1
      have plain : t.nanosecond - 1_000_000_000 < 1_000_000_000 := by omega
      simp only [writtenSecond, leap, plain, if_true, if_false]
    · rfl
  have others : t.asRead.date = t.date ∧ t.asRead.hour = t.hour ∧ t.asRead.minute = t.minute := by
    unfold asRead
    split <;> exact ⟨rfl, rfl, rfl⟩
  simp only [toText, spell, written, others]

theorem writtenSecond_le (t : Instant) : t.writtenSecond.1 ≤ 60 := by
  have second := t.second_lt
  unfold writtenSecond
  split <;> dsimp only <;> omega

theorem writtenSecond_lt (t : Instant) : t.writtenSecond.2 < 1_000_000_000 := by
  have fraction := t.nanosecond_lt
  unfold writtenSecond
  split <;> dsimp only <;> omega

theorem ofParts?_writtenSecond (t : Instant) :
    ofParts? t.date t.hour t.minute t.writtenSecond.1 t.writtenSecond.2 = some t.asRead := by
  have valid : t.hour < 24 ∧ t.minute < 60 ∧ t.writtenSecond.1 ≤ 60
      ∧ t.writtenSecond.2 < 1_000_000_000 :=
    ⟨t.hour_lt, t.minute_lt, t.writtenSecond_le, t.writtenSecond_lt⟩
  have second := t.second_lt
  rw [ofParts?, dif_pos valid]
  by_cases leap : t.nanosecond < 1_000_000_000
  · have written : t.writtenSecond = (t.second, t.nanosecond) := if_pos leap
    have last : ¬t.second = 60 := by omega
    simp only [written, last, dite_false, asRead_of_regular (.inl leap)]
  · have written : t.writtenSecond = (t.second + 1, t.nanosecond - 1_000_000_000) := if_neg leap
    by_cases last : t.second = 59
    · have count : t.nanosecond - 1_000_000_000 + 1_000_000_000 = t.nanosecond := by omega
      simp only [written, last, dite_true, count, asRead_of_regular (.inr last)]
      simp only [← last]
    · have before : ¬t.second + 1 = 60 := by omega
      have within : ¬t.Regular := not_or.mpr ⟨leap, last⟩
      simp only [written, before, dite_false, asRead, within, not_false_eq_true, dite_true]

theorem ofLocal?_universal (t : Instant) :
    ofLocal? t.date t.hour t.minute t.writtenSecond.1 t.writtenSecond.2 0 = some t.asRead := by
  have hour := t.hour_lt
  have minute := t.minute_lt
  have sameDay : ((t.hour : Int) * 60 + t.minute - 0).fdiv 1440 = 0 := by
    rw [Int.fdiv_eq_ediv_of_nonneg _ (by decide)]
    omega
  have inDay : (((t.hour : Int) * 60 + t.minute - 0).fmod 1440).toNat = t.hour * 60 + t.minute := by
    rw [Int.fmod_eq_emod_of_nonneg _ (by decide)]
    omega
  have hours : (t.hour * 60 + t.minute) / 60 = t.hour := by omega
  have minutes : (t.hour * 60 + t.minute) % 60 = t.minute := by omega
  simp only [ofLocal?, sameDay, inDay, hours, minutes, shiftDate?, if_true, Option.bind_eq_bind,
    Option.bind_some, ofParts?_writtenSecond]

theorem ofParts?_date (date : Date) : Date.ofParts? date.year date.month date.day = some date := by
  simp only [Date.ofParts?, date.year_range, date.month_range, date.day_range, and_self, dite_true]

theorem daysOfMonth_le (year : Int) (month : Nat) : daysOfMonth year month ≤ 31 := by
  unfold daysOfMonth
  split
  · split <;> decide
  all_goals decide

theorem dateEnd?_letter (rest : List Char) : dateEnd? ('T' :: rest) = some rest := rfl

theorem offset?_universal : offset? (skipBlanks ['Z']) = some (0, []) := by
  rw [skipBlanks_cons rfl]
  rfl

/-- The text of an instant is read as that instant, be it in a year with a sign or a leap second at
the end of a minute. -/
theorem ofText?_toText (t : Instant) : ofText? t.toText = some t.asRead := by
  have hyphen : isBlank '-' = false := rfl
  have colon : isBlank ':' = false := rfl
  have two : 0 < 2 := by decide
  have month : t.date.month < 10 ^ 2 := by have := t.date.month_range; omega
  have day : t.date.day < 10 ^ 2 := by
    have := t.date.day_range
    have := daysOfMonth_le t.date.year t.date.month
    omega
  have hour : t.hour < 10 ^ 2 := by have := t.hour_lt; omega
  have minute : t.minute < 10 ^ 2 := by have := t.minute_lt; omega
  have second : t.writtenSecond.1 < 10 ^ 2 := by have := t.writtenSecond_le; omega
  have year : year? t.toText.toList = some (t.date.year, '-' :: (padded 2 t.date.month ++
      '-' :: (padded 2 t.date.day ++ 'T' :: (padded 2 t.hour ++ ':' :: (padded 2 t.minute ++
        ':' :: (padded 2 t.writtenSecond.1 ++
          (spellFraction t.writtenSecond.2 ++ ['Z']))))))) := by
    simp only [toText, spell, String.toList_ofList, List.append_assoc, List.cons_append,
      year?_spellYear]
  -- Every part is read on its own; `simp` would visit all later parts again for each of them.
  rw [ofText?, year, Option.bind_eq_bind, Option.bind_some]
  refine Option.bind_eq_some_iff.mpr ⟨_, separator?_cons hyphen, ?_⟩
  refine Option.bind_eq_some_iff.mpr ⟨_, digits?_padded two month, ?_⟩
  refine Option.bind_eq_some_iff.mpr ⟨_, separator?_cons hyphen, ?_⟩
  refine Option.bind_eq_some_iff.mpr ⟨_, digits?_padded two day, ?_⟩
  refine Option.bind_eq_some_iff.mpr ⟨_, dateEnd?_letter _, ?_⟩
  refine Option.bind_eq_some_iff.mpr ⟨_, digits?_padded two hour, ?_⟩
  refine Option.bind_eq_some_iff.mpr ⟨_, separator?_cons colon, ?_⟩
  refine Option.bind_eq_some_iff.mpr ⟨_, digits?_padded two minute, ?_⟩
  refine Option.bind_eq_some_iff.mpr ⟨_, separator?_cons colon, ?_⟩
  refine Option.bind_eq_some_iff.mpr ⟨_, digits?_padded two second, ?_⟩
  refine Option.bind_eq_some_iff.mpr ⟨_, fraction?_spellFraction t.writtenSecond_lt, ?_⟩
  refine Option.bind_eq_some_iff.mpr ⟨_, offset?_universal, ?_⟩
  have daytime :
      (decide (skipBlanks [] = []) && decide (t.hour < 24) && decide (t.minute < 60)) = true := by
    simp [skipBlanks, t.hour_lt, t.minute_lt]
  refine (if_pos daytime).trans (Option.bind_eq_some_iff.mpr ⟨_, ofParts?_date t.date, ?_⟩)
  exact ofLocal?_universal t

end Instant

end BuildController
