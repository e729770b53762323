/-
# What is read as a date

A date is read off the front of a text in two steps: all that stands before its day, and the
day, which has one digit or two. Read from the first bytes of a text alone, a date can differ
from the one in front of the whole text only in its day, when the bytes end after the first
of two digits. A year of four digits, a month and a day of two take up ten bytes.
-/

import TaskQuery.Proofs.ScannerReach

namespace TaskQuery

open Text Scan

variable {cs rest : List Char}

namespace Date

theorem one_le_of_ofCivil? {year : Int} {month day : Nat} {found : Date}
    (isDate : ofCivil? year month day = some found) : 1 ≤ day := by
  unfold ofCivil? at isDate
  split at isDate
  · rename_i inside
    exact inside.2.2.1
  · cases isDate

theorem number_of_ofCivil? {year : Int} {month day : Nat} {found : Date}
    (isDate : ofCivil? year month day = some found) :
    found.number = dayNumber year month day := by
  unfold ofCivil? at isDate
  split at isDate
  · exact number_of_ofNumber? isDate
  · cases isDate

end Date

namespace PlainScan

/-! ## The parts of a date -/

theorem yields_blanks_iff {read : Unit} :
    blanks.Yields cs read rest ↔
      ∃ gap, cs = gap ++ rest ∧ (∀ c ∈ gap, isBlank c = true) ∧
        ∀ c ∈ rest.head?, isBlank c = false := by
  have steps : blanks = (do let _ ← Scan.takeWhile isBlank; pure ()) := rfl
  rw [steps, yields_bind_iff]
  constructor
  · rintro ⟨gap, between, taken, nothing⟩
    obtain ⟨-, rfl⟩ := yields_pure_iff.mp nothing
    exact ⟨gap, yields_takeWhile_iff.mp taken⟩
  · rintro ⟨gap, isGap⟩
    exact ⟨gap, rest, yields_takeWhile_iff.mpr isGap, yields_pure_iff.mpr ⟨rfl, rfl⟩⟩

theorem yields_numberOf_iff {digits : List Char} {value : Nat} :
    (numberOf digits).Yields cs value rest ↔
      digits ≠ [] ∧ value = natOfDigits digits ∧ cs = rest := by
  cases digits with
  | nil => simp [numberOf, not_yields_fail]
  | cons digit digits =>
      rw [numberOf, if_neg (by simp), yields_pure_iff]
      simp [eq_comm]

theorem isLocal_blanks : blanks.IsLocal :=
  .bind .takeWhile fun _ => .pure

theorem isLocal_character (c : Char) : (character c).IsLocal :=
  .bind .accept fun _ => .ite .pure .fail

theorem isLocal_numberOf (digits : List Char) : (numberOf digits).IsLocal :=
  .ite .fail .pure

theorem isLocal_number (width : Nat) : (number width).IsLocal :=
  .bind isLocal_blanks fun _ => .bind .takeWhileUpTo isLocal_numberOf

theorem isLocal_year : year.IsLocal :=
  .bind isLocal_blanks fun _ => .bind .accept fun _ =>
    .ite (.bind .takeWhile fun _ => .bind (isLocal_numberOf _) fun _ => .pure)
      (.bind .accept fun _ =>
        .ite (.bind .takeWhile fun _ => .bind (isLocal_numberOf _) fun _ => .pure)
          (.bind (isLocal_number 4) fun _ => .pure))

theorem isLocal_dateOf (year : Int) (month day : Nat) : (dateOf year month day).IsLocal := by
  rw [dateOf]
  split
  · exact .pure
  · exact .fail

theorem isLocal_date : date.IsLocal :=
  .bind isLocal_year fun _ => .bind (isLocal_character _) fun _ =>
    .bind (isLocal_number 2) fun _ => .bind (isLocal_character _) fun _ =>
      .bind (isLocal_number 2) fun _ => isLocal_dateOf _ _ _

/-- No blank stands where digits do. -/
theorem isBlank_eq_false_of_digits {digits : List Char} (nonempty : digits ≠ [])
    (areDigits : ∀ c ∈ digits, c.isDigit = true) (rest : List Char) :
    ∀ c ∈ (digits ++ rest).head?, isBlank c = false := by
  obtain ⟨digit, digits, rfl⟩ := List.exists_cons_of_ne_nil nonempty
  intro c isHead
  obtain rfl : digit = c := Option.some.inj isHead
  exact isBlank_eq_false_of_isWordChar (isWordChar_of_isDigit (areDigits _ List.mem_cons_self))

theorem yields_number_iff {width value : Nat} :
    (number width).Yields cs value rest ↔
      ∃ gap digits, cs = gap ++ (digits ++ rest) ∧ (∀ c ∈ gap, isBlank c = true) ∧
        digits ≠ [] ∧ (∀ c ∈ digits, c.isDigit = true) ∧ digits.length ≤ width ∧
        (digits.length = width ∨ ∀ c ∈ rest.head?, c.isDigit = false) ∧
        value = natOfDigits digits := by
  rw [number, yields_bind_iff]
  constructor
  · rintro ⟨_, between, skipped, more⟩
    obtain ⟨gap, rfl, isGap, -⟩ := yields_blanks_iff.mp skipped
    obtain ⟨digits, behind, taken, isNumber⟩ := yields_bind_iff.mp more
    obtain ⟨nonempty, isValue, rfl⟩ := yields_numberOf_iff.mp isNumber
    obtain ⟨rfl, areDigits, atMost, stops⟩ := yields_takeWhileUpTo_iff.mp taken
    exact ⟨gap, digits, rfl, isGap, nonempty, areDigits, atMost, stops, isValue⟩
  · rintro ⟨gap, digits, rfl, isGap, nonempty, areDigits, atMost, stops, isValue⟩
    have noBlank := isBlank_eq_false_of_digits nonempty areDigits rest
    exact ⟨(), digits ++ rest, yields_blanks_iff.mpr ⟨gap, rfl, isGap, noBlank⟩,
      yields_bind_iff.mpr ⟨digits, rest,
        yields_takeWhileUpTo_iff.mpr ⟨rfl, areDigits, atMost, stops⟩,
        yields_numberOf_iff.mpr ⟨nonempty, isValue, rfl⟩⟩⟩

/-- A number of two digits at the end of a text is the same when more comes behind it, or
it takes in one more digit. -/
theorem exists_yields_number_append {value : Nat} (reads : (number 2).Yields cs value [])
    (more : List Char) :
    ∃ value' rest, (number 2).Yields (cs ++ more) value' rest ∧
      (value' = value ∧ rest = more ∨ ∃ digit < 10, value' = value * 10 + digit) := by
  obtain ⟨gap, digits, rfl, isGap, nonempty, areDigits, atMost, -, rfl⟩ :=
    yields_number_iff.mp reads
  by_cases stops : digits.length = 2 ∨ ∀ c ∈ more.head?, c.isDigit = false
  · refine ⟨_, more, yields_number_iff.mpr ⟨gap, digits, ?_, isGap, nonempty, areDigits, atMost,
      stops, rfl⟩, Or.inl ⟨rfl, rfl⟩⟩
    rw [List.append_nil, List.append_assoc]
  · obtain ⟨short, goesOn⟩ := not_or.mp stops
    obtain ⟨first, rfl⟩ : ∃ first, digits = [first] := by
      refine List.length_eq_one_iff.mp ?_
      have := List.length_pos_iff.mpr nonempty
      omega
    cases more with
    | nil => exact absurd (fun _ isHead => nomatch isHead) goesOn
    | cons next more =>
        have isDigit : next.isDigit = true := by
          by_contra notDigit
          refine goesOn fun c isHead => ?_
          obtain rfl : next = c := Option.some.inj isHead
          exact Bool.eq_false_iff.mpr notDigit
        refine ⟨natOfDigits [first, next], more, yields_number_iff.mpr ⟨gap, [first, next], ?_,
          isGap, List.cons_ne_nil _ _, ?_, Nat.le_refl _, Or.inl rfl, rfl⟩,
          Or.inr ⟨digitValue next, ?_, rfl⟩⟩
        · rw [List.append_nil, List.append_assoc]
          rfl
        · exact List.forall_mem_cons.mpr ⟨areDigits first List.mem_cons_self,
            List.forall_mem_singleton.mpr isDigit⟩
        · exact forall_digit (p := fun c => digitValue c < 10) (by decide +kernel) isDigit

/-! ## Dates and their days -/

theorem yields_dateOf_iff {year : Int} {month day : Nat} {value : Date} :
    (dateOf year month day).Yields cs value rest ↔
      Date.ofCivil? year month day = some value ∧ cs = rest := by
  rw [dateOf]
  cases Date.ofCivil? year month day with
  | none => simp [not_yields_fail]
  | some found => simp [yields_pure_iff]

/-- The part of a date in front of its day. -/
def yearAndMonth : PlainScan (Int × Nat) := do
  let year ← year
  character '-'
  let month ← number 2
  character '-'
  return (year, month)

theorem isLocal_yearAndMonth : yearAndMonth.IsLocal :=
  .bind isLocal_year fun _ => .bind (isLocal_character _) fun _ =>
    .bind (isLocal_number 2) fun _ => .bind (isLocal_character _) fun _ => .pure

theorem yields_date_iff {value : Date} :
    date.Yields cs value rest ↔
      ∃ year month behind day, yearAndMonth.Yields cs (year, month) behind ∧
        (number 2).Yields behind day rest ∧ Date.ofCivil? year month day = some value := by
  simp only [date, yearAndMonth, yields_bind_iff, yields_dateOf_iff, yields_pure_iff,
    Prod.mk.injEq]
  constructor
  · rintro ⟨year, c₁, isYear, _, c₂, isHyphen, month, c₃, isMonth, _, c₄, isHyphen', day, c₅,
      isDay, isDate, rfl⟩
    exact ⟨year, month, c₄, day, ⟨year, c₁, isYear, (), c₂, isHyphen, month, c₃, isMonth, (), c₄,
      isHyphen', ⟨rfl, rfl⟩, rfl⟩, isDay, isDate⟩
  · rintro ⟨_, _, _, day, ⟨year, c₁, isYear, _, c₂, isHyphen, month, c₃, isMonth, _, c₄,
      isHyphen', ⟨rfl, rfl⟩, rfl⟩, isDay, isDate⟩
    exact ⟨year, c₁, isYear, (), c₂, isHyphen, month, c₃, isMonth, (), c₄, isHyphen', day, _,
      isDay, isDate, rfl⟩

/-- A date is another one without the second digit of its day. -/
def LosesDigit (cut whole : Date) : Prop :=
  ∃ year month day, 10 ≤ day ∧ Date.ofCivil? year month day = some whole ∧
    Date.ofCivil? year month (day / 10) = some cut

/-- Without the second digit a day comes earlier in its month. -/
theorem LosesDigit.lt {cut whole : Date} (loses : LosesDigit cut whole) : cut < whole := by
  obtain ⟨year, month, day, twoDigits, isWhole, isCut⟩ := loses
  change cut.number < whole.number
  rw [Date.number_of_ofCivil? isWhole, Date.number_of_ofCivil? isCut, dayNumber, dayNumber]
  omega

/-- A date that ends a text and the one in front of a longer text are read from the same
characters, or the text ends within the day. -/
theorem eq_or_losesDigit_of_yields_date {head more : List Char} {cut whole : Date}
    (alone : date.Yields head cut []) (inFront : date.Yields (head ++ more) whole rest) :
    cut = whole ∧ rest = more ∨ LosesDigit cut whole := by
  obtain ⟨year, month, behind, day, begins, isDay, isCut⟩ := yields_date_iff.mp alone
  obtain ⟨_, _, _, _, begins', isDay', isWhole⟩ := yields_date_iff.mp inFront
  obtain ⟨gap, digits, same, -, nonempty, -⟩ := yields_number_iff.mp isDay
  obtain ⟨front, rfl, again⟩ := isLocal_yearAndMonth begins
  have goesOn : ∀ c ∈ (behind ++ more).head?, behind.head? = some c := by
    cases behind with
    | nil => simp [nonempty] at same
    | cons c behind => exact fun d isHead => isHead
  rw [List.append_assoc] at begins'
  obtain ⟨same, rfl⟩ := begins'.unique (again _ goesOn)
  obtain ⟨rfl, rfl⟩ := Prod.mk.inj same
  obtain ⟨longer, left, isLonger, further⟩ := exists_yields_number_append isDay more
  obtain ⟨rfl, rfl⟩ := isDay'.unique isLonger
  rcases further with ⟨rfl, rfl⟩ | ⟨digit, small, rfl⟩
  · exact Or.inl ⟨Option.some.inj (isCut.symm.trans isWhole), rfl⟩
  · have positive := Date.one_le_of_ofCivil? isCut
    have cutDay : (day * 10 + digit) / 10 = day := by omega
    exact Or.inr ⟨_, _, day * 10 + digit, by omega, isWhole, cutDay.symm ▸ isCut⟩

/-! ## Padded dates -/

/-- The year, the month and the day of a date are padded with zeros, if need be. -/
def StartsPadded (cs : List Char) : Prop :=
  ∃ year month day rest, cs = year ++ '-' :: (month ++ '-' :: (day ++ rest)) ∧
    (year.length = 4 ∧ month.length = 2 ∧ day.length = 2) ∧
    ∀ c ∈ year ++ month ++ day, c.isDigit = true

theorem byteLength_of_digits {digits : List Char}
    (areDigits : ∀ c ∈ digits, c.isDigit = true) : byteLength digits = digits.length := by
  induction digits with
  | nil => rfl
  | cons digit digits ih =>
      obtain ⟨isDigit, others⟩ := List.forall_mem_cons.mp areDigits
      have size : digit.utf8Size = 1 :=
        forall_digit (p := fun c => c.utf8Size = 1) (by decide +kernel) isDigit
      rw [byteLength, ih others, size, List.length_cons, Nat.add_comm]

/-- A number with all its digits is read from just these. -/
theorem yields_number_of_length {width : Nat} {digits : List Char}
    (areDigits : ∀ c ∈ digits, c.isDigit = true) (all : digits.length = width)
    (nonempty : digits ≠ []) (rest : List Char) :
    (number width).Yields (digits ++ rest) (natOfDigits digits) rest :=
  yields_number_iff.mpr ⟨[], digits, rfl, List.forall_mem_nil _, nonempty, areDigits, all.le,
    Or.inl all, rfl⟩

theorem yields_character (c : Char) (rest : List Char) :
    (character c).Yields (c :: rest) () rest :=
  yields_bind_iff.mpr ⟨true, rest, yields_accept_iff.mpr (Or.inl ⟨rfl, rfl⟩),
    yields_pure_iff.mpr ⟨rfl, rfl⟩⟩

/-- A year of four digits has no sign. -/
theorem yields_year_of_length {digits : List Char}
    (areDigits : ∀ c ∈ digits, c.isDigit = true) (all : digits.length = 4) (rest : List Char) :
    year.Yields (digits ++ rest) (natOfDigits digits) rest := by
  have nonempty : digits ≠ [] := List.ne_nil_of_length_eq_add_one all
  have noSign (sign : Char) (notDigit : sign.isDigit = false) :
      (accept [sign] : PlainScan Bool).Yields (digits ++ rest) false (digits ++ rest) := by
    refine yields_accept_iff.mpr (Or.inr ⟨rfl, rfl, fun isSign => ?_⟩)
    rw [List.head?_append_of_ne_nil _ nonempty] at isSign
    rw [areDigits sign (List.mem_of_mem_head? isSign)] at notDigit
    cases notDigit
  have noBlank := isBlank_eq_false_of_digits nonempty areDigits rest
  exact yields_bind_iff.mpr ⟨(), _,
    yields_blanks_iff.mpr ⟨[], rfl, List.forall_mem_nil _, noBlank⟩,
    yields_bind_iff.mpr ⟨false, _, noSign '-' (by decide),
      yields_bind_iff.mpr ⟨false, _, noSign '+' (by decide),
        yields_bind_iff.mpr ⟨_, rest, yields_number_of_length areDigits all nonempty rest,
          yields_pure_iff.mpr ⟨rfl, rfl⟩⟩⟩⟩⟩

/-- A padded date takes up ten bytes. -/
theorem byteLength_of_startsPadded {value : Date} (padded : StartsPadded cs)
    (reads : date.Yields cs value rest) :
    ∃ front, cs = front ++ rest ∧ byteLength front = 10 := by
  obtain ⟨yearDigits, monthDigits, dayDigits, more, rfl, ⟨four, two, alsoTwo⟩, areDigits⟩ :=
    padded
  simp only [List.mem_append, or_imp, forall_and] at areDigits
  obtain ⟨⟨inYear, inMonth⟩, inDay⟩ := areDigits
  have hasDigits {digits : List Char} (two : digits.length = 2) : digits ≠ [] := by
    rintro rfl
    cases two
  obtain ⟨_, _, behind, _, begins, isDay, -⟩ := yields_date_iff.mp reads
  have start : yearAndMonth.Yields
      (yearDigits ++ '-' :: (monthDigits ++ '-' :: (dayDigits ++ more)))
      (natOfDigits yearDigits, natOfDigits monthDigits) (dayDigits ++ more) :=
    yields_bind_iff.mpr ⟨_, _, yields_year_of_length inYear four _,
      yields_bind_iff.mpr ⟨(), _, yields_character '-' _,
        yields_bind_iff.mpr ⟨_, _, yields_number_of_length inMonth two (hasDigits two) _,
          yields_bind_iff.mpr ⟨(), _, yields_character '-' _,
            yields_pure_iff.mpr ⟨rfl, rfl⟩⟩⟩⟩⟩
  obtain ⟨-, rfl⟩ := begins.unique start
  obtain ⟨-, rfl⟩ :=
    isDay.unique (yields_number_of_length inDay alsoTwo (hasDigits alsoTwo) more)
  refine ⟨yearDigits ++ '-' :: (monthDigits ++ '-' :: dayDigits), by simp, ?_⟩
  rw [byteLength_append, byteLength, byteLength_append, byteLength, byteLength_of_digits inYear,
    byteLength_of_digits inMonth, byteLength_of_digits inDay, four, two, alsoTwo]
  rfl

/-! ## Whole texts -/

theorem whole?_eq_some_iff {α : Type} {scanner : PlainScan α} {value : α} :
    whole? scanner cs = some value ↔ scanner.Yields cs value [] := by
  rw [whole?]
  constructor
  · intro found
    split at found
    · rename_i isRead
      exact ⟨_, isRead, Option.some.inj found, rfl⟩
    · cases found
  · rintro ⟨⟨read, left, length_le⟩, isRead, rfl, rfl⟩
    rw [isRead]

/-- The date of an instant stands in front. -/
theorem exists_yields_date_of_instant {blank seconds : Bool} {value : Instant}
    (reads : (instant blank seconds).Yields cs value rest) :
    ∃ behind, date.Yields cs value.date behind := by
  simp only [instant, yields_bind_iff] at reads
  obtain ⟨found, behind, isDate, _, _, _, hour, _, _, _, _, _, minute, _, _, ends⟩ := reads
  refine ⟨behind, ?_⟩
  cases seconds with
  | true =>
      simp only [if_pos, yields_bind_iff, yields_pure_iff] at ends
      obtain ⟨_, _, _, _, _, _, rfl, _⟩ := ends
      exact isDate
  | false =>
      simp only [Bool.false_eq_true, if_false, yields_bind_iff, yields_pure_iff] at ends
      obtain ⟨_, _, _, rfl, _⟩ := ends
      exact isDate

end PlainScan

/-! ## The first bytes of a text -/

theorem byteLength_eq_zero_iff : byteLength cs = 0 ↔ cs = [] := by
  cases cs with
  | nil => simp [byteLength]
  | cons c cs => simpa using (byteLength_pos (List.cons_ne_nil c cs)).ne'

theorem firstBytes?_eq_some_iff {count : Nat} {head : List Char} :
    firstBytes? count cs = some head ↔ ∃ tail, cs = head ++ tail ∧ byteLength head = count := by
  induction cs generalizing count head with
  | nil =>
      cases count with
      | zero =>
          rw [firstBytes?, Option.some.injEq]
          constructor
          · rintro rfl
            exact ⟨[], rfl, rfl⟩
          · rintro ⟨_, -, size⟩
            exact (byteLength_eq_zero_iff.mp size).symm
      | succ count =>
          rw [firstBytes?]
          refine iff_of_false (Option.some_ne_none head).symm ?_
          rintro ⟨_, same, size⟩
          obtain ⟨rfl, -⟩ := List.append_eq_nil_iff.mp same.symm
          cases size
  | cons c cs ih =>
      cases count with
      | zero =>
          rw [firstBytes?, Option.some.injEq]
          constructor
          · rintro rfl
            exact ⟨c :: cs, rfl, rfl⟩
          · rintro ⟨_, -, size⟩
            exact (byteLength_eq_zero_iff.mp size).symm
      | succ count =>
          rw [firstBytes?]
          constructor
          · intro found
            split at found
            · rename_i fits
              obtain ⟨front, isFront, rfl⟩ := Option.map_eq_some_iff.mp found
              obtain ⟨tail, rfl, size⟩ := ih.mp isFront
              refine ⟨tail, rfl, ?_⟩
              rw [byteLength]
              omega
            · cases found
          · rintro ⟨tail, same, size⟩
            cases head with
            | nil => cases size
            | cons d head =>
                obtain ⟨rfl, rfl⟩ := List.cons.inj same
                rw [byteLength] at size
                rw [if_pos (by omega), ih.mpr ⟨tail, rfl, by omega⟩]
                rfl

namespace Date

theorem ofField?_eq_some_iff {text : String} {value : Date} :
    ofField? text = some value ↔
      ∃ head more, text.toList = head ++ more ∧ byteLength head = 10 ∧
        PlainScan.date.Yields head value [] := by
  rw [ofField?, Option.bind_eq_some_iff]
  constructor
  · rintro ⟨head, isHead, found⟩
    obtain ⟨more, same, size⟩ := firstBytes?_eq_some_iff.mp isHead
    exact ⟨head, more, same, size, PlainScan.whole?_eq_some_iff.mp found⟩
  · rintro ⟨head, more, same, size, found⟩
    exact ⟨head, firstBytes?_eq_some_iff.mpr ⟨more, same, size⟩,
      PlainScan.whole?_eq_some_iff.mpr found⟩

end Date

end TaskQuery
