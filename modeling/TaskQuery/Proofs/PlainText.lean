/-
# Plain text

A terminal takes a code from a text where the text has the one character that every code
starts with. Text without that character is plain. It stays plain when it is padded or joined,
when its letters are lowered, and when it is set off while colours are not wanted.
Numbers are plain, and so is everything that is written with escapes: a quoted text and a
JSON document are plain whatever they tell of.
-/

import TaskQuery.Json.Printer
import TaskQuery.Report.Style
import TaskQuery.Text.Digits
import TaskQuery.Text.Escape
import TaskQuery.Text.Lowercase
import TaskQuery.Text.Padding

namespace TaskQuery

open Text

/-- A terminal takes no code from a text. -/
def IsPlain (text : String) : Prop :=
  '\x1b' ∉ text.toList

instance (text : String) : Decidable (IsPlain text) :=
  inferInstanceAs (Decidable ('\x1b' ∉ text.toList))

theorem not_mem_replicate {c : Char} (other : c ≠ '\x1b') (count : Nat) :
    '\x1b' ∉ List.replicate count c :=
  fun escape => other (List.eq_of_mem_replicate escape).symm

theorem not_mem_intercalate {c : Char} {separator : String} {texts : List String}
    (noSeparator : c ∉ separator.toList) (absent : ∀ text ∈ texts, c ∉ text.toList) :
    c ∉ (separator.intercalate texts).toList := by
  induction texts with
  | nil => exact List.not_mem_nil
  | cons first texts ih =>
      obtain ⟨notFirst, others⟩ := List.forall_mem_cons.mp absent
      by_cases alone : texts = []
      · rwa [alone, String.intercalate_singleton]
      · rw [String.intercalate_cons_of_ne_nil alone, String.toList_append, String.toList_append,
          List.mem_append, List.mem_append]
        exact not_or.mpr ⟨not_or.mpr ⟨notFirst, noSeparator⟩, ih others⟩

namespace IsPlain

variable {first second separator : String} {texts : List String} {cs : List Char}

theorem ofList (plain : '\x1b' ∉ cs) : IsPlain (String.ofList cs) := by
  rwa [IsPlain, String.toList_ofList]

/-- A text that is written out is checked character by character. -/
theorem literal (checked : (!cs.contains '\x1b') = true) : IsPlain (String.ofList cs) := by
  apply ofList
  simpa using checked

theorem append_iff : IsPlain (first ++ second) ↔ IsPlain first ∧ IsPlain second := by
  rw [IsPlain, String.toList_append, List.mem_append]
  exact not_or

theorem append (isFirst : IsPlain first) (isSecond : IsPlain second) :
    IsPlain (first ++ second) :=
  append_iff.mpr ⟨isFirst, isSecond⟩

theorem of_append (plain : IsPlain (first ++ second)) : IsPlain first :=
  (append_iff.mp plain).1

theorem join_iff : IsPlain (String.join texts) ↔ ∀ text ∈ texts, IsPlain text := by
  rw [IsPlain, String.toList_join, List.mem_flatMap]
  exact not_exists.trans (forall_congr' fun text => not_and)

theorem join (plain : ∀ text ∈ texts, IsPlain text) : IsPlain (String.join texts) :=
  join_iff.mpr plain

theorem join_map {α : Type} {items : List α} {write : α → String}
    (plain : ∀ item ∈ items, IsPlain (write item)) : IsPlain (String.join (items.map write)) :=
  join (List.forall_mem_map.mpr plain)

theorem intercalate (isSeparator : IsPlain separator) (plain : ∀ text ∈ texts, IsPlain text) :
    IsPlain (separator.intercalate texts) :=
  not_mem_intercalate isSeparator plain

theorem singleton {c : Char} (other : c ≠ '\x1b') : IsPlain c.toString := by
  rw [IsPlain, Char.toString_eq_singleton, String.toList_singleton, List.mem_singleton]
  exact other.symm

theorem spaces (count : Nat) : IsPlain (spaces count) :=
  .ofList (not_mem_replicate (by decide) count)

theorem padRight (width : Nat) {text : String} (plain : IsPlain text) :
    IsPlain (padRight width text) :=
  plain.append (.spaces _)

theorem padLeft (width : Nat) {text : String} (plain : IsPlain text) :
    IsPlain (padLeft width text) :=
  IsPlain.append (.spaces _) plain

/-- Where colours are not wanted, text that is set off stays plain. -/
theorem styled (styles : List Style) {text : String} (plain : IsPlain text) :
    IsPlain (styled false styles text) :=
  plain

end IsPlain

/-- A text that may be missing is plain. -/
def PlainIfGiven (text : Option String) : Prop :=
  ∀ value ∈ text, IsPlain value

theorem plainIfGiven_none : PlainIfGiven none := by
  rintro _ ⟨⟩

theorem plainIfGiven_some {text : String} (plain : IsPlain text) : PlainIfGiven (some text) := by
  rintro _ ⟨⟩
  exact plain

theorem not_isPlain_control (code : String) : ¬ IsPlain (Style.control code) := by
  intro plain
  apply plain
  rw [Style.control, String.toList_append, String.toList_append]
  simp

/-- Text that is set off where colours are wanted is not plain. -/
theorem not_isPlain_styled {styles : List Style} (some : styles ≠ []) (text : String) :
    ¬ IsPlain (styled true styles text) := by
  obtain ⟨before, last, rfl⟩ := (List.eq_nil_or_concat styles).resolve_left some
  rw [styled, if_pos rfl, List.concat_eq_append, List.foldl_append, List.foldl_cons,
    List.foldl_nil, Style.paint]
  exact fun plain => not_isPlain_control _ plain.of_append.of_append

/-! ## Numbers -/

/-- The characters that digits are written with. No base has digits beyond them, and one sign
stands for all of these. -/
def digitSigns : List Char :=
  "0123456789abcdef*".toList

theorem digitChar_mem_digitSigns (n : Nat) : n.digitChar ∈ digitSigns := by
  fun_cases Nat.digitChar n <;> decide

theorem not_mem_toDigits {c : Char} (noDigit : c ∉ digitSigns) {base : Nat} (large : 1 < base)
    (n : Nat) : c ∉ Nat.toDigits base n := by
  have noSign (n : Nat) : c ≠ n.digitChar := by
    rintro rfl
    exact noDigit (digitChar_mem_digitSigns n)
  induction n using Nat.strongRecOn with
  | ind n ih =>
      by_cases small : n < base
      · rw [Nat.toDigits_of_lt_base small, List.mem_singleton]
        exact noSign n
      · have shorter : n / base < n := Nat.div_lt_self (by omega) large
        rw [Nat.toDigits_of_base_le large (by omega), List.mem_append, List.mem_singleton]
        exact not_or.mpr ⟨ih _ shorter, noSign _⟩

theorem isPlain_nat (n : Nat) : IsPlain (toString n) := by
  rw [Nat.toString_eq_ofList_toDigits]
  exact .ofList (not_mem_toDigits (by decide) (by decide) n)

theorem isPlain_int (value : Int) : IsPlain (toString value) := by
  cases value with
  | ofNat n => exact isPlain_nat n
  | negSucc n => exact .append (.literal rfl) (isPlain_nat (n + 1))

theorem isPlain_zeroPadded (width n : Nat) : IsPlain (zeroPadded width n) := by
  refine .ofList fun escape => ?_
  rcases List.mem_append.mp escape with zero | digit
  · exact not_mem_replicate (by decide) _ zero
  · exact not_mem_toDigits (by decide) (by decide) n digit

/-- A decimal is written with digits, signs, points and an `e`. -/
theorem Decimal.isPlain_text (d : Decimal) : IsPlain d.text := by
  have noDigit (n : Nat) : '\x1b' ∉ Nat.toDigits 10 n := not_mem_toDigits (by decide) (by decide) n
  have noZero (count : Nat) : '\x1b' ∉ List.replicate count '0' :=
    not_mem_replicate (by decide) count
  rw [Decimal.text]
  refine .append ?_ (.ofList ?_)
  · split <;> exact .literal rfl
  · split
    · decide
    split
    · have noMantissa := noDigit d.digits
      have noSign : '\x1b' ≠ if d.leading < 0 then '-' else '+' := by split <;> decide
      split <;> simp_all
    split
    · simp [noDigit, noZero]
    split
    · have noFront (n : Nat) : '\x1b' ∉ (Nat.toDigits 10 d.digits).take n :=
        mt List.mem_of_mem_take (noDigit d.digits)
      have noBack (n : Nat) : '\x1b' ∉ (Nat.toDigits 10 d.digits).drop n :=
        mt List.mem_of_mem_drop (noDigit d.digits)
      simp [noFront, noBack]
    · simp [noDigit, noZero]

theorem JsonNumber.isPlain_text (number : JsonNumber) : IsPlain number.text := by
  cases number with
  | integer value => exact isPlain_int value
  | decimal value => exact value.isPlain_text

/-! ## Text with escapes -/

/-- The characters that escapes are spelled with, digits apart. -/
def escapeSigns : List Char :=
  ['\\', '0', 't', 'n', 'r', '"', 'u', '\x7b', '\x7d']

section Escaped

variable {other : Char} (noSign : other ∉ escapeSigns) (noDigit : other ∉ digitSigns)
  (escaped : other ∉ escapeChar other)
include noSign noDigit escaped

/-- A character that is escaped itself and is not used in escapes is never written. -/
theorem not_mem_escapeChar (c : Char) : other ∉ escapeChar c := by
  by_cases same : other = c
  · rwa [← same]
  · have noCode : other ∉ hexDigits c.toNat := not_mem_toDigits noDigit (by decide) _
    simp only [escapeSigns, List.mem_cons, List.not_mem_nil, or_false, not_or] at noSign
    fun_cases escapeChar c <;> simp [noSign, noCode, same]

theorem not_mem_quote (text : String) : other ∉ (quote text).toList := by
  have noQuote : other ∉ ['"'] := by
    intro isQuote
    rw [List.mem_singleton.mp isQuote] at noSign
    exact noSign (by decide)
  rw [quote, String.toList_ofList, List.mem_append, List.mem_append, List.mem_flatMap]
  rintro ((opening | ⟨c, -, member⟩) | closing)
  · exact noQuote opening
  · exact not_mem_escapeChar noSign noDigit escaped c member
  · exact noQuote closing

end Escaped

/-- What is told between quotes is plain, whatever it is. -/
theorem isPlain_quote (text : String) : IsPlain (quote text) :=
  not_mem_quote (by decide) (by decide) (by decide) text

/-! ## Lowered letters -/

/-- No letter outside ASCII is lowered to the character that codes start with. -/
theorem lowercaseCode_ne_escape {code : Nat} (other : code ≠ 0x1b) :
    lowercaseCode code ≠ 0x1b := by
  have above : ∀ run ∈ lowercaseRuns, 0x1b < (run.first + run.shift : Int) := by decide +kernel
  rw [lowercaseCode]
  split
  · rename_i run found
    have far := above run (List.mem_of_find?_eq_some found)
    have within := List.find?_some found
    simp only [Bool.and_eq_true, decide_eq_true_eq] at within
    omega
  · exact other

theorem ofNat_ne_escape {code : Nat} (other : code ≠ 0x1b) : Char.ofNat code ≠ '\x1b' := by
  by_cases valid : code.isValidChar
  · intro same
    have codes := congrArg Char.toNat same
    rw [Char.ofNat, dif_pos valid] at codes
    exact other codes
  · rw [Char.ofNat, dif_neg valid]
    decide

theorem not_mem_lowercaseChar {c : Char} (other : c ≠ '\x1b') : '\x1b' ∉ lowercaseChar c := by
  have code : c.toNat ≠ 0x1b := by
    rw [← Char.ofNat_toNat c] at other
    exact fun same => other (by rw [same])
  rw [lowercaseChar]
  split
  · rename_i small
    have checked : ∀ n < 128, (Char.ofNat n).toLower = '\x1b' → n = 0x1b := by decide +kernel
    rw [List.mem_singleton]
    intro same
    refine code (checked c.toNat small ?_)
    rw [Char.ofNat_toNat, ← same]
  · split
    · have dotted : '\x1b' ≠ Char.ofNat 0x307 := by decide
      simp [dotted]
    · rw [List.mem_singleton]
      exact (ofNat_ne_escape (lowercaseCode_ne_escape code)).symm

theorem not_mem_lowercaseAfter {cs : List Char} (plain : '\x1b' ∉ cs) (before : List Char) :
    '\x1b' ∉ lowercaseAfter before cs := by
  induction cs generalizing before with
  | nil => exact List.not_mem_nil
  | cons c cs ih =>
      obtain ⟨isFirst, others⟩ := List.ne_and_not_mem_of_not_mem_cons plain
      rw [lowercaseAfter, List.mem_append]
      refine not_or.mpr ⟨?_, ih others _⟩
      split
      · split <;> decide
      · exact not_mem_lowercaseChar (Ne.symm isFirst)

theorem IsPlain.lowercase {text : String} (plain : IsPlain text) : IsPlain (lowercase text) :=
  .ofList (not_mem_lowercaseAfter plain [])

namespace Json

theorem not_mem_encodeChar (c : Char) : '\x1b' ∉ encodeChar c := by
  have noDigit : '\x1b' ∉ Nat.toDigits 16 c.toNat := not_mem_toDigits (by decide) (by decide) _
  fun_cases encodeChar c <;> simp_all [fourDigits]
  rintro rfl
  contradiction

theorem isPlain_encodeString (text : String) : IsPlain (encodeString text) := by
  refine .ofList fun escape => ?_
  simp only [List.mem_append, List.mem_cons, List.mem_flatMap] at escape
  rcases escape with (opening | ⟨c, -, escaped⟩) | closing
  · exact absurd opening (by decide)
  · exact not_mem_encodeChar c escaped
  · exact absurd closing (by decide)

theorem isPlain_lineStart (level : Nat) : IsPlain (lineStart level) :=
  .append (.literal rfl) (.ofList (not_mem_replicate (by decide) _))

mutual

theorem isPlain_prettyAt (level : Nat) : ∀ value : Json, IsPlain (value.prettyAt level)
  | null => .literal rfl
  | bool true => .literal rfl
  | bool false => .literal rfl
  | number value => value.isPlain_text
  | string value => isPlain_encodeString value
  | array [] => .literal rfl
  | array (item :: rest) => by
      have first := isPlain_prettyAt (level + 1) item
      have others := isPlain_prettyItems (level + 1) rest
      have opening : IsPlain ("[" ++ lineStart (level + 1)) :=
        .append (.literal rfl) (isPlain_lineStart _)
      rw [prettyAt]
      exact .append (.append ((opening.append first).append others) (isPlain_lineStart _))
        (.literal rfl)
  | object [] => .literal rfl
  | object ((name, value) :: rest) => by
      have first := isPlain_prettyAt (level + 1) value
      have others := isPlain_prettyMembers (level + 1) rest
      have opening : IsPlain ("\x7b" ++ lineStart (level + 1) ++ encodeString name ++ ": ") :=
        .append (.append (.append (.literal rfl) (isPlain_lineStart _)) (isPlain_encodeString _))
          (.literal rfl)
      rw [prettyAt]
      exact .append (.append ((opening.append first).append others) (isPlain_lineStart _))
        (.literal rfl)

theorem isPlain_prettyItems (level : Nat) : ∀ items, IsPlain (prettyItems level items)
  | [] => .literal rfl
  | item :: rest => by
      have opening : IsPlain ("," ++ lineStart level) :=
        .append (.literal rfl) (isPlain_lineStart _)
      rw [prettyItems]
      exact (opening.append (isPlain_prettyAt level item)).append (isPlain_prettyItems level rest)

theorem isPlain_prettyMembers (level : Nat) : ∀ members, IsPlain (prettyMembers level members)
  | [] => .literal rfl
  | (name, value) :: rest => by
      have opening : IsPlain ("," ++ lineStart level ++ encodeString name ++ ": ") :=
        .append (.append (.append (.literal rfl) (isPlain_lineStart _)) (isPlain_encodeString _))
          (.literal rfl)
      rw [prettyMembers]
      exact (opening.append (isPlain_prettyAt level value)).append
        (isPlain_prettyMembers level rest)

end

/-- A document is plain, whatever it tells. -/
theorem isPlain_pretty (value : Json) : IsPlain value.pretty :=
  isPlain_prettyAt 0 value

end Json

end TaskQuery
