import Caret.Console.Basic
import Caret.Proofs.Text.Numerals

/-!
# The levels that texts give

A text gives a level by its number, in decimal digits of any script, or by one of the names; any
other text gives none. A text of digits is taken for a number, but not every digit has a place in
one, and a number may have only so many digits. So reading fails for a text of digits some of which
are not decimal, and for one of too many; of every other text the level is read that it gives.
-/

namespace Caret.Log

open Text

/-! ## Digits of all scripts -/

/-- The ranges of all digits. -/
def digitRanges : List (Nat × Nat) :=
  decimalZeros.map (fun first ↦ (first, first + 9)) ++ digitFormRanges

private theorem isDigit_eq (c : Char) : isDigit c = inRanges digitRanges c := by
  have decimal : isDecimal c = inRanges (decimalZeros.map fun first ↦ (first, first + 9)) c := by
    rw [isDecimal, decimalValue?, Option.isSome_map, List.isSome_find?, inRanges, List.any_map]
    rfl
  rw [isDigit, decimal, digitRanges, inRanges, inRanges, inRanges, List.any_append]

/-- A digit is in no range that is apart from all ranges of digits. -/
theorem inRanges_of_isDigit {table : List (Nat × Nat)}
    (apart : ∀ digits ∈ digitRanges, ∀ range ∈ table, digits.2 < range.1 ∨ range.2 < digits.1)
    {c : Char} (digit : isDigit c = true) : inRanges table c = false := by
  by_contra member
  rw [Bool.not_eq_false, inRanges_eq_true_iff] at member
  rw [isDigit_eq, inRanges_eq_true_iff] at digit
  obtain ⟨range, listed, from_start, to_stop⟩ := member
  obtain ⟨digits, known, low, high⟩ := digit
  have := apart digits known range listed
  omega

private theorem isPadding_of_isDigit {c : Char} (digit : isDigit c = true) :
    isPadding c = false := by
  rw [isPadding, isBlank, inRanges_of_isDigit (by decide +kernel) digit, Bool.false_and]

private theorem capital_of_isDigit {c : Char} (digit : isDigit c = true) : capital c = c := by
  have dotless : c ≠ 'ı' := by
    rintro rfl
    exact absurd digit (by decide)
  have long : c ≠ 'ſ' := by
    rintro rfl
    exact absurd digit (by decide)
  have letter : ¬('a'.val ≤ c.val ∧ c.val ≤ 'z'.val) := by
    rintro ⟨low, high⟩
    have inside : inRanges [(0x61, 0x7A)] c = true :=
      inRanges_eq_true_iff.mpr ⟨_, List.mem_singleton_self _, low, high⟩
    rw [inRanges_of_isDigit (by decide +kernel) digit] at inside
    cases inside
  rw [capital, if_neg dotless, if_neg long]
  exact dif_neg letter

/-- A text of digits has no sign, nothing around it and no mark of a base, so that it is read as
the digits that it is. -/
theorem readInteger_of_isDigit {word : Text} (digits : ∀ c ∈ word, isDigit c = true) :
    readInteger .decimal word = (readDigits .decimal word).map fun n : Nat ↦ (n : Int) := by
  have solid : ∀ c ∈ word, isPadding c = false := fun c member ↦
    isPadding_of_isDigit (digits c member)
  have whole : trimPadding word = word := by
    rw [trimPadding, dropWhile_eq_self solid,
      dropWhile_eq_self fun c member ↦ solid c (List.mem_reverse.mp member), List.reverse_reverse]
  have unsigned : readSign word = (false, word) := by
    unfold readSign
    split
    · exact absurd (digits '-' List.mem_cons_self) (by decide)
    · exact absurd (digits '+' List.mem_cons_self) (by decide)
    · rfl
  rw [readInteger, whole, unsigned]
  simp only [dropMark_decimal, Bool.false_eq_true, if_false]
  cases readDigits .decimal word <;> rfl

/-! ## Reading -/

variable {text : Text}

/-- Of a text of digits the number is read that it starts with, unless that has too many digits or
is not the whole text. -/
theorem ofText_of_digits (nonempty : trim text ≠ [])
    (digits : ∀ c ∈ trim text, isDigit c = true) :
    ofText text =
      let run := (trim text).takeWhile isDecimal
      if maxDecimalDigits < run.length then .error (.tooManyDigits run.length)
      else if run.length < (trim text).length then .error (.notDecimal (trim text))
      else .ok (some (Base.decimal.number run : Int)) := by
  have plain : ∀ c ∈ trim text, c ≠ '_' := by
    rintro c member rfl
    exact absurd (digits _ member) (by decide)
  have guarded : trim text ≠ [] ∧ (trim text).all isDigit = true :=
    ⟨nonempty, List.all_eq_true.mpr digits⟩
  rw [ofText]
  simp only [if_pos guarded, readInteger_of_isDigit digits, readDigits_of_forall_ne plain]
  by_cases none_read : (trim text).takeWhile isDecimal = []
  · have short : 0 < (trim text).length := List.length_pos_of_ne_nil nonempty
    rw [none_read, if_pos rfl, List.length_nil, if_neg (Nat.not_lt_zero _), if_pos short]
    rfl
  · rw [if_neg none_read]
    by_cases many : maxDecimalDigits < ((trim text).takeWhile isDecimal).length
    · rw [if_pos many, if_pos many]
      rfl
    · rw [if_neg many, if_neg many]
      by_cases short : ((trim text).takeWhile isDecimal).length < (trim text).length
      · rw [if_pos short, if_pos short]
        rfl
      · rw [if_neg short, if_neg short]
        rfl

private theorem ofText_of_not_digits (h : ¬ (trim text ≠ [] ∧ ∀ c ∈ trim text, isDigit c = true)) :
    ofText text = .ok (levelsByName.lookup (String.ofList ((trim text).map capital))) := by
  have unguarded : ¬ (trim text ≠ [] ∧ (trim text).all isDigit = true) := by
    rwa [List.all_eq_true]
  rw [ofText]
  simp only [if_neg unguarded]

/-! ## What a text gives -/

/-- A number: one decimal digit or more, and nothing else. -/
def IsNumber (word : Text) : Prop := word ≠ [] ∧ ∀ c ∈ word, isDecimal c = true

instance (word : Text) : Decidable (IsNumber word) :=
  -- Other instances would go through all code points.
  decidable_of_iff (word ≠ [] ∧ word.all isDecimal = true) (and_congr_right' List.all_eq_true)

/-- A number is a text of digits. -/
theorem IsNumber.isDigit {word : Text} (number : IsNumber word) : ∀ c ∈ word, isDigit c = true :=
  fun c member ↦ isDigit_of_isDecimal (number.2 c member)

/-- The level that a text gives. What is around it is left out, and small letters stand for
capitals. -/
inductive Gives (text : Text) : Option Int → Prop
  | number {values : List Nat} (nonempty : values ≠ [])
      (digits : (trim text).map decimalValue? = values.map some) :
    Gives text (some (Nat.ofDigits 10 values.reverse : Nat))
  | name {name : String} {level : Int} (listed : (name, level) ∈ levelsByName)
      (same : (trim text).map capital = name.toList) : Gives text (some level)
  | neither (unnumbered : ¬ IsNumber (trim text))
      (unnamed : ∀ entry ∈ levelsByName, (trim text).map capital ≠ entry.1.toList) :
    Gives text none

/-- A text whose level can be read: if it is of digits, then of decimal ones and of not too many. -/
def IsReadable (text : Text) : Prop :=
  (∀ c ∈ trim text, isDigit c = true) →
    (∀ c ∈ trim text, isDecimal c = true) ∧ (trim text).length ≤ maxDecimalDigits

/-- A number is the text of the values of its digits. -/
theorem isNumber_iff {word : Text} :
    IsNumber word ↔
      ∃ values : List Nat, values ≠ [] ∧ word.map decimalValue? = values.map some := by
  constructor
  · rintro ⟨nonempty, decimal⟩
    refine ⟨word.map fun c ↦ (decimalValue? c).getD 0, mt List.map_eq_nil_iff.mp nonempty, ?_⟩
    rw [List.map_map]
    refine List.map_congr_left fun c member ↦ ?_
    obtain ⟨value, found⟩ := Option.isSome_iff_exists.mp (decimal c member)
    rw [Function.comp_apply, found, Option.getD_some]
  · rintro ⟨values, nonempty, digits⟩
    refine ⟨?_, fun c member ↦ ?_⟩
    · rintro rfl
      exact nonempty (List.map_eq_nil_iff.mp digits.symm)
    · have value : decimalValue? c ∈ values.map some := digits ▸ List.mem_map_of_mem member
      obtain ⟨_, -, found⟩ := List.mem_map.mp value
      rw [isDecimal, ← found, Option.isSome_some]

private theorem map_capital_ne_of_digits {word : Text} (digits : ∀ c ∈ word, isDigit c = true) :
    ∀ entry ∈ levelsByName, word.map capital ≠ entry.1.toList := by
  have letters : ∀ entry ∈ levelsByName, entry.1.toList.all isDigit = false := by decide +kernel
  have same : word.map capital = word := by
    rw [List.map_congr_left fun c member ↦ capital_of_isDigit (digits c member), List.map_id']
  intro entry listed equal
  have letter := letters entry listed
  rw [← equal, same, List.all_eq_true.mpr digits] at letter
  cases letter

/-- Each name stands for its level. -/
theorem lookup_levelsByName {name : String} {level : Int} :
    levelsByName.lookup name = some level ↔ (name, level) ∈ levelsByName := by
  constructor
  · intro found
    obtain ⟨front, behind, split, -⟩ := List.lookup_eq_some_iff.mp found
    exact split ▸ List.mem_append_right front List.mem_cons_self
  · have distinct : ∀ entry ∈ levelsByName, levelsByName.lookup entry.1 = some entry.2 := by decide
    exact fun listed ↦ distinct (name, level) listed

/-- A number gives itself, and any other text what it names. -/
theorem gives_iff {level : Option Int} :
    Gives text level ↔ level =
      if IsNumber (trim text) then some (Base.decimal.number (trim text) : Int)
      else levelsByName.lookup (String.ofList ((trim text).map capital)) := by
  constructor
  · intro gives
    cases gives with
    | number nonempty digits =>
      rw [if_pos (isNumber_iff.mpr ⟨_, nonempty, digits⟩), number_eq_ofDigits digits]
    | @name name level listed same =>
      have unnumbered : ¬ IsNumber (trim text) := fun number ↦
        map_capital_ne_of_digits number.isDigit _ listed same
      rw [if_neg unnumbered, same, String.ofList_toList, lookup_levelsByName.mpr listed]
    | neither unnumbered unnamed =>
      rw [if_neg unnumbered, eq_comm, List.lookup_eq_none_iff]
      intro entry listed
      rw [bne_iff_ne]
      rintro same
      exact unnamed entry listed (by rw [← same, String.toList_ofList])
  · rintro rfl
    split
    · next number =>
      obtain ⟨values, nonempty, digits⟩ := isNumber_iff.mp number
      rw [number_eq_ofDigits digits]
      exact .number nonempty digits
    · next unnumbered =>
      cases found : levelsByName.lookup (String.ofList ((trim text).map capital)) with
      | some level =>
        exact .name (lookup_levelsByName.mp found) (String.toList_ofList).symm
      | none =>
        refine .neither unnumbered fun entry listed same ↦ ?_
        have differs := List.lookup_eq_none_iff.mp found entry listed
        rw [same, String.ofList_toList, bne_self_eq_false] at differs
        cases differs

/-- A level that a text gives is not below the lowest one. -/
theorem Gives.lowest_le {level : Int} (gives : Gives text (some level)) : lowest ≤ level := by
  cases gives with
  | number => exact Int.natCast_nonneg _
  | @name name _ listed same =>
    have named : ∀ entry ∈ levelsByName, lowest ≤ entry.2 := by decide
    exact named (name, level) listed

/-- Of a text that can be read the level is read that it gives. -/
theorem Gives.ofText_eq {level : Option Int} (gives : Gives text level)
    (readable : IsReadable text) : ofText text = .ok level := by
  rw [gives_iff.mp gives]
  by_cases digits : trim text ≠ [] ∧ ∀ c ∈ trim text, isDigit c = true
  · obtain ⟨nonempty, digits⟩ := digits
    obtain ⟨decimal, few⟩ := readable digits
    have number : IsNumber (trim text) := ⟨nonempty, decimal⟩
    have whole : (trim text).takeWhile isDecimal = trim text :=
      List.takeWhile_eq_self_iff.mpr decimal
    rw [ofText_of_digits nonempty digits]
    simp only [whole, if_neg (Nat.not_lt.mpr few), if_neg (Nat.lt_irrefl _), if_pos number]
  · have unnumbered : ¬ IsNumber (trim text) := fun number ↦ digits ⟨number.1, number.isDigit⟩
    rw [ofText_of_not_digits digits, if_neg unnumbered]

/-- A text that cannot be read has too many decimal digits in front, or another digit behind
them. -/
theorem ofText_of_not_isReadable (unreadable : ¬ IsReadable text) :
    let run := (trim text).takeWhile isDecimal
    ofText text = .error (if maxDecimalDigits < run.length then .tooManyDigits run.length
      else .notDecimal (trim text)) := by
  intro run
  obtain ⟨digits, faulty⟩ := not_forall.mp unreadable
  have nonempty : trim text ≠ [] := by
    intro empty
    rw [empty] at faulty
    exact faulty ⟨List.forall_mem_nil _, Nat.zero_le _⟩
  rw [ofText_of_digits nonempty digits]
  by_cases many : maxDecimalDigits < run.length
  · rw [if_pos many, if_pos many]
  · have short : run.length < (trim text).length := by
      refine (List.takeWhile_prefix _).length_le.lt_of_ne fun same ↦ faulty ?_
      have whole : run = trim text := (List.takeWhile_prefix _).eq_of_length same
      exact ⟨List.takeWhile_eq_self_iff.mp whole, whole ▸ Nat.not_lt.mp many⟩
    rw [if_neg many, if_neg many, if_pos short]

/-- Whatever the variable of the environment is set to, its text gives exactly one level or none,
and no level below the lowest. If the text can be read, this is the level set. If not, then it is of
digits, and asking for the level fails: with the count of its decimal digits in front, if these are
too many, else with the text. -/
theorem level_of_environment (environment : Environment) (value : String) :
    let set := { environment with logLevel := some value }
    let run := (trim value.toList).takeWhile isDecimal
    ∃ level, (∀ other, Gives value.toList other ↔ other = level) ∧ (∀ n ∈ level, 0 ≤ n) ∧
      (IsReadable value.toList → set.level = .ok level) ∧
      (¬ IsReadable value.toList →
        set.level = .error (if maxDecimalDigits < run.length then .tooManyDigits run.length
          else .notDecimal (trim value.toList))) := by
  intro set run
  have asked : set.level = ofText value.toList := rfl
  refine ⟨_, fun other ↦ gives_iff, fun level given ↦ (gives_iff.mpr given.symm).lowest_le, ?_, ?_⟩
  · intro readable
    rw [asked]
    exact (gives_iff.mpr rfl).ofText_eq readable
  · intro unreadable
    rw [asked]
    exact ofText_of_not_isReadable unreadable

/-- A superscript is a digit with no place in a number. It gives no level, but asking for the level
fails. -/
theorem superscript_fails :
    ¬ IsReadable ['²'] ∧ Gives ['²'] none ∧
      ({ logLevel := some "²" } : Environment).level = .error (.notDecimal ['²']) := by
  have unreadable : ¬ IsReadable ['²'] := fun readable ↦
    absurd ((readable (List.all_eq_true.mp (by decide))).1 '²' (by decide)) (by decide)
  obtain ⟨level, gives, -, -, fails⟩ := level_of_environment {} "²"
  refine ⟨unreadable, .neither (by decide) (by decide), ?_⟩
  rw [fails unreadable]
  rfl

end Caret.Log
