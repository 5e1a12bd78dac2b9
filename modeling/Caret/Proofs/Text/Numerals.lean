import Mathlib.Data.List.Basic
import Mathlib.Data.List.TakeWhile
import Mathlib.Data.Nat.Digits.Defs
import Caret.Text.LowerCase
import Caret.Text.Numeral

/-!
# Reading what was written as a number

An integer is written in digits of ASCII behind a sign. Such digits are digits in every sense,
and nothing that could stand around a numeral or mark its base. So the integer is read back, if it
has no more digits than a numeral may have.
-/

namespace Caret.Text

/-! ## Digits of ASCII -/

/-- A property of the ten digits of ASCII. -/
theorem forall_isDigit {P : Char → Prop} (h : ∀ n < 10, P (Char.ofNat (48 + n)))
    {c : Char} (digit : c.isDigit = true) : P c := by
  obtain ⟨low, high⟩ : 48 ≤ c.toNat ∧ c.toNat ≤ 57 := by
    rw [Char.isDigit, Bool.and_eq_true, decide_eq_true_eq, decide_eq_true_eq] at digit
    exact digit
  have same : c = Char.ofNat (48 + (c.toNat - 48)) := by
    rw [Nat.add_sub_cancel' low, Char.ofNat_toNat]
  rw [same]
  exact h _ (by omega)

/-- A property of all digits of a numeral. -/
theorem forall_mem_toDigits {P : Char → Prop}
    (h : ∀ n < 10, P (Char.ofNat (48 + n))) (n : Nat) :
    ∀ c ∈ Nat.toDigits 10 n, P c :=
  fun _ member ↦ forall_isDigit h (Nat.isDigit_of_mem_toDigits (by decide) (by decide) member)

private theorem digit?_decimal {c : Char} (digit : c.isDigit = true) :
    Base.decimal.digit? c = some (c.toNat - 48) :=
  forall_isDigit (P := fun c ↦ Base.decimal.digit? c = some (c.toNat - 48))
    (by decide +kernel) digit

private theorem number_eq_ofDigitChars {digits : Text} (h : ∀ c ∈ digits, c.isDigit = true) :
    Base.decimal.number digits = Nat.ofDigitChars 10 digits 0 := by
  rw [Base.number, Nat.ofDigitChars_eq_foldl]
  refine List.foldl_ext _ _ 0 fun n c member ↦ ?_
  rw [digit?_decimal (h c member)]
  rfl

/-! ## Digits of all scripts -/

/-- The digits of base ten are the decimal digits of all scripts. -/
theorem digit?_decimal_eq (c : Char) : Base.decimal.digit? c = decimalValue? c := by
  unfold Base.digit?
  cases found : decimalValue? c with
  | some value =>
    have small : value < Base.decimal.size := decimalValue?_lt found
    exact Option.filter_eq_some_iff.mpr ⟨rfl, decide_eq_true small⟩
  | none =>
    -- The letters stand for ten and more.
    simp only [Option.filter_eq_none_iff, decide_eq_true_eq]
    intro value letter
    split at letter
    · next small =>
      have low : 97 ≤ c.toNat := small.1
      cases letter
      show ¬ c.toNat - 87 < 10
      omega
    · split at letter
      · next large =>
        have low : 65 ≤ c.toNat := large.1
        cases letter
        show ¬ c.toNat - 55 < 10
        omega
      · cases letter

/-- Decimal digits make the number that their values are the digits of. -/
theorem number_eq_ofDigits {digits : Text} {values : List Nat}
    (h : digits.map decimalValue? = values.map some) :
    Base.decimal.number digits = Nat.ofDigits 10 values.reverse := by
  have folded (n : Nat) :
      digits.foldl (fun n c ↦ 10 * n + (Base.decimal.digit? c).getD 0) n =
        values.foldl (fun n value ↦ value + 10 * n) n := by
    induction digits generalizing values n with
    | nil =>
      rw [List.map_eq_nil_iff.mp h.symm]
      rfl
    | cons c rest ih =>
      cases values with
      | nil => cases h
      | cons value others =>
        obtain ⟨first, behind⟩ := List.cons.inj h
        rw [List.foldl_cons, List.foldl_cons, digit?_decimal_eq, first, Option.getD_some,
          Nat.add_comm value, ih behind]
  rw [Nat.ofDigits_eq_foldr, List.foldr_reverse]
  exact folded 0

/-- A numeral in base ten has no mark of its base. -/
theorem dropMark_decimal (text : Text) : dropMark .decimal text = text := by
  unfold dropMark
  split <;> simp_all [Base.mark?]

private theorem isGrouped_of_forall_ne {text : Text} (h : ∀ c ∈ text, c ≠ '_')
    (behindDigit : Bool) :
    isGrouped behindDigit text = (behindDigit || !text.isEmpty) := by
  induction text generalizing behindDigit with
  | nil => exact (Bool.or_false _).symm
  | cons c rest ih =>
    obtain ⟨digit, others⟩ := List.forall_mem_cons.mp h
    rw [isGrouped, if_neg digit, ih others, Bool.true_or]
    exact (Bool.or_true _).symm

/-- In a text without underscores the decimal digits are read that it starts with. There has to be
one, there may not be too many, and nothing may stand behind them. -/
theorem readDigits_of_forall_ne {text : Text} (h : ∀ c ∈ text, c ≠ '_') :
    readDigits .decimal text =
      let run := text.takeWhile isDecimal
      if run = [] then .error .malformed
      else if maxDecimalDigits < run.length then .error (.tooManyDigits run.length)
      else if run.length < text.length then .error .malformed
      else .ok (Base.decimal.number run) := by
  have run : text.takeWhile (fun c ↦ c = '_' || (Base.decimal.digit? c).isSome) =
      text.takeWhile isDecimal := by
    induction text with
    | nil => rfl
    | cons c rest ih =>
      obtain ⟨digit, others⟩ := List.forall_mem_cons.mp h
      rw [List.takeWhile_cons, List.takeWhile_cons, ih others, decide_eq_false digit,
        Bool.false_or, digit?_decimal_eq, isDecimal]
  have plain : ∀ c ∈ text.takeWhile isDecimal, c ≠ '_' := fun c member ↦
    h c ((List.takeWhile_prefix _).subset member)
  have digits : (text.takeWhile isDecimal).filter (· ≠ '_') = text.takeWhile isDecimal :=
    List.filter_eq_self.mpr fun c member ↦ decide_eq_true (plain c member)
  simp only [readDigits, run, digits, isGrouped_of_forall_ne plain, Bool.false_or, Bool.not_not,
    List.isEmpty_iff, true_and, gt_iff_lt]

/-! ## Integers -/

/-- Nothing is dropped from a text in which nothing is to be dropped. -/
theorem dropWhile_eq_self {drops : Char → Bool} {text : Text} (h : ∀ c ∈ text, drops c = false) :
    text.dropWhile drops = text := by
  cases text with
  | nil => rfl
  | cons c rest => rw [List.dropWhile_cons, h c List.mem_cons_self]; rfl

/-- A number that is not negative is written in digits. -/
theorem ofInt_natCast (n : Nat) : ofInt n = Nat.toDigits 10 n := Nat.toList_repr

/-- A negative number is written in digits behind a minus sign. -/
theorem ofInt_negSucc (n : Nat) : ofInt (Int.negSucc n) = '-' :: Nat.toDigits 10 (n + 1) := by
  show ("-" ++ Nat.repr (n + 1)).toList = _
  rw [String.toList_append, Nat.toList_repr]
  rfl

/-- An integer has a digit. -/
theorem ofInt_ne_nil (n : Int) : ofInt n ≠ [] := by
  cases n with
  | ofNat n => exact ofInt_natCast n ▸ Nat.toDigits_ne_nil
  | negSucc n => exact ofInt_negSucc n ▸ List.cons_ne_nil _ _

/-- A property of all code points of an integer. -/
theorem forall_mem_ofInt {P : Char → Prop} (minus : P '-')
    (h : ∀ n < 10, P (Char.ofNat (48 + n))) (n : Int) : ∀ c ∈ ofInt n, P c := by
  cases n with
  | ofNat n => exact ofInt_natCast n ▸ forall_mem_toDigits h n
  | negSucc n =>
    rw [ofInt_negSucc]
    exact List.forall_mem_cons.mpr ⟨minus, forall_mem_toDigits h (n + 1)⟩

private theorem trimPadding_ofInt (n : Int) : trimPadding (ofInt n) = ofInt n := by
  have solid : ∀ c ∈ ofInt n, isPadding c = false := forall_mem_ofInt (by decide) (by decide) n
  rw [trimPadding, dropWhile_eq_self solid,
    dropWhile_eq_self fun c member ↦ solid c (List.mem_reverse.mp member), List.reverse_reverse]

/-- The digits of a number are read, if they are not too many. -/
theorem readDigits_toDigits {n : Nat} (h : (Nat.toDigits 10 n).length ≤ maxDecimalDigits) :
    readDigits .decimal (Nat.toDigits 10 n) = .ok n := by
  have valid := forall_mem_toDigits (P := (·.isDigit = true)) (by decide) n
  have run : (Nat.toDigits 10 n).takeWhile isDecimal = Nat.toDigits 10 n :=
    List.takeWhile_eq_self_iff.mpr (forall_mem_toDigits (by decide +kernel) n)
  rw [readDigits_of_forall_ne (forall_mem_toDigits (by decide) n)]
  simp only [run, if_neg Nat.toDigits_ne_nil, if_neg (Nat.not_lt.mpr h),
    if_neg (Nat.lt_irrefl _), number_eq_ofDigitChars valid, Nat.ofDigitChars_ten_toDigits]

/-- An integer is read as it was written, if it has not too many digits. -/
theorem readInteger_ofInt {n : Int} (h : isWritable n = true) :
    readInteger .decimal (ofInt n) = .ok n := by
  rw [isWritable, decide_eq_true_iff, Nat.toString_eq_repr, Nat.repr_eq_ofList_toDigits,
    String.length_ofList] at h
  rw [readInteger, trimPadding_ofInt]
  cases n with
  | ofNat n =>
    have unsigned : readSign (Nat.toDigits 10 n) = (false, Nat.toDigits 10 n) := by
      have digits := forall_mem_toDigits (P := fun c ↦ c ≠ '-' ∧ c ≠ '+') (by decide) n
      unfold readSign
      split
      · next same => exact absurd rfl (digits '-' (same ▸ List.mem_cons_self)).1
      · next same => exact absurd rfl (digits '+' (same ▸ List.mem_cons_self)).2
      · rfl
    have digits : readDigits .decimal (Nat.toDigits 10 n) = .ok n := readDigits_toDigits h
    rw [Int.ofNat_eq_natCast, ofInt_natCast, unsigned]
    simp only [dropMark_decimal, digits]
    rfl
  | negSucc n =>
    have signed : readSign ('-' :: Nat.toDigits 10 (n + 1)) = (true, Nat.toDigits 10 (n + 1)) := rfl
    have digits : readDigits .decimal (Nat.toDigits 10 (n + 1)) = .ok (n + 1) :=
      readDigits_toDigits h
    rw [ofInt_negSucc, signed]
    simp only [dropMark_decimal, digits]
    rfl

/-- Digits are small letters. -/
theorem lower_ofInt (n : Int) : lower (ofInt n) = ofInt n := by
  have small : ∀ c ∈ ofInt n, c ≠ 'Σ' ∧ c ≠ 'İ' ∧ lowerChar c = c :=
    forall_mem_ofInt (by decide +kernel) (by decide +kernel) n
  have unchanged {text : Text} (h : ∀ c ∈ text, c ≠ 'Σ' ∧ c ≠ 'İ' ∧ lowerChar c = c)
      (before : Text) : lowerFrom before text = text := by
    induction text generalizing before with
    | nil => rfl
    | cons c rest ih =>
      obtain ⟨⟨sigma, dotted, small⟩, others⟩ := List.forall_mem_cons.mp h
      rw [lowerFrom, if_neg sigma, if_neg dotted, small, ih others]
      rfl
  exact unchanged small []

/-- A positive number does not start with a zero. -/
theorem head?_toDigits_ne_zero {n : Nat} (h : 0 < n) : (Nat.toDigits 10 n).head? ≠ some '0' := by
  induction n using Nat.strongRecOn with
  | ind n ih =>
    rcases Nat.lt_or_ge n 10 with small | large
    · rw [Nat.toDigits_of_lt_base small, List.head?_cons, Ne, Option.some.injEq,
        Nat.digitChar_eq_zero]
      exact h.ne'
    · rw [Nat.toDigits_of_base_le (by decide) large,
        List.head?_append_of_ne_nil _ Nat.toDigits_ne_nil]
      exact ih (n / 10) (by omega) (by omega)

end Caret.Text
