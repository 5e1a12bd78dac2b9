import Caret.Proofs.Source.LinePartition
import Caret.Proofs.Source.TokenLength
import Mathlib.Data.List.Basic

/-!
# What a token is made of

A token is a literal, a number, an identifier, punctuation or a single code point. It has at least
one code point, and it is read off the text that it starts. Only a literal holds line breaks, each
of them right behind a backslash: behind its quote there are escapes, and code points that end
neither the line nor the literal.
-/

namespace Caret.Source.Token

open Caret.Text

/-! ## Line breaks -/

/-- No code point of a text ends a line. -/
def Unbroken (text : Text) : Prop := ∀ c ∈ text, isLineBreak c = false

instance (text : Text) : Decidable (Unbroken text) :=
  List.decidableBAll (isLineBreak · = false) text

/-- Every code point of a text that ends a line is right behind a backslash. -/
def BreaksEscaped (text : Text) : Prop :=
  ∀ front c behind, text = front ++ c :: behind → isLineBreak c = true →
    front.getLast? = some '\\'

/-- A class that has neither half of a line break has no code point that ends a line. -/
theorem isLineBreak_of_class (test : Char → Bool) (feed : test '\n' = false)
    (carriage : test '\r' = false) {c : Char} (member : test c = true) : isLineBreak c = false := by
  cases ends : isLineBreak c with
  | false => rfl
  | true =>
    rcases isLineBreak_iff.mp ends with rfl | rfl
    · exact absurd (feed.symm.trans member) Bool.false_ne_true
    · exact absurd (carriage.symm.trans member) Bool.false_ne_true

/-- What is no white space ends no line. -/
theorem isLineBreak_of_not_isBlank {c : Char} (shown : isBlank c = false) :
    isLineBreak c = false :=
  isLineBreak_of_class (fun c ↦ !isBlank c) (by decide) (by decide) (by simp [shown])

/-- A text is unbroken if its first code point and the rest are. -/
theorem unbroken_cons {c : Char} {text : Text} (first : isLineBreak c = false)
    (rest : Unbroken text) : Unbroken (c :: text) :=
  List.forall_mem_cons.mpr ⟨first, rest⟩

/-- In an unbroken text there is no line break to escape. -/
theorem Unbroken.breaksEscaped {text : Text} (h : Unbroken text) : BreaksEscaped text := by
  rintro front c behind rfl ends
  have kept := h c (List.mem_append_right _ List.mem_cons_self)
  exact absurd (kept.symm.trans ends) Bool.false_ne_true

/-- A code point that does not end a line may stand in front. -/
theorem BreaksEscaped.cons {text : Text} (h : BreaksEscaped text) {d : Char}
    (first : isLineBreak d = false) : BreaksEscaped (d :: text) := by
  intro front c behind whole ends
  cases front with
  | nil =>
    obtain ⟨rfl, -⟩ := List.cons_eq_cons.mp whole
    exact absurd (first.symm.trans ends) Bool.false_ne_true
  | cons e front =>
    have last := h front c behind (List.cons_eq_cons.mp whole).2 ends
    rw [List.getLast?_cons, last]
    rfl

/-- An unbroken text may stand in front. -/
theorem BreaksEscaped.append {text : Text} (h : BreaksEscaped text) {front : Text}
    (unbroken : Unbroken front) : BreaksEscaped (front ++ text) := by
  induction front with
  | nil => exact h
  | cons c front ih =>
    obtain ⟨first, rest⟩ := List.forall_mem_cons.mp unbroken
    exact (ih rest).cons first

/-- Any code point may stand in front, behind a backslash. -/
theorem BreaksEscaped.escape {text : Text} (h : BreaksEscaped text) (d : Char) :
    BreaksEscaped ('\\' :: d :: text) := by
  intro front c behind whole ends
  match front, whole with
  | [], whole =>
    obtain ⟨rfl, -⟩ := List.cons_eq_cons.mp whole
    exact absurd ends (by decide)
  | [e], whole =>
    obtain ⟨rfl, -⟩ := List.cons_eq_cons.mp whole
    rfl
  | e :: f :: front, whole =>
    have later := (List.cons_eq_cons.mp (List.cons_eq_cons.mp whole).2).2
    have last := h front c behind later ends
    rw [List.getLast?_cons_cons, List.getLast?_cons, last]
    rfl

/-! ## Literals -/

/-- The marks in front of the opening quote of a literal. -/
def encodingMarks : List Text := [[], ['u', '8'], ['u'], ['U'], ['L']]

/-- The quotes of literals. -/
def quotes : List Char := ['"', '\'']

/-- What stands behind the opening quote of a literal: escapes of two code points, and code points
that stand for themselves. It ends with the quote; a literal that is not closed ends with its line,
or with the text behind a backslash. -/
inductive LiteralBody (quote : Char) : Text → Prop
  | closed : LiteralBody quote [quote]
  | unclosed : LiteralBody quote []
  | cut : LiteralBody quote ['\\']
  | escape (c : Char) {body : Text} (rest : LiteralBody quote body) :
      LiteralBody quote ('\\' :: c :: body)
  | plain {c : Char} {body : Text} (noBackslash : c ≠ '\\') (noQuote : c ≠ quote)
      (noBreak : isLineBreak c = false) (rest : LiteralBody quote body) :
      LiteralBody quote (c :: body)

/-- A literal from its mark, or from its quote if it has none, to its end. -/
def IsLiteral (token : Text) : Prop :=
  ∃ mark ∈ encodingMarks, ∃ quote ∈ quotes, ∃ body,
    LiteralBody quote body ∧ token = mark ++ [quote] ++ body

/-- No quote ends a line. -/
theorem isLineBreak_of_mem_quotes : ∀ quote ∈ quotes, isLineBreak quote = false := by
  intro quote member
  rcases List.mem_pair.mp member with rfl | rfl <;> rfl

/-- The mark and the quote in front of a literal hold no line break. -/
theorem unbroken_opening {mark : Text} (known : mark ∈ encodingMarks) {quote : Char}
    (member : quote ∈ quotes) : Unbroken (mark ++ [quote]) := by
  have marks : ∀ mark ∈ encodingMarks, Unbroken mark := by decide
  intro c inside
  rcases List.mem_append.mp inside with front | last
  · exact marks mark known c front
  · exact List.mem_singleton.mp last ▸ isLineBreak_of_mem_quotes quote member

/-- Line breaks behind the quote of a literal are escaped. -/
theorem LiteralBody.breaksEscaped {quote : Char} {body : Text} (h : LiteralBody quote body)
    (noBreak : isLineBreak quote = false) : BreaksEscaped body := by
  have empty : BreaksEscaped [] := Unbroken.breaksEscaped (List.forall_mem_nil _)
  induction h with
  | closed => exact empty.cons noBreak
  | unclosed => exact empty
  | cut => exact empty.cons rfl
  | escape c _ ih => exact ih.escape c
  | plain _ _ first _ ih => exact ih.cons first

/-- Line breaks in a literal are escaped. -/
theorem IsLiteral.breaksEscaped {token : Text} (h : IsLiteral token) : BreaksEscaped token := by
  obtain ⟨mark, known, quote, member, body, behind, rfl⟩ := h
  exact (behind.breaksEscaped (isLineBreak_of_mem_quotes quote member)).append
    (unbroken_opening known member)

/-- A code point that is not in front of the last one, nor in front of others as a backslash, is no
backslash. -/
theorem ne_backslash {c : Char} {rest : Text} (single : c = '\\' → rest = [] → False)
    (pair : ∀ d behind, c = '\\' → rest = d :: behind → False) : c ≠ '\\' := by
  intro backslash
  cases rest with
  | nil => exact single backslash rfl
  | cons d behind => exact pair d behind backslash rfl

/-- A code point that is no backslash ends a quoted literal or stands for itself. -/
theorem quotedLength_cons {c : Char} (noBackslash : c ≠ '\\') (quote : Char) (rest : Text) :
    quotedLength quote (c :: rest) =
      if c = quote then 1 else if c = '\r' ∨ c = '\n' then 0 else 1 + quotedLength quote rest := by
  rw [quotedLength]
  · exact fun backslash _ ↦ noBackslash backslash
  · exact fun _ _ backslash _ ↦ noBackslash backslash

private theorem literalBody_take (quote : Char) (text : Text) :
    LiteralBody quote (text.take (quotedLength quote text)) := by
  fun_induction quotedLength quote text with
  | case1 => exact .unclosed
  | case2 => exact .cut
  | case3 c rest ih =>
    rw [Nat.add_comm]
    exact .escape c ih
  | case4 => exact .closed
  | case5 => exact .unclosed
  | case6 c rest single pair noQuote noBreak ih =>
    rw [Nat.add_comm]
    refine .plain (ne_backslash single pair) noQuote ?_ ih
    simpa [isLineBreak, not_or, and_comm] using noBreak

/-- A literal without mark is a quote and its body. -/
theorem quoteLength?_eq_some_iff {text : Text} {length : Nat} :
    quoteLength? text = some length ↔
      ∃ quote ∈ quotes, ∃ rest, text = quote :: rest ∧ length = 1 + quotedLength quote rest := by
  constructor
  · intro h
    unfold quoteLength? at h
    split at h
    · next rest => exact ⟨'"', by decide, rest, rfl, (Option.some.inj h).symm⟩
    · next rest => exact ⟨'\'', by decide, rest, rfl, (Option.some.inj h).symm⟩
    · cases h
  · rintro ⟨quote, member, rest, rfl, rfl⟩
    rcases List.mem_pair.mp member with rfl | rfl <;> rfl

/-- A literal is a mark, a quote and its body. -/
theorem literalLength?_eq_some_iff {text : Text} {length : Nat} :
    literalLength? text = some length ↔
      ∃ mark ∈ encodingMarks, ∃ quote ∈ quotes, ∃ rest, text = mark ++ [quote] ++ rest ∧
        length = (mark ++ [quote]).length + quotedLength quote rest := by
  constructor
  · intro h
    unfold literalLength? at h
    split at h
    case h_5 =>
      obtain ⟨quote, member, rest, rfl, rfl⟩ := quoteLength?_eq_some_iff.mp h
      exact ⟨[], by decide, quote, member, rest, rfl, rfl⟩
    all_goals
      obtain ⟨quoted, found, rfl⟩ := Option.map_eq_some_iff.mp h
      obtain ⟨quote, member, rest, rfl, rfl⟩ := quoteLength?_eq_some_iff.mp found
    · exact ⟨['u', '8'], by decide, quote, member, rest, rfl, by simp +arith⟩
    · exact ⟨['u'], by decide, quote, member, rest, rfl, by simp +arith⟩
    · exact ⟨['U'], by decide, quote, member, rest, rfl, by simp +arith⟩
    · exact ⟨['L'], by decide, quote, member, rest, rfl, by simp +arith⟩
  · rintro ⟨mark, known, quote, member, rest, rfl, rfl⟩
    simp only [encodingMarks, List.mem_cons, List.not_mem_nil, or_false] at known
    rcases known with rfl | rfl | rfl | rfl | rfl <;>
      rcases List.mem_pair.mp member with rfl | rfl <;>
      simp +arith [literalLength?, quoteLength?]

private theorem isLiteral_take {text : Text} {length : Nat}
    (h : literalLength? text = some length) :
    IsLiteral (text.take length) := by
  obtain ⟨mark, known, quote, member, rest, rfl, rfl⟩ := literalLength?_eq_some_iff.mp h
  refine ⟨mark, known, quote, member, _, literalBody_take quote rest, ?_⟩
  rw [List.take_length_add_append]

/-! ## Other tokens -/

/-- What continues a number ends no line. -/
theorem isLineBreak_of_continuesNumber {c : Char} (h : continuesNumber c = true) :
    isLineBreak c = false :=
  isLineBreak_of_class _ (by decide +kernel) (by decide +kernel) h

/-- A decimal digit ends no line. -/
theorem isLineBreak_of_isDecimal {c : Char} (h : isDecimal c = true) : isLineBreak c = false :=
  isLineBreak_of_class _ (by decide +kernel) (by decide +kernel) h

/-- What continues a number holds no line break. -/
theorem unbroken_take_numberTailLength (text : Text) :
    Unbroken (text.take (numberTailLength text)) := by
  fun_induction numberTailLength text with
  | case1 => exact List.forall_mem_nil _
  | case2 c continues =>
    exact unbroken_cons (isLineBreak_of_continuesNumber continues) (List.forall_mem_nil _)
  | case3 => exact List.forall_mem_nil _
  | case4 c d rest exponent ih =>
    rw [Nat.add_comm]
    obtain ⟨letter, sign⟩ := exponent
    refine unbroken_cons ?_ (unbroken_cons ?_ ih)
    · rcases letter with rfl | rfl | rfl | rfl <;> rfl
    · rcases sign with rfl | rfl <;> rfl
  | case5 c d rest _ continues ih =>
    rw [Nat.add_comm]
    exact unbroken_cons (isLineBreak_of_continuesNumber continues) ih
  | case6 => exact List.forall_mem_nil _

/-- A number holds no line break. -/
theorem unbroken_of_numberLength? {text : Text} {length : Nat}
    (h : numberLength? text = some length) : Unbroken (text.take length) := by
  unfold numberLength? at h
  split at h
  · next c rest =>
    have tail := unbroken_take_numberTailLength rest
    split at h <;> cases h
    next digit =>
    rw [Nat.add_comm]
    exact unbroken_cons rfl (unbroken_cons (isLineBreak_of_isDecimal digit) tail)
  · next c rest _ =>
    have tail := unbroken_take_numberTailLength rest
    split at h <;> cases h
    next digit =>
    rw [Nat.add_comm]
    exact unbroken_cons (isLineBreak_of_isDecimal digit) tail
  · cases h

/-- An identifier holds no line break. -/
theorem unbroken_of_identifierLength? {text : Text} {length : Nat}
    (h : identifierLength? text = some length) : Unbroken (text.take length) := by
  unfold identifierLength? at h
  split at h
  · next c rest =>
    have tail : Unbroken (rest.takeWhile continuesIdentifier) := fun d member ↦
      isLineBreak_of_class _ (by decide) (by decide)
        (List.all_eq_true.mp List.all_takeWhile d member)
    split at h <;> cases h
    next starts =>
    rw [Nat.add_comm, List.take_succ_cons,
      ← List.prefix_iff_eq_take.mp (List.takeWhile_prefix continuesIdentifier)]
    exact unbroken_cons (isLineBreak_of_class _ (by decide) (by decide) starts) tail
  · cases h

/-- Punctuation holds no line break. -/
theorem unbroken_take_punctuationLength {c : Char} (rest : Text)
    (noBreak : isLineBreak c = false) :
    Unbroken ((c :: rest).take (punctuationLength (c :: rest))) := by
  unfold punctuationLength
  split
  · next punctuator found =>
    have starts := List.find?_some (p := fun other : Text ↦ other.isPrefixOf (c :: rest)) found
    rw [← List.prefix_iff_eq_take.mp (List.isPrefixOf_iff_prefix.mp starts)]
    exact (by decide : ∀ punctuator ∈ punctuators, Unbroken punctuator) punctuator
      (List.mem_of_find?_eq_some found)
  · exact unbroken_cons noBreak (List.forall_mem_nil _)

/-! ## Any token -/

/-- The way in which the token at the start of a text has a length. -/
inductive Recognized (text : Text) (length : Nat) : Prop
  | literal (h : literalLength? text = some length)
  | number (h : numberLength? text = some length)
  | identifier (h : identifierLength? text = some length)
  | punctuation (h : punctuationLength text = length)

/-- A code point that is no white space starts a token. -/
theorem recognized_length {c : Char} {rest : Text} (shown : isBlank c = false) :
    Recognized (c :: rest) (length (c :: rest)) := by
  rw [length, if_neg (Bool.eq_false_iff.mp shown)]
  cases literal : literalLength? (c :: rest) with
  | some length => exact .literal literal
  | none =>
    cases number : numberLength? (c :: rest) with
    | some length => exact .number number
    | none =>
      cases identifier : identifierLength? (c :: rest) with
      | some length => exact .identifier identifier
      | none => exact .punctuation rfl

/-- A token has a code point. -/
theorem Recognized.pos {text : Text} {length : Nat} (h : Recognized text length) : 0 < length := by
  cases h with
  | literal h =>
    obtain ⟨mark, -, quote, -, rest, -, rfl⟩ := literalLength?_eq_some_iff.mp h
    rw [List.length_append, List.length_singleton]
    omega
  | number h =>
    unfold numberLength? at h
    split at h
    · split at h <;> cases h
      omega
    · split at h <;> cases h
      omega
    · cases h
  | identifier h =>
    unfold identifierLength? at h
    split at h
    · split at h <;> cases h
      omega
    · cases h
  | punctuation h =>
    subst h
    unfold punctuationLength
    split
    · next punctuator found =>
      exact (by decide : ∀ punctuator ∈ punctuators, 0 < punctuator.length) punctuator
        (List.mem_of_find?_eq_some found)
    · exact Nat.one_pos

/-- There is no token exactly at the end of the text and at white space. -/
theorem length_eq_zero_iff {text : Text} :
    length text = 0 ↔ ∀ c ∈ text.head?, isBlank c = true := by
  cases text with
  | nil => exact iff_of_true rfl (fun _ none ↦ nomatch none)
  | cons c rest =>
    rw [List.head?_cons]
    simp only [Option.mem_def, Option.some.injEq, forall_eq']
    cases shown : isBlank c with
    | true => exact iff_of_true (by rw [length, if_pos shown]) rfl
    | false =>
      exact iff_of_false (Nat.ne_of_gt (recognized_length shown).pos) Bool.false_ne_true

/-- A token that holds a line break is a literal. -/
theorem unbroken_or_isLiteral (text : Text) :
    Unbroken (text.take (length text)) ∨ IsLiteral (text.take (length text)) := by
  cases text with
  | nil => exact Or.inl (List.forall_mem_nil _)
  | cons c rest =>
    cases shown : isBlank c with
    | true =>
      rw [length, if_pos shown]
      exact Or.inl (List.forall_mem_nil _)
    | false =>
      have noBreak := isLineBreak_of_not_isBlank shown
      cases (recognized_length shown : Recognized (c :: rest) (length (c :: rest))) with
      | literal h => exact Or.inr (isLiteral_take h)
      | number h => exact Or.inl (unbroken_of_numberLength? h)
      | identifier h => exact Or.inl (unbroken_of_identifierLength? h)
      | punctuation h => exact Or.inl (h ▸ unbroken_take_punctuationLength rest noBreak)

private theorem breaksEscaped_take_length (text : Text) :
    BreaksEscaped (text.take (length text)) := by
  rcases unbroken_or_isLiteral text with unbroken | literal
  · exact unbroken.breaksEscaped
  · exact literal.breaksEscaped

/-! ## The token at an offset -/

/-- The token at an offset of a text. -/
def tokenAt (text : Text) (offset : Int) : Text :=
  (text.drop offset.toNat).take (lengthAt text offset)

/-- At an offset that is not negative starts the token of the text from there on. -/
theorem lengthAt_of_nonneg {text : Text} {offset : Int} (forward : 0 ≤ offset) :
    lengthAt text offset = length (text.drop offset.toNat) :=
  if_neg (Int.not_lt.mpr forward)

/-- The token at an offset has the length that is measured there. -/
theorem length_tokenAt (text : Text) (offset : Int) :
    (tokenAt text offset).length = lengthAt text offset := by
  by_cases forward : 0 ≤ offset
  · rw [tokenAt, lengthAt_of_nonneg forward, List.length_take, Nat.min_eq_left (length_le _)]
  · rw [tokenAt, lengthAt_of_neg (by omega), List.length_take, Nat.zero_min]

/-- Without a token nothing is measured: outside of the text, and at white space. -/
theorem lengthAt_eq_zero_iff {text : Text} {offset : Int} :
    lengthAt text offset = 0 ↔
      ¬(0 ≤ offset ∧ offset < text.length) ∨ ∃ c ∈ text[offset.toNat]?, isBlank c = true := by
  by_cases forward : 0 ≤ offset
  · rw [lengthAt_of_nonneg forward, length_eq_zero_iff, List.head?_drop]
    cases there : text[offset.toNat]? with
    | none =>
      have beyond := List.getElem?_eq_none_iff.mp there
      exact iff_of_true (fun _ none ↦ nomatch none) (Or.inl (by omega))
    | some c =>
      have inside := (List.getElem?_eq_some_iff.mp there).1
      have within : 0 ≤ offset ∧ offset < text.length := ⟨forward, by omega⟩
      simp [within]
  · exact iff_of_true (lengthAt_of_neg (by omega)) (Or.inl fun inside ↦ forward inside.1)

private theorem tokenAt_eq (text : Text) (offset : Int) :
    tokenAt text offset = [] ∨
      tokenAt text offset =
        (text.drop offset.toNat).take (length (text.drop offset.toNat)) := by
  by_cases forward : 0 ≤ offset
  · rw [tokenAt, lengthAt_of_nonneg forward]
    exact Or.inr rfl
  · rw [tokenAt, lengthAt_of_neg (by omega)]
    exact Or.inl rfl

/-- A line break in a token is behind a backslash, in a literal. -/
theorem escaped_of_tokenAt {text front behind : Text} {offset : Int} {c : Char}
    (token : tokenAt text offset = front ++ c :: behind) (ends : isLineBreak c = true) :
    IsLiteral (tokenAt text offset) ∧ front.getLast? = some '\\' := by
  rcases tokenAt_eq text offset with none | here
  · rw [none] at token
    exact absurd token (by simp)
  · have escaped := breaksEscaped_take_length (text.drop offset.toNat)
    rcases unbroken_or_isLiteral (text.drop offset.toNat) with unbroken | literal
    · rw [← here, token] at unbroken
      have kept := unbroken c (List.mem_append_right _ List.mem_cons_self)
      exact absurd (kept.symm.trans ends) Bool.false_ne_true
    · rw [← here] at literal escaped
      exact ⟨literal, escaped front c behind token ends⟩

/-- A token that reaches the start of a later line holds the line break in front of it. -/
theorem exists_break_of_lineStart {text : Text} {offset : Int} (forward : 0 ≤ offset) {start : Nat}
    (member : start ∈ lineStarts text) (behind : offset < start)
    (reached : (start : Int) ≤ offset + lengthAt text offset) :
    ∃ front c rest, tokenAt text offset = front ++ c :: rest ∧ isLineBreak c = true := by
  rcases List.mem_cons.mp member with rfl | later
  · omega
  · obtain ⟨before, c, after, rfl, ends, rfl, -⟩ := exists_of_mem_breakEnds later
    have front : (before.drop offset.toNat).length = before.length - offset.toNat :=
      List.length_drop
    obtain ⟨more, size⟩ : ∃ more, lengthAt (before ++ c :: after) offset =
        (before.drop offset.toNat).length + (more + 1) :=
      ⟨lengthAt (before ++ c :: after) offset - (before.drop offset.toNat).length - 1, by omega⟩
    refine ⟨before.drop offset.toNat, c, after.take more, ?_, ends⟩
    rw [tokenAt, size, List.drop_append_of_le_length (by omega), List.take_length_add_append,
      List.take_succ_cons]

/-- A token ends in the text, it has a code point unless it is outside of the text or at white
space, it depends on the text from its offset on only, and it holds line breaks only as a literal,
right behind a backslash. -/
theorem token_laws (text : Text) (offset : Int) :
    0 ≤ (lengthAt text offset : Int) ∧
    (0 ≤ offset → offset < text.length → offset + lengthAt text offset ≤ text.length) ∧
    (lengthAt text offset = 0 ↔
      ¬(0 ≤ offset ∧ offset < text.length) ∨ ∃ c ∈ text[offset.toNat]?, isBlank c = true) ∧
    (0 ≤ offset → ∀ (other : Text) (place : Int), 0 ≤ place →
      other.drop place.toNat = text.drop offset.toNat →
        lengthAt other place = lengthAt text offset) ∧
    ∀ front c behind, tokenAt text offset = front ++ c :: behind → c = '\r' ∨ c = '\n' →
      IsLiteral (tokenAt text offset) ∧ front.getLast? = some '\\' := by
  refine ⟨Int.natCast_nonneg _, ?inside, lengthAt_eq_zero_iff, ?anywhere, ?escaped⟩
  case inside =>
    intro _ before
    exact add_lengthAt_le (Int.le_of_lt before)
  case anywhere =>
    intro forward other place forward' same
    rw [lengthAt_of_nonneg forward, lengthAt_of_nonneg forward', same]
  case escaped =>
    intro front c behind token ends
    exact escaped_of_tokenAt token (isLineBreak_iff.mpr ends.symm)

/-- A literal that goes on behind a line break, and behind an escaped one at the end of the text. -/
theorem token_laws_of_continued_literal :
    let text := "x = u8\"a\\\rb\\\n".toList
    lengthAt text 4 = 9 ∧ IsLiteral (tokenAt text 4) ∧
      lengthAt ("\n".toList ++ text.drop 4) 1 = 9 := by
  intro text
  have length : lengthAt text 4 = 9 := by decide +kernel
  obtain ⟨-, -, -, anywhere, escaped⟩ := token_laws text 4
  have behind : ("\n".toList ++ text.drop 4).drop 1 = text.drop 4 := rfl
  exact ⟨length, (escaped "u8\"a\\".toList '\r' "b\\\n".toList (by decide +kernel) (Or.inl rfl)).1,
    (anywhere (by decide) _ 1 (by decide) behind).trans length⟩

end Caret.Source.Token
