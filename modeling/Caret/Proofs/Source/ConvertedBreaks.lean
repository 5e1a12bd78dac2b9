import Caret.Proofs.Source.TokenShape
import Mathlib.Data.List.Find

/-!
# Tokens of a text with converted line breaks

A text whose lines end with line feeds may be converted, so that they end with a carriage return
and a line feed. A token is as long as before if it holds no line break. A literal that goes on
behind an escaped line break is not: an escape takes two code points, and so the converted literal
ends between the halves of its first line break.
-/

namespace Caret.Source

open Text Token

/-! ## Converted texts -/

/-- A text with a carriage return in front of each line feed. -/
def toCrlf (text : Text) : Text := text.flatMap fun c ↦ if c = '\n' then ['\r', '\n'] else [c]

/-- The offset that an offset of a text has in the converted text. -/
def crlfOffset (text : Text) (offset : Int) : Int :=
  offset + (text.take offset.toNat).count '\n'

/-- A line feed becomes a break of two halves. -/
theorem toCrlf_feed (rest : Text) : toCrlf ('\n' :: rest) = '\r' :: '\n' :: toCrlf rest := rfl

/-- Any other code point stays. -/
theorem toCrlf_cons {c : Char} (other : c ≠ '\n') (rest : Text) :
    toCrlf (c :: rest) = c :: toCrlf rest := by
  rw [toCrlf, List.flatMap_cons, if_neg other]
  rfl

/-- Texts are converted part by part. -/
theorem toCrlf_append (front behind : Text) :
    toCrlf (front ++ behind) = toCrlf front ++ toCrlf behind :=
  List.flatMap_append

/-- A text without line feeds stays. -/
theorem toCrlf_eq_self {text : Text} (none : '\n' ∉ text) : toCrlf text = text := by
  induction text with
  | nil => rfl
  | cons c rest ih =>
    obtain ⟨other, later⟩ := List.ne_and_not_mem_of_not_mem_cons none
    rw [toCrlf_cons (Ne.symm other), ih later]

/-- A converted text is longer by one code point for each line feed. -/
theorem length_toCrlf (text : Text) : (toCrlf text).length = text.length + text.count '\n' := by
  induction text with
  | nil => rfl
  | cons c rest ih =>
    by_cases feed : c = '\n'
    · subst feed
      rw [toCrlf_feed, List.length_cons, List.length_cons, ih, List.length_cons,
        List.count_cons_self]
      omega
    · rw [toCrlf_cons feed, List.length_cons, ih, List.length_cons, List.count_cons_of_ne feed]
      omega

private theorem drop_toCrlf (text : Text) (offset : Nat) :
    (toCrlf text).drop (offset + (text.take offset).count '\n') = toCrlf (text.drop offset) := by
  rcases Nat.le_total offset text.length with inside | beyond
  · have front : (toCrlf (text.take offset)).length = offset + (text.take offset).count '\n' := by
      rw [length_toCrlf, List.length_take, Nat.min_eq_left inside]
    calc (toCrlf text).drop (offset + (text.take offset).count '\n')
        = (toCrlf (text.take offset) ++ toCrlf (text.drop offset)).drop
            (offset + (text.take offset).count '\n') := by
          rw [← toCrlf_append, List.take_append_drop]
      _ = toCrlf (text.drop offset) := List.drop_left' front
  · rw [List.take_of_length_le beyond, List.drop_of_length_le beyond]
    refine List.drop_of_length_le ?_
    rw [length_toCrlf]
    omega

/-- What starts a converted text and is no line break starts the text itself. -/
theorem exists_of_toCrlf_eq_append {text front behind : Text} (unbroken : Unbroken front)
    (whole : toCrlf text = front ++ behind) :
    ∃ rest, text = front ++ rest ∧ behind = toCrlf rest := by
  induction front generalizing text with
  | nil => exact ⟨text, rfl, whole.symm⟩
  | cons c front ih =>
    obtain ⟨first, later⟩ := List.forall_mem_cons.mp unbroken
    cases text with
    | nil => cases whole
    | cons d text =>
      by_cases feed : d = '\n'
      · subst feed
        obtain ⟨rfl, -⟩ := List.cons_eq_cons.mp whole
        exact absurd first (by decide)
      · rw [toCrlf_cons feed] at whole
        obtain ⟨rfl, tail⟩ := List.cons_eq_cons.mp whole
        obtain ⟨rest, rfl, rfl⟩ := ih later tail
        exact ⟨rest, rfl, rfl⟩

/-- A text without line breaks starts a converted text exactly if it starts the text itself. -/
theorem prefix_toCrlf_iff {front text : Text} (unbroken : Unbroken front) :
    front <+: toCrlf text ↔ front <+: text := by
  constructor
  · rintro ⟨behind, whole⟩
    obtain ⟨rest, rfl, -⟩ := exists_of_toCrlf_eq_append unbroken whole.symm
    exact List.prefix_append front rest
  · rintro ⟨rest, rfl⟩
    have same : toCrlf front = front :=
      toCrlf_eq_self fun feed ↦ absurd (unbroken _ feed) (by decide)
    rw [toCrlf_append, same]
    exact List.prefix_append front (toCrlf rest)

private theorem getLast?_toCrlf (text : Text) : (toCrlf text).getLast? = text.getLast? := by
  rcases List.eq_nil_or_concat text with rfl | ⟨front, c, rfl⟩
  · rfl
  · rw [List.concat_eq_append, toCrlf_append, List.getLast?_concat, List.getLast?_append]
    by_cases feed : c = '\n'
    · subst feed
      rfl
    · rw [toCrlf_cons feed]
      rfl

namespace Token

/-! ## Literals -/

/-- The length of a token up to the first half of its first converted line break. -/
def lengthToBreak (token : Text) : Nat := min (token.idxOf '\n' + 1) token.length

/-- A token without line feeds has its length. -/
theorem lengthToBreak_eq_length {token : Text} (none : '\n' ∉ token) :
    lengthToBreak token = token.length := by
  rw [lengthToBreak, List.idxOf_eq_length none]
  omega

/-- Of a token that starts with a line feed, half of it is left. -/
theorem lengthToBreak_feed (rest : Text) : lengthToBreak ('\n' :: rest) = 1 := by
  rw [lengthToBreak, List.idxOf_cons_self, List.length_cons]
  omega

/-- What is in front of the first line feed is left. -/
theorem lengthToBreak_append {front : Text} (none : '\n' ∉ front) (rest : Text) :
    lengthToBreak (front ++ rest) = front.length + lengthToBreak rest := by
  rw [lengthToBreak, lengthToBreak, List.idxOf_append_of_notMem none, List.length_append]
  omega

/-- A code point in front of the first line feed is left. -/
theorem lengthToBreak_cons {c : Char} (other : c ≠ '\n') (rest : Text) :
    lengthToBreak (c :: rest) = 1 + lengthToBreak rest := by
  have single : '\n' ∉ [c] := fun feed ↦ other (List.mem_singleton.mp feed).symm
  exact lengthToBreak_append single rest

private theorem quotedLength_toCrlf {quote : Char} (noBreak : isLineBreak quote = false)
    (text : Text) :
    quotedLength quote (toCrlf text) =
      lengthToBreak (text.take (quotedLength quote text)) := by
  have noFeed : '\n' ≠ quote := fun same ↦ absurd (same ▸ noBreak) (by decide)
  have noCarriage : '\r' ≠ quote := fun same ↦ absurd (same ▸ noBreak) (by decide)
  fun_induction quotedLength quote text with
  | case1 => rfl
  | case2 => rfl
  | case3 c rest ih =>
    rw [Nat.add_comm, List.take_succ_cons, List.take_succ_cons, toCrlf_cons (by decide),
      lengthToBreak_cons (by decide)]
    by_cases feed : c = '\n'
    · subst feed
      rw [toCrlf_feed, lengthToBreak_feed, quotedLength, quotedLength_cons (by decide),
        if_neg noFeed, if_pos (Or.inr rfl)]
    · rw [toCrlf_cons feed, lengthToBreak_cons feed, quotedLength, ih]
      omega
  | case4 rest single pair =>
    rw [toCrlf_cons (Ne.symm noFeed), quotedLength_cons (ne_backslash single pair), if_pos rfl,
      List.take_succ_cons, lengthToBreak_cons (Ne.symm noFeed)]
    rfl
  | case5 c rest single pair noQuote ends =>
    rcases ends with rfl | rfl
    · rw [toCrlf_cons (by decide), quotedLength_cons (by decide), if_neg noCarriage,
        if_pos (Or.inl rfl)]
      rfl
    · rw [toCrlf_feed, quotedLength_cons (by decide), if_neg noCarriage, if_pos (Or.inl rfl)]
      rfl
  | case6 c rest single pair noQuote inner ih =>
    have noFeed : c ≠ '\n' := fun feed ↦ inner (Or.inr feed)
    rw [toCrlf_cons noFeed, quotedLength_cons (ne_backslash single pair), if_neg noQuote,
      if_neg inner, ih, Nat.add_comm 1 (quotedLength quote rest), List.take_succ_cons,
      lengthToBreak_cons noFeed]

private theorem literalLength?_toCrlf (text : Text) :
    literalLength? (toCrlf text) =
      (literalLength? text).map fun length ↦ lengthToBreak (text.take length) := by
  cases found : literalLength? text with
  | some length =>
    obtain ⟨mark, known, quote, member, rest, rfl, rfl⟩ := literalLength?_eq_some_iff.mp found
    have noFeed : '\n' ∉ mark ++ [quote] := fun feed ↦
      absurd (unbroken_opening known member _ feed) (by decide)
    rw [Option.map_some, literalLength?_eq_some_iff]
    refine ⟨mark, known, quote, member, toCrlf rest, ?_, ?_⟩
    · rw [toCrlf_append, toCrlf_eq_self noFeed]
    · rw [List.take_length_add_append, lengthToBreak_append noFeed,
        quotedLength_toCrlf (isLineBreak_of_mem_quotes quote member)]
  | none =>
    rw [Option.map_none, Option.eq_none_iff_forall_ne_some]
    intro length converted
    obtain ⟨mark, known, quote, member, rest, whole, -⟩ := literalLength?_eq_some_iff.mp converted
    obtain ⟨rest, rfl, -⟩ := exists_of_toCrlf_eq_append (unbroken_opening known member) whole
    have literal := literalLength?_eq_some_iff.mpr ⟨mark, known, quote, member, rest, rfl, rfl⟩
    rw [found] at literal
    cases literal

/-! ## Other tokens -/

private theorem takeWhile_toCrlf {test : Char → Bool} (feed : test '\n' = false)
    (carriage : test '\r' = false) (text : Text) :
    (toCrlf text).takeWhile test = text.takeWhile test := by
  induction text with
  | nil => rfl
  | cons c rest ih =>
    by_cases same : c = '\n'
    · subst same
      rw [toCrlf_feed, List.takeWhile_cons_of_neg (by simp [carriage]),
        List.takeWhile_cons_of_neg (by simp [feed])]
    · rw [toCrlf_cons same, List.takeWhile_cons, List.takeWhile_cons, ih]

private theorem continuesNumber_break :
    continuesNumber '\n' = false ∧ continuesNumber '\r' = false := by
  decide +kernel

/-- A code point that has no exponent sign behind it continues a number by itself or not at all. -/
theorem numberTailLength_cons {c : Char} {rest : Text}
    (noExponent : ∀ d ∈ rest.head?,
      ¬((c = 'e' ∨ c = 'E' ∨ c = 'p' ∨ c = 'P') ∧ (d = '+' ∨ d = '-'))) :
    numberTailLength (c :: rest) =
      if continuesNumber c then 1 + numberTailLength rest else 0 := by
  cases rest with
  | nil => rfl
  | cons d rest => rw [numberTailLength, if_neg (noExponent d rfl)]

/-- A number goes on as far as before. -/
theorem numberTailLength_toCrlf (text : Text) :
    numberTailLength (toCrlf text) = numberTailLength text := by
  obtain ⟨feed, carriage⟩ := continuesNumber_break
  have stops (rest : Text) : numberTailLength (toCrlf ('\n' :: rest)) = 0 := by
    rw [toCrlf_feed, numberTailLength, if_neg (by decide), carriage]
    rfl
  -- An exponent sign in a converted text stands where it stood before.
  have noExponent {c d : Char} {rest : Text}
      (h : ¬((c = 'e' ∨ c = 'E' ∨ c = 'p' ∨ c = 'P') ∧ (d = '+' ∨ d = '-'))) :
      ∀ e ∈ (toCrlf (d :: rest)).head?,
        ¬((c = 'e' ∨ c = 'E' ∨ c = 'p' ∨ c = 'P') ∧ (e = '+' ∨ e = '-')) := by
    by_cases same : d = '\n'
    · subst same
      rintro e ⟨⟩ ⟨-, sign⟩
      exact absurd sign (by decide)
    · rw [toCrlf_cons same]
      rintro e ⟨⟩
      exact h
  fun_induction numberTailLength text with
  | case1 => rfl
  | case2 c continues =>
    have other : c ≠ '\n' := fun same ↦ Bool.false_ne_true (feed.symm.trans (same ▸ continues))
    rw [toCrlf_cons other]
    exact if_pos continues
  | case3 c ends =>
    by_cases same : c = '\n'
    · subst same
      exact stops []
    · rw [toCrlf_cons same]
      exact if_neg ends
  | case4 c d rest exponent ih =>
    have letter : c ≠ '\n' := by
      rintro rfl
      exact absurd exponent.1 (by decide)
    have sign : d ≠ '\n' := by
      rintro rfl
      exact absurd exponent.2 (by decide)
    rw [toCrlf_cons letter, toCrlf_cons sign, numberTailLength, if_pos exponent, ih]
  | case5 c d rest single continues ih =>
    have other : c ≠ '\n' := fun same ↦ Bool.false_ne_true (feed.symm.trans (same ▸ continues))
    rw [toCrlf_cons other, numberTailLength_cons (noExponent single), if_pos continues, ih]
  | case6 c d rest single ends =>
    by_cases same : c = '\n'
    · subst same
      exact stops (d :: rest)
    · rw [toCrlf_cons same, numberTailLength_cons (noExponent single), if_neg ends]

/-- A number that does not start with a point starts with a decimal digit. -/
theorem numberLength?_cons {c : Char} (noPoint : c ≠ '.') (rest : Text) :
    numberLength? (c :: rest) =
      if isDecimal c then some (1 + numberTailLength rest) else none := by
  rw [numberLength?]
  exact fun _ _ point _ ↦ noPoint point

/-- A converted text starts with a number exactly if the text itself does, and it is as long. -/
theorem numberLength?_toCrlf (text : Text) :
    numberLength? (toCrlf text) = numberLength? text := by
  have feed : isDecimal '\n' = false := by decide +kernel
  have carriage : isDecimal '\r' = false := by decide +kernel
  cases text with
  | nil => rfl
  | cons c rest =>
    by_cases point : c = '.'
    · subst point
      rw [toCrlf_cons (by decide)]
      cases rest with
      | nil => rfl
      | cons d rest =>
        by_cases same : d = '\n'
        · subst same
          rw [toCrlf_feed, numberLength?, numberLength?, carriage, feed]
          rfl
        · rw [toCrlf_cons same, numberLength?, numberLength?, numberTailLength_toCrlf]
    · by_cases same : c = '\n'
      · subst same
        rw [toCrlf_feed, numberLength?_cons (by decide), numberLength?_cons (by decide), carriage,
          feed]
        rfl
      · rw [toCrlf_cons same, numberLength?_cons point, numberLength?_cons point,
          numberTailLength_toCrlf]

/-- A converted text starts with an identifier exactly if the text itself does, and it is as
long. -/
theorem identifierLength?_toCrlf (text : Text) :
    identifierLength? (toCrlf text) = identifierLength? text := by
  cases text with
  | nil => rfl
  | cons c rest =>
    by_cases feed : c = '\n'
    · subst feed
      rfl
    · have run : (toCrlf rest).takeWhile continuesIdentifier =
          rest.takeWhile continuesIdentifier := takeWhile_toCrlf (by decide) (by decide) rest
      rw [toCrlf_cons feed, identifierLength?, identifierLength?, run]

private theorem punctuationLength_toCrlf (text : Text) :
    punctuationLength (toCrlf text) = punctuationLength text := by
  have unbroken : ∀ punctuator ∈ punctuators, Unbroken punctuator := by decide
  have same : punctuators.find? (·.isPrefixOf (toCrlf text)) =
      punctuators.find? (·.isPrefixOf text) := by
    refine List.find?_congr fun punctuator member ↦ Bool.eq_iff_iff.mpr ?_
    rw [List.isPrefixOf_iff_prefix, List.isPrefixOf_iff_prefix]
    exact prefix_toCrlf_iff (unbroken punctuator member)
  rw [punctuationLength, punctuationLength, same]

/-! ## Any token -/

/-- An unbroken token has its length. -/
theorem lengthToBreak_take {text : Text} {length : Nat} (unbroken : Unbroken (text.take length))
    (inside : length ≤ text.length) : lengthToBreak (text.take length) = length := by
  rw [lengthToBreak_eq_length fun feed ↦ absurd (unbroken _ feed) (by decide), List.length_take,
    Nat.min_eq_left inside]

private theorem length_token_toCrlf (text : Text) :
    Token.length (toCrlf text) = lengthToBreak (text.take (Token.length text)) := by
  cases text with
  | nil => rfl
  | cons c rest =>
    by_cases feed : c = '\n'
    · subst feed
      rw [toCrlf_feed, Token.length, if_pos (by decide), Token.length, if_pos (by decide)]
      rfl
    · have same := toCrlf_cons feed rest
      cases shown : isBlank c with
      | true =>
        rw [same, Token.length, if_pos shown, Token.length, if_pos shown]
        rfl
      | false =>
        have noBlank := Bool.eq_false_iff.mp shown
        rw [same, Token.length, if_neg noBlank, ← same, literalLength?_toCrlf,
          numberLength?_toCrlf, identifierLength?_toCrlf, punctuationLength_toCrlf, Token.length,
          if_neg noBlank]
        cases literalLength? (c :: rest) with
        | some length => rfl
        | none =>
          cases number : numberLength? (c :: rest) with
          | some length =>
            exact (lengthToBreak_take (unbroken_of_numberLength? number)
              (le_length_of_numberLength? number)).symm
          | none =>
            cases identifier : identifierLength? (c :: rest) with
            | some length =>
              exact (lengthToBreak_take (unbroken_of_identifierLength? identifier)
                (le_length_of_identifierLength? identifier)).symm
            | none =>
              exact (lengthToBreak_take
                (unbroken_take_punctuationLength rest (isLineBreak_of_not_isBlank shown))
                (punctuationLength_le (List.cons_ne_nil c rest))).symm

/-- At an offset of a converted text, the token of the text ends in its first line break, or where
it ended before. -/
theorem lengthAt_toCrlf (text : Text) (offset : Int) :
    lengthAt (toCrlf text) (crlfOffset text offset) = lengthToBreak (tokenAt text offset) := by
  by_cases forward : 0 ≤ offset
  · have place : (crlfOffset text offset).toNat =
        offset.toNat + (text.take offset.toNat).count '\n' := by
      rw [crlfOffset]
      omega
    have forward' : 0 ≤ crlfOffset text offset := by
      rw [crlfOffset]
      omega
    rw [tokenAt, lengthAt_of_nonneg forward', lengthAt_of_nonneg forward, place, drop_toCrlf,
      length_token_toCrlf]
  · have start : offset.toNat = 0 := by omega
    have behind : crlfOffset text offset < 0 := by
      rw [crlfOffset, start, List.take_zero, List.count_nil]
      omega
    rw [tokenAt, lengthAt_of_neg behind, lengthAt_of_neg (by omega)]
    rfl

/-! ## The end of a token -/

/-- The end of a text in front of another one is between the halves of a line break exactly if that
is what the two texts end and start with. -/
theorem splitsBreak_append_iff {front behind : Text} :
    SplitsBreak (front ++ behind) front.length ↔
      front.getLast? = some '\r' ∧ behind.head? = some '\n' := by
  have last : ((front.length : Int) - 1).toNat = front.length - 1 := by omega
  rw [SplitsBreak, Int.toNat_natCast, last, List.getElem?_append_right (Nat.le_refl _),
    Nat.sub_self, List.head?_eq_getElem?, List.getLast?_eq_getElem?]
  cases front with
  | nil => simp
  | cons c front =>
    have inside : (c :: front).length - 1 < (c :: front).length :=
      Nat.sub_one_lt (Nat.succ_ne_zero _)
    rw [List.getElem?_append_left inside]
    simp

private theorem not_splitsBreak_toCrlf {front : Text} (unix : '\r' ∉ front) (behind : Text) :
    ¬SplitsBreak (toCrlf front ++ behind) (toCrlf front).length := by
  intro split
  have last := (splitsBreak_append_iff.mp split).1
  rw [getLast?_toCrlf] at last
  exact unix (List.mem_of_getLast? last)

private theorem exists_behind_tokenAt (text : Text) (offset : Int) :
    ∃ behind, text = text.take offset.toNat ++ (tokenAt text offset ++ behind) := by
  refine ⟨(text.drop offset.toNat).drop (lengthAt text offset), ?_⟩
  rw [tokenAt, List.take_append_drop, List.take_append_drop]

/-- In a converted text, what is left of a part ends between the halves of a line break exactly if
the part held a line break. -/
theorem splitsBreak_lengthToBreak_iff {before token : Text} (unix : '\r' ∉ before ++ token)
    (behind : Text) :
    SplitsBreak (toCrlf (before ++ (token ++ behind)))
        ((toCrlf before).length + lengthToBreak token : Nat) ↔
      '\n' ∈ token := by
  by_cases feed : '\n' ∈ token
  · refine iff_of_true ?_ feed
    obtain ⟨front, rest, rfl, first⟩ := List.eq_append_cons_of_mem feed
    -- What is left of the part ends with the first half of its first break.
    have cut : (toCrlf before).length + lengthToBreak (front ++ '\n' :: rest) =
        (toCrlf before ++ front ++ ['\r']).length := by
      rw [lengthToBreak_append first, lengthToBreak_feed, List.length_append, List.length_append,
        List.length_singleton]
      omega
    have split : toCrlf (before ++ (front ++ '\n' :: rest ++ behind)) =
        (toCrlf before ++ front ++ ['\r']) ++ '\n' :: toCrlf (rest ++ behind) := by
      rw [toCrlf_append, List.append_assoc, toCrlf_append, toCrlf_eq_self first, List.cons_append,
        toCrlf_feed]
      simp
    rw [cut, split, splitsBreak_append_iff, List.getLast?_concat]
    exact ⟨rfl, rfl⟩
  · refine iff_of_false ?_ feed
    have same : (toCrlf before).length + lengthToBreak token =
        (toCrlf (before ++ token)).length := by
      rw [toCrlf_append, List.length_append, toCrlf_eq_self feed, lengthToBreak_eq_length feed]
    rw [same, ← List.append_assoc, toCrlf_append]
    exact not_splitsBreak_toCrlf unix _

private theorem not_splitsBreak_crlfOffset {text : Text} {offset : Int}
    (outside : ¬(0 ≤ offset ∧ offset ≤ text.length)) :
    ¬SplitsBreak (toCrlf text) (crlfOffset text offset) := by
  rintro ⟨positive, -, feed⟩
  have known := (List.getElem?_eq_some_iff.mp feed).1
  rw [length_toCrlf] at known
  rw [crlfOffset] at positive known
  rcases Int.lt_or_le offset 0 with negative | forward
  · have start : offset.toNat = 0 := by omega
    rw [start, List.take_zero, List.count_nil] at positive
    omega
  · rw [List.take_of_length_le (by omega)] at known
    omega

/-- In a converted text a token ends between the halves of a line break exactly if it held a line
break before. -/
theorem splitsBreak_token_toCrlf_iff {text : Text} (unix : '\r' ∉ text) (offset : Int) :
    SplitsBreak (toCrlf text)
        (crlfOffset text offset + lengthAt (toCrlf text) (crlfOffset text offset)) ↔
      '\n' ∈ tokenAt text offset := by
  rw [lengthAt_toCrlf]
  by_cases within : 0 ≤ offset ∧ offset ≤ text.length
  · obtain ⟨behind, whole⟩ := exists_behind_tokenAt text offset
    have place : crlfOffset text offset = (toCrlf (text.take offset.toNat)).length := by
      rw [crlfOffset, length_toCrlf, List.length_take]
      omega
    rw [place, ← Int.natCast_add]
    generalize text.take offset.toNat = before at whole ⊢
    generalize tokenAt text offset = token at whole ⊢
    subst whole
    rw [← List.append_assoc] at unix
    exact splitsBreak_lengthToBreak_iff (mt (List.mem_append_left behind) unix) behind
  · have nothing : tokenAt text offset = [] := by
      rw [tokenAt, lengthAt_eq_zero_iff.mpr (Or.inl (by omega)), List.take_zero]
    have empty : lengthToBreak [] = 0 := rfl
    rw [nothing, empty, Int.natCast_zero, Int.add_zero]
    exact iff_of_false (not_splitsBreak_crlfOffset within) List.not_mem_nil

/-- Conversion keeps the measure of the tokens without line breaks, and of them only. A converted
token ends in its first line break, or where it ended before. So it is as long as what it was
converted from, and does not end between the halves of a line break, exactly if it held no line
break; one that it held was escaped, in a literal. -/
theorem token_of_converted_breaks {text : Text} (unix : '\r' ∉ text) (offset : Int) :
    let token := tokenAt text offset
    let place := crlfOffset text offset
    let length := lengthAt (toCrlf text) place
    length = min (token.idxOf '\n' + 1) token.length ∧
    (length = lengthAt text offset + token.count '\n' ↔ '\n' ∉ token) ∧
    (SplitsBreak (toCrlf text) (place + length) ↔ '\n' ∈ token) ∧
    ∀ front behind, token = front ++ '\n' :: behind →
      IsLiteral token ∧ front.getLast? = some '\\' := by
  intro token place length
  have measured : length = lengthToBreak token := lengthAt_toCrlf text offset
  refine ⟨measured, ?same, splitsBreak_token_toCrlf_iff unix offset, ?escaped⟩
  case same =>
    rw [measured, ← length_tokenAt text offset]
    constructor
    · intro same feed
      have breaks := List.count_pos_iff.mpr feed
      have short : lengthToBreak token ≤ token.length := Nat.min_le_right _ _
      have size : token.length = (tokenAt text offset).length := rfl
      omega
    · intro none
      rw [lengthToBreak_eq_length none, List.count_eq_zero.mpr none]
      rfl
  case escaped =>
    intro front behind whole
    exact escaped_of_tokenAt whole rfl

/-- A literal that goes on behind an escaped line feed is measured to the end; converted, it ends
behind the carriage return. -/
theorem token_cut_by_converted_break :
    let text := "x \"a\\\nb\";\n".toList
    '\r' ∉ text ∧ tokenAt text 2 = "\"a\\\nb\"".toList ∧
      lengthAt (toCrlf text) (crlfOffset text 2) = 4 ∧
      SplitsBreak (toCrlf text) (crlfOffset text 2 + 4) ∧
      lengthAt (toCrlf text) (crlfOffset text 2) ≠ lengthAt text 2 + 1 := by
  intro text
  have unix : '\r' ∉ text := by decide
  have token : tokenAt text 2 = "\"a\\\nb\"".toList := by decide +kernel
  obtain ⟨measured, same, split, -⟩ := token_of_converted_breaks unix 2
  rw [token] at measured same split
  rw [measured] at split
  exact ⟨unix, token, measured, split.mpr (by decide), fun equal ↦ same.mp equal (by decide)⟩

end Token

end Caret.Source
