import Caret.Proofs.Text.Numerals
import Caret.Toml.Reader

/-!
# Reading written values

A key or a value that was written is read back, with what follows it: strings with their escapes,
integers that can be written, and the two truth values. Where gaps are skipped, line breaks and
comments do not matter.
-/

namespace Caret.Toml

open Data (Value Fields)
open Text

/-! ## Gaps -/

/-- Gaps are skipped up to a comment, which is skipped with the gaps behind it. -/
theorem skipGaps_eq (text : Text) :
    skipGaps text =
      match text.dropWhile isGap with
      | '#' :: rest =>
        if (rest.takeWhile (· ≠ '\n')).any isForbidden then .error .malformed
        else skipGaps (rest.drop (rest.takeWhile (· ≠ '\n')).length)
      | start => .ok start := by
  rw [skipGaps]
  split
  · next rest cut =>
    simp only [cut]
  · next other =>
    split
    · next rest cut => exact absurd cut (other rest)
    · rfl

/-- White space at the start is skipped. -/
theorem skipGaps_cons {c : Char} (h : isGap c = true) (text : Text) :
    skipGaps (c :: text) = skipGaps text := by
  rw [skipGaps_eq, skipGaps_eq text, List.dropWhile_cons_of_pos h]

/-- Nothing is skipped in front of what is no gap. -/
theorem skipGaps_of_start {c : Char} (solid : isGap c = false) (h : c ≠ '#') (rest : Text) :
    skipGaps (c :: rest) = .ok (c :: rest) := by
  rw [skipGaps_eq, List.dropWhile_cons_of_neg (by rw [solid]; exact Bool.false_ne_true)]
  split
  · next same => exact absurd (List.cons.inj same).1 h
  · rfl

/-- There is nothing to skip at the end. -/
theorem skipGaps_nil : skipGaps [] = .ok [] := by
  rw [skipGaps_eq]
  rfl

/-- A comment is skipped with its line. -/
theorem skipGaps_comment {comment : Text} (line : '\n' ∉ comment)
    (valid : comment.any isForbidden = false) (rest : Text) :
    skipGaps ('#' :: comment ++ '\n' :: rest) = skipGaps rest := by
  have cut : (comment ++ '\n' :: rest).takeWhile (· ≠ '\n') = comment := by
    have inside : ∀ c ∈ comment, decide (c ≠ '\n') = true := fun c member ↦
      decide_eq_true fun same ↦ line (same ▸ member)
    rw [List.takeWhile_append_of_pos inside]
    exact List.append_nil comment
  rw [skipGaps_eq, List.cons_append, List.dropWhile_cons_of_neg (by decide)]
  simp only [cut, valid, Bool.false_eq_true, if_false, List.drop_left]
  exact skipGaps_cons (by decide) rest

/-! ## Strings -/

/-- A property of all code points of ASCII. -/
theorem forall_ascii {P : Char → Prop} (h : ∀ n < 128, P (Char.ofNat n)) {c : Char}
    (small : c.toNat < 128) : P c := by
  have here := h c.toNat small
  rwa [Char.ofNat_toNat] at here

/-- A code point between double quotes stands for itself, or behind a backslash for an escape that
is read back; none of what is written is a control character. -/
theorem escapedChar_cases (c : Char) :
    (escapedChar c = [c] ∧ isControl c = false ∧ c ≠ '"' ∧ c ≠ '\\') ∨
      ∃ code, escapedChar c = '\\' :: code ∧ code.any isControl = false ∧
        ∀ rest, readEscape? false (code ++ rest) = some ([c], code.length) := by
  unfold escapedChar
  cases short : shortEscapes.lookup c with
  | some letter =>
    suffices printed : isControl letter = false ∧
        ∀ rest, readEscape? false (letter :: rest) = some ([c], 1) by
      refine Or.inr ⟨[letter], rfl, ?_, printed.2⟩
      rw [List.any_cons, printed.1]
      rfl
    have member : (c, letter) ∈ shortEscapes := by
      obtain ⟨front, behind, same, -⟩ := List.lookup_eq_some_iff.mp short
      rw [same]
      exact List.mem_append_right _ List.mem_cons_self
    simp only [shortEscapes, List.mem_cons, Prod.mk.injEq, List.not_mem_nil, or_false] at member
    rcases member with ⟨rfl, rfl⟩ | ⟨rfl, rfl⟩ | ⟨rfl, rfl⟩ | ⟨rfl, rfl⟩ | ⟨rfl, rfl⟩ | ⟨rfl, rfl⟩ |
      ⟨rfl, rfl⟩ <;> exact ⟨by decide, fun _ ↦ rfl⟩
  | none =>
    dsimp only
    split
    · next control =>
      refine Or.inr ⟨'u' :: hexadecimal 4 c.toNat, rfl, ?_⟩
      have small : c.toNat < 128 := by
        simp only [isControl, Bool.or_eq_true, decide_eq_true_eq] at control
        omega
      obtain ⟨printed, length, escape⟩ := forall_ascii
        (P := fun c ↦ isControl c = true → ('u' :: hexadecimal 4 c.toNat).any isControl = false ∧
          (hexadecimal 4 c.toNat).length = 4 ∧ numberedEscape? (hexadecimal 4 c.toNat) = some c)
        (by decide +kernel) small control
      refine ⟨printed, fun rest ↦ ?_⟩
      simp only [List.cons_append, readEscape?, Bool.false_eq_true, false_and, if_false]
      have digits : (hexadecimal 4 c.toNat ++ rest).take 4 = hexadecimal 4 c.toNat :=
        List.take_left' length
      have enough : ¬ (hexadecimal 4 c.toNat ++ rest).length < 4 := by
        rw [List.length_append, length]
        omega
      have four : numberedEscapes.lookup 'u' = some 4 := rfl
      simp only [four, enough, if_false, digits, escape, Option.map_some, List.length_cons, length]
    · next printed =>
      refine Or.inl ⟨rfl, by simpa using printed, ?_, ?_⟩
      · rintro rfl
        cases short
      · rintro rfl
        cases short

/-- A written string has no control character. -/
theorem isControl_quotedString (s : String) : (quotedString s).any isControl = false := by
  have each (c : Char) : (escapedChar c).any isControl = false := by
    rcases escapedChar_cases c with ⟨plain, printed, -, -⟩ | ⟨code, escaped, printed, -⟩
    · rw [plain, List.any_cons, printed]
      rfl
    · rw [escaped, List.any_cons, printed]
      rfl
  have inside : (s.toList.flatMap escapedChar).any isControl = false := by
    rw [List.any_flatMap, List.any_eq_false]
    exact fun c _ ↦ by simp [each c]
  rw [quotedString, List.any_append, List.any_cons, inside]
  rfl

private theorem readChars_escapedChar (c : Char) (rest read : Text) :
    readChars ⟨'"', false⟩ (escapedChar c ++ rest) read =
      readChars ⟨'"', false⟩ rest (c :: read) := by
  rcases escapedChar_cases c with ⟨plain, printed, quote, backslash⟩ |
    ⟨code, escaped, -, reads⟩
  · have allowed : StringForm.refuses ⟨'"', false⟩ c = false := by
      simp [StringForm.refuses, isForbidden, printed]
    rw [plain, List.singleton_append, readChars]
    simp only [allowed, Bool.false_eq_true, if_false, if_neg quote, backslash, and_false]
  · have allowed : StringForm.refuses ⟨'"', false⟩ '\\' = false := by decide
    have quote : ¬ '\\' = '"' := by decide
    have escapes : StringForm.hasEscapes ⟨'"', false⟩ = true := rfl
    rw [escaped, List.cons_append, readChars]
    simp only [allowed, Bool.false_eq_true, if_false, if_neg quote, escapes, and_self, if_true,
      reads, List.drop_left, List.reverse_singleton, List.singleton_append]

private theorem readChars_quoted (text rest read : Text) :
    readChars ⟨'"', false⟩ (text.flatMap escapedChar ++ '"' :: rest) read =
      .ok (String.ofList (read.reverse ++ text), rest) := by
  induction text generalizing read with
  | nil =>
    have allowed : StringForm.refuses ⟨'"', false⟩ '"' = false := by decide
    rw [List.flatMap_nil, List.nil_append, readChars]
    simp only [allowed, Bool.false_eq_true, if_false, if_true, List.append_nil]
  | cons c text ih =>
    rw [List.flatMap_cons, List.append_assoc, readChars_escapedChar, ih, List.reverse_cons,
      List.append_assoc]
    rfl

/-- A string is read behind its first quote, unless a further quote follows it. -/
theorem readString_quoted (s : String) (rest : Text) (h : rest.head? ≠ some '"') :
    readString '"' (s.toList.flatMap escapedChar ++ '"' :: rest) = .ok ((s, false), rest) := by
  have oneLine : (readChars ⟨'"', false⟩ (s.toList.flatMap escapedChar ++ '"' :: rest) []).map
      (fun read ↦ ((read.1, false), read.2)) = .ok ((s, false), rest) := by
    rw [readChars_quoted, List.reverse_nil, List.nil_append, String.ofList_toList]
    rfl
  unfold readString
  split
  · next c d behind cut =>
    have single : ¬ (c = '"' ∧ d = '"') := by
      rintro ⟨rfl, rfl⟩
      cases text : s.toList with
      | nil =>
        rw [text] at cut
        rw [(List.cons.inj cut).2] at h
        exact h rfl
      | cons first more =>
        rw [text, List.flatMap_cons] at cut
        rcases escapedChar_cases first with ⟨plain, -, quote, -⟩ | ⟨code, escaped, -⟩
        · rw [plain] at cut
          exact quote (List.cons.inj cut).1
        · rw [escaped] at cut
          exact absurd (List.cons.inj cut).1 (by decide)
    rw [if_neg single]
    exact oneLine
  · exact oneLine

/-! ## Keys -/

/-- A code point of a name without quotes is no white space and starts nothing else. -/
theorem isBareChar_cases {c : Char} (h : isBareChar c = true) :
    isBlank c = false ∧ isGap c = false ∧ c ≠ '"' ∧ c ≠ '\'' ∧ c ≠ '#' ∧ c ≠ '[' := by
  have small : c.toNat < 128 := by
    have ranges : isBareChar c = (decide (c.val ≥ 'A'.val ∧ c.val ≤ 'Z'.val) ||
        (decide (c.val ≥ 'a'.val) && decide (c.val ≤ 'z'.val)) ||
        (decide (c.val ≥ '0'.val) && decide (c.val ≤ '9'.val)) ||
        decide (c = '-') || decide (c = '_')) := rfl
    simp only [ranges, Bool.or_eq_true, Bool.and_eq_true, decide_eq_true_eq, ge_iff_le,
      UInt32.le_iff_toNat_le] at h
    rcases h with ((((⟨-, high⟩ | ⟨-, high⟩) | ⟨-, high⟩) | rfl) | rfl)
    · exact Nat.lt_of_le_of_lt high (by decide)
    · exact Nat.lt_of_le_of_lt high (by decide)
    · exact Nat.lt_of_le_of_lt high (by decide)
    · decide
    · decide
  exact forall_ascii (P := fun c ↦ isBareChar c = true →
    isBlank c = false ∧ isGap c = false ∧ c ≠ '"' ∧ c ≠ '\'' ∧ c ≠ '#' ∧ c ≠ '[')
    (by decide +kernel) small h

/-- A written key starts with no gap, and as no header. -/
theorem exists_keyText_eq_cons (key : String) :
    ∃ c rest, keyText key = c :: rest ∧ isGap c = false ∧ c ≠ '#' ∧ c ≠ '[' := by
  rw [keyText]
  split
  · next bare =>
    cases text : key.toList with
    | nil => exact absurd text bare.1
    | cons c rest =>
      have first := List.all_eq_true.mp bare.2 c (text ▸ List.mem_cons_self)
      obtain ⟨-, gap, -, -, comment, bracket⟩ := isBareChar_cases first
      exact ⟨c, rest, rfl, gap, comment, bracket⟩
  · exact ⟨'"', _, rfl, by decide⟩

private theorem trim_append {text gap : Text} (solid : ∀ c ∈ text, isBlank c = false)
    (blank : ∀ c ∈ gap, isBlank c = true) (some : text ≠ []) : trim (text ++ gap) = text := by
  have start : trimStart (text ++ gap) = text ++ gap := by
    obtain ⟨first, others, rfl⟩ := List.exists_cons_of_ne_nil some
    rw [trimStart, List.cons_append, List.dropWhile_cons, solid first List.mem_cons_self]
    rfl
  rw [trim, start, trimEnd, List.reverse_append, List.dropWhile_append_of_pos, dropWhile_eq_self,
    List.reverse_reverse]
  · exact fun c member ↦ solid c (List.mem_reverse.mp member)
  · exact fun c member ↦ blank c (List.mem_reverse.mp member)

private theorem isBlank_of_isSpace {c : Char} (h : isSpace c = true) : isBlank c = true := by
  simp only [isSpace, Bool.or_eq_true, decide_eq_true_eq] at h
  rcases h with rfl | rfl <;> decide

/-- What is no gap is no space in a line. -/
theorem isSpace_of_isGap_eq_false {c : Char} (h : isGap c = false) : isSpace c = false := by
  simp only [isGap, Bool.or_eq_false_iff] at h
  exact h.1.1

/-- Where no space stands, none is skipped. -/
theorem skipSpaces_cons {c : Char} (solid : isSpace c = false) (rest : Text) :
    skipSpaces (c :: rest) = c :: rest := by
  rw [skipSpaces, List.dropWhile_cons, solid]
  rfl

/-- Spaces are skipped up to what is none. -/
theorem skipSpaces_append {gap : Text} (blank : ∀ c ∈ gap, isSpace c = true) {c : Char}
    (solid : isSpace c = false) (rest : Text) : skipSpaces (gap ++ c :: rest) = c :: rest := by
  rw [skipSpaces, List.dropWhile_append_of_pos blank]
  exact skipSpaces_cons solid rest

private theorem readNames_bare (count : Nat) {text gap : Text} {c : Char} (some : text ≠ [])
    (bare : ∀ c ∈ text, isBareChar c = true) (blank : ∀ c ∈ gap, isSpace c = true)
    (stops : c = ']' ∨ c = '=') (rest : Text) :
    readNames (count + 1) (text ++ (gap ++ c :: rest)) =
      .ok ([String.ofList text], c :: rest) := by
  have run : (text ++ (gap ++ c :: rest)).takeWhile (fun c ↦ isBareChar c || isSpace c) =
      text ++ gap := by
    have inside : ∀ c ∈ text ++ gap, (isBareChar c || isSpace c) = true := by
      intro c member
      rcases List.mem_append.mp member with member | member
      · rw [bare c member, Bool.true_or]
      · rw [blank c member, Bool.or_true]
    rw [← List.append_assoc, List.takeWhile_append_of_pos inside]
    rcases stops with rfl | rfl <;> exact List.append_nil _
  have trimmed : trim (text ++ gap) = text :=
    trim_append (fun c member ↦ (isBareChar_cases (bare c member)).1)
      (fun c member ↦ isBlank_of_isSpace (blank c member)) some
  have solid : text.any isSpace = false := by
    refine List.any_eq_false.mpr fun c member ↦ ?_
    rw [isSpace_of_isGap_eq_false (isBareChar_cases (bare c member)).2.1]
    exact Bool.false_ne_true
  have start : skipSpaces (text ++ (gap ++ c :: rest)) = text ++ (gap ++ c :: rest) := by
    obtain ⟨first, others, rfl⟩ := List.exists_cons_of_ne_nil some
    have gap := (isBareChar_cases (bare first List.mem_cons_self)).2.1
    exact skipSpaces_cons (isSpace_of_isGap_eq_false gap) _
  have behind : (text ++ (gap ++ c :: rest)).drop (text ++ gap).length = c :: rest := by
    rw [← List.append_assoc, List.drop_left]
  have first (q : Char) (inside : Text) (cut : text ++ (gap ++ c :: rest) = q :: inside) :
      isBareChar q = true := by
    obtain ⟨first, others, rfl⟩ := List.exists_cons_of_ne_nil some
    rw [← (List.cons.inj cut).1]
    exact bare first List.mem_cons_self
  rw [readNames]
  simp only [start]
  split
  · next inside cut => exact absurd (first _ inside cut) (by decide)
  · next inside cut => exact absurd (first _ inside cut) (by decide)
  · simp only [run, trimmed, some, solid, behind, Bool.false_eq_true, or_self, if_false]
    rcases stops with rfl | rfl <;> rfl

private theorem readNames_quoted (count : Nat) (key : String) {gap rest : Text} {c : Char}
    (blank : ∀ c ∈ gap, isSpace c = true) (stops : c = ']' ∨ c = '=') :
    readNames (count + 1) (quotedString key ++ (gap ++ c :: rest)) = .ok ([key], c :: rest) := by
  have unquoted : (gap ++ c :: rest).head? ≠ some '"' := by
    cases gap with
    | nil =>
      rintro same
      rw [List.nil_append, List.head?_cons, Option.some.injEq] at same
      rcases stops with rfl | rfl <;> exact absurd same (by decide)
    | cons space others =>
      rintro same
      have first := blank space List.mem_cons_self
      rw [Option.some.inj same] at first
      exact absurd first (by decide)
  have solid : isSpace c = false := by rcases stops with rfl | rfl <;> rfl
  have start : skipSpaces (quotedString key ++ (gap ++ c :: rest)) =
      '"' :: (key.toList.flatMap escapedChar ++ '"' :: (gap ++ c :: rest)) := by
    rw [quotedString, List.cons_append, List.cons_append, List.append_assoc]
    exact skipSpaces_cons (by decide) _
  have name : readNames.quotedName '"'
      (key.toList.flatMap escapedChar ++ '"' :: (gap ++ c :: rest)) = .ok (key, c :: rest) := by
    rw [readNames.quotedName, readString_quoted key _ unquoted]
    show Except.ok (key, skipSpaces (gap ++ c :: rest)) = _
    rw [skipSpaces_append blank solid]
  rw [readNames]
  simp only [start, name]
  rcases stops with rfl | rfl <;> rfl

/-- A written key is read up to what stops it. -/
theorem readPath_keyText (key : String) {gap rest : Text} {c : Char}
    (blank : ∀ c ∈ gap, isSpace c = true) (stops : c = ']' ∨ c = '=') :
    readPath (keyText key ++ (gap ++ c :: rest)) = .ok ([key], c :: rest) := by
  rw [readPath, maxDepth, keyText]
  split
  · next bare =>
    have read := readNames_bare 99 bare.1 (List.all_eq_true.mp bare.2) blank stops rest
    rwa [String.ofList_toList] at read
  · exact readNames_quoted 99 key blank stops

/-! ## Integers -/

/-- A word of digits and signs ends at the end of its line. -/
theorem wordOf_append {word : Text} (h : ∀ c ∈ word, endsWord c = false) (rest : Text) :
    wordOf (word ++ '\n' :: rest) = word := by
  have inside : ∀ c ∈ word, (!endsWord c) = true := fun c member ↦ by rw [h c member]; rfl
  rw [wordOf, List.takeWhile_append_of_pos inside]
  exact List.append_nil word

private theorem endsWord_ofInt (n : Int) : ∀ c ∈ ofInt n, endsWord c = false :=
  forall_mem_ofInt (by decide) (by decide) n

/-- Behind some digits of a word of digits there are digits. -/
theorem digits?_rest {isDigit : Char → Bool} {count n : Nat} {word rest : Text}
    (h : ∀ c ∈ word, c.isDigit = true) (read : digits? isDigit count word = some (n, rest)) :
    ∀ c ∈ rest, c.isDigit = true := by
  unfold digits? at read
  dsimp only at read
  split at read
  · cases read
    exact fun c member ↦ h c (List.mem_of_mem_drop member)
  · cases read

/-- No digit is a mark of a date or of a time. -/
theorem behind?_of_digits {word : Text} (h : ∀ c ∈ word, c.isDigit = true) {mark : Char}
    (other : mark.isDigit = false) : behind? mark word = none := by
  cases word with
  | nil => rfl
  | cons c rest =>
    have digit := h c List.mem_cons_self
    rw [behind?, if_neg]
    rintro rfl
    cases digit.symm.trans other

private theorem readMoment?_of_digits {word : Text} (h : ∀ c ∈ word, c.isDigit = true) :
    readMoment? word = none := by
  have day : readDay? word = none := by
    unfold readDay? fourDigits?
    cases read : digits? isDecimal 4 word with
    | none => rfl
    | some year =>
      show (behind? '-' year.2).bind _ = none
      rw [behind?_of_digits (digits?_rest h read) (by decide)]
      rfl
  have time : readTime? word = none := by
    unfold readTime? twoDigits?
    cases read : digits? Char.isDigit 2 word with
    | none => rfl
    | some hour =>
      obtain ⟨n, rest⟩ := hour
      rw [Option.filter_some]
      dsimp only
      split
      · show (behind? ':' rest).bind _ = none
        rw [behind?_of_digits (digits?_rest h read) (by decide)]
        rfl
      · rfl
  rw [readMoment?, day, time]

private theorem ungroup_of_plain (isDigit : Char → Bool) {word : Text} (h : '_' ∉ word) :
    ungroup isDigit word = word := by
  fun_induction ungroup isDigit word with
  | case1 => simp at h
  | case2 => simp at h
  | case3 a rest other ih =>
    rw [ih fun member ↦ h (List.mem_cons_of_mem _ member)]
  | case4 => rfl

private theorem baseOf_of_digits {word : Text} (h : ∀ c ∈ word, c.isDigit = true) :
    baseOf word = .decimal := by
  unfold baseOf
  split
  · exact absurd (h 'b' (by simp)) (by decide)
  · exact absurd (h 'o' (by simp)) (by decide)
  · exact absurd (h 'x' (by simp)) (by decide)
  · rfl

private theorem startsBadly_toDigits (signed : Bool) (n : Nat) :
    startsBadly signed (Nat.toDigits 10 n) = false := by
  unfold startsBadly
  split
  · next c rest padded =>
    rcases Nat.eq_zero_or_pos n with rfl | positive
    · cases padded
    · refine absurd ?_ (head?_toDigits_ne_zero positive)
      rw [padded]
      rfl
  · next c rest pointed =>
    have digits := forall_mem_toDigits (P := (· ≠ '.')) (by decide) n
    exact absurd rfl (digits '.' (pointed ▸ List.mem_cons_self))
  · rfl

private theorem hasBarePoint_of_digits {word : Text} (h : ∀ c ∈ word, c.isDigit = true) :
    hasBarePoint word = false := by
  have ends {part : Text} (inside : part ⊆ word) : (part.getLast? == some '.') = false := by
    rw [beq_eq_false_iff_ne]
    exact fun last ↦ absurd (h '.' (inside (List.mem_of_getLast? last))) (by decide)
  rw [hasBarePoint, ends (List.Subset.refl word),
    ends (List.takeWhile_prefix _).subset, Bool.and_false, Bool.or_false]

/-- Digits behind a minus sign or none are read as an integer, if that can be read. -/
theorem readNumber?_of_digits {sign : Text} {n : Int} {k : Nat} (signs : sign = [] ∨ sign = ['-'])
    (read : readInteger .decimal (sign ++ Nat.toDigits 10 k) = .ok n) :
    readNumber? (sign ++ Nat.toDigits 10 k) = some (.integer n) := by
  have valid := forall_mem_toDigits (P := (·.isDigit = true)) (by decide) k
  have front : ((sign ++ Nat.toDigits 10 k).take 1).filter (fun c ↦ c = '+' || c = '-') = sign := by
    rcases signs with rfl | rfl
    · have unsigned : ∀ c ∈ Nat.toDigits 10 k, ¬ (decide (c = '+') || decide (c = '-')) = true :=
        forall_mem_toDigits (by decide) k
      exact List.filter_eq_nil_iff.mpr fun c member ↦ unsigned c (List.mem_of_mem_take member)
    · rfl
  have body : ungroup (isAsciiDigit .decimal) (Nat.toDigits 10 k) = Nat.toDigits 10 k :=
    ungroup_of_plain _ Nat.underscore_not_in_toDigits
  have small : lower (Nat.toDigits 10 k) = Nat.toDigits 10 k := by
    rw [← ofInt_natCast]
    exact lower_ofInt k
  have single : (Nat.toDigits 10 k).contains '_' = false := by
    rw [List.contains_eq_mem, decide_eq_false_iff_not]
    exact Nat.underscore_not_in_toDigits
  simp only [readNumber?, front, List.drop_left, baseOf_of_digits valid, body, small,
    startsBadly_toDigits, single, hasBarePoint_of_digits valid, Bool.or_self, Bool.false_eq_true,
    if_false, read]

/-- An integer is read from its word. -/
theorem readNumber?_ofInt {n : Int} (h : isWritable n = true) :
    readNumber? (ofInt n) = some (.integer n) := by
  have read := readInteger_ofInt h
  cases n with
  | ofNat n =>
    rw [Int.ofNat_eq_natCast, ofInt_natCast] at read ⊢
    exact readNumber?_of_digits (Or.inl rfl) read
  | negSucc n =>
    rw [ofInt_negSucc] at read ⊢
    exact readNumber?_of_digits (Or.inr rfl) read

private theorem readNumber_ofInt {n : Int} (h : isWritable n = true) (rest : Text) :
    readNumber (ofInt n ++ '\n' :: rest) = .ok (.integer n, '\n' :: rest) := by
  rw [readNumber, wordOf_append (endsWord_ofInt n)]
  simp only [readNumber?_ofInt h, List.drop_left]

private theorem readScalar_ofInt {n : Int} (h : isWritable n = true) (rest : Text) :
    readScalar (ofInt n ++ '\n' :: rest) = .ok (.integer n, '\n' :: rest) := by
  have read := readNumber_ofInt h rest
  cases n with
  | ofNat n =>
    rw [Int.ofNat_eq_natCast, ofInt_natCast] at read ⊢
    have valid := forall_mem_toDigits (P := (·.isDigit = true)) (by decide) n
    have ends : ∀ c ∈ Nat.toDigits 10 n, endsWord c = false :=
      forall_mem_toDigits (by decide) n
    have number : Toml.readDigits (Nat.toDigits 10 n ++ '\n' :: rest) =
        .ok (.integer n, '\n' :: rest) := by
      rw [Toml.readDigits, wordOf_append ends]
      simp only [readMoment?_of_digits valid, read]
    obtain ⟨first, others, digits⟩ : ∃ first others, Nat.toDigits 10 n = first :: others :=
      List.exists_cons_of_ne_nil Nat.toDigits_ne_nil
    have digit : first.isDigit = true := valid first (digits ▸ List.mem_cons_self)
    have letters : ¬ (first = '"' ∨ first = '\'') ∧ first ≠ 't' ∧ first ≠ 'f' :=
      forall_isDigit (P := fun c ↦ ¬ (c = '"' ∨ c = '\'') ∧ c ≠ 't' ∧ c ≠ 'f')
        (by decide) digit
    rw [digits, List.cons_append] at read number ⊢
    rw [readScalar, if_neg letters.1, if_neg letters.2.1, if_neg letters.2.2, if_pos digit, read,
      number, ite_self]
  | negSucc n =>
    rw [ofInt_negSucc, List.cons_append] at read ⊢
    exact read

/-! ## Values on a line -/

private theorem readScalar_text {scalar : Scalar} (h : scalar.isWritable = true) (rest : Text) :
    readScalar (scalar.text ++ '\n' :: rest) = .ok (scalar.toValue, '\n' :: rest) := by
  cases scalar with
  | boolean value => cases value <;> rfl
  | string value =>
    have read := readString_quoted value ('\n' :: rest) (by simp)
    rw [Scalar.text, quotedString, List.cons_append, List.cons_append, List.append_assoc]
    show (readString '"' (value.toList.flatMap escapedChar ++ '"' :: '\n' :: rest)).map _ = _
    rw [read]
    rfl
  | integer value => exact readScalar_ofInt h rest

/-- A value does not start with a space. -/
theorem exists_text_eq_cons (scalar : Scalar) :
    ∃ c rest, scalar.text = c :: rest ∧ isSpace c = false := by
  cases scalar with
  | boolean value => cases value <;> exact ⟨_, _, rfl, rfl⟩
  | string value => exact ⟨'"', _, rfl, rfl⟩
  | integer value =>
    have solid : ∀ c ∈ ofInt value, isSpace c = false :=
      forall_mem_ofInt (by decide) (by decide) value
    obtain ⟨c, rest, text⟩ := List.exists_cons_of_ne_nil (ofInt_ne_nil value)
    exact ⟨c, rest, text, solid c (text ▸ List.mem_cons_self)⟩

/-- A value may stand at any depth. -/
theorem readValue_text (bound depth : Nat) {scalar : Scalar} (h : scalar.isWritable = true)
    (rest : Text) :
    readValue (bound + 1) depth (scalar.text ++ '\n' :: rest) =
      .ok (.scalar scalar.toValue, '\n' :: rest) := by
  have read := readScalar_text h rest
  rw [readValue, read]
  · rfl
  · intro inside _ cut
    rw [cut] at read
    cases read
  · intro inside _ cut
    rw [cut] at read
    cases read

end Caret.Toml
