import Caret.Proofs.Text.ExpandedMarks
import Caret.Snippet.Insertions

/-!
# Where insertions are shown

The insertions of a line are collected into a table with one text for each column, in ascending
order; the text of a column is what the hints insert there, one behind the other in their order. The
insertion line shows each text of the table at the display column of its source column, or one
column behind the text before it if that one is in the way.
-/

namespace Caret.Snippet

open Text

variable {map : SourceMap} {file number : Int} {hints : List FixItHint} {insertions : Insertions}

namespace Insertions

/-- The columns ascend, so that each of them has one text. -/
def Sorted (insertions : Insertions) : Prop := insertions.Pairwise fun a b ↦ a.1 < b.1

private theorem mem_of_mem_add {column : Int} {text : Text} {entry : Int × Text}
    (h : entry ∈ insertions.add column text) : entry.1 = column ∨ entry ∈ insertions := by
  induction insertions with
  | nil =>
    rw [add, List.mem_singleton] at h
    exact Or.inl (congrArg Prod.fst h)
  | cons first rest ih =>
    obtain ⟨other, texts⟩ := first
    rw [add] at h
    split at h
    · rcases List.mem_cons.mp h with rfl | old
      · exact Or.inl rfl
      · exact Or.inr old
    · split at h
      · next same =>
        rcases List.mem_cons.mp h with rfl | old
        · exact Or.inl same.symm
        · exact Or.inr (List.mem_cons_of_mem _ old)
      · rcases List.mem_cons.mp h with rfl | later
        · exact Or.inr List.mem_cons_self
        · exact (ih later).imp_right (List.mem_cons_of_mem _)

/-- In front of the first column is in front of all columns. -/
theorem Sorted.lt_of_lt_first {first : Int × Text} {rest : Insertions} {column : Int}
    (h : Sorted (first :: rest)) (less : column < first.1) :
    ∀ entry ∈ first :: rest, column < entry.1 := by
  intro entry member
  rcases List.mem_cons.mp member with rfl | later
  · exact less
  · exact Int.lt_trans less (List.rel_of_pairwise_cons h later)

/-- Additions keep the columns in order. -/
theorem Sorted.add (h : insertions.Sorted) (column : Int) (text : Text) :
    (insertions.add column text).Sorted := by
  induction insertions with
  | nil => exact List.pairwise_singleton _ _
  | cons first rest ih =>
    obtain ⟨other, texts⟩ := first
    obtain ⟨before, later⟩ := List.pairwise_cons.mp h
    rw [Insertions.add]
    split
    · next less => exact List.Pairwise.cons (h.lt_of_lt_first less) h
    · split
      · exact List.Pairwise.cons before later
      · next notLess different =>
        apply List.Pairwise.cons _ (ih later)
        intro entry member
        rcases mem_of_mem_add member with new | old
        · dsimp only
          omega
        · exact before entry old

/-- What is found is the first text, if it is at the column. -/
theorem lookup_cons (column other : Int) (text : Text) (rest : Insertions) :
    List.lookup column ((other, text) :: rest) =
      if column = other then some text else rest.lookup column := by
  rw [List.lookup_cons]
  by_cases here : column = other
  · simp [here]
  · simp [here, beq_false_of_ne here]

private theorem lookup_eq_none_of_lt {column : Int} (h : ∀ entry ∈ insertions, column < entry.1) :
    insertions.lookup column = none := by
  rw [List.lookup_eq_none_iff]
  intro entry member
  have apart : column ≠ entry.1 := Int.ne_of_lt (h entry member)
  simpa using apart

/-- An addition changes the text of its column only, where it stands behind the old one. -/
theorem Sorted.lookup_add (h : insertions.Sorted) (column : Int) (text : Text) (other : Int) :
    (insertions.add column text).lookup other =
      if other = column then some ((insertions.lookup column).getD [] ++ text)
      else insertions.lookup other := by
  induction insertions with
  | nil => simp [Insertions.add, lookup_cons]
  | cons first rest ih =>
    obtain ⟨old, texts⟩ := first
    have later : Sorted rest := h.of_cons
    rw [Insertions.add]
    split
    · next less =>
      have new : List.lookup column ((old, texts) :: rest) = none :=
        lookup_eq_none_of_lt (h.lt_of_lt_first less)
      rw [new, lookup_cons, Option.getD_none, List.nil_append]
    · split
      · next same =>
        subst same
        by_cases here : other = column
        · simp [here]
        · simp [lookup_cons, here]
      · next notLess different =>
        rw [lookup_cons, ih later]
        by_cases first : other = old
        · simp [first, Ne.symm different]
        · simp [lookup_cons, first, different]

/-- In a sorted table, what is found at a column is what stands there. -/
theorem Sorted.lookup_eq_some_iff (h : insertions.Sorted) {column : Int} {text : Text} :
    insertions.lookup column = some text ↔ (column, text) ∈ insertions := by
  induction insertions with
  | nil => simp
  | cons first rest ih =>
    obtain ⟨other, texts⟩ := first
    obtain ⟨before, later⟩ := List.pairwise_cons.mp h
    by_cases here : column = other
    · subst here
      have once : (column, text) ∉ rest := fun member ↦ Int.lt_irrefl column (before _ member)
      simp [once, eq_comm]
    · rw [lookup_cons, if_neg here, ih later]
      simp [here]

/-- Sorted tables with the same texts are equal. -/
theorem Sorted.eq_of_lookup_eq {others : Insertions} (h : insertions.Sorted) (ho : others.Sorted)
    (same : ∀ column, insertions.lookup column = others.lookup column) : insertions = others := by
  have nodup {table : Insertions} (sorted : table.Sorted) : table.Nodup :=
    sorted.imp fun less e ↦ Int.ne_of_lt less (congrArg Prod.fst e)
  apply List.Perm.eq_of_pairwise _ h ho
  · rw [List.perm_ext_iff_of_nodup (nodup h) (nodup ho)]
    intro entry
    rw [← h.lookup_eq_some_iff, ← ho.lookup_eq_some_iff, same]
  · intro a b _ _ less more
    exact absurd less (Int.lt_asymm more)

end Insertions

/-! ## Collecting -/

/-- The column where a hint goes to. -/
def hintColumn (map : SourceMap) (hint : FixItHint) : Int :=
  let site := map.expansionSite hint.range.start
  map.columnNumber site.file site.offset

/-- The insertions at a column, in their order. -/
def insertionsAt (map : SourceMap) (hints : List FixItHint) (column : Int) : List FixItHint :=
  hints.filter fun hint ↦ hint.isInsertion && hintColumn map hint == column

/-- A hint that goes to the line goes to its column. -/
theorem insertionColumn?_eq_some {hint : FixItHint} {column : Int}
    (h : insertionColumn? map file number hint = some column) : hintColumn map hint = column := by
  rw [insertionColumn?] at h
  split at h
  · cases h
  · exact Option.some_inj.mp h

/-- The last hint is added behind the others if it is an insertion. -/
theorem collectInsertions?_concat (hints : List FixItHint) (hint : FixItHint) :
    collectInsertions? map file number (hints ++ [hint]) =
      if hint.isInsertion then
        (collectInsertions? map file number hints).bind fun insertions ↦
          (insertionColumn? map file number hint).map (insertions.add · hint.text)
      else collectInsertions? map file number hints := by
  by_cases inserts : hint.isInsertion
  · simp [collectInsertions?, List.filter_append, List.foldlM_append, inserts]
  · simp [collectInsertions?, List.filter_append, inserts]

/-- The insertions are collected if all of them go to the line. -/
theorem collectInsertions?_isSome_iff :
    (collectInsertions? map file number hints).isSome ↔
      ∀ hint ∈ hints, hint.isInsertion → (insertionColumn? map file number hint).isSome := by
  induction hints using List.reverseRecOn with
  | nil => simp [collectInsertions?]
  | append_singleton hints hint ih =>
    rw [collectInsertions?_concat]
    have parts : (∀ other ∈ hints ++ [hint], other.isInsertion →
        (insertionColumn? map file number other).isSome) ↔
          (collectInsertions? map file number hints).isSome ∧
            (hint.isInsertion → (insertionColumn? map file number hint).isSome) := by
      rw [ih, List.forall_mem_append, List.forall_mem_singleton]
    rw [parts]
    by_cases inserts : hint.isInsertion
    · cases earlier : collectInsertions? map file number hints with
      | none => simp [inserts]
      | some before => simp [inserts]
    · simp [inserts]

/-- The table of the insertions is sorted, and the text of a column is what the hints insert there,
one behind the other. -/
theorem lookup_of_collectInsertions?
    (collected : collectInsertions? map file number hints = some insertions) :
    insertions.Sorted ∧ ∀ column, insertions.lookup column =
      if insertionsAt map hints column = [] then none
      else some ((insertionsAt map hints column).flatMap (·.text)) := by
  induction hints using List.reverseRecOn generalizing insertions with
  | nil =>
    cases collected
    exact ⟨List.Pairwise.nil, fun column ↦ rfl⟩
  | append_singleton hints hint ih =>
    rw [collectInsertions?_concat] at collected
    by_cases inserts : hint.isInsertion
    · rw [if_pos inserts] at collected
      obtain ⟨before, earlier, added⟩ := Option.bind_eq_some_iff.mp collected
      obtain ⟨place, goes, rfl⟩ := Option.map_eq_some_iff.mp added
      obtain ⟨sorted, texts⟩ := ih earlier
      refine ⟨sorted.add place hint.text, fun column ↦ ?_⟩
      have old : (before.lookup place).getD [] =
          (insertionsAt map hints place).flatMap (·.text) := by
        rw [texts]
        split
        · next none => rw [none]; rfl
        · rfl
      rw [sorted.lookup_add, old, texts]
      by_cases here : column = place
      · subst here
        simp [insertionsAt, List.filter_append, inserts, insertionColumn?_eq_some goes]
      · have apart : place ≠ column := Ne.symm here
        simp [insertionsAt, List.filter_append, inserts, insertionColumn?_eq_some goes, here, apart]
    · rw [if_neg inserts] at collected
      simpa [insertionsAt, List.filter_append, inserts] using ih collected

/-- Hints with the same insertions at each column, each of them in the same order, give the same
table. -/
theorem collectInsertions?_congr {others : List FixItHint}
    (collected : collectInsertions? map file number hints = some insertions)
    (same : ∀ column, insertionsAt map others column = insertionsAt map hints column) :
    collectInsertions? map file number others = some insertions := by
  have fit := collectInsertions?_isSome_iff.mp (Option.isSome_of_eq_some collected)
  have collects : (collectInsertions? map file number others).isSome := by
    rw [collectInsertions?_isSome_iff]
    intro hint member inserts
    have there : hint ∈ insertionsAt map others (hintColumn map hint) := by
      simp [insertionsAt, member, inserts]
    rw [same] at there
    exact fit hint (List.mem_of_mem_filter there) inserts
  obtain ⟨table, found⟩ := Option.isSome_iff_exists.mp collects
  obtain ⟨sorted, texts⟩ := lookup_of_collectInsertions? collected
  obtain ⟨sortedToo, textsToo⟩ := lookup_of_collectInsertions? found
  have equal : table = insertions := by
    apply sortedToo.eq_of_lookup_eq sorted
    intro column
    rw [textsToo, texts, same]
  rw [found, equal]

/-! ## Laying out -/

variable {tabStop : Int}

/-- An insertion is wanted at the display column of its source column. -/
theorem isDisplayColumn_targetColumn (line : Text) (tabStop column : Int) :
    IsDisplayColumn line tabStop (column - 1).toNat (targetColumn line tabStop column) := by
  constructor
  · intro inside
    simp only [targetColumn, getElem?_displayColumns inside]
  · intro behind
    have none : (displayColumns tabStop line 0)[(column - 1).toNat]? = none :=
      List.getElem?_eq_none (by rw [length_displayColumns]; omega)
    simp only [targetColumn, none, columnWidth]
    omega

private theorem targetColumn_nonneg (h : 1 ≤ tabStop) (line : Text) (column : Int) :
    0 ≤ targetColumn line tabStop column := by
  have forward := le_endColumn h (line.take (column - 1).toNat) 0
  rw [isDisplayColumn_iff.mp (isDisplayColumn_targetColumn line tabStop column)]
  omega

/-- Where an insertion goes behind what ends at `stop`: to its place, or one column behind what is
in the way. -/
def startBehind (line : Text) (tabStop column stop : Int) : Int :=
  if stop ≤ targetColumn line tabStop column then targetColumn line tabStop column else stop + 1

/-- An insertion with the blanks in front of it. -/
def layoutPiece (line : Text) (tabStop : Int) (insertion : Int × Text) (stop : Int) : Text :=
  let start := startBehind line tabStop insertion.1 stop
  blanks (start - stop) ++ expandTabs tabStop insertion.2 start

/-- The insertions with the blanks in front of them, behind what ends at `stop`. -/
def layoutPieces (line : Text) (tabStop : Int) : Insertions → Int → List Text
  | [], _ => []
  | insertion :: rest, stop =>
    let piece := layoutPiece line tabStop insertion stop
    piece :: layoutPieces line tabStop rest (stop + glyphWidth piece)

/-- An insertion does not start in front of what ends at `stop`. -/
theorem le_startBehind (line : Text) (tabStop column stop : Int) :
    stop ≤ startBehind line tabStop column stop := by
  unfold startBehind
  split <;> omega

/-- Blanks are no tabs. -/
theorem not_mem_tab_blanks (count : Int) : '\t' ∉ blanks count := by
  intro member
  exact absurd (List.eq_of_mem_replicate member) (by decide)

private theorem not_mem_tab_layoutPiece (line : Text) (tabStop : Int) (insertion : Int × Text)
    (stop : Int) : '\t' ∉ layoutPiece line tabStop insertion stop := by
  rw [layoutPiece, List.mem_append, not_or]
  exact ⟨not_mem_tab_blanks _, not_mem_tab_expandTabs _ _ _⟩

private theorem flatten_layoutPieces (line : Text) (insertions : Insertions) (stop : Int) :
    (layoutPieces line tabStop insertions stop).flatten =
      layoutFrom line tabStop insertions (some stop) := by
  induction insertions generalizing stop with
  | nil => rfl
  | cons insertion rest ih =>
    obtain ⟨column, text⟩ := insertion
    have start : startBehind line tabStop column stop =
        if targetColumn line tabStop column < stop then stop + 1
        else targetColumn line tabStop column := by
      unfold startBehind
      split <;> split <;> omega
    have ends : endColumn (expandTabs tabStop text (startBehind line tabStop column stop)) tabStop
        (startBehind line tabStop column stop) =
          stop + glyphWidth (layoutPiece line tabStop (column, text) stop) := by
      have further := le_startBehind line tabStop column stop
      rw [endColumn_of_not_mem_tab (not_mem_tab_expandTabs _ _ _), layoutPiece,
        glyphWidth_append, glyphWidth_blanks]
      dsimp only
      omega
    rw [layoutPieces, List.flatten_cons, ih, ← ends]
    simp only [layoutPiece, layoutFrom, Option.getD_some, ← start]

private theorem layoutInsertions_eq_flatten (h : 1 ≤ tabStop) (line : Text)
    (insertions : Insertions) :
    layoutInsertions line insertions tabStop =
      (layoutPieces line tabStop insertions 0).flatten := by
  rw [flatten_layoutPieces, layoutInsertions]
  cases insertions with
  | nil => rfl
  | cons insertion rest =>
    have inside : ¬targetColumn line tabStop insertion.1 < 0 :=
      Int.not_lt.mpr (targetColumn_nonneg h line insertion.1)
    simp only [layoutFrom, if_neg inside, Option.getD_none, Option.getD_some]

/-- Each piece is laid out behind those in front of it. -/
theorem getElem?_layoutPieces (line : Text) (tabStop : Int) (insertions : Insertions) (stop : Int)
    (index : Nat) :
    (layoutPieces line tabStop insertions stop)[index]? =
      insertions[index]?.map fun insertion ↦ layoutPiece line tabStop insertion
        (stop + glyphWidth ((layoutPieces line tabStop insertions stop).take index).flatten) := by
  induction insertions generalizing stop index with
  | nil => rfl
  | cons insertion rest ih =>
    rw [layoutPieces]
    cases index with
    | zero => simp [glyphWidth]
    | succ index =>
      rw [List.getElem?_cons_succ, List.getElem?_cons_succ, ih, List.take_succ_cons,
        List.flatten_cons, glyphWidth_append, Int.natCast_add, Int.add_assoc]

private theorem not_mem_tab_of_mem_layoutPieces {line piece : Text} {stop : Int}
    (h : piece ∈ layoutPieces line tabStop insertions stop) : '\t' ∉ piece := by
  obtain ⟨index, there⟩ := List.mem_iff_getElem?.mp h
  rw [getElem?_layoutPieces] at there
  obtain ⟨insertion, -, rfl⟩ := Option.map_eq_some_iff.mp there
  exact not_mem_tab_layoutPiece _ _ _ _

private theorem length_layoutPieces (line : Text) (tabStop : Int) (insertions : Insertions)
    (stop : Int) :
    (layoutPieces line tabStop insertions stop).length = insertions.length := by
  induction insertions generalizing stop with
  | nil => rfl
  | cons insertion rest ih => rw [layoutPieces, List.length_cons, ih, List.length_cons]

/-- The insertion line shows every insertion in place. The table of the insertions is sorted and
holds, for each column that a hint inserts at, what the hints insert there in their order, so that
hints of different columns may change places. The line is one piece for each text of the table:
blanks and then the text, which starts at its display column unless what is in front of it ends
behind that column, and then with one column between them. -/
theorem insertions_in_order_and_place (h : 1 ≤ tabStop) (line : Text)
    (collected : collectInsertions? map file number hints = some insertions) :
    insertions.Sorted ∧
    (∀ column text, (column, text) ∈ insertions ↔ insertionsAt map hints column ≠ [] ∧
      text = (insertionsAt map hints column).flatMap (·.text)) ∧
    (∀ others, (∀ column, insertionsAt map others column = insertionsAt map hints column) →
      collectInsertions? map file number others = some insertions) ∧
    ∃ pieces : List Text, layoutInsertions line insertions tabStop = pieces.flatten ∧
      pieces.length = insertions.length ∧
      ∀ (index : Nat) (column : Int) (text : Text), insertions[index]? = some (column, text) →
        let front := (pieces.take index).flatten
        ∃ (wanted start : Int) (gap : Nat), IsDisplayColumn line tabStop (column - 1).toNat wanted ∧
          start = (if displayWidth front ≤ wanted then wanted else displayWidth front + 1) ∧
          displayWidth (front ++ List.replicate gap ' ') = start ∧
          pieces[index]? = some (List.replicate gap ' ' ++ expandTabs tabStop text start) := by
  obtain ⟨sorted, texts⟩ := lookup_of_collectInsertions? collected
  refine ⟨sorted, fun column text ↦ ?table, fun others ↦ collectInsertions?_congr collected,
    layoutPieces line tabStop insertions 0, layoutInsertions_eq_flatten h line insertions,
    length_layoutPieces line tabStop insertions 0, fun index column text there ↦ ?piece⟩
  case table =>
    rw [← sorted.lookup_eq_some_iff, texts]
    by_cases none : insertionsAt map hints column = []
    · simp [none]
    · simp [none, eq_comm]
  case piece =>
    intro front
    have untabbed : '\t' ∉ front := by
      intro member
      obtain ⟨piece, among, inside⟩ := List.mem_flatten.mp member
      exact not_mem_tab_of_mem_layoutPieces (List.mem_of_mem_take among) inside
    have width : displayWidth front = glyphWidth front := displayWidth_of_not_mem_tab untabbed
    have further := le_startBehind line tabStop column (glyphWidth front)
    refine ⟨targetColumn line tabStop column, startBehind line tabStop column (glyphWidth front),
      (startBehind line tabStop column (glyphWidth front) - glyphWidth front).toNat,
      isDisplayColumn_targetColumn line tabStop column, ?_, ?_, ?_⟩
    · rw [width, startBehind]
    · change displayWidth (front ++ blanks _) = _
      rw [displayWidth_append untabbed (not_mem_tab_blanks _), width,
        displayWidth_of_not_mem_tab (not_mem_tab_blanks _), glyphWidth_blanks]
      omega
    · rw [getElem?_layoutPieces, there, Int.zero_add]
      rfl

/-- A text with a tab, two texts at the column of a wide glyph that have to give way to it, and the
first of them given behind all others. -/
theorem insertions_around_wide_glyph :
    let line : Text := "x\t界y".toList
    let map : SourceMap := ⟨[{ name := "a.c".toList, text := line ++ ['\n'] }], []⟩
    let hint (offset : Int) (text : String) := FixItHint.insertAt (.inFile 1 offset) text.toList
    let hints := [hint 2 "b", hint 3 "c", hint 2 "a", hint 1 "\tq"]
    let insertions : Insertions := [(2, "\tq".toList), (3, "ba".toList), (4, "c".toList)]
    ((1 : Int) ≤ 4 ∧ collectInsertions? map 1 1 hints = some insertions) ∧
    collectInsertions? map 1 1 [hint 1 "\tq", hint 2 "b", hint 2 "a", hint 3 "c"] =
      some insertions ∧
    layoutInsertions line insertions 4 = "    q ba c".toList := by
  intro line map hint hints insertions
  have collected : collectInsertions? map 1 1 hints = some insertions := by decide +kernel
  obtain ⟨-, -, moved, -⟩ :=
    insertions_in_order_and_place (show (1 : Int) ≤ 4 by decide) line collected
  refine ⟨⟨by decide, collected⟩, moved _ fun column ↦ ?_, by decide +kernel⟩
  have second : hintColumn map (hint 1 "\tq") = 2 := rfl
  have third (text : String) : hintColumn map (hint 2 text) = 3 := rfl
  have fourth : hintColumn map (hint 3 "c") = 4 := rfl
  have inserts : (hint 1 "\tq").isInsertion ∧ (hint 2 "b").isInsertion ∧
      (hint 2 "a").isInsertion ∧ (hint 3 "c").isInsertion := by decide
  simp only [insertionsAt, hints, List.filter_cons, List.filter_nil, inserts, second, third, fourth,
    Bool.true_and, beq_iff_eq]
  by_cases here : column = 2 ∨ column = 3 ∨ column = 4
  · rcases here with rfl | rfl | rfl
    all_goals simp
  · simp only [not_or] at here
    simp [Ne.symm here.1, Ne.symm here.2.1, Ne.symm here.2.2]

end Caret.Snippet
