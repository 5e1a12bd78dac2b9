import Caret.Text.Cells
import Caret.Text.Columns
import Mathlib.Data.List.Chain
import Mathlib.Data.List.Induction

/-!
# Rows of cells

The cells of a text hold the text in its order, one cell for each display column, and a row can
be cut in front of every glyph. A combining mark at the start of a text or directly behind a wide
glyph is put into a cell that is not its own; the laws on columns are about texts without one.
-/

namespace Caret.Text

/-- No combining mark stands at the start of the text or directly behind a wide glyph. -/
structure MarksAttached (text : Text) : Prop where
  start : ∀ c ∈ text.head?, charWidth c ≠ 0
  behindWide : text.IsChain fun a b ↦ charWidth a = 2 → charWidth b ≠ 0

instance (text : Text) : Decidable (MarksAttached text) :=
  -- Other instances would go through all code points.
  have : Decidable (∀ c ∈ text.head?, charWidth c ≠ 0) := Option.decidableForallMem text.head?
  decidable_of_iff ((∀ c ∈ text.head?, charWidth c ≠ 0) ∧
      text.IsChain fun a b ↦ charWidth a = 2 → charWidth b ≠ 0)
    ⟨fun h ↦ ⟨h.1, h.2⟩, fun h ↦ ⟨h.start, h.behindWide⟩⟩

/-- The number of display columns of a text without tabs. -/
def glyphWidth : Text → Nat
  | [] => 0
  | c :: rest => charWidth c + glyphWidth rest

/-- The columns of two texts add up. -/
theorem glyphWidth_append (s t : Text) : glyphWidth (s ++ t) = glyphWidth s + glyphWidth t := by
  induction s with
  | nil => exact (Nat.zero_add _).symm
  | cons c rest ih => rw [List.cons_append, glyphWidth, ih, glyphWidth, Nat.add_assoc]

/-- Without tabs, the column behind a text is as far as its glyphs are wide. -/
theorem endColumn_of_not_mem_tab {text : Text} (h : '\t' ∉ text) (tabStop column : Int) :
    endColumn text tabStop column = column + glyphWidth text := by
  induction text generalizing column with
  | nil => simp [endColumn, glyphWidth]
  | cons c rest ih =>
    have hc : c ≠ '\t' := fun e ↦ h (e ▸ List.mem_cons_self)
    have hr := ih (fun m ↦ h (List.mem_cons_of_mem c m)) (column + charWidth c)
    simp only [endColumn, glyphWidth, List.foldl_cons, advance, if_neg hc] at hr ⊢
    rw [hr]
    omega

/-- Without tabs, a text is as wide as its glyphs. -/
theorem displayWidth_of_not_mem_tab {text : Text} (h : '\t' ∉ text) :
    displayWidth text = glyphWidth text := by
  rw [displayWidth, columnWidth, endColumn_of_not_mem_tab h]
  omega

/-- Without tabs, the widths of two texts add up. -/
theorem displayWidth_append {s t : Text} (hs : '\t' ∉ s) (ht : '\t' ∉ t) :
    displayWidth (s ++ t) = displayWidth s + displayWidth t := by
  have hst : '\t' ∉ s ++ t := by
    rw [List.mem_append, not_or]
    exact ⟨hs, ht⟩
  rw [displayWidth_of_not_mem_tab hst, displayWidth_of_not_mem_tab hs,
    displayWidth_of_not_mem_tab ht, glyphWidth_append]
  omega

/-- Combining marks and wide glyphs have greater numbers than the letters of Latin scripts. -/
theorem charWidth_of_lt {c : Char} (h : c.toNat < 0x300) : charWidth c = 1 := by
  have hmarks : ∀ range ∈ combiningRanges, 0x300 ≤ range.1 := by decide +kernel
  have hwide : ∀ range ∈ wideRanges, 0x300 ≤ range.1 := by decide +kernel
  have outside {table : List (Nat × Nat)} (ht : ∀ range ∈ table, 0x300 ≤ range.1) :
      ¬ inRanges table c = true := by
    rw [inRanges_eq_true_iff]
    rintro ⟨range, hr, hle, -⟩
    have := ht range hr
    omega
  rw [charWidth, if_neg (outside hmarks), if_neg (outside hwide)]

/-- A text of such letters has a column for each. -/
theorem displayWidth_eq_length {text : Text} (h : ∀ c ∈ text, c ≠ '\t' ∧ c.toNat < 0x300) :
    displayWidth text = text.length := by
  have hg : glyphWidth text = text.length := by
    induction text with
    | nil => rfl
    | cons c rest ih =>
      have hr := ih fun other hm ↦ h other (List.mem_cons_of_mem _ hm)
      rw [glyphWidth, charWidth_of_lt (h c List.mem_cons_self).2, hr, List.length_cons,
        Nat.add_comm]
  rw [displayWidth_of_not_mem_tab (fun ht ↦ (h _ ht).1 rfl), hg]

/-- A text of plain code points, as a check of all of them. -/
theorem plain_of_all {text : Text}
    (h : text.all (fun c ↦ c != '\t' && decide (c.toNat < 0x300)) = true) :
    ∀ c ∈ text, c ≠ '\t' ∧ c.toNat < 0x300 := by
  intro c member
  have plain := List.all_eq_true.mp h c member
  rw [Bool.and_eq_true, bne_iff_ne, decide_eq_true_iff] at plain
  exact plain

namespace MarksAttached

/-- The text behind a cut keeps its marks if it starts with a glyph. -/
theorem right {s t : Text} (h : MarksAttached (s ++ t)) (ht : ∀ c ∈ t.head?, charWidth c ≠ 0) :
    MarksAttached t where
  start := ht
  behindWide := h.behindWide.right_of_append

/-- A text in front of another keeps its marks. -/
theorem left {s t : Text} (h : MarksAttached (s ++ t)) : MarksAttached s where
  start := by
    intro c hc
    apply h.start
    rw [List.head?_append]
    cases s with
    | nil => cases hc
    | cons a rest => exact hc
  behindWide := h.behindWide.left_of_append

/-- The letters of Latin scripts are no marks. -/
theorem of_plain {text : Text} (h : ∀ c ∈ text, c.toNat < 0x300) : MarksAttached text where
  start := by
    intro c hc
    rw [charWidth_of_lt (h c (List.mem_of_mem_head? hc))]
    decide
  behindWide := by
    apply List.Pairwise.isChain
    apply List.pairwise_of_forall_mem_list
    intro a ha b _ wide
    rw [charWidth_of_lt (h a ha)] at wide
    cases wide

/-- A mark behind a text joins a glyph of one cell. -/
theorem charWidth_getLast_ne {s : Text} {mark : Char} (h : MarksAttached (s ++ [mark]))
    (hm : charWidth mark = 0) : ∃ c ∈ s.getLast?, charWidth c ≠ 2 := by
  cases hs : s.getLast? with
  | none =>
    rw [List.getLast?_eq_none_iff.mp hs] at h
    exact absurd hm (h.start mark rfl)
  | some c =>
    refine ⟨c, rfl, ?_⟩
    intro wide
    exact (List.isChain_append.mp h.behindWide).2.2 c hs mark rfl wide hm

end MarksAttached

/-! ## Rows -/

/-- Cells in front of a row that is not empty do not matter to what is put behind it. -/
private theorem pushCell_append (front : List Text) {row : List Text} (h : row ≠ []) (c : Char) :
    pushCell (front ++ row) c = front ++ pushCell row c := by
  have hl : (front ++ row).getLast? = row.getLast? := List.getLast?_append_of_ne_nil front h
  have hd : (front ++ row).dropLast = front ++ row.dropLast := List.dropLast_append_of_ne_nil h
  have hr : row.getLast? = some (row.getLast h) := List.getLast?_eq_some_getLast h
  unfold pushCell
  rw [hl, hd, hr]
  split
  · rw [List.append_assoc]
  · next hn => cases hn
  · rw [List.append_assoc]

private theorem pushCell_ne_nil (row : List Text) (c : Char) : pushCell row c ≠ [] := by
  unfold pushCell
  split <;> simp

private theorem foldl_pushCell_append (front : List Text) {row : List Text} (h : row ≠ [])
    (text : Text) : text.foldl pushCell (front ++ row) = front ++ text.foldl pushCell row := by
  induction text generalizing row with
  | nil => rfl
  | cons c rest ih =>
    rw [List.foldl_cons, pushCell_append front h, ih (pushCell_ne_nil row c), List.foldl_cons]

/-- A glyph starts a cell of its own. -/
theorem pushCell_of_ne_zero (row : List Text) {c : Char} (h : charWidth c ≠ 0) :
    pushCell row c = row ++ [c] :: List.replicate (charWidth c - 1) [] := by
  unfold pushCell
  split
  · next hz _ => exact absurd hz h
  · next hz _ => exact absurd hz h
  · next width hw => rw [hw, Nat.succ_eq_add_one, Nat.add_sub_cancel]

/-- The cells of a text can be cut in front of every glyph. -/
theorem cells_append (s : Text) {t : Text} (h : ∀ c ∈ t.head?, charWidth c ≠ 0) :
    cells (s ++ t) = cells s ++ cells t := by
  cases t with
  | nil => simp [cells]
  | cons c rest =>
    have hc : pushCell [] c ≠ [] := pushCell_ne_nil [] c
    have hs : pushCell (s.foldl pushCell []) c = s.foldl pushCell [] ++ pushCell [] c := by
      rw [pushCell_of_ne_zero _ (h c rfl), pushCell_of_ne_zero _ (h c rfl), List.nil_append]
    simp only [cells, List.foldl_append, List.foldl_cons]
    rw [hs, foldl_pushCell_append _ hc]

private theorem flatten_pushCell (row : List Text) (c : Char) :
    (pushCell row c).flatten = row.flatten ++ [c] := by
  unfold pushCell
  split
  · next last _ hl =>
    have hr : row.dropLast ++ [last] = row := List.dropLast_append_getLast? last hl
    rw [← hr]
    simp
  · next hl =>
    rw [List.getLast?_eq_none_iff.mp hl]
    rfl
  · simp

/-- The cells of a text put together are the text. -/
theorem flatten_cells (text : Text) : (cells text).flatten = text := by
  induction text using List.reverseRecOn with
  | nil => rfl
  | append_singleton text c ih =>
    have hc : cells (text ++ [c]) = pushCell (cells text) c := by simp [cells]
    rw [hc, flatten_pushCell, ih]

/-- Only the empty text has no cells. -/
theorem length_cells_eq_zero_iff {text : Text} : (cells text).length = 0 ↔ text = [] := by
  constructor
  · intro h
    rw [← flatten_cells text, List.length_eq_zero_iff.mp h, List.flatten_nil]
  · intro h
    rw [h]
    rfl

private theorem length_pushCell (row : List Text) {c : Char} (h : charWidth c = 0 → row ≠ []) :
    (pushCell row c).length = row.length + charWidth c := by
  by_cases hw : charWidth c = 0
  · have hp : 0 < row.length := List.length_pos_of_ne_nil (h hw)
    unfold pushCell
    rw [hw, List.getLast?_eq_some_getLast (h hw)]
    simp only [List.length_append, List.length_dropLast, List.length_singleton]
    omega
  · rw [pushCell_of_ne_zero row hw]
    simp only [List.length_append, List.length_cons, List.length_replicate]
    omega

private theorem cells_concat (text : Text) (c : Char) :
    cells (text ++ [c]) = pushCell (cells text) c := by
  rw [cells, List.foldl_concat, cells]

/-- A mark behind a text finds a cell that it joins. -/
private theorem cells_ne_nil_of_mark {text : Text} {mark : Char}
    (h : MarksAttached (text ++ [mark])) (hm : charWidth mark = 0) : cells text ≠ [] := by
  obtain ⟨a, ha, -⟩ := h.charWidth_getLast_ne hm
  intro hn
  rw [length_cells_eq_zero_iff.mp (List.length_eq_zero_iff.mpr hn)] at ha
  cases ha

/-- A row starts with a cell that is not empty. -/
theorem getElem?_cells_zero_ne (text : Text) : (cells text)[0]? ≠ some [] := by
  induction text using List.reverseRecOn with
  | nil => simp [cells]
  | append_singleton text c ih =>
    rw [cells_concat]
    unfold pushCell
    split
    · next last _ hl =>
      cases hd : (cells text).dropLast with
      | nil => simp
      | cons first others =>
        have hr := List.dropLast_append_getLast? last hl
        rw [hd] at hr
        rw [← hr] at ih
        simpa using ih
    · simp
    · cases hr : cells text with
      | nil => simp
      | cons first others =>
        rw [hr] at ih
        simpa using ih

/-- The number of cells that hold no glyph: marks in front of all glyphs take one. -/
def strayCells (text : Text) : Nat := if text.head?.any (charWidth · == 0) then 1 else 0

/-- No cell is left for marks exactly if a text does not start with one. -/
theorem strayCells_eq_zero_iff {text : Text} :
    strayCells text = 0 ↔ ∀ c ∈ text.head?, charWidth c ≠ 0 := by
  unfold strayCells
  cases text.head? with
  | none => simp
  | some c => simp

/-- A row has one cell for each display column, and one for marks in front of all glyphs. -/
theorem length_cells_eq (text : Text) :
    (cells text).length = glyphWidth text + strayCells text := by
  induction text using List.reverseRecOn with
  | nil => rfl
  | append_singleton text c ih =>
    rw [cells_concat, glyphWidth_append]
    cases text with
    | nil =>
      by_cases mark : charWidth c = 0
      · simp [cells, pushCell, strayCells, glyphWidth, mark]
      · rw [length_pushCell _ fun h ↦ absurd h mark]
        simp [cells, strayCells, glyphWidth, mark]
    | cons first rest =>
      have row : cells (first :: rest) ≠ [] := by
        intro empty
        cases length_cells_eq_zero_iff.mp (List.length_eq_zero_iff.mpr empty)
      have same : strayCells (first :: rest ++ [c]) = strayCells (first :: rest) := rfl
      rw [length_pushCell _ fun _ ↦ row, ih, same]
      simp only [glyphWidth]
      omega

/-- A text whose marks join glyphs of one cell has one cell for each display column. -/
theorem length_cells {text : Text} (h : MarksAttached text) :
    (cells text).length = glyphWidth text := by
  rw [length_cells_eq, strayCells_eq_zero_iff.mpr h.start, Nat.add_zero]

/-- Without tabs, such a text is as wide as its row. -/
theorem displayWidth_eq_length_cells {text : Text} (ht : '\t' ∉ text) (h : MarksAttached text) :
    displayWidth text = (cells text).length := by
  rw [displayWidth_of_not_mem_tab ht, length_cells h]

/-- Each letter of a Latin script takes a cell. -/
theorem cells_of_plain {text : Text} (h : ∀ c ∈ text, c.toNat < 0x300) :
    cells text = text.map fun c ↦ [c] := by
  induction text using List.reverseRecOn with
  | nil => rfl
  | append_singleton text c ih =>
    have hc : charWidth c = 1 := charWidth_of_lt (h c (by simp))
    have hr := ih fun other hm ↦ h other (List.mem_append_left _ hm)
    rw [cells_concat, pushCell_of_ne_zero _ (by omega), hc, hr, List.map_append]
    rfl

/-- Letters of Latin scripts in front of a text move its cells. -/
theorem getElem?_cells_plain_append {front text : Text}
    (hf : ∀ c ∈ front, c ≠ '\t' ∧ c.toNat < 0x300) (h : ∀ c ∈ text.head?, charWidth c ≠ 0)
    (offset : Nat) :
    (cells (front ++ text))[front.length + offset]? = (cells text)[offset]? := by
  have hl : (cells front).length = front.length := by
    rw [cells_of_plain fun c hc ↦ (hf c hc).2, List.length_map]
  rw [cells_append front h, List.getElem?_append_right (by omega), hl, Nat.add_sub_cancel_left]

/-! ## Cutting a row -/

/-- The last cell of a row is empty only behind a wide glyph. -/
private theorem getLast?_pushCell_ne (row : List Text) {c : Char} (h : charWidth c ≠ 2) :
    (pushCell row c).getLast? ≠ some [] := by
  have hle := charWidth_le c
  by_cases hz : charWidth c = 0
  · unfold pushCell
    rw [hz]
    cases row.getLast? with
    | none => simp
    | some last => simp
  · have hone : charWidth c = 1 := by omega
    rw [pushCell_of_ne_zero row hz, hone]
    simp

private theorem getLast?_cells_ne {text : Text} {mark : Char}
    (h : MarksAttached (text ++ [mark])) (hm : charWidth mark = 0) :
    (cells text).getLast? ≠ some [] := by
  obtain ⟨a, ha, hna⟩ := h.charWidth_getLast_ne hm
  rw [← List.dropLast_append_getLast? a ha, cells_concat]
  exact getLast?_pushCell_ne _ hna

/-- What is put behind a row leaves the second cells of wide glyphs empty. -/
private theorem getElem?_pushCell_of_nil {row : List Text} {c : Char} {index : Nat}
    (hlast : charWidth c = 0 → row.getLast? ≠ some []) (h : row[index]? = some []) :
    (pushCell row c)[index]? = some [] := by
  have hi : index < row.length := (List.getElem?_eq_some_iff.mp h).1
  by_cases hw : charWidth c = 0
  · have hn : row ≠ [] := List.ne_nil_of_length_pos (by omega)
    have hne : index ≠ row.length - 1 := by
      intro e
      apply hlast hw
      rw [List.getLast?_eq_getElem?, ← e, h]
    unfold pushCell
    rw [hw, List.getLast?_eq_some_getLast hn]
    simp only
    rw [List.getElem?_append_left (by rw [List.length_dropLast]; omega),
      List.getElem?_dropLast, if_pos (by omega), h]
  · rw [pushCell_of_ne_zero row hw, List.getElem?_append_left hi, h]

/-- Each cell that is not the second one of a wide glyph starts a part of the text. -/
private theorem exists_append_of_cell {text : Text} (h : MarksAttached text) {start : Nat}
    (hle : start ≤ (cells text).length) (hcell : (cells text)[start]? ≠ some []) :
    ∃ front behind, text = front ++ behind ∧ (cells front).length = start ∧
      ∀ c ∈ behind.head?, charWidth c ≠ 0 := by
  -- The text grows glyph by glyph; a cut in front of its last glyph is found in the text before.
  induction text using List.reverseRecOn with
  | nil =>
    have hz : start = 0 := Nat.le_zero.mp hle
    exact ⟨[], [], rfl, hz.symm, by simp⟩
  | append_singleton text c ih =>
    by_cases hend : start = (cells (text ++ [c])).length
    · exact ⟨text ++ [c], [], by simp, hend.symm, by simp⟩
    rw [cells_concat] at hcell hle hend
    have hlen := length_pushCell (cells text) (cells_ne_nil_of_mark h)
    by_cases hlt : start < (cells text).length
    · have hin : (cells text)[start]? ≠ some [] := by
        intro e
        exact hcell (getElem?_pushCell_of_nil (getLast?_cells_ne h) e)
      obtain ⟨front, behind, rfl, hf, hb⟩ := ih h.left (Nat.le_of_lt hlt) hin
      refine ⟨front, behind ++ [c], by simp, hf, ?_⟩
      cases behind with
      | nil =>
        rw [List.append_nil] at hlt
        omega
      | cons a rest => simpa using hb
    · have hw : charWidth c ≠ 0 := by omega
      refine ⟨text, [c], rfl, ?_, by simpa using hw⟩
      -- The only other cell of the last glyph is the second one of a wide glyph.
      by_cases hs : start = (cells text).length
      · exact hs.symm
      · have hle2 := charWidth_le c
        have htwo : charWidth c = 2 := by omega
        have hs1 : start = (cells text).length + 1 := by omega
        rw [pushCell_of_ne_zero _ hw, htwo, hs1] at hcell
        simp at hcell

/-- A row can be cut into the rows of two texts at each cell that is not the second one of a
wide glyph. -/
theorem exists_append_cells {text : Text} (h : MarksAttached text) {start : Nat}
    (hle : start ≤ (cells text).length) (hcell : (cells text)[start]? ≠ some []) :
    ∃ front behind, text = front ++ behind ∧ (cells front).length = start ∧
      MarksAttached behind ∧ cells text = cells front ++ cells behind := by
  obtain ⟨front, behind, rfl, hf, hb⟩ := exists_append_of_cell h hle hcell
  exact ⟨front, behind, rfl, hf, h.right hb, cells_append front hb⟩

/-! ## Wide glyphs -/

/-- An empty cell behind the first one was there before, or is the second cell of what was put
behind the row. -/
private theorem getElem?_pushCell_nil {row : List Text} {c : Char} {index : Nat}
    (h : (pushCell row c)[index + 1]? = some []) :
    row[index + 1]? = some [] ∧ (pushCell row c)[index]? = row[index]? ∨
      charWidth c = 2 ∧ (pushCell row c)[index]? = some [c] := by
  by_cases hw : charWidth c = 0
  · by_cases hn : row = []
    · simp [pushCell, hw, hn] at h
    -- A mark changes the last cell only, and leaves it not empty.
    rw [pushCell, hw, List.getLast?_eq_some_getLast hn] at h ⊢
    simp only at h ⊢
    by_cases hlt : index + 1 < row.dropLast.length
    · have hin : index + 1 < row.length - 1 := by rwa [List.length_dropLast] at hlt
      rw [List.getElem?_append_left hlt, List.getElem?_dropLast, if_pos hin] at h
      rw [List.getElem?_append_left (by omega), List.getElem?_dropLast, if_pos (by omega)]
      exact .inl ⟨h, rfl⟩
    · rw [List.getElem?_append_right (by omega)] at h
      have hlast := List.mem_of_getElem? h
      simp at hlast
  · rw [pushCell_of_ne_zero _ hw] at h ⊢
    by_cases hlt : index + 1 < row.length
    · rw [List.getElem?_append_left hlt] at h
      rw [List.getElem?_append_left (by omega)]
      exact .inl ⟨h, rfl⟩
    · rw [List.getElem?_append_right (by omega)] at h
      obtain ⟨second, hs⟩ : ∃ second, index + 1 - row.length = second + 1 := by
        apply Nat.exists_eq_add_one_of_ne_zero
        intro hz
        rw [hz] at h
        cases h
      rw [hs, List.getElem?_cons_succ, List.getElem?_replicate] at h
      have hle := charWidth_le c
      have hwide : charWidth c = 2 ∧ index = row.length := by
        split at h
        · omega
        · cases h
      rw [hwide.2, List.getElem?_append_right (Nat.le_refl _), Nat.sub_self]
      exact .inr ⟨hwide.1, rfl⟩

/-- In front of the second cell of a wide glyph stands the cell that shows it. -/
theorem exists_cell_before_nil {text : Text} {index : Nat}
    (h : (cells text)[index + 1]? = some []) :
    ∃ cell, (cells text)[index]? = some cell ∧ isBlankCell cell = false := by
  induction text using List.reverseRecOn with
  | nil => cases h
  | append_singleton text c ih =>
    rw [cells_concat] at h ⊢
    rcases getElem?_pushCell_nil h with ⟨hr, hsame⟩ | ⟨hwide, hcell⟩
    · rw [hsame]
      exact ih hr
    · have hc : c ≠ ' ' := by
        rintro rfl
        rw [charWidth_of_lt (by decide)] at hwide
        cases hwide
      exact ⟨[c], hcell, by simp [isBlankCell, hc]⟩

/-- The cells from the start of a row on hold a first part of the text; if they end inside of a
wide glyph, this part has the second cell of the glyph as well. -/
theorem exists_flatten_take_cells {text : Text} (h : MarksAttached text) (count : Nat) :
    ∃ shown hidden, text = shown ++ hidden ∧ ((cells text).take count).flatten = shown ∧
      cells shown =
        (cells text).take (if (cells text)[count]? = some [] then count + 1 else count) := by
  -- A cut in front of a glyph.
  have cut {stop : Nat} (hcell : (cells text)[stop]? ≠ some []) :
      ∃ shown hidden, text = shown ++ hidden ∧ ((cells text).take stop).flatten = shown ∧
        cells shown = (cells text).take stop := by
    by_cases hle : stop ≤ (cells text).length
    · obtain ⟨shown, hidden, hs, hl, -, hc⟩ := exists_append_cells h hle hcell
      have htake : (cells text).take stop = cells shown := by rw [hc, ← hl, List.take_left]
      exact ⟨shown, hidden, hs, by rw [htake, flatten_cells], htake.symm⟩
    · have htake : (cells text).take stop = cells text := List.take_of_length_le (by omega)
      exact ⟨text, [], by simp, by rw [htake, flatten_cells], htake.symm⟩
  split
  · next hnil =>
    have hnext : (cells text)[count + 1]? ≠ some [] := by
      intro e
      obtain ⟨cell, hcell, hb⟩ := exists_cell_before_nil e
      rw [hnil] at hcell
      cases hcell
      cases hb
    obtain ⟨shown, hidden, hs, hf, hc⟩ := cut hnext
    refine ⟨shown, hidden, hs, ?_, hc⟩
    rw [← hf, List.take_add_one, hnil]
    simp
  · next hcell => exact cut hcell

end Caret.Text
