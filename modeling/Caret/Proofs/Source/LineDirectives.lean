import Caret.Proofs.Source.Registration
import Mathlib.Data.List.Basic

/-!
# The position of a line under line directives

Line directives may be added to a file in any order. Of those in front of a line the one on the
greatest line numbers it, and of several on that line the one added last; likewise the latest of
those that give a file name names it. So neither the order in which directives of different lines
were added nor a directive at or behind the line has any influence.
-/

namespace Caret

variable {added others present : List LineDirective} {line : Int} {directive : LineDirective}

/-- Of the directives in front of a line, in the order in which they were added, the one on the
greatest line; of several on that line the last one. -/
structure IsLatest (added : List LineDirective) (line : Int) (directive : LineDirective) :
    Prop where
  inFront : directive.line < line
  greatest : ∀ other ∈ added, other.line < line → other.line ≤ directive.line
  last : (added.filter (·.line = directive.line)).getLast? = some directive

instance : Decidable (IsLatest added line directive) :=
  decidable_of_iff
    (directive.line < line ∧ (∀ other ∈ added, other.line < line → other.line ≤ directive.line) ∧
      (added.filter (·.line = directive.line)).getLast? = some directive)
    ⟨fun h ↦ ⟨h.1, h.2.1, h.2.2⟩, fun h ↦ ⟨h.inFront, h.greatest, h.last⟩⟩

/-- The file name and number under which a line of a file is presented, when some directives were
added to the file in the order given. -/
structure IsPresented (name : Text) (added : List LineDirective) (line : Int)
    (shown : Text × Int) : Prop where
  /-- Without a directive in front of it a line is presented as it is. -/
  plain : (∀ directive ∈ added, ¬directive.line < line) → shown = (name, line)
  /-- The latest directive gives the number of the line behind it, from which lines count on. -/
  renumbered : (∃ directive ∈ added, directive.line < line) →
    ∃ directive, IsLatest added line directive ∧
      shown.2 = directive.presented + (line - directive.line - 1)
  /-- The latest directive with a file name gives the name. -/
  renamed : (∃ directive ∈ added, directive.line < line ∧ directive.filename.isSome) →
    ∃ directive, IsLatest (added.filter (·.filename.isSome)) line directive ∧
      directive.filename = some shown.1
  /-- Where no directive in front gives a name, the file keeps its own. -/
  unnamed : (∀ directive ∈ added, directive.line < line → directive.filename = none) →
    shown.1 = name

/-- Each line in front of a line has the same directives in both lists, in the same order. -/
def SameInFront (line : Int) (added others : List LineDirective) : Prop :=
  ∀ number < line, added.filter (·.line = number) = others.filter (·.line = number)

/-! ## Directives in front of a line -/

namespace SameInFront

/-- Lists with the same directives in front of a line may change places. -/
theorem symm (same : SameInFront line added others) : SameInFront line others added :=
  fun number before ↦ (same number before).symm

/-- A directive in front of the line is in both lists. -/
theorem mem (same : SameInFront line added others) (before : directive.line < line)
    (member : directive ∈ added) : directive ∈ others := by
  have kept : directive ∈ added.filter (·.line = directive.line) :=
    List.mem_filter.mpr ⟨member, decide_eq_true rfl⟩
  rw [same _ before] at kept
  exact (List.mem_filter.mp kept).1

/-- What is left out of both lists leaves the same directives in front of the line. -/
theorem filter (same : SameInFront line added others) (keep : LineDirective → Bool) :
    SameInFront line (added.filter keep) (others.filter keep) := by
  intro number before
  rw [List.filter_comm, same number before, List.filter_comm]

end SameInFront

/-! ## The latest directive -/

namespace IsLatest

/-- The latest directive was added. -/
theorem mem (h : IsLatest added line directive) : directive ∈ added :=
  (List.mem_filter.mp (List.mem_of_getLast? h.last)).1

/-- There is one latest directive only. -/
theorem unique {other : LineDirective} (h : IsLatest added line directive)
    (h' : IsLatest added line other) : directive = other := by
  have same : directive.line = other.line :=
    Int.le_antisymm (h'.greatest _ h.mem h.inFront) (h.greatest _ h'.mem h'.inFront)
  have last := h.last
  rw [same, h'.last] at last
  exact (Option.some.inj last).symm

/-- The latest directive depends on the directives of each line in front only. -/
theorem congr (same : SameInFront line added others) (h : IsLatest added line directive) :
    IsLatest others line directive := by
  refine ⟨h.inFront, fun other member before ↦ ?_, same _ h.inFront ▸ h.last⟩
  exact h.greatest other (same.symm.mem before member) before

end IsLatest

namespace LineDirective

/-- Directives in the order of their lines. -/
def Ascending (directives : List LineDirective) : Prop :=
  directives.Pairwise fun first second ↦ first.line ≤ second.line

/-- The directives in front of a line are those that an ascending list starts with. -/
theorem takeWhile_eq_filter (ascending : Ascending present) (line : Int) :
    present.takeWhile (·.line < line) = present.filter (·.line < line) := by
  induction present with
  | nil => rfl
  | cons first rest ih =>
    obtain ⟨ahead, ascending⟩ := List.pairwise_cons.mp ascending
    by_cases before : first.line < line
    · rw [List.takeWhile_cons_of_pos (by simpa using before),
        List.filter_cons_of_pos (by simpa using before), ih ascending]
    · rw [List.takeWhile_cons_of_neg (by simpa using before), eq_comm, List.filter_eq_nil_iff]
      intro other member
      rcases List.mem_cons.mp member with rfl | later
      · simpa using before
      · have := ahead other later
        simp only [decide_eq_true_eq]
        omega

private theorem isLatest_of_getLast? (ascending : Ascending present)
    (last : (present.filter (·.line < line)).getLast? = some directive) :
    IsLatest present line directive := by
  obtain ⟨front, split⟩ := List.getLast?_eq_some_iff.mp last
  have member : directive ∈ present.filter (·.line < line) := List.mem_of_getLast? last
  have inFront : directive.line < line := by simpa using (List.mem_filter.mp member).2
  refine ⟨inFront, ?greatest, ?last⟩
  case greatest =>
    intro other known before
    have kept : other ∈ present.filter (·.line < line) :=
      List.mem_filter.mpr ⟨known, decide_eq_true before⟩
    have pairs := ascending.filter (·.line < line)
    rw [split] at kept pairs
    rcases List.mem_append.mp kept with early | here
    · exact (List.pairwise_append.mp pairs).2.2 other early directive List.mem_cons_self
    · exact Int.le_of_eq (congrArg LineDirective.line (List.mem_singleton.mp here))
  case last =>
    have among : present.filter (·.line = directive.line) =
        (present.filter (·.line < line)).filter (·.line = directive.line) := by
      rw [List.filter_filter]
      refine List.filter_congr fun other _ ↦ ?_
      by_cases same : other.line = directive.line
      · simp [same, inFront]
      · simp [same]
    rw [among, split, List.filter_append, List.getLast?_append]
    simp

/-- In an ascending list with a directive in front of a line there is a latest one, the last of
those in front. -/
theorem exists_latest (ascending : Ascending present)
    (some_before : ∃ directive ∈ present, directive.line < line) :
    ∃ directive, (present.filter (·.line < line)).getLast? = some directive ∧
      IsLatest present line directive := by
  obtain ⟨directive, member, before⟩ := some_before
  cases last : (present.filter (·.line < line)).getLast? with
  | none =>
    have kept : directive ∈ present.filter (·.line < line) :=
      List.mem_filter.mpr ⟨member, decide_eq_true before⟩
    rw [List.getLast?_eq_none_iff.mp last] at kept
    cases kept
  | some latest => exact ⟨latest, rfl, isLatest_of_getLast? ascending last⟩

/-! ## Adding directives -/

/-- The directives of a file after some were added one after the other. -/
def insertAll (present added : List LineDirective) : List LineDirective :=
  added.foldl (fun present directive ↦ directive.insert present) present

private theorem mem_insert {other : LineDirective} :
    other ∈ directive.insert present ↔ other = directive ∨ other ∈ present := by
  induction present with
  | nil => simp [insert]
  | cons first rest ih =>
    unfold insert
    split
    · exact List.mem_cons
    · rw [List.mem_cons, ih, List.mem_cons, or_left_comm]

/-- A directive is added in the order of the lines. -/
theorem Ascending.insert (ascending : Ascending present) (directive : LineDirective) :
    Ascending (directive.insert present) := by
  induction present with
  | nil => exact List.pairwise_singleton _ _
  | cons first rest ih =>
    obtain ⟨ahead, behind⟩ := List.pairwise_cons.mp ascending
    unfold LineDirective.insert
    split
    · next before =>
      refine List.pairwise_cons.mpr ⟨fun other member ↦ ?_, ascending⟩
      rcases List.mem_cons.mp member with rfl | later
      · exact Int.le_of_lt before
      · exact Int.le_trans (Int.le_of_lt before) (ahead other later)
    · next after =>
      refine List.pairwise_cons.mpr ⟨fun other member ↦ ?_, ih behind⟩
      rcases mem_insert.mp member with rfl | later
      · exact Int.not_lt.mp after
      · exact ahead other later

private theorem filter_insert (ascending : Ascending present) (directive : LineDirective)
    (number : Int) :
    (directive.insert present).filter (·.line = number) =
      (present ++ [directive]).filter (·.line = number) := by
  induction present with
  | nil => rfl
  | cons first rest ih =>
    obtain ⟨ahead, behind⟩ := List.pairwise_cons.mp ascending
    unfold insert
    split
    · next before =>
      by_cases here : directive.line = number
      · -- All directives of the list are on later lines.
        have none_here : (first :: rest).filter (·.line = number) = [] := by
          rw [List.filter_eq_nil_iff]
          intro other member
          rw [decide_eq_true_eq]
          rcases List.mem_cons.mp member with rfl | later
          · omega
          · have := ahead other later
            omega
        rw [List.filter_append, none_here, List.filter_cons_of_pos (by simpa using here), none_here]
        simp [here]
      · rw [List.filter_append, List.filter_cons_of_neg (by simpa using here)]
        simp [here]
    · rw [List.cons_append, List.filter_cons, List.filter_cons, ih behind]

private theorem insertAll_bounds (ascending : Ascending present) (added : List LineDirective) :
    Ascending (insertAll present added) ∧
      ∀ number, (insertAll present added).filter (·.line = number) =
        (present ++ added).filter (·.line = number) := by
  induction added generalizing present with
  | nil => exact ⟨ascending, fun number ↦ by rw [List.append_nil]; rfl⟩
  | cons directive rest ih =>
    obtain ⟨sorted, kept⟩ := ih (ascending.insert directive)
    refine ⟨sorted, fun number ↦ (kept number).trans ?_⟩
    rw [List.filter_append, filter_insert ascending, ← List.filter_append, List.append_assoc,
      List.singleton_append]

end LineDirective

/-! ## The position of a line -/

open LineDirective

/-- The last file name that some directives give is that of the last one with a file name. -/
theorem findSome?_filename_reverse (directives : List LineDirective) :
    directives.reverse.findSome? (·.filename) =
      ((directives.filter (·.filename.isSome)).getLast?).bind (·.filename) := by
  rw [← List.head?_reverse, ← List.filter_reverse]
  induction directives.reverse with
  | nil => rfl
  | cons directive rest ih =>
    cases named : directive.filename with
    | none => rw [List.findSome?_cons, named, List.filter_cons_of_neg (by simp [named]), ih]
    | some name => simp [named]

namespace IsPresented

variable {name : Text} {shown other : Text × Int}

/-- There is one position under which a line is presented. -/
theorem unique (h : IsPresented name added line shown) (h' : IsPresented name added line other) :
    shown = other := by
  by_cases before : ∃ directive ∈ added, directive.line < line
  case neg =>
    have behind : ∀ directive ∈ added, ¬directive.line < line :=
      fun directive member early ↦ before ⟨directive, member, early⟩
    rw [h.plain behind, h'.plain behind]
  case pos =>
    have number : shown.2 = other.2 := by
      obtain ⟨latest, is_latest, shown_number⟩ := h.renumbered before
      obtain ⟨found, is_found, other_number⟩ := h'.renumbered before
      rw [shown_number, other_number, is_latest.unique is_found]
    refine Prod.ext ?_ number
    by_cases named : ∃ directive ∈ added, directive.line < line ∧ directive.filename.isSome
    case pos =>
      obtain ⟨latest, is_latest, shown_name⟩ := h.renamed named
      obtain ⟨found, is_found, other_name⟩ := h'.renamed named
      rw [is_latest.unique is_found, other_name] at shown_name
      exact (Option.some.inj shown_name).symm
    case neg =>
      have unnamed : ∀ directive ∈ added, directive.line < line → directive.filename = none :=
        fun directive member early ↦ Option.not_isSome_iff_eq_none.mp fun has_name ↦
          named ⟨directive, member, early, has_name⟩
      rw [h.unnamed unnamed, h'.unnamed unnamed]

/-- The position of a line depends on the directives of each line in front only. -/
theorem congr (same : SameInFront line added others) (h : IsPresented name added line shown) :
    IsPresented name others line shown := by
  refine ⟨?plain, ?renumbered, ?renamed, ?unnamed⟩
  case plain =>
    exact fun behind ↦ h.plain fun directive member before ↦
      behind directive (same.mem before member) before
  case renumbered =>
    rintro ⟨directive, member, before⟩
    obtain ⟨latest, is_latest, number⟩ :=
      h.renumbered ⟨directive, same.symm.mem before member, before⟩
    exact ⟨latest, is_latest.congr same, number⟩
  case renamed =>
    rintro ⟨directive, member, before, has_name⟩
    obtain ⟨latest, is_latest, given⟩ :=
      h.renamed ⟨directive, same.symm.mem before member, before, has_name⟩
    exact ⟨latest, is_latest.congr (same.filter _), given⟩
  case unnamed =>
    exact fun unnamed ↦ h.unnamed fun directive member before ↦
      unnamed directive (same.mem before member) before

end IsPresented

section PresumedLine

variable (entry : SourceFile) (ascending : Ascending entry.directives) (line : Int)

include ascending

/-- A line is presented with the number under the last directive in front of it. -/
theorem snd_presumedLine :
    (SourceMap.presumedLine entry line).2 =
      ((entry.directives.filter (·.line < line)).getLast?.map fun directive ↦
        directive.presented + (line - directive.line - 1)).getD line := by
  rw [SourceMap.presumedLine, takeWhile_eq_filter ascending]
  cases (entry.directives.filter (·.line < line)).getLast? <;> rfl

/-- A line is presented under the name of the last directive in front of it that gives one. -/
theorem fst_presumedLine :
    (SourceMap.presumedLine entry line).1 =
      (((entry.directives.filter (·.filename.isSome)).filter (·.line < line)).getLast?.bind
        (·.filename)).getD entry.name := by
  rw [List.filter_comm, ← findSome?_filename_reverse, SourceMap.presumedLine,
    takeWhile_eq_filter ascending]
  cases last : (entry.directives.filter (·.line < line)).getLast? with
  | none => simp [List.getLast?_eq_none_iff.mp last]
  | some directive => rfl

private theorem isPresented_presumedLine :
    IsPresented entry.name entry.directives line (SourceMap.presumedLine entry line) := by
  refine ⟨?plain, ?renumbered, ?renamed, ?unnamed⟩
  case plain =>
    intro behind
    have none_in_front : entry.directives.filter (·.line < line) = [] := by
      rw [List.filter_eq_nil_iff]
      simpa using behind
    refine Prod.ext ?_ ?_
    · rw [fst_presumedLine entry ascending, List.filter_comm, none_in_front]
      rfl
    · rw [snd_presumedLine entry ascending, none_in_front]
      rfl
  case renumbered =>
    intro before
    obtain ⟨directive, last, is_latest⟩ := exists_latest ascending before
    refine ⟨directive, is_latest, ?_⟩
    rw [snd_presumedLine entry ascending, last]
    rfl
  case renamed =>
    rintro ⟨directive, member, before, has_name⟩
    obtain ⟨named, last, is_latest⟩ := exists_latest (ascending.filter (·.filename.isSome))
      ⟨directive, List.mem_filter.mpr ⟨member, has_name⟩, before⟩
    refine ⟨named, is_latest, ?_⟩
    obtain ⟨name, given⟩ := Option.isSome_iff_exists.mp (List.mem_filter.mp is_latest.mem).2
    rw [fst_presumedLine entry ascending, last, Option.bind_some, given]
    rfl
  case unnamed =>
    intro unnamed
    have none_in_front :
        (entry.directives.filter (·.filename.isSome)).filter (·.line < line) = [] := by
      rw [List.filter_filter, List.filter_eq_nil_iff]
      intro directive member
      by_cases before : directive.line < line
      · simp [unnamed directive member before]
      · simp [before]
    rw [fst_presumedLine entry ascending, none_in_front]
    rfl

end PresumedLine

/-! ## Sources to which directives are added -/

/-- A call that changes a source: one that registers a file or an expansion, or one that adds a line
directive to a file. -/
inductive SourceCall where
  | register (call : Registration)
  | addDirective (file : Int) (directive : LineDirective)

/-- The directive that a call adds to a file, if it does. -/
def SourceCall.directiveOf? (file : Int) : SourceCall → Option LineDirective
  | .register _ => none
  | .addDirective other directive => if other = file then some directive else none

namespace SourceMap

/-- The source behind a call. A directive for a file that is not there changes nothing. -/
def perform (map : SourceMap) : SourceCall → SourceMap
  | .register call => map.register call
  | .addDirective file directive => (map.addDirective? file directive).getD map

/-- The source behind some calls, made one after the other. -/
def performAll (map : SourceMap) (calls : List SourceCall) : SourceMap := calls.foldl perform map

variable {map : SourceMap} {file : Int} {entry : SourceFile}

private theorem file?_addDirective (stored : map.file? file = some entry) (other : Int)
    (directive : LineDirective) :
    ((map.addDirective? other directive).getD map).file? file =
      some (if other = file then
        { entry with directives := directive.insert entry.directives } else entry) := by
  obtain ⟨positive, position⟩ := getElem?_of_file? stored
  have inside := (List.getElem?_eq_some_iff.mp position).1
  split
  · next same =>
    rw [addDirective?, same, stored, Option.map_some, Option.getD_some, file?, if_neg (by omega)]
    exact List.getElem?_set_self inside
  · next different =>
    cases there : map.file? other with
    | none => rw [addDirective?, there, Option.map_none, Option.getD_none, stored]
    | some found =>
      have first := (getElem?_of_file? there).1
      rw [addDirective?, there, Option.map_some, Option.getD_some, file?, if_neg (by omega)]
      exact (List.getElem?_set_ne (by omega)).trans position

/-- A call adds the directive to a file that it names, and changes nothing else of the file. -/
theorem file?_perform (stored : map.file? file = some entry) (call : SourceCall) :
    (map.perform call).file? file =
      some { entry with
        directives := insertAll entry.directives (call.directiveOf? file).toList } := by
  cases call with
  | register call =>
    have inside := (List.getElem?_eq_some_iff.mp (getElem?_of_file? stored).2).1
    exact ((map.extends_register call).file? (by omega)).trans stored
  | addDirective other directive =>
    rw [perform, file?_addDirective stored, SourceCall.directiveOf?]
    split <;> rfl

/-- Calls add the directives to a file that they name, and change nothing else of the file. -/
theorem file?_performAll (stored : map.file? file = some entry) (calls : List SourceCall) :
    (map.performAll calls).file? file =
      some { entry with
        directives := insertAll entry.directives (calls.filterMap (·.directiveOf? file)) } := by
  induction calls generalizing map entry with
  | nil => exact stored
  | cons call rest ih =>
    have later := ih (file?_perform stored call)
    rw [List.filterMap_cons]
    cases added : call.directiveOf? file with
    | none =>
      rw [added] at later
      exact later
    | some directive =>
      rw [added] at later
      exact later

/-- A location on a line of a file is presented in the column that it has there, with the number and
file name under the directives that were added to the file. -/
theorem exists_presumed?_performAll (stored : map.file? file = some entry)
    (fresh : entry.directives = []) (calls : List SourceCall) {loc : Location} {line offset : Int}
    (place : ((map.performAll calls).expansionSite loc).file = file)
    (there : ((map.performAll calls).expansionSite loc).offset = offset)
    (onLine : map.lineNumber file offset = line) (known : line ≠ 0) :
    ∃ shown, (map.performAll calls).presumed? loc =
        some ⟨file, shown.1, shown.2, map.columnNumber file offset, entry.includedFrom⟩ ∧
      IsPresented entry.name (calls.filterMap (·.directiveOf? file)) line shown := by
  have found := file?_performAll stored calls
  rw [fresh] at found
  have none_present : Ascending [] := List.Pairwise.nil
  obtain ⟨ascending, same⟩ := insertAll_bounds none_present (calls.filterMap (·.directiveOf? file))
  have presented := isPresented_presumedLine { entry with
    directives := insertAll [] (calls.filterMap (·.directiveOf? file)) } ascending line
  refine ⟨_, ?_, presented.congr fun number _ ↦ same number⟩
  rw [lineNumber, stored] at onLine
  rw [presumed?]
  simp only [place, there, found, lineNumber, columnNumber, onLine, if_neg known, stored]

/-- The meaning of line directives. After any calls, a location on a line of a file is presented in
the column that it has there, with the number and the file name under the directives that were added
to the file. Other calls that leave its place where it is, and add the same directives in the same
order to each line in front, present it in the same way: neither the order between different lines
nor directives at or behind the line have any influence. -/
theorem presumed?_under_directives (stored : map.file? file = some entry)
    (fresh : entry.directives = []) (calls : List SourceCall) {loc : Location} {line offset : Int}
    (place : ((map.performAll calls).expansionSite loc).file = file)
    (there : ((map.performAll calls).expansionSite loc).offset = offset)
    (onLine : map.lineNumber file offset = line) (known : line ≠ 0) :
    (∃ shown, (map.performAll calls).presumed? loc =
        some ⟨file, shown.1, shown.2, map.columnNumber file offset, entry.includedFrom⟩ ∧
      IsPresented entry.name (calls.filterMap (·.directiveOf? file)) line shown) ∧
    ∀ others : List SourceCall,
      (map.performAll others).expansionSite loc = (map.performAll calls).expansionSite loc →
      SameInFront line (calls.filterMap (·.directiveOf? file))
        (others.filterMap (·.directiveOf? file)) →
      (map.performAll others).presumed? loc = (map.performAll calls).presumed? loc := by
  have presented := exists_presumed?_performAll stored fresh calls place there onLine known
  refine ⟨presented, fun others unmoved same ↦ ?_⟩
  obtain ⟨shown, found, is_presented⟩ := presented
  obtain ⟨other, found_other, is_presented_other⟩ := exists_presumed?_performAll stored fresh others
    (unmoved ▸ place) (unmoved ▸ there) onLine known
  rw [found, found_other, (is_presented.congr same).unique is_presented_other]

/-- A file of six lines. -/
def sixLines : SourceFile := { name := "a.c".toList, text := "1\n2\n3\n4\n5\n6\n".toList }

/-- Directives for the lines of the file, a later line first and one of them twice, and a macro that
is used on its last line. -/
def directiveCalls : List SourceCall :=
  [.addDirective 1 ⟨4, 50, none⟩, .addDirective 1 ⟨1, 10, some "gen.c".toList⟩,
    .register (.body (.inFile 1 0) (.inFile 1 10) none 1), .addDirective 1 ⟨4, 60, none⟩,
    .addDirective 1 ⟨6, 1, some "late.c".toList⟩]

/-- The same directives in front of the last line, added in the order of their lines. -/
def orderedCalls : List SourceCall :=
  [.register (.body (.inFile 1 0) (.inFile 1 10) none 1),
    .addDirective 1 ⟨1, 10, some "gen.c".toList⟩, .addDirective 1 ⟨4, 50, none⟩,
    .addDirective 1 ⟨4, 60, none⟩]

/-- The second directive of the fourth line numbers the sixth, and the first line names it. -/
theorem presumed?_behind_repeated_directive :
    let map := (empty.addFile sixLines).1
    let loc := Location.ofExpansion 1
    (map.file? 1 = some sixLines ∧ sixLines.directives = [] ∧
      (map.performAll directiveCalls).expansionSite loc = .inFile 1 10 ∧
      map.lineNumber 1 10 = 6) ∧
    (map.performAll directiveCalls).presumed? loc = some ⟨1, "gen.c".toList, 61, 1, .invalid⟩ ∧
    (map.performAll orderedCalls).presumed? loc = some ⟨1, "gen.c".toList, 61, 1, .invalid⟩ := by
  intro map loc
  have stored : map.file? 1 = some sixLines := rfl
  have place : (map.performAll directiveCalls).expansionSite loc = .inFile 1 10 := rfl
  have there : ((map.performAll directiveCalls).expansionSite loc).offset = 10 := rfl
  have onLine : map.lineNumber 1 10 = 6 := by decide
  obtain ⟨⟨shown, found, presented⟩, others⟩ := presumed?_under_directives stored rfl directiveCalls
    (congrArg Location.file place) there onLine (by decide)
  obtain ⟨latest, is_latest, number⟩ := presented.renumbered (by decide)
  obtain ⟨named, is_named, name⟩ := presented.renamed (by decide)
  obtain rfl : latest = ⟨4, 60, none⟩ := is_latest.unique (by decide)
  obtain rfl : named = ⟨1, 10, some "gen.c".toList⟩ := is_named.unique (by decide)
  have column : map.columnNumber 1 10 = 1 := by decide
  rw [column, number, ← Option.some.inj name] at found
  have same : SameInFront 6 (directiveCalls.filterMap (·.directiveOf? 1))
      (orderedCalls.filterMap (·.directiveOf? 1)) := by
    intro line before
    by_cases first : line = 1
    · subst first
      rfl
    · have notFirst : ¬1 = line := fun same ↦ first same.symm
      have notLast : ¬6 = line := by omega
      simp [directiveCalls, orderedCalls, SourceCall.directiveOf?, List.filter_cons, notFirst,
        notLast]
  exact ⟨⟨stored, rfl, place, onLine⟩, found, (others orderedCalls rfl same).trans found⟩

end SourceMap

end Caret
