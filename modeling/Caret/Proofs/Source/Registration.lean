import Caret.Proofs.Source.Walks

/-!
# Sources that are registered call by call

A source is put together by calls that register files and expansions, each of which mentions only
what was registered before it. Such a source is grounded, so that its locations resolve to places
in files. A further call adds behind what is there: it changes no expansion on the way of a
location that is known, and so it changes nothing about where the location resolves to.
-/

namespace Caret

open SourceMap

/-- A call that registers a file, the expansion of a macro body or that of a macro argument. A
body is taken to have replaced one token if no end is given. -/
inductive Registration where
  | file (name text : Text) (includedFrom : Location)
  | body (spelling start : Location) (stop : Option Location) (length : Int)
  | argument (spelling place : Location) (length : Int)
  deriving DecidableEq, Repr

/-- The locations that a call mentions. -/
def Registration.places : Registration → List Location
  | file _ _ includedFrom => [includedFrom]
  | body spelling start stop _ => spelling :: start :: stop.toList
  | argument spelling place _ => [spelling, place]

/-- The locations that an expansion refers to. -/
def Expansion.places (expansion : Expansion) : List Location :=
  [expansion.spelling, expansion.start, expansion.stop]

/-- A location mentions no file or one of the first `files`, and no expansion or one of the first
`expansions`; a location that mentions neither is invalid. -/
structure Location.Within (files expansions : Nat) (loc : Location) : Prop where
  file : 0 ≤ loc.file ∧ loc.file ≤ files
  expansion : loc.Below expansions

instance (limit : Nat) (loc : Location) : Decidable (loc.Below limit) :=
  decidable_of_iff (∀ number ∈ loc.expansion, 1 ≤ number ∧ number ≤ limit) Iff.rfl

instance (files expansions : Nat) (loc : Location) : Decidable (loc.Within files expansions) :=
  decidable_of_iff ((0 ≤ loc.file ∧ loc.file ≤ files) ∧ loc.Below expansions)
    ⟨fun h ↦ ⟨h.1, h.2⟩, fun h ↦ ⟨h.file, h.expansion⟩⟩

namespace SourceMap

/-- The source behind a call. -/
def register (map : SourceMap) : Registration → SourceMap
  | .file name text includedFrom => (map.addFile { name, text, includedFrom }).1
  | .body spelling start stop length =>
    (map.addExpansion { spelling, start, stop := stop.getD start, length }).1
  | .argument spelling place length =>
    (map.addExpansion { spelling, start := place, stop := place, length, isArgument := true }).1

/-- The source behind some calls, made one after the other. -/
def registerAll (map : SourceMap) (calls : List Registration) : SourceMap :=
  calls.foldl register map

/-- A source that was put together by calls, each of which mentions only files and expansions
registered before it. -/
inductive Built : SourceMap → Prop
  | empty : Built empty
  | register {map : SourceMap} {call : Registration} (built : map.Built)
      (known : ∀ place ∈ call.places, place.Within map.files.length map.expansions.length) :
      (map.register call).Built

end SourceMap

namespace Location

variable {files expansions : Nat} {loc : Location}

/-- A location within some files and expansions is within more of them. -/
theorem Within.mono {more greater : Nat} (h : loc.Within files expansions) (le : files ≤ more)
    (le' : expansions ≤ greater) : loc.Within more greater :=
  ⟨⟨h.file.1, Int.le_trans h.file.2 (Int.ofNat_le.mpr le)⟩, h.expansion.mono le'⟩

/-- Moving a location in an expansion changes its offset only. -/
theorem move_of_isMacro (inside : loc.isMacro = true) (distance : Int) :
    loc.move distance = { loc with offset := loc.offset + distance } := by
  rw [move, if_pos ((isValid_iff loc).mpr (Or.inr inside))]

end Location

namespace SourceMap

variable {map : SourceMap} {loc : Location}

/-! ## Sources that are closed -/

/-- Every expansion refers to files that are there and to expansions before it only. -/
structure Closed (map : SourceMap) : Prop where
  before : ∀ {index : Nat} {expansion : Expansion}, map.expansions[index]? = some expansion →
    ∀ place ∈ expansion.places, place.Within map.files.length index

/-- The expansions of a closed source are grounded. -/
theorem Closed.grounded (h : map.Closed) : map.Grounded where
  spelled stored := (h.before stored _ (by simp [Expansion.places])).expansion
  started stored := (h.before stored _ (by simp [Expansion.places])).expansion
  stopped stored := (h.before stored _ (by simp [Expansion.places])).expansion

/-- A file more keeps a source closed. -/
theorem Closed.addFile (h : map.Closed) (file : SourceFile) : (map.addFile file).1.Closed := by
  refine ⟨fun stored place mentioned ↦ (h.before stored place mentioned).mono ?_ (Nat.le_refl _)⟩
  rw [SourceMap.addFile, List.length_append]
  exact Nat.le_add_right _ _

/-- An expansion more keeps a source closed if it refers to what is there. -/
theorem Closed.addExpansion (h : map.Closed) {added : Expansion}
    (known : ∀ place ∈ added.places, place.Within map.files.length map.expansions.length) :
    (map.addExpansion added).1.Closed := by
  refine ⟨fun stored ↦ ?_⟩
  rcases getElem?_addExpansion stored with old | ⟨rfl, rfl⟩
  · exact h.before old
  · exact known

/-- A call that mentions only what is there keeps a source closed. -/
theorem Closed.register (h : map.Closed) {call : Registration}
    (known : ∀ place ∈ call.places, place.Within map.files.length map.expansions.length) :
    (map.register call).Closed := by
  cases call with
  | file name text includedFrom => exact h.addFile _
  | body spelling start stop length =>
    apply h.addExpansion
    intro place mentioned
    apply known
    cases stop <;> simpa [Expansion.places, Registration.places] using mentioned
  | argument spelling place length =>
    apply h.addExpansion
    intro other mentioned
    apply known
    simpa [Expansion.places, Registration.places] using mentioned

/-- A source that was put together by calls is closed. -/
theorem Built.closed (built : map.Built) : map.Closed := by
  induction built with
  | empty => exact ⟨fun stored ↦ nomatch stored⟩
  | register _ known ih => exact ih.register known

/-! ## Laws of resolution -/

/-- A place is spelled where its first step leads. -/
theorem Grounded.spelling_step (h : map.Grounded) (start : loc.Below map.expansions.length)
    (inside : loc.isMacro = true) : map.spelling loc = map.spelling (map.spellingStep loc) :=
  chase_step_of_descends h.descends_spellingStep start inside (Nat.le_add_right _ _)

/-- The outermost macro was used where the first step leads. -/
theorem Grounded.expansionSite_step (h : map.Grounded) (start : loc.Below map.expansions.length)
    (inside : loc.isMacro = true) :
    map.expansionSite loc = map.expansionSite (map.startStep loc) :=
  chase_step_of_descends h.descends_startStep start inside (Nat.le_add_right _ _)

/-- Moving stays in the expansion. -/
theorem expansionOf?_move (map : SourceMap) (loc : Location) (distance : Int) :
    map.expansionOf? (loc.move distance) = map.expansionOf? loc := by
  unfold expansionOf?
  rw [Location.expansion_move]

/-- Moving before a step to where a code point was written is moving after it. -/
theorem spellingStep_move (map : SourceMap) (inside : loc.isMacro = true) (distance : Int) :
    map.spellingStep (loc.move distance) = (map.spellingStep loc).move distance := by
  unfold spellingStep
  rw [expansionOf?_move]
  cases map.expansionOf? loc with
  | none => rfl
  | some expansion =>
    rw [Location.move_of_isMacro inside]
    exact (Location.move_move _ _ _).symm

/-- The place where a code point was written moves with its location. The induction is on the
height of the location, since a step and a move may be exchanged. -/
theorem Grounded.spelling_move (h : map.Grounded) (start : loc.Below map.expansions.length)
    (distance : Int) : map.spelling (loc.move distance) = (map.spelling loc).move distance := by
  induction level : loc.height using Nat.strongRecOn generalizing loc with
  | ind below ih =>
    cases inside : loc.isMacro with
    | false =>
      rw [map.spelling_of_not_isMacro inside,
        map.spelling_of_not_isMacro ((Location.isMacro_move _ _).trans inside)]
    | true =>
      obtain ⟨next, lower⟩ := h.descends_spellingStep loc start inside
      calc map.spelling (loc.move distance)
          = map.spelling (map.spellingStep (loc.move distance)) :=
            h.spelling_step (start.move distance) ((Location.isMacro_move _ _).trans inside)
        _ = map.spelling ((map.spellingStep loc).move distance) := by
            rw [map.spellingStep_move inside]
        _ = (map.spelling (map.spellingStep loc)).move distance :=
            ih _ (level ▸ lower) next rfl
        _ = (map.spelling loc).move distance := by rw [← h.spelling_step start inside]

/-- Where the outermost macro was used does not depend on the place in the innermost. -/
theorem Grounded.expansionSite_offset (h : map.Grounded)
    (start : loc.Below map.expansions.length) (inside : loc.isMacro = true) (offset : Int) :
    map.expansionSite { loc with offset } = map.expansionSite loc := by
  obtain ⟨index, expansion, -, found, -⟩ := start.expansionOf? inside
  have step {place : Location} (same : map.expansionOf? place = some expansion) :
      map.startStep place = expansion.start := by
    unfold startStep
    rw [same]
  have start' : ({ loc with offset } : Location).Below map.expansions.length := start
  rw [h.expansionSite_step start' inside, h.expansionSite_step start inside, step found, step]
  exact found

private theorem chase_keeps {step : Location → Location} (good : Location → Prop)
    (keeps : ∀ place, good place → place.isMacro = true → good (step place)) {bound : Nat}
    {visited : List Location} (start : good loc) : good (chase step bound visited loc) := by
  induction bound generalizing visited loc with
  | zero => exact start
  | succ bound ih =>
    rw [chase]
    split
    · next going => exact ih (keeps loc start (Bool.and_eq_true_iff.mp going).1)
    · exact start

/-- The place where the outermost macro was used is in a file that is there. -/
theorem Closed.within_expansionSite (h : map.Closed)
    (known : loc.Within map.files.length map.expansions.length) :
    (map.expansionSite loc).Within map.files.length map.expansions.length := by
  refine chase_keeps (Location.Within map.files.length map.expansions.length)
    (fun place within inside ↦ ?_) known
  obtain ⟨index, expansion, stored, found, -⟩ := within.expansion.expansionOf? inside
  unfold startStep
  rw [found]
  exact (h.before stored _ (by simp [Expansion.places])).mono (Nat.le_refl _)
    (Nat.le_of_lt (List.getElem?_eq_some_iff.mp stored).1)

/-! ## What further calls leave as it is -/

/-- A source that has the files and expansions of another one in front of its own. -/
structure Extends (larger map : SourceMap) : Prop where
  files : map.files <+: larger.files
  expansions : map.expansions <+: larger.expansions

/-- A call adds behind what is there. -/
theorem extends_register (map : SourceMap) (call : Registration) :
    (map.register call).Extends map := by
  cases call with
  | file => exact ⟨List.prefix_append _ _, List.prefix_rfl⟩
  | body => exact ⟨List.prefix_rfl, List.prefix_append _ _⟩
  | argument => exact ⟨List.prefix_rfl, List.prefix_append _ _⟩

private theorem extends_registerAll (map : SourceMap) (calls : List Registration) :
    (map.registerAll calls).Extends map := by
  induction calls generalizing map with
  | nil => exact ⟨List.prefix_rfl, List.prefix_rfl⟩
  | cons call rest ih =>
    have once := map.extends_register call
    have later := ih (map.register call)
    exact ⟨once.files.trans later.files, once.expansions.trans later.expansions⟩

variable {larger : SourceMap}

/-- A file that is there stays. -/
theorem Extends.file? (h : larger.Extends map) {number : Int} (known : number ≤ map.files.length) :
    larger.file? number = map.file? number := by
  obtain ⟨more, same⟩ := h.files
  unfold SourceMap.file?
  split
  · rfl
  · rw [← same, List.getElem?_append_left (by omega)]

/-- The expansion that a location is in stays. -/
theorem Extends.expansionOf? (h : larger.Extends map)
    (start : loc.Below map.expansions.length) :
    larger.expansionOf? loc = map.expansionOf? loc := by
  obtain ⟨more, same⟩ := h.expansions
  unfold SourceMap.expansionOf?
  split
  · rfl
  · next number inside =>
    have bounds := start number inside
    rw [← same, List.getElem?_append_left (by omega)]

/-- A chase that descends ends at the same place in any source whose steps agree with its own,
whatever their bounds are. The induction is on the height. -/
theorem chase_congr_of_descends {limit : Nat} {step other : Location → Location}
    (h : Descends limit step)
    (same : ∀ place : Location, place.Below limit → other place = step place)
    {bound greater : Nat} (start : loc.Below limit) (enough : limit ≤ bound)
    (enough' : limit ≤ greater) :
    chase other greater [] loc = chase step bound [] loc := by
  have descends : Descends limit other := by
    intro place known inside
    rw [same place known]
    exact h place known inside
  induction level : loc.height using Nat.strongRecOn generalizing loc with
  | ind below ih =>
    cases inside : loc.isMacro with
    | false => rw [chase_of_not_isMacro _ inside, chase_of_not_isMacro _ inside]
    | true =>
      obtain ⟨next, lower⟩ := h loc start inside
      rw [chase_step_of_descends h start inside enough,
        chase_step_of_descends descends start inside enough', same loc start]
      exact ih _ (level ▸ lower) next rfl

/-- What further calls leave as it is about a location: where it was written, where its outermost
macro was used, and the position that is presented. -/
structure Unchanged (larger map : SourceMap) (loc : Location) : Prop where
  spelling : larger.spelling loc = map.spelling loc
  site : larger.expansionSite loc = map.expansionSite loc
  stop : larger.expansionStop loc = map.expansionStop loc
  presumed : larger.presumed? loc = map.presumed? loc

/-- A source that has a closed one in front of its own entries resolves the locations of the
closed one as that does. -/
theorem Closed.unchanged (h : map.Closed) (extends_map : larger.Extends map)
    (known : loc.Within map.files.length map.expansions.length) : larger.Unchanged map loc := by
  have enough : map.expansions.length ≤ map.walkBound := Nat.le_add_right _ _
  have enough' : map.expansions.length ≤ larger.walkBound :=
    Nat.le_trans extends_map.expansions.length_le (Nat.le_add_right _ _)
  have site : larger.expansionSite loc = map.expansionSite loc :=
    chase_congr_of_descends h.grounded.descends_startStep
      (fun place below ↦ by rw [startStep, startStep, extends_map.expansionOf? below])
      known.expansion enough enough'
  refine ⟨?_, site, ?_, ?_⟩
  · exact chase_congr_of_descends h.grounded.descends_spellingStep
      (fun place below ↦ by rw [spellingStep, spellingStep, extends_map.expansionOf? below])
      known.expansion enough enough'
  · exact chase_congr_of_descends h.grounded.descends_stopStep
      (fun place below ↦ by rw [stopStep, stopStep, extends_map.expansionOf? below])
      known.expansion enough enough'
  · have file := extends_map.file? (h.within_expansionSite known).file.2
    have line (offset : Int) : larger.lineNumber (map.expansionSite loc).file offset =
        map.lineNumber (map.expansionSite loc).file offset := by
      rw [lineNumber, lineNumber, file]
    have column (offset : Int) : larger.columnNumber (map.expansionSite loc).file offset =
        map.columnNumber (map.expansionSite loc).file offset := by
      rw [columnNumber, columnNumber, file]
    rw [presumed?, presumed?]
    simp only [site, file, line, column]

/-- The laws of resolution. In a source that was put together by calls, a location over what was
registered is spelled outside of the expansions, and so are both ends of what its outermost
expansion replaced; the spelling moves with the location, the expansion site of a macro location
does not; a place that was resolved resolves to itself; and no further calls, whatever they
mention, change any of it. -/
theorem Built.resolution_laws (built : map.Built)
    (known : loc.Within map.files.length map.expansions.length) :
    (map.spelling loc).isMacro = false ∧
    (map.expansionSite loc).isMacro = false ∧
    (map.expansionStop loc).isMacro = false ∧
    (∀ distance, map.spelling (loc.move distance) = (map.spelling loc).move distance) ∧
    (loc.isMacro = true →
      ∀ offset, map.expansionSite { loc with offset } = map.expansionSite loc) ∧
    map.spelling (map.spelling loc) = map.spelling loc ∧
    map.expansionSite (map.expansionSite loc) = map.expansionSite loc ∧
    ∀ calls, (map.registerAll calls).Unchanged map loc := by
  have grounded := built.closed.grounded
  have spelled := grounded.isMacro_spelling known.expansion
  have used := grounded.isMacro_expansionSite known.expansion
  have ended := isMacro_chase_of_descends grounded.descends_stopStep known.expansion
    (Nat.le_add_right map.expansions.length 2)
  exact ⟨spelled, used, ended, grounded.spelling_move known.expansion,
    grounded.expansionSite_offset known.expansion, map.spelling_of_not_isMacro spelled,
    map.expansionSite_of_not_isMacro used,
    fun calls ↦ built.closed.unchanged (map.extends_registerAll calls) known⟩

/-- A macro that repeats its argument: a file that defines and uses it, its body, and the argument
in the body. -/
def argumentSource : SourceMap :=
  ((empty.register (.file "a.c".toList "#define M(x) x\nM(y)\n".toList .invalid)).register
      (.body (.inFile 1 13) (.inFile 1 15) (some (.inFile 1 18)) 1)).register
    (.argument (.inFile 1 17) (.ofExpansion 1) 1)

/-- The argument is spelled where it was written, behind it what follows it there, and its macro
was used at the start of the second line; no call changes that. -/
theorem resolution_laws_of_argument :
    let map := argumentSource
    let loc := Location.ofExpansion 2
    (map.Built ∧ loc.Within map.files.length map.expansions.length ∧ loc.isMacro = true) ∧
    (∀ distance, map.spelling (loc.move distance) = .inFile 1 (17 + distance)) ∧
    (∀ offset, map.expansionSite { loc with offset } = .inFile 1 15) ∧
    map.expansionStop (map.expansionSite loc) = .inFile 1 15 ∧
    ∀ calls, (map.registerAll calls).Unchanged map loc := by
  intro map loc
  have built : map.Built :=
    .register (.register (.register .empty (by decide)) (by decide)) (by decide)
  have known : loc.Within map.files.length map.expansions.length := by decide
  obtain ⟨-, -, -, moved, offset, -, -, unchanged⟩ := built.resolution_laws known
  exact ⟨⟨built, known, rfl⟩, moved, offset rfl, rfl, unchanged⟩

end SourceMap

end Caret
