import Caret.Proofs.Backtrace.Levels
import Caret.Proofs.Source.Order

/-!
# Walks over a source whose expansions are grounded

If every expansion refers to expansions before it only, then each step out of one, to where it was
written or to what it replaced, leads to an expansion with a smaller number or out of the
expansions. So every walk ends outside of the expansions, it never comes back to a place, and its
bound is never reached. An ordered source is of this kind.
-/

namespace Caret

open SourceMap

/-! ## Walks that go down -/

section Walk

variable {α : Type} {good : Location → Prop} {inside : Location → Bool} {step : Location → Location}

/-- A walk whose steps go down needs no more steps than its start is high, and where it has been
before does not matter. The induction is on the height. -/
theorem walk_of_descending (height : Location → Nat)
    (walk : Nat → List Location → Location → α) (combine : Location → α → α)
    (descends : ∀ loc, good loc → inside loc = true →
      good (step loc) ∧ height (step loc) < height loc)
    (outside : ∀ bound visited loc, inside loc = false → walk bound visited loc = walk 0 [] loc)
    (onward : ∀ bound visited loc, inside loc = true → loc ∉ visited →
      walk (bound + 1) visited loc = combine loc (walk bound (loc :: visited) (step loc)))
    {bound : Nat} {visited : List Location} {loc : Location} (start : good loc)
    (behind : ∀ place ∈ visited, height loc < height place) (enough : height loc ≤ bound) :
    walk bound visited loc = walk (height loc) [] loc := by
  induction level : height loc using Nat.strongRecOn generalizing bound visited loc with
  | ind below ih =>
    subst level
    cases within : inside loc with
    | false => rw [outside _ _ loc within, ← outside (height loc) [] loc within]
    | true =>
      obtain ⟨next, lower⟩ := descends loc start within
      have fresh : loc ∉ visited := fun member ↦ Nat.lt_irrefl _ (behind loc member)
      have passed {before : List Location}
          (earlier : ∀ place ∈ before, height loc < height place) :
          ∀ place ∈ loc :: before, height (step loc) < height place := by
        intro place member
        rcases List.mem_cons.mp member with rfl | old
        · exact lower
        · exact Nat.lt_trans lower (earlier place old)
      obtain ⟨more, rfl⟩ : ∃ more, bound = more + 1 := ⟨bound - 1, by omega⟩
      obtain ⟨fewer, high⟩ : ∃ fewer, height loc = fewer + 1 := ⟨height loc - 1, by omega⟩
      rw [onward more visited loc within fresh, high,
        onward fewer [] loc within List.not_mem_nil,
        ih _ lower next (passed behind) (by omega) rfl,
        ih _ lower next (passed (List.forall_mem_nil _)) (by omega) rfl]

end Walk

/-- How many expansions there are up to the one that a location is in; zero outside of them. -/
def Location.height (loc : Location) : Nat := (loc.expansion.getD 0).toNat

/-- A location is in none of the expansions or in one of the first `limit` of them. -/
def Location.Below (limit : Nat) (loc : Location) : Prop :=
  ∀ number, loc.expansion = some number → 1 ≤ number ∧ number ≤ limit

/-- A step out of one of the first `limit` expansions leads to one before it. -/
def Descends (limit : Nat) (step : Location → Location) : Prop :=
  ∀ loc : Location, loc.Below limit → loc.isMacro = true →
    (step loc).Below limit ∧ (step loc).height < loc.height

namespace Location

/-- A location that is known is in one of the expansions that are known. -/
theorem Known.below {texts : List Text} {limit : Nat} {loc : Location}
    (h : loc.Known texts limit) : loc.Below limit := by
  intro number inside
  cases h with
  | invalid => cases inside
  | inFile => cases inside
  | inExpansion expansion forward =>
    cases inside
    omega

/-- A location below a limit is below any greater one. -/
theorem Below.mono {limit greater : Nat} {loc : Location} (h : loc.Below limit)
    (le : limit ≤ greater) : loc.Below greater := by
  intro number inside
  have := h number inside
  omega

/-- Moving leads to no other expansion. -/
theorem expansion_move (loc : Location) (distance : Int) :
    (loc.move distance).expansion = loc.expansion := by
  unfold Location.move
  split <;> rfl

/-- Moving leads to no other expansion. -/
theorem Below.move {limit : Nat} {loc : Location} (h : loc.Below limit) (distance : Int) :
    (loc.move distance).Below limit := by
  unfold Below
  rw [expansion_move]
  exact h

/-- A location below a limit is no higher than it. -/
theorem Below.height_le {limit : Nat} {loc : Location} (h : loc.Below limit) :
    loc.height ≤ limit := by
  unfold height
  cases inside : loc.expansion with
  | none => exact Nat.zero_le _
  | some number =>
    have := h number inside
    rw [Option.getD_some]
    omega

/-- A location in the first expansions is in one of those added. -/
theorem Below.expansionOf? {map : SourceMap} {loc : Location}
    (h : loc.Below map.expansions.length) (inside : loc.isMacro = true) :
    ∃ index expansion, map.expansions[index]? = some expansion ∧
      map.expansionOf? loc = some expansion ∧ loc.height = index + 1 := by
  obtain ⟨number, found⟩ := Option.isSome_iff_exists.mp inside
  have bounds := h number found
  have position : (number - 1).toNat < map.expansions.length := by omega
  have positive : ¬ number < 1 := by omega
  refine ⟨(number - 1).toNat, map.expansions[(number - 1).toNat],
    List.getElem?_eq_getElem position, ?_, ?_⟩
  · unfold SourceMap.expansionOf?
    rw [found]
    simp only [if_neg positive]
    exact List.getElem?_eq_getElem position
  · rw [height, found, Option.getD_some]
    omega

end Location

namespace SourceMap

variable {map : SourceMap}

/-! ## Steps in a grounded source -/

/-- Every expansion refers to expansions before it only, wherever in the files it refers to. -/
structure Grounded (map : SourceMap) : Prop where
  spelled : ∀ {index : Nat} {expansion : Expansion}, map.expansions[index]? = some expansion →
    expansion.spelling.Below index
  started : ∀ {index : Nat} {expansion : Expansion}, map.expansions[index]? = some expansion →
    expansion.start.Below index
  stopped : ∀ {index : Nat} {expansion : Expansion}, map.expansions[index]? = some expansion →
    expansion.stop.Below index

/-- The expansions of an ordered source are grounded. -/
theorem Ordered.grounded (h : map.Ordered) : map.Grounded :=
  ⟨fun stored ↦ (h.spelled stored).below, fun stored ↦ (h.started stored).below,
    fun stored ↦ (h.stopped stored).below⟩

/-- A step that leads from each expansion to a place known before it descends. -/
theorem descends_of_known {step : Location → Location}
    (h : ∀ {loc : Location} {index : Nat} {expansion : Expansion},
      map.expansionOf? loc = some expansion → map.expansions[index]? = some expansion →
      (step loc).Below index) : Descends map.expansions.length step := by
  intro loc start inside
  obtain ⟨index, expansion, stored, found, high⟩ := start.expansionOf? inside
  have before := h found stored
  have position := (List.getElem?_eq_some_iff.mp stored).1
  refine ⟨before.mono (Nat.le_of_lt position), ?_⟩
  rw [high]
  exact Nat.lt_succ_of_le before.height_le

/-- A step to where an expansion was written leads to one before it. -/
theorem Grounded.descends_spellingStep (h : map.Grounded) :
    Descends map.expansions.length map.spellingStep := by
  apply descends_of_known
  intro loc index expansion found stored
  unfold spellingStep
  rw [found]
  exact (h.spelled stored).move _

/-- A step to the start of what an expansion replaced leads to one before it. -/
theorem Grounded.descends_startStep (h : map.Grounded) :
    Descends map.expansions.length map.startStep := by
  apply descends_of_known
  intro loc index expansion found stored
  unfold startStep
  rw [found]
  exact h.started stored

/-- A step to the end of what an expansion replaced leads to one before it. -/
theorem Grounded.descends_stopStep (h : map.Grounded) :
    Descends map.expansions.length map.stopStep := by
  apply descends_of_known
  intro loc index expansion found stored
  unfold stopStep
  rw [found]
  exact h.stopped stored

/-- A step to the caller of a location leads to an expansion before it. -/
theorem Grounded.descends_callerOf (h : map.Grounded) :
    Descends map.expansions.length map.callerOf := by
  intro loc start inside
  unfold callerOf
  split
  · exact h.descends_spellingStep loc start inside
  · exact h.descends_startStep loc start inside

/-- A step to the callee of a location leads to an expansion before it. -/
theorem Grounded.descends_calleeOf (h : map.Grounded) :
    Descends map.expansions.length map.calleeOf := by
  intro loc start inside
  unfold calleeOf
  split
  · exact h.descends_startStep loc start inside
  · exact h.descends_spellingStep loc start inside

/-! ## Chases -/

/-- A chase that descends needs no more steps than its start is high, and where it has been
before does not matter. -/
theorem chase_of_descends {limit : Nat} {step : Location → Location} (h : Descends limit step)
    {bound : Nat} {visited : List Location} {loc : Location} (start : loc.Below limit)
    (behind : ∀ place ∈ visited, loc.height < place.height) (enough : loc.height ≤ bound) :
    chase step bound visited loc = chase step loc.height [] loc :=
  walk_of_descending Location.height (chase step) (fun _ rest ↦ rest) h
    (fun bound visited _ outside ↦ chase_of_not_isMacro step outside bound visited)
    (fun bound _ _ inside fresh ↦ chase_of_not_mem step inside fresh bound) start behind enough

/-- A chase that descends goes on from the next place as if it had started there. -/
theorem chase_step_of_descends {limit : Nat} {step : Location → Location}
    (h : Descends limit step) {bound : Nat} {loc : Location} (start : loc.Below limit)
    (inside : loc.isMacro = true) (enough : limit ≤ bound) :
    chase step bound [] loc = chase step bound [] (step loc) := by
  obtain ⟨next, lower⟩ := h loc start inside
  have high := start.height_le
  have passed : ∀ place ∈ [loc], (step loc).height < place.height := by
    intro place member
    rw [List.mem_singleton.mp member]
    exact lower
  obtain ⟨fewer, rfl⟩ : ∃ fewer, bound = fewer + 1 := ⟨bound - 1, by omega⟩
  rw [chase_of_not_mem step inside List.not_mem_nil, chase_of_descends h next passed (by omega)]
  exact (chase_of_descends h next (List.forall_mem_nil _) (by omega)).symm

/-- A chase that descends ends outside of the expansions. -/
theorem isMacro_chase_of_descends {limit : Nat} {step : Location → Location}
    (h : Descends limit step) {bound : Nat} {loc : Location} (start : loc.Below limit)
    (enough : limit ≤ bound) : (chase step bound [] loc).isMacro = false := by
  induction level : loc.height using Nat.strongRecOn generalizing loc with
  | ind below ih =>
    cases inside : loc.isMacro with
    | false => rw [chase_of_not_isMacro step inside, inside]
    | true =>
      obtain ⟨next, lower⟩ := h loc start inside
      rw [chase_step_of_descends h start inside enough]
      exact ih _ (level ▸ lower) next rfl

/-- A place is spelled outside of the expansions. -/
theorem Grounded.isMacro_spelling (h : map.Grounded) {loc : Location}
    (start : loc.Below map.expansions.length) : (map.spelling loc).isMacro = false :=
  isMacro_chase_of_descends h.descends_spellingStep start (Nat.le_add_right _ _)

/-- An expansion site is outside of the expansions. -/
theorem Grounded.isMacro_expansionSite (h : map.Grounded) {loc : Location}
    (start : loc.Below map.expansions.length) : (map.expansionSite loc).isMacro = false :=
  isMacro_chase_of_descends h.descends_startStep start (Nat.le_add_right _ _)

/-! ## Walks outwards -/

/-- The argument that a search comes to is no higher than its start. -/
theorem Grounded.argumentOf?_bounds (h : map.Grounded) {bound : Nat} {visited : List Location}
    {loc found : Location} (start : loc.Below map.expansions.length)
    (reached : map.argumentOf? bound visited loc = some found) :
    found.Below map.expansions.length ∧ found.isMacro = true ∧ found.height ≤ loc.height := by
  induction bound generalizing visited loc with
  | zero => cases reached
  | succ bound ih =>
    rw [argumentOf?] at reached
    split at reached
    · next going =>
      have inside := (Bool.and_eq_true_iff.mp going).1
      split at reached
      · cases reached
        exact ⟨start, inside, Nat.le_refl _⟩
      · obtain ⟨next, lower⟩ := h.descends_spellingStep loc start inside
        obtain ⟨below, macro_found, le⟩ := ih next reached
        exact ⟨below, macro_found, by omega⟩
    · cases reached

/-- The level of a location is no higher than the location. -/
theorem Grounded.toArgument_bounds (h : map.Grounded) {loc : Location}
    (start : loc.Below map.expansions.length) (inside : loc.isMacro = true) :
    (map.toArgument loc).Below map.expansions.length ∧ (map.toArgument loc).isMacro = true ∧
      (map.toArgument loc).height ≤ loc.height := by
  unfold toArgument
  cases reached : map.argumentOf? map.walkBound [] loc with
  | none => exact ⟨start, inside, Nat.le_refl _⟩
  | some found => exact h.argumentOf?_bounds start reached

/-- A step from a location to the caller of its level leads to an expansion before it. -/
theorem Grounded.descends_outwards (h : map.Grounded) :
    Descends map.expansions.length fun loc ↦ map.callerOf (map.toArgument loc) := by
  intro loc start inside
  obtain ⟨level, macro_level, le⟩ := h.toArgument_bounds start inside
  obtain ⟨caller, lower⟩ := h.descends_callerOf _ level macro_level
  exact ⟨caller, Nat.lt_of_lt_of_le lower le⟩

/-- A walk outwards needs no more steps than its start is high. -/
theorem Grounded.walkOut_eq (h : map.Grounded) {bound : Nat} {visited : List Location}
    {loc : Location} (start : loc.Below map.expansions.length)
    (behind : ∀ place ∈ visited, loc.height < place.height) (enough : loc.height ≤ bound) :
    map.walkOut bound visited loc = map.walkOut loc.height [] loc := by
  refine walk_of_descending Location.height map.walkOut
    (fun loc outer ↦ { outer with levels := map.toArgument loc :: outer.levels })
    h.descends_outwards ?_
    (fun bound _ _ inside fresh ↦ map.walkOut_of_not_mem inside fresh bound) start behind enough
  intro bound visited loc outside
  have none_left : map.walkOut 0 [] loc = ⟨[], loc, none⟩ := by
    rw [walkOut, map.expansionSite_of_not_isMacro outside]
  cases bound with
  | zero => rfl
  | succ bound => rw [map.walkOut_of_not_isMacro outside, none_left]

/-- A walk outwards goes on from the caller of its level as if it had started there. -/
theorem Grounded.levelsOf_of_isMacro (h : map.Grounded) {loc : Location}
    (start : loc.Below map.expansions.length) (inside : loc.isMacro = true) :
    map.levelsOf loc =
      let outer := map.levelsOf (map.callerOf (map.toArgument loc))
      { outer with levels := map.toArgument loc :: outer.levels } := by
  obtain ⟨next, lower⟩ := h.descends_outwards loc start inside
  have high := start.height_le
  dsimp only at next lower
  have passed : ∀ place ∈ [loc], (map.callerOf (map.toArgument loc)).height < place.height := by
    intro place member
    rw [List.mem_singleton.mp member]
    exact lower
  have again : map.walkOut (2 * map.expansions.length + 3) []
      (map.callerOf (map.toArgument loc)) = _ :=
    h.walkOut_eq next (List.forall_mem_nil _) (by omega)
  unfold levelsOf
  rw [map.walkOut_of_not_mem inside List.not_mem_nil, h.walkOut_eq next passed (by omega), again]

/-- A file location is its own leaf, and has no levels. -/
theorem levelsOf_of_not_isMacro (map : SourceMap) {loc : Location} (h : loc.isMacro = false) :
    map.levelsOf loc = ⟨[], loc, none⟩ :=
  map.walkOut_of_not_isMacro h _ _

/-- In a grounded source no walk outwards comes back to a place, it ends outside of the
expansions, and its levels are in expansions that are known. -/
theorem Grounded.levelsOf_bounds (h : map.Grounded) {loc : Location}
    (start : loc.Below map.expansions.length) :
    (map.levelsOf loc).cycle = none ∧ (map.levelsOf loc).leaf.isMacro = false ∧
      ∀ level ∈ (map.levelsOf loc).levels,
        level.Below map.expansions.length ∧ level.isMacro = true := by
  induction high : loc.height using Nat.strongRecOn generalizing loc with
  | ind below ih =>
    cases inside : loc.isMacro with
    | false =>
      rw [map.levelsOf_of_not_isMacro inside]
      exact ⟨rfl, inside, List.forall_mem_nil _⟩
    | true =>
      obtain ⟨next, lower⟩ := h.descends_outwards loc start inside
      obtain ⟨finite, leaf, outer⟩ := ih _ (high ▸ lower) next rfl
      obtain ⟨level, macro_level, -⟩ := h.toArgument_bounds start inside
      rw [h.levelsOf_of_isMacro start inside]
      refine ⟨finite, leaf, ?_⟩
      intro other member
      rcases List.mem_cons.mp member with rfl | later
      · exact ⟨level, macro_level⟩
      · exact outer other later

/-- A search for an argument needs no more steps than its start is high. -/
theorem Grounded.argumentOf?_eq (h : map.Grounded) {bound : Nat} {visited : List Location}
    {loc : Location} (start : loc.Below map.expansions.length)
    (behind : ∀ place ∈ visited, loc.height < place.height) (enough : loc.height ≤ bound) :
    map.argumentOf? bound visited loc = map.argumentOf? loc.height [] loc := by
  refine walk_of_descending Location.height map.argumentOf?
    (fun loc found ↦ if map.isArgument loc then some loc else found)
    h.descends_spellingStep ?_ ?_ start behind enough
  · intro bound visited loc outside
    cases bound with
    | zero => rfl
    | succ bound =>
      show map.argumentOf? (bound + 1) visited loc = none
      rw [argumentOf?, outside]
      rfl
  · intro bound visited loc inside fresh
    rw [argumentOf?, inside, contains_eq_false fresh]
    rfl

/-- A walk out of arguments needs no more steps than its start is high. -/
theorem Grounded.outOfArguments_eq (h : map.Grounded) {bound : Nat} {visited : List Location}
    {loc : Location} (start : loc.Below map.expansions.length)
    (behind : ∀ place ∈ visited, loc.height < place.height) (enough : loc.height ≤ bound) :
    map.outOfArguments bound visited loc = map.outOfArguments loc.height [] loc := by
  refine walk_of_descending Location.height map.outOfArguments
    (fun loc body ↦ if map.isArgument loc then body else loc)
    h.descends_startStep ?_ ?_ start behind enough
  · intro bound visited loc outside
    cases bound with
    | zero => rfl
    | succ bound =>
      show map.outOfArguments (bound + 1) visited loc = loc
      rw [outOfArguments, outside]
      rfl
  · intro bound visited loc inside fresh
    rw [outOfArguments, inside, contains_eq_false fresh, Bool.true_and, Bool.not_false,
      Bool.and_true]

/-! ## Bounds that are not reached -/

/-- No walk from a location ends at its bound: with any number of steps more it ends at the same
place. -/
structure Settled (map : SourceMap) (loc : Location) : Prop where
  spelling : ∀ more, chase map.spellingStep (map.walkBound + more) [] loc = map.spelling loc
  site : ∀ more, chase map.startStep (map.walkBound + more) [] loc = map.expansionSite loc
  stop : ∀ more, chase map.stopStep (map.walkBound + more) [] loc = map.expansionStop loc
  argument : ∀ more, map.argumentOf? (map.walkBound + more) [] loc =
    map.argumentOf? map.walkBound [] loc
  body : ∀ more, map.outOfArguments (map.walkBound + more) [] loc =
    map.outOfArguments map.walkBound [] loc
  levels : ∀ more, map.walkOut (2 * map.expansions.length + 3 + more) [] loc = map.levelsOf loc

/-- In a grounded source no walk ends at its bound. -/
theorem Grounded.settled (h : map.Grounded) {loc : Location}
    (start : loc.Below map.expansions.length) : map.Settled loc := by
  have high := start.height_le
  have none_visited : ∀ place ∈ ([] : List Location), loc.height < place.height :=
    List.forall_mem_nil _
  have chased {step : Location → Location} (descends : Descends map.expansions.length step)
      (more : Nat) :
      chase step (map.walkBound + more) [] loc = chase step map.walkBound [] loc := by
    unfold walkBound
    rw [chase_of_descends descends start none_visited (by omega)]
    exact (chase_of_descends descends start none_visited (by omega)).symm
  refine ⟨chased h.descends_spellingStep, chased h.descends_startStep,
    chased h.descends_stopStep, ?_, ?_, ?_⟩
  · intro more
    unfold walkBound
    rw [h.argumentOf?_eq start none_visited (by omega)]
    exact (h.argumentOf?_eq start none_visited (by omega)).symm
  · intro more
    unfold walkBound
    rw [h.outOfArguments_eq start none_visited (by omega)]
    exact (h.outOfArguments_eq start none_visited (by omega)).symm
  · intro more
    unfold levelsOf
    rw [h.walkOut_eq start none_visited (by omega)]
    exact (h.walkOut_eq start none_visited (by omega)).symm

end SourceMap

end Caret
