import Caret.Proofs.Source.SpellingWalks

/-!
# Levels and names by walks that may not end

To collect the levels of a location is a walk outwards, with a search for an argument at each level.
The name of a level is found by a walk out of the arguments around it and two to where something was
written. Nothing bounds these walks, and a spelling that comes back to its expansion with a shift
keeps one from ending. Wherever they end, the bounds of a source are enough: levels, leaf and name
are those of the walks.
-/

namespace Caret.SourceMap

/-! ## The argument on the way to a spelling -/

/-- The search for an argument goes on from a location in an expansion that is none. -/
def seeksArgument (map : SourceMap) (loc : Location) : Bool :=
  loc.isMacro && !map.isArgument loc

/-- The search for an argument on the way of a location to its spelling ends. The level is the
argument, and the location itself where the search has found none. -/
def FindsLevel (map : SourceMap) (loc level : Location) : Prop :=
  ∃ count last, Follows map.seeksArgument map.spellingStep [] loc count last ∧
    level = if map.isArgument last then last else loc

/-- After some steps through expansions that are none, the way of a location to its spelling comes
to an argument. -/
structure ComesToArgument (map : SourceMap) (loc : Location) (count : Nat) : Prop where
  argument : map.isArgument (Nat.iterate map.spellingStep count loc) = true
  seeks : ∀ passed < count, map.seeksArgument (Nat.iterate map.spellingStep passed loc) = true

variable {map : SourceMap} {loc other last : Location} {visited : List Location} {count : Nat}

/-- A search goes on inside of the expansions and outside of arguments. -/
theorem seeksArgument_iff :
    map.seeksArgument loc = true ↔ loc.isMacro = true ∧ map.isArgument loc = false := by
  rw [seeksArgument, Bool.and_eq_true, Bool.not_eq_true']

/-- A search goes by the expansions. -/
theorem goesByExpansion_seeksArgument (map : SourceMap) : GoesByExpansion map.seeksArgument where
  isMacro going := (seeksArgument_iff.mp going).1
  same h := by rw [seeksArgument, seeksArgument, isArgument_congr h, Location.isMacro,
    Location.isMacro, h]

/-- A search with a bound that is not reached finds the argument at which the walk ends, if that is
one. -/
theorem Follows.argumentOf?_eq
    (walk : Follows map.seeksArgument map.spellingStep visited loc count last)
    (bodies : ∀ place ∈ visited, map.isArgument place = false) {bound : Nat}
    (enough : count < bound) :
    map.argumentOf? bound visited loc = if map.isArgument last then some last else none := by
  induction walk generalizing bound with
  | @here visited loc h =>
    obtain ⟨fewer, rfl⟩ : ∃ fewer, bound = fewer + 1 := ⟨bound - 1, by omega⟩
    rw [argumentOf?]
    cases argument : map.isArgument loc with
    | true =>
      have fresh : loc ∉ visited := fun old ↦ absurd (bodies loc old) (by rw [argument]; simp)
      rw [isMacro_of_isArgument argument, contains_eq_false fresh]
      rfl
    | false =>
      rcases h with still | old
      · have outside : loc.isMacro = false := by
          by_contra inside
          rw [seeksArgument_iff.mpr ⟨Bool.not_eq_false _ ▸ inside, argument⟩] at still
          cases still
        rw [outside]
        rfl
      · rw [List.contains_iff_mem.mpr old, Bool.not_true, Bool.and_false]
        rfl
  | @onward visited loc last count going fresh _ ih =>
    obtain ⟨fewer, rfl⟩ : ∃ fewer, bound = fewer + 1 := ⟨bound - 1, by omega⟩
    obtain ⟨inside, body⟩ := seeksArgument_iff.mp going
    rw [argumentOf?, inside, contains_eq_false fresh, body]
    exact ih (List.forall_mem_cons.mpr ⟨body, bodies⟩) (Nat.lt_of_succ_lt_succ enough)

/-- The bound of a source is enough for every search that ends. -/
theorem FindsLevel.toArgument_eq {level : Location} (h : map.FindsLevel loc level) :
    map.toArgument loc = level := by
  obtain ⟨count, last, walk, rfl⟩ := h
  have few := walk.count_le_of_shiftsAt (carries_spellingStep map)
    (goesByExpansion_seeksArgument map) fun _ ↦ shiftsAt_spellingStep
  rw [toArgument, walk.argumentOf?_eq (List.forall_mem_nil _) (by rw [walkBound]; omega)]
  split <;> rfl

/-! ## Steps outwards -/

private theorem exists_comesToArgument_of_argumentOf? {bound : Nat} {found : Location}
    (h : map.argumentOf? bound visited loc = some found) :
    ∃ count, map.ComesToArgument loc count := by
  induction bound generalizing visited loc with
  | zero => cases h
  | succ bound ih =>
    rw [argumentOf?] at h
    split at h
    · next going =>
      split at h
      · next argument => exact ⟨0, argument, fun _ before ↦ absurd before (Nat.not_lt_zero _)⟩
      · next body =>
        obtain ⟨count, argument, seeks⟩ := ih h
        refine ⟨count + 1, argument, fun passed before ↦ ?_⟩
        cases passed with
        | zero =>
          have inside := (Bool.and_eq_true_iff.mp going).1
          exact seeksArgument_iff.mpr ⟨inside, Bool.eq_false_iff.mpr body⟩
        | succ passed => exact seeks passed (Nat.lt_of_succ_lt_succ before)
    · cases h

/-- The way to the spelling comes to the level of a location, if that is an argument. -/
theorem exists_comesToArgument (h : map.isArgument (map.toArgument loc) = true) :
    ∃ count, map.ComesToArgument loc count := by
  rw [toArgument] at h
  cases found : map.argumentOf? map.walkBound [] loc with
  | none =>
    rw [found] at h
    exact ⟨0, h, fun _ before ↦ absurd before (Nat.not_lt_zero _)⟩
  | some _ => exact exists_comesToArgument_of_argumentOf? found

namespace ComesToArgument

/-- The argument that the way to the spelling comes to is the level. -/
theorem toArgument_eq (h : map.ComesToArgument loc count) :
    map.toArgument loc = Nat.iterate map.spellingStep count loc := by
  have still : map.seeksArgument (Nat.iterate map.spellingStep count loc) = false := by
    rw [seeksArgument, h.argument, Bool.not_true, Bool.and_false]
  have level : map.FindsLevel loc (Nat.iterate map.spellingStep count loc) :=
    ⟨count, _, follows_iterate h.seeks still (List.forall_mem_nil _), by rw [if_pos h.argument]⟩
  exact level.toArgument_eq

/-- On the way to an argument all expansions are known: in any other the walk would have stayed. -/
theorem known (h : map.ComesToArgument loc count) {passed : Nat} (before : passed ≤ count) :
    (map.expansionOf? (Nat.iterate map.spellingStep passed loc)).isSome = true := by
  by_contra unknown
  have unknown := Option.not_isSome_iff_eq_none.mp unknown
  have stays : Nat.iterate map.spellingStep count loc =
      Nat.iterate map.spellingStep passed loc := by
    rw [← Nat.sub_add_cancel before, Function.iterate_add_apply]
    exact Function.iterate_fixed ((carries_spellingStep map).stays unknown) _
  have argument := h.argument
  rw [stays, isArgument, unknown] at argument
  cases argument

/-- The places on the way to an argument, and behind it, are as far from those of another location
in the expansion as the two are apart. -/
theorem shiftsAt_iterate (h : map.ComesToArgument loc count) {passed : Nat}
    (before : passed ≤ count) : ShiftsAt (Nat.iterate map.spellingStep (passed + 1)) loc := by
  induction passed with
  | zero => exact shiftsAt_spellingStep (h.known before)
  | succ passed ih =>
    intro other same
    have known := h.known before
    rw [Function.iterate_succ_apply', ih (Nat.le_of_succ_le before) other same,
      (shiftsAt_spellingStep known).step_move (isMacro_of_isSome known),
      ← Function.iterate_succ_apply' map.spellingStep]

/-- Another location in the same expansion comes to an argument after as many steps. -/
theorem of_expansion_eq (h : map.ComesToArgument loc count)
    (same : other.expansion = loc.expansion) : map.ComesToArgument other count := by
  have expansions {passed : Nat} (before : passed ≤ count) :
      (Nat.iterate map.spellingStep passed other).expansion =
        (Nat.iterate map.spellingStep passed loc).expansion := by
    cases passed with
    | zero => exact same
    | succ passed => exact (h.shiftsAt_iterate (Nat.le_of_succ_le before)).expansion_eq same
  refine ⟨?_, fun passed before ↦ ?_⟩
  · rw [isArgument_congr (expansions (Nat.le_refl count))]
    exact h.argument
  · rw [(goesByExpansion_seeksArgument map).same (expansions (Nat.le_of_lt before))]
    exact h.seeks passed before

/-- From an argument a step outwards leads to where it was written. -/
theorem callerOf_eq (h : map.ComesToArgument loc count) :
    map.callerOf (map.toArgument loc) = Nat.iterate map.spellingStep (count + 1) loc := by
  rw [h.toArgument_eq, callerOf, if_pos h.argument, Function.iterate_succ_apply']

end ComesToArgument

/-- A step outwards looks at the expansion and the distance only: through an argument it keeps that,
and from a body it leads to the start. -/
theorem carries_callerOf (map : SourceMap) :
    map.Carries fun loc ↦ map.callerOf (map.toArgument loc) where
  stays {loc} unknown := by
    cases argument : map.isArgument (map.toArgument loc) with
    | true =>
      obtain ⟨count, comes⟩ := exists_comesToArgument argument
      have known := comes.known (Nat.zero_le count)
      rw [Function.iterate_zero_apply, unknown] at known
      cases known
    | false => rw [callerOf_toArgument_of_not_isArgument argument, startStep, unknown]
  known {loc} known := by
    cases argument : map.isArgument (map.toArgument loc) with
    | true =>
      obtain ⟨count, comes⟩ := exists_comesToArgument argument
      refine Or.inl fun other same ↦ ?_
      dsimp only
      rw [(comes.of_expansion_eq same).callerOf_eq, comes.callerOf_eq]
      exact comes.shiftsAt_iterate (Nat.le_refl count) other same
    | false =>
      obtain ⟨expansion, found⟩ := Option.isSome_iff_exists.mp known
      refine Or.inr fun other same ↦ ?_
      have body : map.isArgument (map.toArgument other) = false := by
        by_contra inside
        obtain ⟨count, comes⟩ := exists_comesToArgument (Bool.not_eq_false _ ▸ inside)
        have back := comes.of_expansion_eq same.symm
        rw [back.toArgument_eq, back.argument] at argument
        cases argument
      dsimp only
      rw [callerOf_toArgument_of_not_isArgument argument,
        callerOf_toArgument_of_not_isArgument body, startStep, startStep, expansionOf?_congr same,
        found]

/-! ## Levels -/

/-- To collect the levels of a location ends, behind the places visited, with some levels and a
leaf. A location outside of the expansions is the leaf; the leaf of a location that was visited is
its expansion site; from any other the walk goes on at the caller of the level. -/
inductive Collects (map : SourceMap) : List Location → Location → Levels → Prop
  | outside {visited : List Location} {loc : Location} (h : loc.isMacro = false) :
    Collects map visited loc ⟨[], loc, none⟩
  | again {visited : List Location} {loc : Location} (inside : loc.isMacro = true)
      (old : loc ∈ visited) : Collects map visited loc ⟨[], map.expansionSite loc, some loc⟩
  | onward {visited : List Location} {loc level : Location} {outer : Levels}
      (inside : loc.isMacro = true) (fresh : loc ∉ visited) (search : map.FindsLevel loc level)
      (rest : Collects map (loc :: visited) (map.callerOf level) outer) :
    Collects map visited loc { outer with levels := level :: outer.levels }

/-- To collect levels is a walk with one step a level. -/
theorem Collects.exists_follows {found : Levels} (h : map.Collects visited loc found) :
    ∃ last, Follows Location.isMacro (fun loc ↦ map.callerOf (map.toArgument loc)) visited loc
      found.levels.length last := by
  induction h with
  | outside outside => exact ⟨_, .here (Or.inl outside)⟩
  | again _ old => exact ⟨_, .here (Or.inr old)⟩
  | onward inside fresh search _ ih =>
    obtain ⟨last, rest⟩ := ih
    exact ⟨last, .onward inside fresh (search.toArgument_eq ▸ rest)⟩

/-- A walk with a bound that is not reached finds the levels and the leaf. -/
theorem Collects.walkOut_eq {found : Levels} (h : map.Collects visited loc found) {bound : Nat}
    (enough : found.levels.length < bound) : map.walkOut bound visited loc = found := by
  induction h generalizing bound with
  | outside outside =>
    obtain ⟨fewer, rfl⟩ : ∃ fewer, bound = fewer + 1 := ⟨bound - 1, by omega⟩
    exact map.walkOut_of_not_isMacro outside fewer _
  | again inside old =>
    obtain ⟨fewer, rfl⟩ : ∃ fewer, bound = fewer + 1 := ⟨bound - 1, by omega⟩
    exact map.walkOut_of_mem inside old fewer
  | onward inside fresh search _ ih =>
    obtain ⟨fewer, rfl⟩ : ∃ fewer, bound = fewer + 1 := ⟨bound - 1, by omega⟩
    rw [List.length_cons] at enough
    rw [map.walkOut_of_not_mem inside fresh, search.toArgument_eq,
      ih (Nat.lt_of_succ_lt_succ enough)]

/-- The bound of a source is enough wherever collecting the levels ends. -/
theorem Collects.levelsOf_eq {found : Levels} (h : map.Collects [] loc found) :
    map.levelsOf loc = found := by
  obtain ⟨last, walk⟩ := h.exists_follows
  have few := walk.count_le (carries_callerOf map) goesByExpansion_isMacro
  exact h.walkOut_eq (by omega)

/-! ## Names -/

/-- The walk out of the arguments around a location goes on from an argument. -/
def leavesArgument (map : SourceMap) (loc : Location) : Bool :=
  loc.isMacro && map.isArgument loc

/-- A walk out of arguments with a bound that is not reached comes to the body. -/
theorem Follows.outOfArguments_eq
    (walk : Follows map.leavesArgument map.startStep visited loc count last) {bound : Nat}
    (enough : count ≤ bound) : map.outOfArguments bound visited loc = last := by
  induction walk generalizing bound with
  | @here visited loc h =>
    cases bound with
    | zero => rfl
    | succ bound =>
      rw [outOfArguments, ← leavesArgument]
      rcases h with still | old
      · rw [still]
        rfl
      · rw [List.contains_iff_mem.mpr old, Bool.not_true, Bool.and_false]
        rfl
  | onward going fresh _ ih =>
    obtain ⟨fewer, rfl⟩ : ∃ fewer, bound = fewer + 1 := ⟨bound - 1, by omega⟩
    rw [outOfArguments, ← leavesArgument, going, contains_eq_false fresh]
    exact ih (Nat.le_of_succ_le_succ enough)

/-- Where each step leads to an expansion before, every walk ends, and at none behind its start. -/
theorem exists_follows_of_descends {limit : Nat} {step : Location → Location}
    {goesOn : Location → Bool} (h : Descends limit step)
    (inside : ∀ {loc : Location}, goesOn loc = true → loc.isMacro = true)
    (start : loc.Below limit) :
    ∃ count last, Follows goesOn step visited loc count last ∧ last.Below limit := by
  induction high : loc.height using Nat.strongRecOn generalizing loc visited with
  | ind below ih =>
    by_cases onward : goesOn loc = true ∧ loc ∉ visited
    · obtain ⟨going, fresh⟩ := onward
      obtain ⟨next, lower⟩ := h loc start (inside going)
      obtain ⟨count, last, rest, known⟩ :
          ∃ count last, Follows goesOn step (loc :: visited) (step loc) count last ∧
            last.Below limit := ih _ (high ▸ lower) next rfl
      exact ⟨count + 1, last, .onward going fresh rest, known⟩
    · refine ⟨0, loc, .here ?_, start⟩
      rcases Bool.eq_false_or_eq_true (goesOn loc) with going | still
      · exact Or.inr (by_contra fun fresh ↦ onward ⟨going, fresh⟩)
      · exact Or.inl still

namespace Grounded

private theorem findsLevel (h : map.Grounded) (start : loc.Below map.expansions.length) :
    map.FindsLevel loc (map.toArgument loc) := by
  obtain ⟨count, last, walk, -⟩ := exists_follows_of_descends h.descends_spellingStep
    (goesByExpansion_seeksArgument map).isMacro start
  have level : map.FindsLevel loc _ := ⟨count, last, walk, rfl⟩
  rwa [level.toArgument_eq]

/-- In a grounded source a walk outwards ends. The induction is on the height of the location, which
each step outwards lowers. -/
theorem exists_collects (h : map.Grounded) (start : loc.Below map.expansions.length) :
    ∃ found, map.Collects visited loc found := by
  induction high : loc.height using Nat.strongRecOn generalizing loc visited with
  | ind below ih =>
    cases inside : loc.isMacro with
    | false => exact ⟨_, .outside inside⟩
    | true =>
      by_cases old : loc ∈ visited
      · exact ⟨_, .again inside old⟩
      · obtain ⟨next, lower⟩ := h.descends_outwards loc start inside
        obtain ⟨outer, rest⟩ : ∃ outer, map.Collects (loc :: visited) _ outer :=
          ih _ (high ▸ lower) next rfl
        exact ⟨_, .onward inside old (h.findsLevel start) rest⟩

/-- In a grounded source the levels of a location can be collected. -/
theorem collects (h : map.Grounded) (start : loc.Below map.expansions.length) :
    map.Collects [] loc (map.levelsOf loc) := by
  obtain ⟨found, collected⟩ : ∃ found, map.Collects [] loc found := h.exists_collects start
  rwa [collected.levelsOf_eq]

end Grounded

end Caret.SourceMap
