import Caret.Proofs.Source.Registration
import Mathlib.Data.List.Iterate

/-!
# Walks outwards are well founded

A walk outwards may go down the spelling of a location to an argument before it leaves that
through its spelling, or leave a macro body through its start. In a grounded source each of these
steps goes to an expansion before, so that the walk ends although nothing bounds it: the numbers of
the expansions of its levels fall from the innermost outwards. Where it meets no argument, its
levels are the successive starts, and it ends at the expansion site.
-/

namespace Caret

/-- The expansion that a location is in has the number of its height. -/
theorem Location.Below.expansion_eq {limit : Nat} {loc : Location} (h : loc.Below limit)
    (inside : loc.isMacro = true) : loc.expansion = some (loc.height : Int) := by
  obtain ⟨number, found⟩ := Option.isSome_iff_exists.mp inside
  have bounds := h number found
  rw [Location.height, found, Option.getD_some]
  exact congrArg some (by omega)

namespace SourceMap

/-! ## Walks without a bound -/

/-- The way of a location to its spelling comes to an argument, or leaves the expansions without
one. -/
inductive FindsArgument (map : SourceMap) : Location → Option Location → Prop
  | outside {loc : Location} (h : loc.isMacro = false) : FindsArgument map loc none
  | here {loc : Location} (inside : loc.isMacro = true) (argument : map.isArgument loc = true) :
    FindsArgument map loc (some loc)
  | onward {loc : Location} {found : Option Location} (inside : loc.isMacro = true)
      (body : map.isArgument loc = false) (rest : FindsArgument map (map.spellingStep loc) found) :
    FindsArgument map loc found

/-- A walk outwards from a location passes some levels, the innermost first, and ends at a leaf:
from each location inside of the expansions it goes to the first argument on the way to its
spelling, if there is one, and from there to the caller. -/
inductive WalksOut (map : SourceMap) : Location → List Location → Location → Prop
  | outside {loc : Location} (h : loc.isMacro = false) : WalksOut map loc [] loc
  | onward {loc leaf : Location} {found : Option Location} {outer : List Location}
      (inside : loc.isMacro = true) (search : FindsArgument map loc found)
      (rest : WalksOut map (map.callerOf (found.getD loc)) outer leaf) :
    WalksOut map loc (found.getD loc :: outer) leaf

variable {map : SourceMap} {loc : Location}

/-- In a grounded source the search for an argument ends, and its bound is not reached. -/
theorem Grounded.findsArgument (h : map.Grounded) {bound : Nat} {visited : List Location}
    (start : loc.Below map.expansions.length)
    (behind : ∀ place ∈ visited, loc.height < place.height) (enough : loc.height < bound) :
    map.FindsArgument loc (map.argumentOf? bound visited loc) := by
  induction bound generalizing visited loc with
  | zero => exact absurd enough (Nat.not_lt_zero _)
  | succ bound ih =>
    have fresh : loc ∉ visited := fun member ↦ Nat.lt_irrefl _ (behind loc member)
    rw [argumentOf?, contains_eq_false fresh]
    cases inside : loc.isMacro with
    | false => exact .outside inside
    | true =>
      cases argument : map.isArgument loc with
      | true => exact .here inside argument
      | false =>
        obtain ⟨next, lower⟩ := h.descends_spellingStep loc start inside
        refine .onward inside argument (ih next (fun place member ↦ ?_) (by omega))
        rcases List.mem_cons.mp member with rfl | earlier
        · exact lower
        · exact Nat.lt_trans lower (behind place earlier)

/-- In a grounded source a walk outwards ends, and its levels and leaf are those found. The
induction is on the height of the location, which each step outwards lowers. -/
theorem Grounded.walksOut (h : map.Grounded) (start : loc.Below map.expansions.length) :
    map.WalksOut loc (map.levelsOf loc).levels (map.levelsOf loc).leaf := by
  induction high : loc.height using Nat.strongRecOn generalizing loc with
  | ind below ih =>
    cases inside : loc.isMacro with
    | false =>
      rw [map.levelsOf_of_not_isMacro inside]
      exact .outside inside
    | true =>
      obtain ⟨next, lower⟩ := h.descends_outwards loc start inside
      have limit := start.height_le
      have search : map.FindsArgument loc (map.argumentOf? map.walkBound [] loc) :=
        h.findsArgument start (List.forall_mem_nil _) (by unfold walkBound; omega)
      rw [h.levelsOf_of_isMacro start inside]
      exact .onward inside search (ih _ (high ▸ lower) next rfl)

/-! ## Levels that fall -/

/-- The levels of a location are in expansions up to its own, each in one before the level inside of
it. -/
theorem Grounded.levels_descend (h : map.Grounded) (start : loc.Below map.expansions.length) :
    (∀ level ∈ (map.levelsOf loc).levels, level.height ≤ loc.height) ∧
      (map.levelsOf loc).levels.Pairwise (fun inner outer ↦ outer.height < inner.height) ∧
      (map.levelsOf loc).levels.length ≤ loc.height := by
  induction high : loc.height using Nat.strongRecOn generalizing loc with
  | ind below ih =>
    cases inside : loc.isMacro with
    | false =>
      rw [map.levelsOf_of_not_isMacro inside]
      exact ⟨List.forall_mem_nil _, List.Pairwise.nil, Nat.zero_le _⟩
    | true =>
      obtain ⟨level, macro_level, le⟩ := h.toArgument_bounds start inside
      obtain ⟨next, lower⟩ := h.descends_callerOf _ level macro_level
      obtain ⟨outer, falling, count⟩ := ih _ (by omega) next rfl
      rw [h.levelsOf_of_isMacro start inside]
      refine ⟨?_, List.pairwise_cons.mpr ⟨?_, falling⟩, ?_⟩
      · intro other member
        rcases List.mem_cons.mp member with rfl | later
        · omega
        · have := outer other later
          omega
      · intro other later
        have := outer other later
        omega
      · rw [List.length_cons]
        omega

/-- The numbers of the expansions of the levels fall from the innermost outwards. -/
theorem Grounded.exists_numbers (h : map.Grounded) (start : loc.Below map.expansions.length) :
    ∃ numbers : List Int, (map.levelsOf loc).levels.map (·.expansion) = numbers.map some ∧
      numbers.Pairwise (· > ·) := by
  obtain ⟨-, -, known⟩ := h.levelsOf_bounds start
  obtain ⟨-, falling, -⟩ := h.levels_descend start
  refine ⟨(map.levelsOf loc).levels.map fun level ↦ (level.height : Int), ?_, ?_⟩
  · rw [List.map_map]
    exact List.map_congr_left fun level member ↦
      (known level member).1.expansion_eq (known level member).2
  · rw [List.pairwise_map]
    exact falling.imp fun lower ↦ Int.ofNat_lt.mpr lower

/-! ## Walks that meet no argument -/

/-- What a search for an argument finds is one. -/
theorem FindsArgument.isArgument {argument : Location}
    (search : map.FindsArgument loc (some argument)) : map.isArgument argument = true := by
  generalize result : some argument = found at search
  induction search with
  | outside => cases result
  | here _ argument =>
    cases result
    exact argument
  | onward _ _ _ ih => exact ih result

/-- A walk that meets no argument goes from start to start. -/
theorem WalksOut.eq_iterate {levels : List Location} {leaf : Location}
    (walk : map.WalksOut loc levels leaf)
    (bodies : ∀ level ∈ levels, map.isArgument level = false) :
    levels = List.iterate map.startStep loc levels.length ∧
      leaf = Nat.iterate map.startStep levels.length loc := by
  induction walk with
  | outside => exact ⟨rfl, rfl⟩
  | @onward loc leaf found outer inside search rest ih =>
    obtain ⟨body, outer_bodies⟩ := List.forall_mem_cons.mp bodies
    cases found with
    | some argument =>
      rw [Option.getD_some, search.isArgument] at body
      cases body
    | none =>
      rw [Option.getD_none] at body
      have caller : map.callerOf loc = map.startStep loc := by
        rw [callerOf, body]
        rfl
      rw [Option.getD_none, caller] at ih
      obtain ⟨levels, end_reached⟩ := ih outer_bodies
      exact ⟨congrArg (loc :: ·) levels, end_reached⟩

/-- Collecting levels is well founded. In a grounded source a walk outwards from a location over its
expansions ends without coming back to a place, outside of the expansions, and the levels and the
leaf found are those of the walk. The numbers of the expansions of the levels fall from the
innermost outwards, so that no level comes twice and there are at most as many as expansions. If no
level is an argument, as where the walk meets none, then the levels are the location and its
successive starts, and the leaf is the expansion site. -/
theorem Grounded.levelsOf_well_founded (h : map.Grounded)
    (start : loc.Below map.expansions.length) :
    let found := map.levelsOf loc
    map.WalksOut loc found.levels found.leaf ∧ found.cycle = none ∧
    (∃ numbers : List Int, found.levels.map (·.expansion) = numbers.map some ∧
      numbers.Pairwise (· > ·)) ∧
    found.levels.Nodup ∧ found.levels.length ≤ map.expansions.length ∧
    found.leaf.isMacro = false ∧
    ((∀ level ∈ found.levels, map.isArgument level = false) →
      found.levels = List.iterate map.startStep loc found.levels.length ∧
      found.leaf = Nat.iterate map.startStep found.levels.length loc ∧
      found.leaf = map.expansionSite loc) := by
  intro found
  have walk := h.walksOut start
  obtain ⟨finite, leaf, -⟩ := h.levelsOf_bounds start
  obtain ⟨-, falling, count⟩ := h.levels_descend start
  have distinct : found.levels.Nodup := by
    refine falling.imp fun lower same ↦ ?_
    rw [same] at lower
    exact Nat.lt_irrefl _ lower
  refine ⟨walk, finite, h.exists_numbers start, distinct,
    Nat.le_trans count start.height_le, leaf, fun bodies ↦ ?_⟩
  obtain ⟨levels, end_reached⟩ := walk.eq_iterate bodies
  exact ⟨levels, end_reached, map.leaf_levelsOf_of_no_argument finite bodies⟩

/-- A macro that passes its argument on to another one: a file that defines both and uses the first,
the body of the first and the argument in it, the body of the second inside of that and the argument
in it. -/
def nestedSource : SourceMap :=
  ((((empty.register
    (.file "a.c".toList "#define F(x) G(x)\n#define G(y) y\nF(a)\n".toList .invalid)).register
    (.body (.inFile 1 13) (.inFile 1 33) (some (.inFile 1 36)) 4)).register
    (.argument (.inFile 1 35) { offset := 2, expansion := some 1 } 1)).register
    (.body (.inFile 1 31) (.ofExpansion 1) (some { offset := 3, expansion := some 1 }) 1)).register
    (.argument (.ofExpansion 2) (.ofExpansion 3) 1)

/-- The argument of the second macro was written as that of the first, and that in the file; the
body of the second is in that of the first, which starts in the file. -/
theorem levelsOf_well_founded_of_nested :
    let map := nestedSource
    let argument := map.levelsOf (.ofExpansion 4)
    let body := map.levelsOf (.ofExpansion 3)
    (map.Grounded ∧ (Location.ofExpansion 4).Below map.expansions.length ∧
      (Location.ofExpansion 3).Below map.expansions.length ∧
      ∀ level ∈ body.levels, map.isArgument level = false) ∧
    map.WalksOut (.ofExpansion 4) [.ofExpansion 4, .ofExpansion 2] (.inFile 1 35) ∧
    argument.cycle = none ∧
    body.levels = List.iterate map.startStep (.ofExpansion 3) 2 ∧
    body.leaf = map.expansionSite (.ofExpansion 3) := by
  intro map argument body
  have built : map.Built :=
    .register (.register (.register (.register (.register .empty (by decide)) (by decide))
      (by decide)) (by decide)) (by decide)
  have grounded := built.closed.grounded
  have known : (Location.ofExpansion 4).Below map.expansions.length := by decide
  have known' : (Location.ofExpansion 3).Below map.expansions.length := by decide
  have bodies : ∀ level ∈ body.levels, map.isArgument level = false := by decide
  obtain ⟨walk, finite, -⟩ := grounded.levelsOf_well_founded known
  obtain ⟨-, -, -, -, -, -, starts⟩ := grounded.levelsOf_well_founded known'
  obtain ⟨levels, -, leaf⟩ := starts bodies
  exact ⟨⟨grounded, known, known', bodies⟩, walk, finite, levels, leaf⟩

end SourceMap

end Caret
