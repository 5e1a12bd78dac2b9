import Caret.Proofs.Source.ExpansionWalks
import Caret.Proofs.Source.Registration
import Mathlib.Data.Finset.Card
import Mathlib.Order.Interval.Finset.Nat

/-!
# Walks to where something was written

A step to where a code point was written keeps its distance from others in the expansion. So a walk
over such steps that comes back to an expansion may come to another place there, and then it comes
back to no place and never ends. But where it ends, it ends soon: after at most one step more than
there are expansions. Steps that leave an expansion for the start of what it replaced forget the
distance, and then a second round is the last. So the bounds of a source are enough for every walk
that ends at all.
-/

namespace Caret.SourceMap

/-! ## Steps and distances -/

/-- A step takes the locations in the expansion of this one to places as far apart as they are. -/
def ShiftsAt (step : Location → Location) (loc : Location) : Prop :=
  ∀ other : Location, other.expansion = loc.expansion →
    step other = (step loc).move (other.offset - loc.offset)

/-- A step takes the locations in the expansion of this one to one place. -/
def ResetsAt (step : Location → Location) (loc : Location) : Prop :=
  ∀ other : Location, other.expansion = loc.expansion → step other = step loc

/-- A step looks at no more of a location than its expansion and the distance there, which it keeps
or forgets; in an expansion that is not known it stays. -/
structure Carries (map : SourceMap) (step : Location → Location) : Prop where
  stays : ∀ {loc : Location}, map.expansionOf? loc = none → step loc = loc
  known : ∀ {loc : Location}, (map.expansionOf? loc).isSome = true →
    ShiftsAt step loc ∨ ResetsAt step loc

/-- Whether a walk goes on from a location depends on its expansion, and outside of the expansions
it does not. -/
structure GoesByExpansion (goesOn : Location → Bool) : Prop where
  isMacro : ∀ {loc : Location}, goesOn loc = true → loc.isMacro = true
  same : ∀ {loc other : Location}, other.expansion = loc.expansion → goesOn other = goesOn loc

section Step

variable {step : Location → Location} {loc other : Location}

/-- A step that keeps distances does so at all locations of an expansion. -/
theorem ShiftsAt.of_expansion_eq (h : ShiftsAt step loc)
    (same : other.expansion = loc.expansion) : ShiftsAt step other := by
  intro place inside
  rw [h place (inside.trans same), h other same, Location.move_move]
  congr 1
  omega

/-- A step that keeps distances leads out of an expansion to one other. -/
theorem ShiftsAt.expansion_eq (h : ShiftsAt step loc)
    (same : other.expansion = loc.expansion) :
    (step other).expansion = (step loc).expansion := by
  rw [h other same, Location.expansion_move]

/-- A step that keeps distances may be taken before a move or behind it. -/
theorem ShiftsAt.step_move (h : ShiftsAt step loc) (inside : loc.isMacro = true)
    (distance : Int) : step (loc.move distance) = (step loc).move distance := by
  rw [h _ (Location.expansion_move loc distance), Location.move_of_isMacro inside]
  congr 1
  exact add_sub_cancel_left _ _

end Step

/-! ## Rounds -/

/-- A walk comes back to an expansion after some steps inside of the expansions, all of which keep
distances. -/
structure IsRound (step : Location → Location) (loc : Location) (period : Nat) : Prop where
  positive : 0 < period
  inside : ∀ count < period, (Nat.iterate step count loc).isMacro = true
  shifts : ∀ count < period, ShiftsAt step (Nat.iterate step count loc)
  back : (Nat.iterate step period loc).expansion = loc.expansion

/-- How much further in its expansion a walk is after a round. -/
def drift (step : Location → Location) (loc : Location) (period : Nat) : Int :=
  (Nat.iterate step period loc).offset - loc.offset

namespace IsRound

variable {step : Location → Location} {loc : Location} {period : Nat}

/-- All steps behind a round keep distances, and go through the same expansions again. -/
theorem shiftsAt_and_expansion_eq (h : IsRound step loc period) (count : Nat) :
    ShiftsAt step (Nat.iterate step count loc) ∧
      (Nat.iterate step (count + period) loc).expansion =
        (Nat.iterate step count loc).expansion := by
  induction count using Nat.strongRecOn with
  | ind count ih =>
    constructor
    · rcases Nat.lt_or_ge count period with within | behind
      · exact h.shifts count within
      · have positive := h.positive
        obtain ⟨shifts, same⟩ := ih (count - period) (by omega)
        rw [Nat.sub_add_cancel behind] at same
        exact shifts.of_expansion_eq same
    · cases count with
      | zero =>
        rw [Nat.zero_add]
        exact h.back
      | succ count =>
        obtain ⟨shifts, same⟩ := ih count (Nat.lt_succ_self count)
        rw [Nat.succ_add, Function.iterate_succ_apply', Function.iterate_succ_apply']
        exact shifts.expansion_eq same

/-- Each place behind a round is in the expansion of one on it. -/
theorem exists_expansion_eq (h : IsRound step loc period) (count : Nat) :
    ∃ within < period, (Nat.iterate step count loc).expansion =
      (Nat.iterate step within loc).expansion := by
  induction count using Nat.strongRecOn with
  | ind count ih =>
    rcases Nat.lt_or_ge count period with within | behind
    · exact ⟨count, within, rfl⟩
    · have positive := h.positive
      obtain ⟨within, lt, same⟩ := ih (count - period) (by omega)
      have again := (h.shiftsAt_and_expansion_eq (count - period)).2
      rw [Nat.sub_add_cancel behind] at again
      exact ⟨within, lt, again.trans same⟩

/-- A walk that has taken a round stays inside of the expansions. -/
theorem isMacro_iterate (h : IsRound step loc period) (count : Nat) :
    (Nat.iterate step count loc).isMacro = true := by
  obtain ⟨within, lt, same⟩ := h.exists_expansion_eq count
  have inside := h.inside within lt
  rw [Location.isMacro] at inside ⊢
  rwa [same]

/-- Behind its first step each round leads as much further as the first. -/
theorem iterate_add_period (h : IsRound step loc period) (count : Nat) :
    Nat.iterate step (count + 1 + period) loc =
      (Nat.iterate step (count + 1) loc).move (drift step loc period) := by
  induction count with
  | zero =>
    rw [Nat.zero_add, Nat.add_comm, Function.iterate_succ_apply']
    exact (h.shiftsAt_and_expansion_eq 0).1 _ h.back
  | succ count ih =>
    have shifts := (h.shiftsAt_and_expansion_eq (count + 1)).1
    rw [Nat.succ_add, Function.iterate_succ_apply', ih,
      shifts.step_move (h.isMacro_iterate (count + 1)), ← Function.iterate_succ_apply' step]

private theorem iterate_add_mul (h : IsRound step loc period) (count rounds : Nat) :
    Nat.iterate step (count + 1 + period * rounds) loc =
      (Nat.iterate step (count + 1) loc).move (rounds * drift step loc period) := by
  induction rounds with
  | zero => rw [Nat.mul_zero, Nat.add_zero, Int.natCast_zero, Int.zero_mul, Location.move_zero]
  | succ rounds ih =>
    have split : count + 1 + period * (rounds + 1) = count + period * rounds + 1 + period := by
      rw [Nat.mul_succ]
      omega
    have onward : count + period * rounds + 1 = count + 1 + period * rounds := by omega
    rw [split, h.iterate_add_period, onward, ih, Location.move_move, Int.natCast_succ,
      Int.add_mul, Int.one_mul]

/-- A walk whose rounds lead further comes back to no place behind its first step. -/
theorem iterate_ne (h : IsRound step loc period) (further : drift step loc period ≠ 0)
    (first : Nat) {more : Nat} (positive : 0 < more) :
    Nat.iterate step (first + 1 + more) loc ≠ Nat.iterate step (first + 1) loc := by
  intro same
  have stays (rounds : Nat) : Nat.iterate step (first + 1 + more * rounds) loc =
      Nat.iterate step (first + 1) loc := by
    rw [Nat.add_comm, Function.iterate_add_apply, Function.iterate_mul]
    refine Function.iterate_fixed ?_ rounds
    rw [← Function.iterate_add_apply, Nat.add_comm]
    exact same
  -- As many rounds as it takes steps to come back lead to the place, and further.
  have moved := h.iterate_add_mul first more
  rw [Nat.mul_comm, stays, Location.move_of_isMacro (h.isMacro_iterate (first + 1))] at moved
  have offsets := congrArg Location.offset moved
  have none_moved : (more : Int) * drift step loc period = 0 := by
    dsimp only at offsets
    omega
  rcases Int.mul_eq_zero.mp none_moved with no_step | no_drift
  · omega
  · exact further no_drift

end IsRound

/-! ## Where walks end -/

variable {map : SourceMap} {goesOn : Location → Bool} {step : Location → Location}
  {loc last : Location} {count : Nat}

private theorem height_of_isSome (known : (map.expansionOf? loc).isSome = true) :
    1 ≤ loc.height ∧ loc.height ≤ map.expansions.length ∧
      loc.expansion = some (loc.height : Int) := by
  unfold expansionOf? at known
  unfold Location.height
  cases inside : loc.expansion with
  | none =>
    rw [inside] at known
    cases known
  | some number =>
    rw [inside] at known
    dsimp only at known
    split at known
    · cases known
    · next positive =>
      obtain ⟨expansion, stored⟩ := Option.isSome_iff_exists.mp known
      have within := (List.getElem?_eq_some_iff.mp stored).1
      rw [Option.getD_some]
      refine ⟨by omega, by omega, congrArg some (by omega)⟩

private theorem iterate_behind (step : Location → Location) (loc : Location) (start more : Nat) :
    Nat.iterate step more (Nat.iterate step start loc) = Nat.iterate step (start + more) loc := by
  rw [← Function.iterate_add_apply, Nat.add_comm]

/-- A walk that ends has taken no round that leads further. -/
theorem Follows.drift_eq_zero (walk : Follows goesOn step [] loc count last)
    (byExpansion : GoesByExpansion goesOn) {start period : Nat}
    (round : IsRound step (Nat.iterate step start loc) period) (before : start + period < count) :
    drift step (Nat.iterate step start loc) period = 0 := by
  by_contra further
  have ends := walk.eq_iterate
  have positive := round.positive
  cases going : goesOn last with
  | false =>
    obtain ⟨within, lt, same⟩ := round.exists_expansion_eq (count - start)
    rw [iterate_behind, iterate_behind, Nat.add_sub_cancel' (by omega), ← ends] at same
    rw [byExpansion.same same, walk.goesOn_iterate (by omega)] at going
    cases going
  | true =>
    rcases walk.last_mem going with again | none_visited
    · obtain ⟨first, lt, same⟩ := List.mem_iterate.mp again
      obtain ⟨more, rfl⟩ : ∃ more, count = first + more := ⟨count - first, by omega⟩
      refine round.iterate_ne further first (Nat.lt_add_right_iff_pos.mp lt) ?_
      -- From the place that it has come back to, the walk goes on as it did before.
      calc Nat.iterate step (first + 1 + more) (Nat.iterate step start loc)
          = Nat.iterate step (start + 1 + (first + more)) loc := by
            rw [iterate_behind]
            congr 1
            omega
        _ = Nat.iterate step (start + 1) last := by rw [Function.iterate_add_apply, ends]
        _ = Nat.iterate step (start + 1 + first) loc := by
            rw [same, ← Function.iterate_add_apply]
        _ = Nat.iterate step (first + 1) (Nat.iterate step start loc) := by
            rw [iterate_behind]
            congr 1
            omega
    · cases none_visited

/-- A walk goes on from known expansions only, but for its last step. -/
theorem Follows.known (walk : Follows goesOn step [] loc count last) (carries : map.Carries step)
    {passed : Nat} (before : passed + 1 < count) :
    (map.expansionOf? (Nat.iterate step passed loc)).isSome = true := by
  by_contra unknown
  have stays := carries.stays (Option.not_isSome_iff_eq_none.mp unknown)
  refine walk.iterate_ne (Nat.lt_succ_self passed) before ?_
  rw [Function.iterate_succ_apply', stays]

/-- A step leads out of a known expansion to one other. -/
theorem Carries.expansion_eq (carries : map.Carries step) {other : Location}
    (known : (map.expansionOf? loc).isSome = true) (same : other.expansion = loc.expansion) :
    (step other).expansion = (step loc).expansion := by
  rcases carries.known known with shifts | resets
  · exact shifts.expansion_eq same
  · rw [resets other same]

/-- A walk with more steps than there are expansions, and one, has come back to an expansion. -/
theorem Follows.exists_expansion_eq (walk : Follows goesOn step [] loc count last)
    (carries : map.Carries step) (long : map.expansions.length + 1 < count) :
    ∃ start period, 0 < period ∧ start + period ≤ map.expansions.length ∧
      (Nat.iterate step (start + period) loc).expansion =
        (Nat.iterate step start loc).expansion := by
  have heights {passed : Nat} (within : passed ≤ map.expansions.length) :=
    height_of_isSome (walk.known carries (Nat.lt_of_le_of_lt (Nat.succ_le_succ within) long))
  have fewer : (Finset.Icc 1 map.expansions.length).card <
      (Finset.range (map.expansions.length + 1)).card := by
    rw [Nat.card_Icc, Finset.card_range]
    omega
  obtain ⟨first, first_in, second, second_in, ne, same⟩ :=
    Finset.exists_ne_map_eq_of_card_lt_of_maps_to fewer
      (f := fun passed ↦ (Nat.iterate step passed loc).height) fun passed member ↦ by
        have bounds := heights (Nat.le_of_lt_succ (Finset.mem_range.mp member))
        exact Finset.mem_coe.mpr (Finset.mem_Icc.mpr ⟨bounds.1, bounds.2.1⟩)
  have first_le := Nat.le_of_lt_succ (Finset.mem_range.mp first_in)
  have second_le := Nat.le_of_lt_succ (Finset.mem_range.mp second_in)
  have expansions : (Nat.iterate step first loc).expansion =
      (Nat.iterate step second loc).expansion := by
    rw [(heights first_le).2.2, (heights second_le).2.2]
    exact congrArg (fun height : Nat ↦ some (height : Int)) same
  rcases Nat.lt_or_gt_of_ne ne with lt | gt
  · refine ⟨first, second - first, by omega, by omega, ?_⟩
    rw [Nat.add_sub_cancel' (Nat.le_of_lt lt), expansions]
  · refine ⟨second, first - second, by omega, by omega, ?_⟩
    rw [Nat.add_sub_cancel' (Nat.le_of_lt gt), expansions]

/-- A walk with more steps than there are expansions, and one, has come back to an expansion behind
a step that forgets the distance: otherwise it would never end. -/
theorem Follows.exists_not_shiftsAt (walk : Follows goesOn step [] loc count last)
    (carries : map.Carries step) (byExpansion : GoesByExpansion goesOn)
    (long : map.expansions.length + 1 < count) :
    ∃ start period, 0 < period ∧ start + period < 2 * map.expansions.length ∧
      (map.expansionOf? (Nat.iterate step start loc)).isSome = true ∧
      ¬ ShiftsAt step (Nat.iterate step start loc) ∧
      (Nat.iterate step (start + period) loc).expansion =
        (Nat.iterate step start loc).expansion := by
  obtain ⟨start, period, positive, few, back⟩ := walk.exists_expansion_eq carries long
  by_cases shifts : ∀ more < period, ShiftsAt step (Nat.iterate step (start + more) loc)
  · have round : IsRound step (Nat.iterate step start loc) period := by
      refine ⟨positive, fun more lt ↦ ?_, fun more lt ↦ ?_, ?_⟩
      · rw [iterate_behind]
        exact byExpansion.isMacro (walk.goesOn_iterate (by omega))
      · rw [iterate_behind]
        exact shifts more lt
      · rw [iterate_behind]
        exact back
    have again := round.iterate_add_period 0
    rw [walk.drift_eq_zero byExpansion round (by omega), Location.move_zero,
      iterate_behind, iterate_behind] at again
    exact absurd again.symm (walk.iterate_ne (by omega) (by omega))
  · obtain ⟨more, within, forgets⟩ : ∃ more < period,
        ¬ ShiftsAt step (Nat.iterate step (start + more) loc) := by
      simpa only [not_forall, exists_prop] using shifts
    have known (passed : Nat) (le : passed ≤ more) :
        (map.expansionOf? (Nat.iterate step (start + passed) loc)).isSome = true :=
      walk.known carries (by omega)
    have same (passed : Nat) (le : passed ≤ more) :
        (Nat.iterate step (start + passed + period) loc).expansion =
          (Nat.iterate step (start + passed) loc).expansion := by
      induction passed with
      | zero => exact back
      | succ passed ih =>
        have here := carries.expansion_eq (known passed (Nat.le_of_succ_le le))
          (ih (Nat.le_of_succ_le le))
        rw [← Function.iterate_succ_apply' step, ← Function.iterate_succ_apply' step] at here
        rwa [← Nat.add_assoc, Nat.succ_add]
    exact ⟨start + more, period, positive, by omega, known more (Nat.le_refl _), forgets,
      same more (Nat.le_refl _)⟩

/-- A walk that ends takes no more than two steps for each expansion, and one. -/
theorem Follows.count_le (walk : Follows goesOn step [] loc count last)
    (carries : map.Carries step) (byExpansion : GoesByExpansion goesOn) :
    count ≤ 2 * map.expansions.length + 1 := by
  by_contra long
  obtain ⟨start, period, positive, few, known, forgets, same⟩ :=
    walk.exists_not_shiftsAt carries byExpansion (by omega)
  have resets := (carries.known known).resolve_left forgets
  have apart : Nat.iterate step (start + 1) loc ≠ Nat.iterate step (start + period + 1) loc :=
    walk.iterate_ne (by omega) (by omega)
  refine apart ?_
  rw [Function.iterate_succ_apply', Function.iterate_succ_apply', resets _ same]

/-- A walk that ends, and whose steps keep distances, takes no more than one step for each
expansion, and one. -/
theorem Follows.count_le_of_shiftsAt (walk : Follows goesOn step [] loc count last)
    (carries : map.Carries step) (byExpansion : GoesByExpansion goesOn)
    (shifts : ∀ place, (map.expansionOf? place).isSome = true → ShiftsAt step place) :
    count ≤ map.expansions.length + 1 := by
  by_contra long
  obtain ⟨start, -, -, -, known, forgets, -⟩ :=
    walk.exists_not_shiftsAt carries byExpansion (by omega)
  exact forgets (shifts _ known)

/-! ## Steps to where something was written -/

/-- What expansion a location is in does not depend on its distance. -/
theorem expansionOf?_congr {other : Location} (same : other.expansion = loc.expansion) :
    map.expansionOf? other = map.expansionOf? loc := by
  unfold expansionOf?
  rw [same]

/-- Steps to where something was written keep distances. -/
theorem shiftsAt_spellingStep (known : (map.expansionOf? loc).isSome = true) :
    ShiftsAt map.spellingStep loc := by
  intro other same
  obtain ⟨expansion, found⟩ := Option.isSome_iff_exists.mp known
  have further : loc.offset + (other.offset - loc.offset) = other.offset := by omega
  rw [spellingStep, spellingStep, expansionOf?_congr same, found]
  dsimp only
  rw [Location.move_move, further]

/-- A step to where something was written looks at the expansion and the distance only. -/
theorem carries_spellingStep (map : SourceMap) : map.Carries map.spellingStep where
  stays unknown := by rw [spellingStep, unknown]
  known known := Or.inl (shiftsAt_spellingStep known)

/-- Whether a location is in an argument depends on its expansion. -/
theorem isArgument_congr {other : Location} (same : other.expansion = loc.expansion) :
    map.isArgument other = map.isArgument loc := by
  unfold isArgument
  rw [expansionOf?_congr same]

/-- A location in an argument is in an expansion. -/
theorem isMacro_of_isArgument (h : map.isArgument loc = true) : loc.isMacro = true := by
  have known : (map.expansionOf? loc).isSome = true := by
    rw [isArgument] at h
    cases found : map.expansionOf? loc with
    | none =>
      rw [found] at h
      cases h
    | some _ => rfl
  exact isMacro_of_isSome known

/-- A walk inside of the expansions goes by them. -/
theorem goesByExpansion_isMacro : GoesByExpansion Location.isMacro where
  isMacro inside := inside
  same h := by rw [Location.isMacro, Location.isMacro, h]

end Caret.SourceMap
