import Caret.Proofs.Backtrace.Levels
import Mathlib.Data.List.Iterate

/-!
# Walks to the places that expansions replaced

The walk from a location to its expansion site, and the one to the end of what was replaced, go
from expansion to expansion wherever these refer to, be it in circles. Both end all the same. The
steps do not look at the offset of a location, so behind its first place a walk comes only to the
places that the expansions name, and it goes on from each of them once. So it takes at most one
step more than there are expansions. It ends inside of the expansions exactly if it comes to an
expansion that is not known or back to a place in one that is.
-/

namespace Caret.SourceMap

/-! ## Walks without a bound -/

/-- The walk along `step` from a location, behind the places visited: from a location where it goes
on and that it has not visited it takes a step, at any other location it ends. It takes so many
steps and ends at the last location. -/
inductive Follows (goesOn : Location → Bool) (step : Location → Location) :
    List Location → Location → Nat → Location → Prop
  | here {visited : List Location} {loc : Location} (h : goesOn loc = false ∨ loc ∈ visited) :
    Follows goesOn step visited loc 0 loc
  | onward {visited : List Location} {loc last : Location} {count : Nat}
      (going : goesOn loc = true) (fresh : loc ∉ visited)
      (rest : Follows goesOn step (loc :: visited) (step loc) count last) :
    Follows goesOn step visited loc (count + 1) last

section Walk

variable {goesOn : Location → Bool} {step : Location → Location} {visited : List Location}
  {loc last : Location} {count : Nat}

/-- A chase that may take as many steps as the walk ends where it does. -/
theorem Follows.chase_eq (walk : Follows Location.isMacro step visited loc count last) {bound : Nat}
    (enough : count ≤ bound) : chase step bound visited loc = last := by
  induction walk generalizing bound with
  | @here visited loc h =>
    rcases h with outside | again
    · exact chase_of_not_isMacro step outside bound visited
    · cases bound with
      | zero => rfl
      | succ bound =>
        rw [chase, List.contains_iff_mem.mpr again, Bool.not_true, Bool.and_false]
        rfl
  | onward inside fresh _ ih =>
    obtain ⟨fewer, rfl⟩ : ∃ fewer, bound = fewer + 1 := ⟨bound - 1, by omega⟩
    rw [chase_of_not_mem step inside fresh]
    exact ih (Nat.le_of_succ_le_succ enough)

/-- A walk ends where its steps lead. -/
theorem Follows.eq_iterate (walk : Follows goesOn step visited loc count last) :
    last = Nat.iterate step count loc := by
  induction walk with
  | here => rfl
  | onward _ _ _ ih => exact ih

/-- A walk goes on only where it may, from no place that was visited, and from none twice. -/
theorem Follows.passed_fresh (walk : Follows goesOn step visited loc count last) :
    (∀ place ∈ List.iterate step loc count, goesOn place = true ∧ place ∉ visited) ∧
      (List.iterate step loc count).Nodup := by
  induction walk with
  | here => exact ⟨List.forall_mem_nil _, List.nodup_nil⟩
  | @onward visited loc last count going fresh _ ih =>
    obtain ⟨later, distinct⟩ := ih
    refine ⟨List.forall_mem_cons.mpr ⟨⟨going, fresh⟩, fun place member ↦ ?_⟩,
      List.nodup_cons.mpr ⟨fun again ↦ (later loc again).2 List.mem_cons_self, distinct⟩⟩
    obtain ⟨going_place, new⟩ := later place member
    exact ⟨going_place, fun old ↦ new (List.mem_cons_of_mem _ old)⟩

/-- The places that a walk goes on from are distinct. -/
theorem Follows.iterate_ne (walk : Follows goesOn step visited loc count last) {first later : Nat}
    (lt : first < later) (before : later < count) :
    Nat.iterate step first loc ≠ Nat.iterate step later loc := by
  have apart := List.pairwise_iff_getElem.mp walk.passed_fresh.2 first later
    (by rw [List.length_iterate]; omega) (by rwa [List.length_iterate]) lt
  rwa [List.getElem_iterate, List.getElem_iterate] at apart

/-- A walk goes on from each place that it passes. -/
theorem Follows.goesOn_iterate (walk : Follows goesOn step visited loc count last) {passed : Nat}
    (before : passed < count) : goesOn (Nat.iterate step passed loc) = true :=
  (walk.passed_fresh.1 _ (List.mem_iterate.mpr ⟨passed, before, rfl⟩)).1

/-- A walk that ends where it may go on has come back to a place. -/
theorem Follows.last_mem (walk : Follows goesOn step visited loc count last)
    (going : goesOn last = true) : last ∈ List.iterate step loc count ∨ last ∈ visited := by
  induction walk with
  | here h =>
    rcases h with still | again
    · exact absurd (still.symm.trans going) Bool.false_ne_true
    · exact Or.inr again
  | onward _ _ _ ih =>
    rcases ih going with later | behind
    · exact Or.inl (List.mem_cons_of_mem _ later)
    · rcases List.mem_cons.mp behind with rfl | old
      · exact Or.inl List.mem_cons_self
      · exact Or.inr old

/-- There is one walk from a location. -/
theorem Follows.unique {other : Nat} {place : Location}
    (walk : Follows goesOn step visited loc count last)
    (again : Follows goesOn step visited loc other place) : count = other ∧ last = place := by
  induction walk generalizing other with
  | here h =>
    cases again with
    | here => exact ⟨rfl, rfl⟩
    | onward going fresh =>
      rcases h with still | old
      · exact absurd (still.symm.trans going) Bool.false_ne_true
      · exact absurd old fresh
  | onward going fresh _ ih =>
    cases again with
    | here h =>
      rcases h with still | old
      · exact absurd (still.symm.trans going) Bool.false_ne_true
      · exact absurd old fresh
    | onward _ _ rest =>
      obtain ⟨same, here⟩ := ih rest
      exact ⟨congrArg (· + 1) same, here⟩

/-- A walk whose steps lead to a place where it may not go on ends there. From every place that it
has visited the way is longer, so that it never comes back to one. -/
theorem follows_iterate (going : ∀ passed < count, goesOn (Nat.iterate step passed loc) = true)
    (still : goesOn (Nat.iterate step count loc) = false)
    (behind : ∀ place ∈ visited, ∃ more > count,
      ∀ passed < more, goesOn (Nat.iterate step passed place) = true) :
    Follows goesOn step visited loc count (Nat.iterate step count loc) := by
  induction count generalizing visited loc with
  | zero => exact .here (Or.inl still)
  | succ count ih =>
    refine .onward (going 0 (Nat.succ_pos _)) (fun old ↦ ?_)
      (ih (fun passed lt ↦ going (passed + 1) (Nat.succ_lt_succ lt)) still fun place member ↦ ?_)
    · obtain ⟨more, longer, onward⟩ := behind loc old
      exact absurd (still.symm.trans (onward _ longer)) Bool.false_ne_true
    · rcases List.mem_cons.mp member with rfl | old
      · exact ⟨count + 1, Nat.lt_succ_self count, going⟩
      · obtain ⟨more, longer, onward⟩ := behind place old
        exact ⟨more, Nat.lt_of_succ_lt longer, onward⟩

/-- A walk that stays among finitely many places ends: it goes on from each of them at most once.
The induction is on the number of places that are left. -/
theorem exists_follows {places : List Location} (closed : ∀ place ∈ places, step place ∈ places)
    (nodup : visited.Nodup) (among : visited ⊆ places) (place : loc ∈ places) :
    ∃ count last, Follows goesOn step visited loc count last ∧
      count + visited.length ≤ places.length := by
  induction left : places.length - visited.length using Nat.strongRecOn
    generalizing visited loc with
  | ind left ih =>
    by_cases onward : goesOn loc = true ∧ loc ∉ visited
    · obtain ⟨going, fresh⟩ := onward
      have nodup_next : (loc :: visited).Nodup := List.nodup_cons.mpr ⟨fresh, nodup⟩
      have among_next : loc :: visited ⊆ places := List.cons_subset.mpr ⟨place, among⟩
      have fewer := nodup_next.length_le_of_subset among_next
      rw [List.length_cons] at fewer
      obtain ⟨count, last, rest, steps⟩ := ih (places.length - (loc :: visited).length)
        (by rw [List.length_cons]; omega) nodup_next among_next (closed loc place) rfl
      rw [List.length_cons] at steps
      exact ⟨count + 1, last, .onward going fresh rest, by omega⟩
    · have stops : goesOn loc = false ∨ loc ∈ visited := by
        rcases Bool.eq_false_or_eq_true (goesOn loc) with going | still
        · exact Or.inr (by_contra fun fresh ↦ onward ⟨going, fresh⟩)
        · exact Or.inl still
      have reached := nodup.length_le_of_subset among
      exact ⟨0, loc, .here stops, by omega⟩

end Walk

/-! ## Steps out of an expansion -/

/-- The chain of steps from a location comes to an expansion that is not known. -/
def ComesToUnknown (map : SourceMap) (step : Location → Location) (loc : Location) : Prop :=
  ∃ count, (Nat.iterate step count loc).isMacro = true ∧
    map.expansionOf? (Nat.iterate step count loc) = none

/-- The chain of steps from a location comes back to a place in a known expansion. -/
def ComesBack (map : SourceMap) (step : Location → Location) (loc : Location) : Prop :=
  ∃ first later, first < later ∧ Nat.iterate step later loc = Nat.iterate step first loc ∧
    (map.expansionOf? (Nat.iterate step first loc)).isSome = true

private theorem stopStep_eq_outward (map : SourceMap) : map.stopStep = map.outward (·.stop) := rfl

variable {map : SourceMap} {named : Expansion → Location}

/-- A location outside of the expansions is in none that is known. -/
theorem expansionOf?_of_not_isMacro {loc : Location} (h : loc.isMacro = false) :
    map.expansionOf? loc = none := by
  cases inside : loc.expansion with
  | none => rw [expansionOf?, inside]
  | some number =>
    rw [Location.isMacro, inside] at h
    cases h

/-- A location in a known expansion is in an expansion. -/
theorem isMacro_of_isSome {loc : Location} (h : (map.expansionOf? loc).isSome = true) :
    loc.isMacro = true := by
  by_contra outside
  rw [expansionOf?_of_not_isMacro (Bool.eq_false_iff.mpr outside)] at h
  cases h

/-- A chain that has come to no known expansion stays there. -/
theorem iterate_outward_of_none {loc : Location} {count later : Nat} (le : count ≤ later)
    (h : map.expansionOf? (Nat.iterate (map.outward named) count loc) = none) :
    Nat.iterate (map.outward named) later loc = Nat.iterate (map.outward named) count loc := by
  obtain ⟨more, rfl⟩ := Nat.exists_eq_add_of_le' le
  rw [Function.iterate_add_apply]
  exact Function.iterate_fixed (outward_of_none h) more

variable {loc last : Location} {count : Nat}

/-- A walk that ends outside of the expansions comes to no unknown expansion on its chain: there the
chain would have stayed. -/
theorem Follows.not_comesToUnknown
    (walk : Follows Location.isMacro (map.outward named) [] loc count last)
    (outside : last.isMacro = false) : ¬ map.ComesToUnknown (map.outward named) loc := by
  rintro ⟨place, inside, unknown⟩
  have ends := walk.eq_iterate
  rcases Nat.le_total place count with before | behind
  · rw [ends, iterate_outward_of_none before unknown, inside] at outside
    cases outside
  · rw [iterate_outward_of_none behind
      (ends ▸ expansionOf?_of_not_isMacro outside), ← ends, outside] at inside
    cases inside

/-- A walk that ends outside of the expansions comes back to no place on its chain: up to its end it
has gone on from distinct places, and behind it the chain is in no expansion. -/
theorem Follows.not_comesBack
    (walk : Follows Location.isMacro (map.outward named) [] loc count last)
    (outside : last.isMacro = false) : ¬ map.ComesBack (map.outward named) loc := by
  rintro ⟨first, later, lt, same, known⟩
  have within (place : Nat)
      (inside : (Nat.iterate (map.outward named) place loc).isMacro = true) : place < count := by
    by_contra behind
    have ends := walk.eq_iterate
    rw [iterate_outward_of_none (Nat.le_of_not_lt behind)
      (ends ▸ expansionOf?_of_not_isMacro outside), ← ends, outside] at inside
    cases inside
  exact walk.iterate_ne lt (within later (same ▸ isMacro_of_isSome known)) same.symm

/-- A walk outward ends in an expansion exactly if its chain comes to an unknown expansion or back
to a place in a known one. -/
theorem Follows.isMacro_last_iff
    (walk : Follows Location.isMacro (map.outward named) [] loc count last) :
    last.isMacro = true ↔ map.ComesToUnknown (map.outward named) loc ∨
      map.ComesBack (map.outward named) loc := by
  constructor
  · intro inside
    have ends := walk.eq_iterate
    cases found : map.expansionOf? last with
    | none => exact Or.inl ⟨count, ends ▸ inside, ends ▸ found⟩
    | some expansion =>
      rcases walk.last_mem inside with again | none_visited
      · obtain ⟨first, lt, same⟩ := List.mem_iterate.mp again
        refine Or.inr ⟨first, count, lt, ?_, ?_⟩
        · rw [← ends, same]
        · rw [← same, found]
          rfl
      · cases none_visited
  · intro stays
    by_contra outside
    have outside := Bool.eq_false_iff.mpr outside
    rcases stays with unknown | back
    · exact walk.not_comesToUnknown outside unknown
    · exact walk.not_comesBack outside back

variable (map named loc)

/-- From every location, the walk outward ends after at most one step more than there are
expansions, where the chase with the bound of the source ends. -/
theorem exists_follows_outward :
    ∃ count ≤ map.expansions.length + 1,
      Follows Location.isMacro (map.outward named) [] loc count
        (chase (map.outward named) map.walkBound [] loc) := by
  have closed : ∀ place ∈ loc :: map.expansions.map named,
      map.outward named place ∈ loc :: map.expansions.map named := fun _ ↦ outward_mem
  obtain ⟨count, last, walk, steps⟩ :=
    exists_follows closed List.nodup_nil (List.nil_subset _) List.mem_cons_self
  rw [List.length_cons, List.length_map, List.length_nil, Nat.add_zero] at steps
  refine ⟨count, steps, ?_⟩
  rwa [walk.chase_eq (by rw [walkBound]; omega)]

/-- The walks to the expansion site of a location and to the end of what was replaced there both
end, whatever the expansions refer to: after at most one step more than there are expansions. Where
they end is in an expansion exactly if the chain of starts, or that of ends, comes to an expansion
that is not known or back to a place. -/
theorem expansion_walks_end :
    (∃ count ≤ map.expansions.length + 1,
      Follows Location.isMacro (map.outward (·.start)) [] loc count (map.expansionSite loc)) ∧
    (∃ count ≤ map.expansions.length + 1,
      Follows Location.isMacro (map.outward (·.stop)) [] loc count (map.expansionStop loc)) ∧
    ((map.expansionSite loc).isMacro = true ↔
      map.ComesToUnknown (map.outward (·.start)) loc ∨
        map.ComesBack (map.outward (·.start)) loc) ∧
    ((map.expansionStop loc).isMacro = true ↔
      map.ComesToUnknown (map.outward (·.stop)) loc ∨
        map.ComesBack (map.outward (·.stop)) loc) := by
  rw [expansionSite, expansionStop, startStep_eq_outward, stopStep_eq_outward]
  obtain ⟨starts, few_starts, to_start⟩ := map.exists_follows_outward (·.start) loc
  obtain ⟨stops, few_stops, to_stop⟩ := map.exists_follows_outward (·.stop) loc
  exact ⟨⟨starts, few_starts, to_start⟩, ⟨stops, few_stops, to_stop⟩, to_start.isMacro_last_iff,
    to_stop.isMacro_last_iff⟩

/-- From behind the first place of an expansion that replaced itself, the chain enters the circle by
its first step: it has two places, one more than there are expansions. -/
example :
    let map : SourceMap := { expansions := [⟨.invalid, .ofExpansion 1, .ofExpansion 1, 1, false⟩] }
    let loc : Location := ⟨0, 1, some 1⟩
    (List.iterate map.startStep loc 2).Nodup ∧
      Nat.iterate map.startStep 2 loc = Nat.iterate map.startStep 1 loc := by
  decide

end Caret.SourceMap
