import Caret.Backtrace.Levels

/-!
# The leaf of a walk outwards

A walk out of macro bodies goes from each expansion to the start of what it replaced, and so
does the search for an expansion site. Both end at the same place, unless the walk outwards
leaves a macro argument, whose caller is the place where the argument was written.
-/

namespace Caret.SourceMap

/-! ## One step of a walk -/

/-- A place that a walk has not come to is not found among those it has. -/
theorem contains_eq_false {visited : List Location} {loc : Location} (fresh : loc ∉ visited) :
    visited.contains loc = false := by
  rw [← Bool.not_eq_true, List.contains_iff_mem]
  exact fresh

/-- A walk outwards from a file location has no levels. -/
theorem walkOut_of_not_isMacro (map : SourceMap) {loc : Location} (h : loc.isMacro = false)
    (bound : Nat) (visited : List Location) :
    map.walkOut (bound + 1) visited loc = ⟨[], loc, none⟩ := by
  rw [walkOut, h]
  rfl

/-- A walk outwards stops where it has been before. -/
theorem walkOut_of_mem (map : SourceMap) {loc : Location} (h : loc.isMacro = true)
    {visited : List Location} (again : loc ∈ visited) (bound : Nat) :
    map.walkOut (bound + 1) visited loc = ⟨[], map.expansionSite loc, some loc⟩ := by
  rw [walkOut, h, List.contains_iff_mem.mpr again]
  rfl

/-- A walk outwards goes on from the caller of its level. -/
theorem walkOut_of_not_mem (map : SourceMap) {loc : Location} (h : loc.isMacro = true)
    {visited : List Location} (fresh : loc ∉ visited) (bound : Nat) :
    map.walkOut (bound + 1) visited loc =
      let outer := map.walkOut bound (loc :: visited) (map.callerOf (map.toArgument loc))
      { outer with levels := map.toArgument loc :: outer.levels } := by
  rw [walkOut, h, contains_eq_false fresh]
  rfl

/-- A chase stays at a location outside of expansions. -/
theorem chase_of_not_isMacro (step : Location → Location) {loc : Location}
    (h : loc.isMacro = false) (bound : Nat) (visited : List Location) :
    chase step bound visited loc = loc := by
  cases bound with
  | zero => rfl
  | succ bound =>
    rw [chase, h]
    rfl

/-- A chase goes on from an expansion that it has not visited. -/
theorem chase_of_not_mem (step : Location → Location) {loc : Location}
    (h : loc.isMacro = true) {visited : List Location} (fresh : loc ∉ visited) (bound : Nat) :
    chase step (bound + 1) visited loc = chase step bound (loc :: visited) (step loc) := by
  rw [chase, h, contains_eq_false fresh]
  rfl

/-! ## Walks that leave no argument -/

/-- The places that a walk over the starts of expansions can come to. -/
def startPlaces (map : SourceMap) (origin : Location) : List Location :=
  origin :: map.expansions.map (·.start)

private theorem mem_expansions_of_expansionOf? {map : SourceMap} {loc : Location}
    {expansion : Expansion}
    (h : map.expansionOf? loc = some expansion) : expansion ∈ map.expansions := by
  unfold expansionOf? at h
  split at h
  · cases h
  · split at h
    · cases h
    · exact List.mem_of_getElem? h

/-- A step out of the expansion that a location is in, to the place that the expansion names. -/
def outward (map : SourceMap) (named : Expansion → Location) (loc : Location) : Location :=
  match map.expansionOf? loc with
  | some expansion => named expansion
  | none => loc

/-- A location that is in no known expansion stays. -/
theorem outward_of_none {map : SourceMap} {named : Expansion → Location} {loc : Location}
    (h : map.expansionOf? loc = none) : map.outward named loc = loc := by
  rw [outward, h]

/-- Steps outward stay among the first place and those that the expansions name. -/
theorem outward_mem {map : SourceMap} {named : Expansion → Location} {origin place : Location}
    (h : place ∈ origin :: map.expansions.map named) :
    map.outward named place ∈ origin :: map.expansions.map named := by
  cases found : map.expansionOf? place with
  | none => rwa [outward_of_none found]
  | some expansion =>
    rw [outward, found]
    exact List.mem_cons_of_mem _
      (List.mem_map.mpr ⟨expansion, mem_expansions_of_expansionOf? found, rfl⟩)

/-- A step to the start of what was replaced is one outward. -/
theorem startStep_eq_outward (map : SourceMap) : map.startStep = map.outward (·.start) := rfl

/-- A step over starts stays among the places that the walk can come to. -/
theorem startStep_mem_startPlaces {map : SourceMap} {origin loc : Location}
    (h : loc ∈ map.startPlaces origin) : map.startStep loc ∈ map.startPlaces origin := by
  rw [startStep_eq_outward]
  exact outward_mem h

private theorem isArgument_of_argumentOf? {map : SourceMap} {bound : Nat} {visited : List Location}
    {loc found : Location} (h : map.argumentOf? bound visited loc = some found) :
    map.isArgument found = true := by
  induction bound generalizing visited loc with
  | zero => cases h
  | succ bound ih =>
    rw [argumentOf?] at h
    split at h
    · split at h
      · next argument =>
        cases h
        exact argument
      · exact ih h
    · cases h

private theorem toArgument_of_not_isArgument {map : SourceMap} {loc : Location}
    (h : map.isArgument (map.toArgument loc) = false) : map.toArgument loc = loc := by
  unfold toArgument at h ⊢
  cases found : map.argumentOf? map.walkBound [] loc with
  | none => rfl
  | some argument =>
    rw [found, Option.getD_some, isArgument_of_argumentOf? found] at h
    cases h

/-- From a level outside of arguments a walk goes on at the start of what was replaced. -/
theorem callerOf_toArgument_of_not_isArgument {map : SourceMap} {loc : Location}
    (h : map.isArgument (map.toArgument loc) = false) :
    map.callerOf (map.toArgument loc) = map.startStep loc := by
  have level := toArgument_of_not_isArgument h
  rw [level] at h ⊢
  rw [callerOf, h]
  rfl

private theorem length_lt_of_new {visited places : List Location} {loc : Location}
    (nodup : visited.Nodup) (among : visited ⊆ places) (place : loc ∈ places)
    (fresh : loc ∉ visited) : visited.length < places.length := by
  have distinct : (loc :: visited).Nodup := List.nodup_cons.mpr ⟨fresh, nodup⟩
  have inside : loc :: visited ⊆ places := List.cons_subset.mpr ⟨place, among⟩
  exact distinct.length_le_of_subset inside

/-- A walk that leaves no argument and does not come back to a place ends where the search for
the expansion site does. Both have visited the same places, each of them once, so that neither
bound is reached. -/
theorem leaf_walkOut_of_no_argument (map : SourceMap) (origin : Location) {bound steps : Nat}
    {visited : List Location} {loc : Location} (nodup : visited.Nodup)
    (among : visited ⊆ map.startPlaces origin) (place : loc ∈ map.startPlaces origin)
    (enough : (map.startPlaces origin).length < bound + visited.length)
    (enough_steps : (map.startPlaces origin).length < steps + visited.length)
    (finite : (map.walkOut bound visited loc).cycle = none)
    (bodies : ∀ level ∈ (map.walkOut bound visited loc).levels, map.isArgument level = false) :
    (map.walkOut bound visited loc).leaf = chase map.startStep steps visited loc := by
  have reached := nodup.length_le_of_subset among
  induction bound generalizing steps visited loc with
  | zero => omega
  | succ bound ih =>
    cases steps with
    | zero => omega
    | succ steps =>
      cases inside : loc.isMacro with
      | false => rw [map.walkOut_of_not_isMacro inside, chase_of_not_isMacro _ inside]
      | true =>
        by_cases again : loc ∈ visited
        · rw [map.walkOut_of_mem inside again] at finite
          cases finite
        · rw [map.walkOut_of_not_mem inside again] at finite bodies ⊢
          have caller := callerOf_toArgument_of_not_isArgument (bodies _ List.mem_cons_self)
          have shorter := length_lt_of_new nodup among place again
          simp only [caller] at finite bodies ⊢
          rw [chase_of_not_mem _ inside again]
          exact ih (List.nodup_cons.mpr ⟨again, nodup⟩) (List.cons_subset.mpr ⟨place, among⟩)
            (startStep_mem_startPlaces place) (by rw [List.length_cons]; omega)
            (by rw [List.length_cons]; omega) finite
            (fun level member ↦ bodies level (List.mem_cons_of_mem _ member)) shorter

/-- The leaf of a location in macro bodies only, with a finite chain, is its expansion site. -/
theorem leaf_levelsOf_of_no_argument (map : SourceMap) {loc : Location}
    (finite : (map.levelsOf loc).cycle = none)
    (bodies : ∀ level ∈ (map.levelsOf loc).levels, map.isArgument level = false) :
    (map.levelsOf loc).leaf = map.expansionSite loc := by
  have size : (map.startPlaces loc).length = map.expansions.length + 1 := by
    rw [startPlaces, List.length_cons, List.length_map]
  exact map.leaf_walkOut_of_no_argument loc List.nodup_nil (List.nil_subset _) List.mem_cons_self
    (by rw [size, List.length_nil]; omega) (by rw [size, walkBound, List.length_nil]; omega)
    finite bodies

/-! ## Walks that leave an argument -/

/-- The steps from a location lead out of the expansions: after `count` of them, at `last`. -/
inductive Leads (step : Location → Location) : Nat → Location → Location → Prop
  | outside {loc : Location} (h : loc.isMacro = false) : Leads step 0 loc loc
  | onward {count : Nat} {loc last : Location} (inside : loc.isMacro = true)
      (rest : Leads step count (step loc) last) : Leads step (count + 1) loc last

/-- The way out of the expansions has one length. -/
theorem Leads.unique {step : Location → Location} {count other : Nat} {loc last place : Location}
    (h : Leads step count loc last) (h' : Leads step other loc place) : count = other := by
  induction h generalizing other with
  | outside outside =>
    cases h' with
    | outside => rfl
    | onward inside => exact absurd (outside.symm.trans inside) Bool.false_ne_true
  | onward inside _ ih =>
    cases h' with
    | outside outside => exact absurd (outside.symm.trans inside) Bool.false_ne_true
    | onward _ rest => exact congrArg (· + 1) (ih rest)

/-- A chase over starts gets to the end of the way out. From every place that it has visited the
way is longer, so that it never comes back to one; and it has visited each of them once, so that
its bound is not reached. -/
theorem Leads.chase_eq {map : SourceMap} {origin loc last : Location} {count steps : Nat}
    {visited : List Location} (h : Leads map.startStep count loc last) (nodup : visited.Nodup)
    (among : visited ⊆ map.startPlaces origin) (place : loc ∈ map.startPlaces origin)
    (enough : (map.startPlaces origin).length < steps + visited.length)
    (behind : ∀ earlier ∈ visited, ∃ more, count < more ∧ Leads map.startStep more earlier last) :
    chase map.startStep steps visited loc = last := by
  induction h generalizing steps visited with
  | outside outside => exact chase_of_not_isMacro _ outside _ _
  | @onward count loc last inside rest ih =>
    have fresh : loc ∉ visited := by
      intro again
      obtain ⟨more, longer, leads⟩ := behind loc again
      exact absurd ((Leads.onward inside rest).unique leads) (Nat.ne_of_lt longer)
    have shorter := length_lt_of_new nodup among place fresh
    obtain ⟨fewer, rfl⟩ : ∃ fewer, steps = fewer + 1 := ⟨steps - 1, by omega⟩
    rw [chase_of_not_mem _ inside fresh]
    refine ih (List.nodup_cons.mpr ⟨fresh, nodup⟩) (List.cons_subset.mpr ⟨place, among⟩)
      (startStep_mem_startPlaces place) (by rw [List.length_cons]; omega) ?_
    intro earlier member
    rcases List.mem_cons.mp member with rfl | old
    · exact ⟨count + 1, Nat.lt_succ_self _, .onward inside rest⟩
    · obtain ⟨more, longer, leads⟩ := behind earlier old
      exact ⟨more, Nat.lt_of_succ_lt longer, leads⟩

/-- The expansion site of a location is where the way over starts leads out. -/
theorem Leads.expansionSite_eq {map : SourceMap} {loc last : Location} {count : Nat}
    (h : Leads map.startStep count loc last) : map.expansionSite loc = last := by
  have size : (map.startPlaces loc).length = map.expansions.length + 1 := by
    rw [startPlaces, List.length_cons, List.length_map]
  exact h.chase_eq List.nodup_nil (List.nil_subset _) List.mem_cons_self
    (by rw [size, walkBound, List.length_nil]; omega) (List.forall_mem_nil _)

/-- A chase that ends outside of the expansions has found the way out. -/
theorem exists_leads_chase {step : Location → Location} {bound : Nat} {visited : List Location}
    {loc : Location} (outside : (chase step bound visited loc).isMacro = false) :
    ∃ count, Leads step count loc (chase step bound visited loc) := by
  induction bound generalizing visited loc with
  | zero => exact ⟨0, .outside outside⟩
  | succ bound ih =>
    rw [chase] at outside ⊢
    split at outside
    · next going =>
      rw [if_pos going]
      obtain ⟨count, leads⟩ := ih outside
      exact ⟨count + 1, .onward (Bool.and_eq_true_iff.mp going).1 leads⟩
    · next still =>
      rw [if_neg still]
      exact ⟨0, .outside outside⟩

/-- A walk that leaves no argument and ends outside of the expansions goes the way over starts. -/
theorem exists_leads_leaf {map : SourceMap} {bound : Nat} {visited : List Location}
    {loc : Location} (outside : (map.walkOut bound visited loc).leaf.isMacro = false)
    (bodies : ∀ level ∈ (map.walkOut bound visited loc).levels, map.isArgument level = false) :
    ∃ count, Leads map.startStep count loc (map.walkOut bound visited loc).leaf := by
  induction bound generalizing visited loc with
  | zero => exact exists_leads_chase outside
  | succ bound ih =>
    cases inside : loc.isMacro with
    | false =>
      rw [map.walkOut_of_not_isMacro inside]
      exact ⟨0, .outside inside⟩
    | true =>
      by_cases again : loc ∈ visited
      · rw [map.walkOut_of_mem inside again] at outside ⊢
        exact exists_leads_chase outside
      · rw [map.walkOut_of_not_mem inside again] at outside bodies ⊢
        have caller := callerOf_toArgument_of_not_isArgument (bodies _ List.mem_cons_self)
        simp only [caller] at outside bodies ⊢
        obtain ⟨count, leads⟩ := ih outside fun other member ↦
          bodies other (List.mem_cons_of_mem _ member)
        exact ⟨count + 1, .onward inside leads⟩

private theorem exists_walkOut_behind {map : SourceMap} {bound : Nat} {visited : List Location}
    {loc level : Location} {inner outer : List Location}
    (split : (map.walkOut bound visited loc).levels = inner ++ level :: outer) :
    ∃ fewer more, (map.walkOut fewer more (map.callerOf level)).levels = outer ∧
      (map.walkOut fewer more (map.callerOf level)).leaf =
        (map.walkOut bound visited loc).leaf := by
  induction bound generalizing visited loc inner with
  | zero => cases inner <;> cases split
  | succ bound ih =>
    cases inside : loc.isMacro with
    | false =>
      rw [map.walkOut_of_not_isMacro inside] at split
      cases inner <;> cases split
    | true =>
      by_cases again : loc ∈ visited
      · rw [map.walkOut_of_mem inside again] at split
        cases inner <;> cases split
      · rw [map.walkOut_of_not_mem inside again] at split ⊢
        cases inner with
        | nil =>
          obtain ⟨rfl, rest⟩ := List.cons.inj split
          exact ⟨bound, loc :: visited, rest, rfl⟩
        | cons _ inner => exact ih (List.cons.inj split).2

/-- The last argument that a walk outwards from a location leaves. -/
def outermostArgument? (map : SourceMap) (loc : Location) : Option Location :=
  (map.levelsOf loc).levels.reverse.find? map.isArgument

/-- The place from which a location is left through macro bodies only: where the last argument that
it is in was written, and the location itself if it is in none. -/
def behindArguments (map : SourceMap) (loc : Location) : Location :=
  match map.outermostArgument? loc with
  | none => loc
  | some argument => map.spellingStep argument

/-- A location in macro bodies only is behind its arguments. -/
theorem behindArguments_eq_self {map : SourceMap} {loc : Location}
    (bodies : ∀ level ∈ (map.levelsOf loc).levels, map.isArgument level = false) :
    map.behindArguments loc = loc := by
  have none_found : map.outermostArgument? loc = none :=
    List.find?_eq_none.mpr fun level member ↦
      Bool.eq_false_iff.mp (bodies level (List.mem_reverse.mp member))
  rw [behindArguments, none_found]

/-- The leaf of a location is the expansion site of the place behind its arguments. -/
theorem leaf_levelsOf_eq (map : SourceMap) {loc : Location}
    (outside : (map.levelsOf loc).leaf.isMacro = false) :
    (map.levelsOf loc).leaf = map.expansionSite (map.behindArguments loc) := by
  unfold behindArguments outermostArgument?
  cases found : (map.levelsOf loc).levels.reverse.find? map.isArgument with
  | none =>
    have bodies := List.find?_eq_none.mp found
    obtain ⟨count, leads⟩ := exists_leads_leaf outside fun level member ↦
      Bool.eq_false_iff.mpr (bodies level (List.mem_reverse.mpr member))
    exact leads.expansionSite_eq.symm
  | some argument =>
    obtain ⟨is_argument, outer, inner, split, bodies⟩ := List.find?_eq_some_iff_append.mp found
    have levels : (map.levelsOf loc).levels = inner.reverse ++ argument :: outer.reverse := by
      rw [← List.reverse_reverse (map.levelsOf loc).levels, split, List.reverse_append,
        List.reverse_cons, List.append_assoc, List.singleton_append]
    obtain ⟨bound, visited, rest, same⟩ := exists_walkOut_behind levels
    have caller : map.callerOf argument = map.spellingStep argument := by
      rw [callerOf, if_pos is_argument]
    rw [caller] at rest same
    have leaf : (map.walkOut bound visited (map.spellingStep argument)).leaf =
        (map.levelsOf loc).leaf := same
    obtain ⟨count, leads⟩ := exists_leads_leaf (leaf ▸ outside) fun level member ↦ by
      rw [rest, List.mem_reverse] at member
      exact Bool.not_eq_true' _ ▸ bodies level member
    rw [← leaf]
    exact leads.expansionSite_eq.symm

end Caret.SourceMap
