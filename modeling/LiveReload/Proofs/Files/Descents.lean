/-
**A path that goes on from another one leads below it.**

Where the components of a path are those of another one and some names, its walk passes the goal of
the other walk, however the two are spelled, and goes down along the names if none of them is a
link. Links at the end of a path tell the two kinds of walks apart: a walk that replaces them and
one that does not end at the same entry, unless the second ends at a link.

* `Node.Leads.unreplaced`, `Node.Leads.replaced`: walks that replace a link at their end or not;
* `Node.Leads.thinned`: a step that stays may be left out;
* `Node.Leads.descends`: where names lead from the goal of a walk;
* `FileSystem.find_below`: the same for paths.
-/
import LiveReload.Proofs.Files.Joined

namespace LiveReload

/-- Steps of which some that stay are left out. -/
inductive Step.Thinned : List Step → List Step → Prop
  | nil : Thinned [] []
  | keep {fewer steps : List Step} (step : Step) (rest : Thinned fewer steps) :
    Thinned (step :: fewer) (step :: steps)
  | drop {fewer steps : List Step} (rest : Thinned fewer steps) : Thinned fewer (.stay :: steps)

namespace Step.Thinned

theorem append (front : List Step) {fewer steps : List Step} (rest : Thinned fewer steps) :
    Thinned (front ++ fewer) (front ++ steps) := by
  induction front with
  | nil => exact rest
  | cons step front ih => exact .keep step ih

/-- All steps that stay may be left out. -/
theorem filter (steps : List Step) : Thinned (steps.filter (· ≠ .stay)) steps := by
  induction steps with
  | nil => exact .nil
  | cons step rest ih =>
    by_cases stays : step = .stay
    · subst stays
      exact .drop ih
    · rw [List.filter_cons_of_pos (by simpa using stays)]
      exact .keep step ih

end Step.Thinned

namespace Node.Leads

variable {root : Node} {links : Nat} {here goal other : Spot} {steps fewer : List Step}

/-- A walk that replaces a link at its end goes on from where one ends that does not. -/
theorem unreplaced (walk : Leads root true links here steps (.entry goal)) :
    Leads root false links here steps (.entry goal) ∨ ∃ spot target modified,
      Leads root false links here steps (.entry spot) ∧
        root.seen spot = some (.link target modified) := by
  generalize same : Landing.entry goal = landing at walk
  induction walk with
  | done => exact .inl .done
  | stay holder _ ih =>
    refine (ih same).imp (.stay holder) ?_
    rintro ⟨spot, target, modified, walk, link⟩
    exact ⟨spot, target, modified, .stay holder walk, link⟩
  | up holder _ ih =>
    refine (ih same).imp (.up holder) ?_
    rintro ⟨spot, target, modified, walk, link⟩
    exact ⟨spot, target, modified, .up holder walk, link⟩
  | free => cases same
  | stop _ _ kept => cases kept
  | @jump _ here name target modified rest _ fits found _ _ ih =>
    by_cases last : rest = []
    · subst last
      exact .inr ⟨here ++ [name], target, modified, .stop fits found rfl, found⟩
    · refine (ih same).imp (.jump fits found fun none => absurd none last) ?_
      rintro ⟨spot, target, modified, walk, link⟩
      exact ⟨spot, target, modified, .jump fits found (fun none => absurd none last) walk, link⟩
  | into fits found solid _ ih =>
    refine (ih same).imp (.into fits found solid) ?_
    rintro ⟨spot, target, modified, walk, link⟩
    exact ⟨spot, target, modified, .into fits found solid walk, link⟩

/-- A walk that does not end at a link has nothing to replace there. -/
theorem replaced (walk : Leads root false links here steps (.entry goal))
    (solid : ∀ target modified, root.seen goal ≠ some (.link target modified)) :
    Leads root true links here steps (.entry goal) := by
  generalize same : Landing.entry goal = landing at walk
  induction walk with
  | done => exact .done
  | stay holder _ ih => exact .stay holder (ih same)
  | up holder _ ih => exact .up holder (ih same)
  | free => cases same
  | stop _ found =>
    cases same
    exact absurd found (solid _ _)
  | jump fits found _ _ ih => exact .jump fits found (fun _ => rfl) (ih same)
  | into fits found other _ ih => exact .into fits found other (ih same)

/-- Where a walk ends is the only end. -/
theorem unique (walk : Leads root true links here steps (.entry goal))
    (again : Leads root true links here steps (.entry other)) : goal = other := by
  have same := walk.follow.symm.trans again.follow
  rw [Except.ok.injEq, Landing.entry.injEq] at same
  exact same

/-- A walk goes where it went if it stays less often. -/
theorem thinned (walk : Leads root true links here steps (.entry goal))
    (thin : Step.Thinned fewer steps) : Leads root true links here fewer (.entry goal) := by
  generalize same : Landing.entry goal = landing at walk
  induction walk generalizing fewer with
  | done =>
    cases thin
    exact .done
  | stay holder _ ih =>
    cases thin with
    | keep _ rest => exact .stay holder (ih rest same)
    | drop rest => exact ih rest same
  | up holder _ ih =>
    cases thin with
    | keep _ rest => exact .up holder (ih rest same)
  | free => cases same
  | stop _ _ kept => cases kept
  | jump fits found _ _ ih =>
    cases thin with
    | keep _ rest => exact .jump fits found (fun _ => rfl) (ih (rest.append _) same)
  | into fits found solid _ ih =>
    cases thin with
    | keep _ rest => exact .into fits found solid (ih rest same)

/-- Names that are no links lead down from the goal of a walk. -/
theorem descends {names : Spot} (before : Leads root true links here steps (.entry goal))
    (walk : Leads root true links here (steps ++ names.map .name) (.entry other))
    (solid : ∀ front name, front ++ [name] <+: names → ∀ target modified,
      root.seen (goal ++ front ++ [name]) ≠ some (.link target modified)) :
    other = goal ++ names := by
  -- The last name comes first: where it begins is where the others lead.
  induction names using List.reverseRecOn generalizing other with
  | nil =>
    rw [List.map_nil, List.append_nil] at walk
    rw [List.append_nil]
    exact walk.unique before
  | append_singleton names name ih =>
    rw [List.map_append, ← List.append_assoc, List.map_singleton] at walk
    obtain ⟨home, left, inside, ends⟩ := walk.split
    obtain rfl := ih inside fun front name begins => solid front name <|
      begins.trans (List.prefix_append _ _)
    rcases ends.last fun _ => solid names name List.prefix_rfl with ⟨vacant, -⟩ | ⟨reached, -⟩
    · cases vacant
    · rw [Landing.entry.injEq] at reached
      rw [reached, List.append_assoc]

end Node.Leads

/-! ### Paths with the same components -/

/-- The step that a component asks for, unless it says where the walk begins. -/
def Component.step? : Component → Option Step
  | .root => none
  | .here => none
  | .up => some .up
  | .name text => some (.name text)

namespace Path

variable {path base : Path}

theorem leading_step? (pieces : List (List Char)) :
    (leading pieces).filterMap Component.step? = [] := by
  unfold leading
  split <;> rfl

/-- What says nothing asks for no step, or for one that stays. -/
theorem ofPiece?_of_idle {piece : List Char} (idle : isIdle piece = true) :
    Step.ofPiece? piece = none ∨ Step.ofPiece? piece = some .stay := by
  rcases Bool.or_eq_true_iff.mp idle with empty | dot
  · exact .inl (by rw [Step.ofPiece?, if_pos empty])
  · exact .inr (by rw [of_decide_eq_true dot]; rfl)

/-- A word asks for the step of its component. -/
theorem ofPiece?_of_told {piece : List Char} (told : isIdle piece = false) :
    Step.ofPiece? piece = (componentOf piece).step? ∧ Step.ofPiece? piece ≠ some .stay := by
  rw [isIdle, Bool.or_eq_false_iff, decide_eq_false_iff_not, ← Bool.not_eq_true] at told
  unfold Step.ofPiece? componentOf
  rw [if_neg told.1, if_neg told.2]
  split <;> simp [Component.step?]

/-- The steps of a path, but for those that stay, are those of its components. -/
theorem steps_filter (path : Path) :
    path.steps.filter (· ≠ .stay) = path.components.filterMap Component.step? := by
  have last : (if path.endsOpen then [Step.stay] else []).filter (· ≠ .stay) = [] := by
    split <;> rfl
  have words (pieces : List (List Char)) :
      (pieces.filterMap Step.ofPiece?).filter (· ≠ .stay) =
        ((pieces.filter fun piece => !isIdle piece).map componentOf).filterMap Component.step? := by
    induction pieces with
    | nil => rfl
    | cons piece rest ih =>
      by_cases idle : isIdle piece = true
      · rw [List.filter_cons_of_neg (by simpa using idle), ← ih]
        rcases ofPiece?_of_idle idle with none | stays
        · rw [List.filterMap_cons_none none]
        · rw [List.filterMap_cons_some stays]
          rfl
      · obtain ⟨same, moves⟩ := ofPiece?_of_told (Bool.eq_false_iff.mpr idle)
        rw [List.filter_cons_of_pos (by simpa using idle), List.map_cons]
        cases asks : Step.ofPiece? piece with
        | none => rw [List.filterMap_cons_none asks, ih, List.filterMap_cons_none (same ▸ asks)]
        | some step =>
          rw [asks, ne_eq, Option.some_inj] at moves
          rw [List.filterMap_cons_some asks, List.filter_cons_of_pos (by simpa using moves), ih,
            List.filterMap_cons_some (same ▸ asks)]
  rw [steps, List.filter_append, last, List.append_nil, words, components, List.filterMap_append,
    leading_step?, List.nil_append]

/-- A path is absolute exactly if one of its components is the root. -/
theorem root_mem_components : .root ∈ path.components ↔ path.isAbsolute = true := by
  constructor
  · intro member
    rw [components_eq, List.mem_append] at member
    rcases member with first | later
    · unfold isAbsolute
      cases text : path.text.toList with
      | nil =>
        rw [text] at first
        cases first
      | cons c rest =>
        by_cases separator : c = '/'
        · rw [separator]
          rfl
        · rw [text, pieces, if_neg separator] at first
          obtain ⟨piece, others, shape⟩ := List.exists_cons_of_ne_nil (pieces_ne_nil rest)
          rw [shape] at first
          unfold leading at first
          split at first <;> simp_all
    · obtain ⟨word, -, root⟩ := List.mem_map.mp later
      unfold componentOf at root
      split at root <;> cases root
  · intro absolute
    rw [components_of_absolute absolute]
    exact List.mem_cons_self

end Path

namespace FileSystem

variable {files : FileSystem} {path base : Path} {spot goal : Spot} {node top : Node}

/-- **A path with further names leads below another one**, if none of the names is a link. -/
theorem find_below {names : Spot} (found : files.find base = .ok (goal, top))
    (further : files.find path = .ok (spot, node))
    (components : path.components = base.components ++ names.map .name)
    (solid : ∀ front name, front ++ [name] <+: names → ∀ target modified,
      files.root.seen (goal ++ front ++ [name]) ≠ some (.link target modified)) :
    spot = goal ++ names := by
  obtain ⟨-, -, before⟩ := land_eq_ok.mp (find_eq_ok.mp found).1
  obtain ⟨-, -, walk⟩ := land_eq_ok.mp (find_eq_ok.mp further).1
  have begins : files.start path = files.start base := by
    have absolute : path.isAbsolute = true ↔ base.isAbsolute = true := by
      rw [← Path.root_mem_components, ← Path.root_mem_components, components, List.mem_append]
      simp
    unfold start
    simp only [absolute]
  have steps : path.steps.filter (· ≠ .stay) =
      base.steps.filter (· ≠ .stay) ++ names.map .name := by
    rw [Path.steps_filter, Path.steps_filter, components, List.filterMap_append, List.filterMap_map]
    congr 1
    exact congrFun List.filterMap_eq_map' names
  have thin := walk.thinned (.filter _)
  rw [steps, begins] at thin
  exact (before.thinned (.filter _)).descends thin solid

end FileSystem

end LiveReload
