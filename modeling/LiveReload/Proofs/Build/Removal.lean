/-
**What the removal of one path takes from another.**

A removal takes away one spot, which is no directory. Another path can be read afterwards as before,
unless its walk looks at this spot: then the spot was the file itself or a link on the way to it
(`Severs.file_or_link`), and nothing can be read any more.

* `Node.Meets`: the spots that a walk looks at;
* `Node.Leads.spared`, `Node.Meets.gone`: the walk when a spot is gone that it does not or does
  look at;
* `FileSystem.Removes`: a removal takes away what is at a spot (`removes_iff`);
* `FileSystem.Severs`: removing one path takes away another (`read_cleared`, `Severs.not_read`);
* `FileSystem.read_cleared_self`: nothing can be read at a path that was cleared.
-/
import LiveReload.Proofs.Build.ArtifactFiles
import Mathlib.Data.List.Induction

namespace LiveReload

namespace Node

/-- The spots that a walk looks at when it replaces every link: where it is, and the entries by the
names that it takes. -/
inductive Meets (root : Node) : Nat → Spot → List Step → Spot → Prop
  | here {links : Nat} {here : Spot} {steps : List Step} : Meets root links here steps here
  | look {links : Nat} {here : Spot} {name : String} {rest : List Step} :
      Meets root links here (.name name :: rest) (here ++ [name])
  | stay {links : Nat} {here spot : Spot} {rest : List Step}
      (further : Meets root links here rest spot) : Meets root links here (.stay :: rest) spot
  | up {links : Nat} {here spot : Spot} {rest : List Step}
      (further : Meets root links here.dropLast rest spot) :
      Meets root links here (.up :: rest) spot
  | jump {links : Nat} {here spot : Spot} {name : String} {target : Path} {modified : Nat}
      {rest : List Step} (found : root.seen (here ++ [name]) = some (.link target modified))
      (further : Meets root links (if target.isAbsolute then [] else here) (target.steps ++ rest)
        spot) :
      Meets root (links + 1) here (.name name :: rest) spot
  | into {links : Nat} {here spot : Spot} {name : String} {node : Node} {rest : List Step}
      (found : root.seen (here ++ [name]) = some node)
      (solid : ∀ target modified, node ≠ .link target modified)
      (further : Meets root links (here ++ [name]) rest spot) :
      Meets root links here (.name name :: rest) spot

variable {root more : Node} {links : Nat} {here goal lost : Spot} {steps : List Step}

theorem seen_root {spot : Spot} (holder : root.seen spot = some folder) :
    root.seen [] = some folder := by
  induction spot using List.reverseRecOn with
  | nil => exact holder
  | append_singleton home name ih => exact ih (seen_holder holder)

theorem seen_dropLast {spot : Spot} (holder : root.seen spot = some folder) :
    root.seen spot.dropLast = some folder := by
  obtain rfl | ⟨home, name, rfl⟩ := List.eq_nil_or_concat spot
  · exact holder
  · rw [List.concat_eq_append] at holder ⊢
    rw [List.dropLast_concat]
    exact seen_holder holder

/-- Where a walk leads to a file, the same walk leads to something to be removed if it does not
replace a link at its end. -/
theorem Leads.unfollowed {last : Step} {content : Content} {modified : Nat}
    (walk : Leads root true links here (steps ++ [last]) (.entry goal))
    (found : root.seen goal = some (.file content modified)) :
    ∃ spot node, Leads root false links here (steps ++ [last]) (.entry spot) ∧
      root.seen spot = some node ∧ node.isDir = false := by
  obtain ⟨home, left, before, ends⟩ := walk.split
  cases ends with
  | stay holder walk =>
    cases walk
    rw [holder] at found
    cases found
  | up holder walk =>
    cases walk
    rw [seen_dropLast holder] at found
    cases found
  | stop _ _ kept => cases kept
  | jump fits link => exact ⟨_, _, before.concat fun _ => .stop fits link rfl, link, rfl⟩
  | into fits _ _ walk =>
    cases walk
    exact ⟨_, _, before.concat fun _ => .into fits found nofun .done, found, rfl⟩

/-- A walk goes on from a link to its target. -/
theorem Leads.of_link {name : String} {target : Path} {modified : Nat} {rest : List Step}
    (found : root.seen (here ++ [name]) = some (.link target modified))
    (walk : Leads root true (links + 1) here (.name name :: rest) (.entry goal)) :
    Leads root true links (if target.isAbsolute then [] else here) (target.steps ++ rest)
      (.entry goal) := by
  cases walk with
  | stop _ _ kept => cases kept
  | jump _ link _ walk =>
    obtain ⟨rfl, rfl⟩ : _ ∧ _ := by simpa [found] using link
    exact walk
  | into _ other solid =>
    rw [found, Option.some_inj] at other
    exact absurd other.symm (solid _ _)

/-- A walk goes into what is no link. -/
theorem Leads.of_solid {name : String} {node : Node} {rest : List Step}
    (found : root.seen (here ++ [name]) = some node)
    (solid : ∀ target modified, node ≠ .link target modified)
    (walk : Leads root true links here (.name name :: rest) (.entry goal)) :
    Leads root true links (here ++ [name]) rest (.entry goal) := by
  cases walk with
  | stop _ _ kept => cases kept
  | jump _ link =>
    rw [found, Option.some_inj] at link
    exact absurd link (solid _ _)
  | into _ _ _ walk => exact walk

theorem Leads.meets_goal {through : Bool}
    (walk : Leads root through links here steps (.entry goal)) :
    Meets root links here steps goal := by
  generalize target : Landing.entry goal = landing at walk
  induction walk with
  | done =>
    cases target
    exact .here
  | stay _ _ ih => exact .stay (ih target)
  | up _ _ ih => exact .up (ih target)
  | free => cases target
  | stop =>
    cases target
    exact .look
  | jump _ found _ _ ih => exact .jump found (ih target)
  | into _ found solid _ ih => exact .into found solid (ih target)

/-- A walk is the same in a tree without a spot that it does not look at. -/
theorem Leads.spared (same : ∀ spot, spot ≠ lost → more.seen spot = root.seen spot)
    (walk : Leads root true links here steps (.entry goal))
    (apart : ¬ Meets root links here steps lost) :
    Leads more true links here steps (.entry goal) := by
  -- Every spot that the walk asks for is one that it meets, so both trees show the same there.
  generalize target : Landing.entry goal = landing at walk
  induction walk with
  | done =>
    cases target
    exact .done
  | @stay _ here _ _ holder _ ih =>
    have there : here ≠ lost := fun equal => apart (equal ▸ .here)
    exact .stay (same here there ▸ holder) (ih (fun met => apart (.stay met)) target)
  | @up _ here _ _ holder _ ih =>
    have there : here ≠ lost := fun equal => apart (equal ▸ .here)
    exact .up (same here there ▸ holder) (ih (fun met => apart (.up met)) target)
  | free => cases target
  | stop _ _ kept => cases kept
  | @jump _ here name _ _ _ _ fits found replaced _ ih =>
    have there : here ++ [name] ≠ lost := fun equal => apart (equal ▸ .look)
    exact .jump fits (same _ there ▸ found) replaced
      (ih (fun met => apart (.jump found met)) target)
  | @into _ here name _ _ _ fits found solid _ ih =>
    have there : here ++ [name] ≠ lost := fun equal => apart (equal ▸ .look)
    exact .into fits (same _ there ▸ found) solid
      (ih (fun met => apart (.into found solid met)) target)

/-- A walk from what is no directory is over. -/
theorem Leads.of_leaf {node : Node} (walk : Leads root true links here steps (.entry goal))
    (found : root.seen here = some node) (leaf : node.isDir = false) : goal = here := by
  cases steps with
  | nil =>
    cases walk
    rfl
  | cons step rest =>
    rw [walk.holder] at found
    cases found
    cases leaf

/-- A walk looks at directories on its way, at links that it replaces, and at its goal. -/
theorem Leads.met_leaf {spot : Spot} {node : Node}
    (walk : Leads root true links here steps (.entry goal)) (met : Meets root links here steps spot)
    (found : root.seen spot = some node) (leaf : node.isDir = false) :
    goal = spot ∨ ∃ target modified, node = .link target modified := by
  induction met with
  | here => exact .inl (walk.of_leaf found leaf)
  | look =>
    cases walk with
    | stop _ _ kept => cases kept
    | jump _ link =>
      rw [found, Option.some_inj] at link
      exact .inr ⟨_, _, link⟩
    | into _ _ _ walk => exact .inl (walk.of_leaf found leaf)
  | stay _ ih =>
    cases walk with
    | stay _ walk => exact ih walk found
  | up _ ih =>
    cases walk with
    | up _ walk => exact ih walk found
  | jump there _ ih => exact ih (walk.of_link there) found
  | into there solid _ ih => exact ih (walk.of_solid there solid) found

/-- A walk of one name looks at nothing behind it, unless it is a link. -/
theorem Meets.of_name {spot : Spot} {name : String} (met : Meets root links here [.name name] spot)
    (solid : ∀ target modified, root.seen (here ++ [name]) ≠ some (.link target modified)) :
    spot = here ∨ spot = here ++ [name] := by
  cases met with
  | here => exact .inl rfl
  | look => exact .inr rfl
  | jump found => exact absurd found (solid _ _)
  | into _ _ further =>
    cases further
    exact .inr rfl

/-- No entry is by a name that is gone. -/
theorem not_leads_of_absent {name : String} {rest : List Step} {through : Bool}
    (absent : root.seen (here ++ [name]) = none) :
    ¬ Leads root through links here (.name name :: rest) (.entry goal) := by
  intro walk
  cases walk with
  | stop _ found | jump _ found | into _ found =>
    rw [absent] at found
    cases found

/-- A walk that looks at a spot leads to nothing in a tree without it. -/
theorem Meets.gone (same : ∀ spot, spot ≠ lost → more.seen spot = root.seen spot)
    (gone : more.seen lost = none) (met : Meets root links here steps lost)
    (walk : Leads more true links here steps (.entry goal)) : more.seen goal = none := by
  induction met with
  | @here _ here steps =>
    cases steps with
    | nil =>
      cases walk
      exact gone
    | cons step rest =>
      rw [walk.holder] at gone
      cases gone
  | look => exact absurd walk (not_leads_of_absent gone)
  | stay _ ih =>
    cases walk with
    | stay _ walk => exact ih same gone walk
  | up _ ih =>
    cases walk with
    | up _ walk => exact ih same gone walk
  | @jump _ here spot name _ _ _ found _ ih =>
    -- The spot that is met further on may be this link itself, and then the walk ends here.
    by_cases there : here ++ [name] = spot
    · exact absurd walk (not_leads_of_absent (there ▸ gone))
    · rw [← same _ there] at found
      exact ih same gone (walk.of_link found)
  | @into _ here spot name _ _ found solid _ ih =>
    by_cases there : here ++ [name] = spot
    · exact absurd walk (not_leads_of_absent (there ▸ gone))
    · rw [← same _ there] at found
      exact ih same gone (walk.of_solid found solid)

end Node

namespace FileSystem

variable {files after : FileSystem} {path output input : Path} {spot : Spot} {content : Content}

/-! ### Removals -/

/-- A removal at the path takes away what is at the spot. -/
def Removes (files : FileSystem) (path : Path) (spot : Spot) : Prop :=
  files.remove path = .ok (files.without spot)

theorem removes_iff :
    files.Removes path spot ↔
      path.endsOpen = false ∧ files.land false path = .ok (.entry spot) ∧
        ∃ node, files.root.seen spot = some node ∧ node.isDir = false := by
  rw [Removes, remove_eq_ok]
  constructor
  · rintro ⟨named, other, node, landed, found, leaf, same⟩
    obtain rfl : spot = other := by
      simpa [without, note] using congrArg FileSystem.journal same
    exact ⟨named, landed, node, found, leaf⟩
  · rintro ⟨named, landed, node, found, leaf⟩
    exact ⟨named, spot, node, landed, found, leaf, rfl⟩

/-- A path that closes with a name takes at least one step. -/
theorem steps_ne_nil (walkable : Walkable path) (named : path.endsOpen = false) :
    path.steps ≠ [] := by
  have full : path.text.toList ≠ [] := by
    rw [Ne, String.toList_eq_nil_iff, ← String.isEmpty_iff, walkable.1]
    exact Bool.false_ne_true
  obtain ⟨front, last, shape⟩ := List.eq_nil_or_concat path.text.toList |>.resolve_left full
  have plain : '/' ∉ [last] := by
    rw [List.concat_eq_append] at shape
    rw [Path.endsOpen, shape] at named
    simpa [eq_comm] using named
  have piece : Step.ofPiece? (Path.lastPiece front ++ [last]) ≠ none := by
    rw [Step.ofPiece?, if_neg (by simp)]
    split_ifs <;> exact Option.some_ne_none _
  obtain ⟨step, taken⟩ := Option.ne_none_iff_exists'.mp piece
  rw [Path.steps, shape, List.concat_eq_append, Path.pieces_append front plain,
    List.filterMap_append]
  simp [taken]

/-- Removing takes away one spot, and all others are seen as before. -/
theorem Removes.seen (removes : files.Removes path spot) :
    (files.without spot).root.seen = Function.update files.root.seen spot none := by
  obtain ⟨named, landed, node, found, leaf⟩ := removes_iff.mp removes
  obtain ⟨-, walkable, walk⟩ := land_eq_ok.mp landed
  have solid : files.root.seen spot ≠ some .folder := by
    rw [found]
    rintro ⟨⟩
    cases leaf
  -- The path takes a step, so the root is a directory and is not what is removed.
  have nested : spot ≠ [] := by
    rintro rfl
    obtain ⟨step, rest, steps⟩ := List.exists_cons_of_ne_nil (steps_ne_nil walkable named)
    rw [steps] at walk
    exact solid (Node.seen_root walk.holder)
  obtain ⟨home, name, rfl⟩ := List.eq_nil_or_concat spot |>.resolve_left nested
  rw [List.concat_eq_append] at found solid ⊢
  exact Node.seen_eraseAt (Node.seen_holder found) solid

/-- What can be read can be removed. -/
theorem read_removes (readable : files.read path = .ok content) :
    ∃ spot, files.Removes path spot := by
  obtain ⟨goal, modified, landed, found⟩ := read_eq_ok.mp readable
  obtain ⟨short, walkable, walk⟩ := land_eq_ok.mp landed
  -- A separator at the end asks for a directory, which cannot be read.
  have named : path.endsOpen = false := by
    by_contra opens
    rw [Path.steps, if_pos (Bool.not_eq_false _ ▸ opens)] at walk
    obtain ⟨home, left, -, ends⟩ := walk.split
    cases ends with
    | stay holder walk =>
      cases walk
      rw [found] at holder
      cases holder
  obtain ⟨front, last, shape⟩ :=
    List.eq_nil_or_concat path.steps |>.resolve_left (steps_ne_nil walkable named)
  rw [List.concat_eq_append] at shape
  rw [shape] at walk
  obtain ⟨spot, node, walk, there, leaf⟩ := walk.unfollowed found
  rw [← shape] at walk
  exact ⟨spot, removes_iff.mpr ⟨named, land_eq_ok.mpr ⟨short, walkable, walk⟩, node, there, leaf⟩⟩

theorem Removes.cleared (removes : files.Removes path spot) :
    files.cleared path = files.without spot := by
  rw [Removes] at removes
  rw [FileSystem.cleared, removes]

theorem cleared_of_not_removes (none : ∀ spot, ¬ files.Removes path spot) :
    files.cleared path = files := by
  unfold cleared
  cases removed : files.remove path with
  | ok after =>
    obtain ⟨_, spot, _, _, _, _, rfl⟩ := remove_eq_ok.mp removed
    exact absurd removed (none spot)
  | error fault => rfl

/-! ### Reading after a removal -/

/-- Reading a path looks at what is at the spot. -/
def Meets (files : FileSystem) (path : Path) (spot : Spot) : Prop :=
  files.root.Meets Landing.linkLimit (files.start path) path.steps spot

theorem Removes.meets (removes : files.Removes path spot) : files.Meets path spot :=
  (land_eq_ok.mp (removes_iff.mp removes).2.1).2.2.meets_goal

theorem Removes.same (removes : files.Removes path spot) (other : Spot) (apart : other ≠ spot) :
    (files.without spot).root.seen other = files.root.seen other := by
  rw [removes.seen, Function.update_of_ne apart]

theorem Removes.gone (removes : files.Removes path spot) :
    (files.without spot).root.seen spot = none := by
  rw [removes.seen, Function.update_self]

/-- A path that looks at what was removed cannot be read. -/
theorem Removes.not_read (removes : files.Removes output spot) (met : files.Meets input spot)
    (content : Content) : (files.without spot).read input ≠ .ok content := by
  intro readable
  obtain ⟨goal, modified, landed, found⟩ := read_eq_ok.mp readable
  have walk := (land_eq_ok.mp landed).2.2
  rw [met.gone removes.same removes.gone walk] at found
  cases found

/-- A path that does not look at what was removed can be read as before. -/
theorem Removes.read (removes : files.Removes output spot) (apart : ¬ files.Meets input spot)
    (readable : files.read input = .ok content) :
    (files.without spot).read input = .ok content := by
  obtain ⟨goal, modified, landed, found⟩ := read_eq_ok.mp readable
  obtain ⟨short, walkable, walk⟩ := land_eq_ok.mp landed
  have other : goal ≠ spot := fun equal => apart (equal ▸ walk.meets_goal)
  rw [← removes.same goal other] at found
  exact read_eq_ok.mpr ⟨goal, modified,
    land_eq_ok.mpr ⟨short, walkable, walk.spared removes.same apart⟩, found⟩

/-- Removing the output takes away what reading the input looks at. -/
def Severs (files : FileSystem) (output input : Path) : Prop :=
  ∃ spot, files.Removes output spot ∧ files.Meets input spot

theorem Severs.not_read (severs : files.Severs output input) (content : Content) :
    (files.cleared output).read input ≠ .ok content := by
  obtain ⟨spot, removes, met⟩ := severs
  rw [removes.cleared]
  exact removes.not_read met content

/-- What takes a file away with it is the file or a link. -/
theorem Severs.file_or_link (severs : files.Severs output input)
    (readable : files.read input = .ok content) :
    ∃ spot, files.Removes output spot ∧
      (files.land true input = .ok (.entry spot) ∨
        ∃ target modified, files.root.seen spot = some (.link target modified)) := by
  obtain ⟨spot, removes, met⟩ := severs
  obtain ⟨_, _, node, found, leaf⟩ := removes_iff.mp removes
  obtain ⟨goal, _, landed, _⟩ := read_eq_ok.mp readable
  refine ⟨spot, removes, ?_⟩
  obtain rfl | ⟨target, modified, rfl⟩ := (land_eq_ok.mp landed).2.2.met_leaf met found leaf
  · exact .inl landed
  · exact .inr ⟨target, modified, found⟩

theorem read_cleared (spared : ¬ files.Severs output input)
    (readable : files.read input = .ok content) :
    (files.cleared output).read input = .ok content := by
  by_cases removed : ∃ spot, files.Removes output spot
  · obtain ⟨spot, removes⟩ := removed
    rw [removes.cleared]
    exact removes.read (fun met => spared ⟨spot, removes, met⟩) readable
  · rw [cleared_of_not_removes (not_exists.mp removed)]
    exact readable

theorem Removes.of_name {name : String} (removes : files.Removes ⟨name⟩ spot)
    (steps : Path.steps ⟨name⟩ = [.name name]) (beside : files.start ⟨name⟩ = files.current) :
    spot = files.current ++ [name] := by
  obtain ⟨_, landed, _⟩ := removes_iff.mp removes
  have walk := (land_eq_ok.mp landed).2.2
  rw [steps, beside] at walk
  obtain ⟨vacant, _⟩ | ⟨entry, _⟩ := walk.last nofun
  · cases vacant
  · exact Landing.entry.inj entry

/-- One name in the current directory does not take away another, unless that is a link. -/
theorem not_severs_name {name other : String} (apart : name ≠ other)
    (steps : Path.steps ⟨name⟩ = [.name name]) (beside : files.start ⟨name⟩ = files.current)
    (others : Path.steps ⟨other⟩ = [.name other]) (near : files.start ⟨other⟩ = files.current)
    (solid : ∀ target modified,
      files.root.seen (files.current ++ [other]) ≠ some (.link target modified)) :
    ¬ files.Severs ⟨name⟩ ⟨other⟩ := by
  rintro ⟨spot, removes, met⟩
  obtain rfl := removes.of_name steps beside
  rw [Meets, others, near] at met
  obtain here | there := Node.Meets.of_name met solid
  · simp at here
  · exact apart (by simpa using there)

/-- Nothing can be read at a path that was cleared. -/
theorem read_cleared_self (files : FileSystem) (path : Path) (content : Content) :
    (files.cleared path).read path ≠ .ok content := by
  by_cases removed : ∃ spot, files.Removes path spot
  · obtain ⟨spot, removes⟩ := removed
    exact Severs.not_read ⟨spot, removes, removes.meets⟩ content
  · rw [cleared_of_not_removes (not_exists.mp removed)]
    exact fun readable => removed (read_removes readable)

end FileSystem

end LiveReload
