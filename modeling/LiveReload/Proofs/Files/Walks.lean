/-
**Walks in trees that were changed elsewhere.**

A walk that ends at an entry asks only for entries that are there, so it ends at the same entry in
every tree that has them: in a tree with more directories, and in a tree without a file that is not
the goal.

* `Node.Leads`: the walks that end somewhere, step by step (`follow_eq_ok`);
* `Node.Leads.mono`: the walk in the other tree;
* `Node.Leads.concat`, `Node.Leads.split`: a walk to a name is a walk to its directory and one step;
* `FileSystem.Growth`: directories were added and nothing else has changed, as it is when
  directories are made (`growth_makeDirectories`).
-/
import LiveReload.Proofs.Files.Trees

namespace LiveReload

namespace Node

/-- Where steps lead from `here`, with as many links left as `links` says. -/
inductive Leads (root : Node) (through : Bool) : Nat → Spot → List Step → Landing → Prop
  | done {links : Nat} {here : Spot} : Leads root through links here [] (.entry here)
  | stay {links : Nat} {here : Spot} {rest : List Step} {landing : Landing}
      (holder : root.seen here = some folder) (walk : Leads root through links here rest landing) :
      Leads root through links here (.stay :: rest) landing
  | up {links : Nat} {here : Spot} {rest : List Step} {landing : Landing}
      (holder : root.seen here = some folder)
      (walk : Leads root through links here.dropLast rest landing) :
      Leads root through links here (.up :: rest) landing
  | free {links : Nat} {here : Spot} {name : String} (holder : root.seen here = some folder)
      (fits : name.utf8ByteSize ≤ Landing.nameLimit) (absent : root.seen (here ++ [name]) = none) :
      Leads root through links here [.name name] (.vacant here name)
  /-- A link at the end is not replaced. -/
  | stop {links : Nat} {here : Spot} {name : String} {target : Path} {modified : Nat}
      (fits : name.utf8ByteSize ≤ Landing.nameLimit)
      (found : root.seen (here ++ [name]) = some (.link target modified))
      (kept : through = false) :
      Leads root through links here [.name name] (.entry (here ++ [name]))
  | jump {links : Nat} {here : Spot} {name : String} {target : Path} {modified : Nat}
      {rest : List Step} {landing : Landing} (fits : name.utf8ByteSize ≤ Landing.nameLimit)
      (found : root.seen (here ++ [name]) = some (.link target modified))
      (replaced : rest = [] → through = true)
      (walk : Leads root through links (if target.isAbsolute then [] else here)
        (target.steps ++ rest) landing) :
      Leads root through (links + 1) here (.name name :: rest) landing
  | into {links : Nat} {here : Spot} {name : String} {node : Node} {rest : List Step}
      {landing : Landing} (fits : name.utf8ByteSize ≤ Landing.nameLimit)
      (found : root.seen (here ++ [name]) = some node)
      (solid : ∀ target modified, node ≠ .link target modified)
      (walk : Leads root through links (here ++ [name]) rest landing) :
      Leads root through links here (.name name :: rest) landing

variable {root more : Node} {through : Bool} {links : Nat} {here : Spot} {steps : List Step}
  {landing : Landing}

theorem seen_eq_folder {spot : Spot} :
    root.seen spot = some folder ↔ ∃ node, root.at? spot = some node ∧ node.isDir = true := by
  simp [seen, outline_eq_folder]

theorem seen_child {node : Node} (found : root.at? here = some node) (name : String) :
    root.seen (here ++ [name]) = (node.child? name).map outline := by
  rw [seen, at?_concat, found, Option.bind_some]

theorem outline_eq_link {node : Node} {target : Path} {modified : Nat} :
    node.outline = .link target modified ↔ node = .link target modified := by
  cases node <;> simp [outline, folder]

theorem seen_eq_link {spot : Spot} {target : Path} {modified : Nat} :
    root.seen spot = some (.link target modified) ↔
      root.at? spot = some (.link target modified) := by
  simp [seen, outline_eq_link]

theorem leads_of_follow (walk : root.follow through links here steps = .ok landing) :
    Leads root through links here steps landing := by
  fun_induction follow root through links here steps with
  | case1 links here =>
    cases walk
    exact .done
  | case2 | case3 | case6 | case8 | case10 => cases walk
  | case4 links here rest node found isDir ih =>
    exact .stay (seen_eq_folder.mpr ⟨node, found, by simpa using isDir⟩) (ih walk)
  | case5 links here rest node found isDir ih =>
    exact .up (seen_eq_folder.mpr ⟨node, found, by simpa using isDir⟩) (ih walk)
  | case7 links here rest node found isDir name fits absent last =>
    cases walk
    obtain rfl := List.isEmpty_iff.mp last
    refine .free (seen_eq_folder.mpr ⟨node, found, by simpa using isDir⟩) (Nat.le_of_not_lt fits) ?_
    rw [seen_child found, absent, Option.map_none]
  | case9 links here rest node found isDir name fits target modified link last =>
    cases walk
    rw [Bool.and_eq_true, List.isEmpty_iff, Bool.not_eq_true'] at last
    obtain ⟨rfl, kept⟩ := last
    have seen : root.seen (here ++ [name]) = some (.link target modified) := by
      rw [seen_child found, link, Option.map_some]
      rfl
    exact .stop (Nat.le_of_not_lt fits) seen kept
  | case11 here rest node found isDir name fits target modified link last links ih =>
    have seen : root.seen (here ++ [name]) = some (.link target modified) := by
      rw [seen_child found, link, Option.map_some]
      rfl
    refine .jump (Nat.le_of_not_lt fits) seen ?_ (ih walk)
    rintro rfl
    simpa using last
  | case12 links here rest node found isDir name fits child solid inside ih =>
    have seen : root.seen (here ++ [name]) = some child.outline := by
      rw [seen_child found, inside, Option.map_some]
    refine .into (Nat.le_of_not_lt fits) seen ?_ (ih walk)
    intro target modified link
    exact solid target modified (outline_eq_link.mp link)

/-- The child that a walk sees. -/
theorem exists_child {name : String} {node : Node}
    (found : root.seen (here ++ [name]) = some node) :
    ∃ holder child, root.at? here = some holder ∧ holder.isDir = true ∧
      holder.child? name = some child ∧ child.outline = node := by
  obtain ⟨holder, there, isDir⟩ := seen_eq_folder.mp (seen_holder found)
  rw [seen_child there, Option.map_eq_some_iff] at found
  obtain ⟨child, inside, outline⟩ := found
  exact ⟨holder, child, there, isDir, inside, outline⟩

theorem Leads.follow (walk : Leads root through links here steps landing) :
    root.follow through links here steps = .ok landing := by
  induction walk with
  | done => rw [Node.follow]
  | stay holder walk ih | up holder walk ih =>
    obtain ⟨node, found, isDir⟩ := seen_eq_folder.mp holder
    rw [Node.follow, found]
    simpa [isDir] using ih
  | free holder fits absent =>
    obtain ⟨node, found, isDir⟩ := seen_eq_folder.mp holder
    rw [seen_child found, Option.map_eq_none_iff] at absent
    rw [Node.follow, found]
    simp [isDir, absent, Nat.not_lt_of_le fits]
  | stop fits found kept =>
    obtain ⟨holder, child, there, isDir, inside, outline⟩ := exists_child found
    obtain rfl := outline_eq_link.mp outline
    rw [Node.follow, there]
    simp [isDir, inside, Nat.not_lt_of_le fits, kept]
  | @jump links here name target modified rest landing fits found replaced walk ih =>
    obtain ⟨holder, child, there, isDir, inside, outline⟩ := exists_child found
    obtain rfl := outline_eq_link.mp outline
    have through : ¬ (rest = [] ∧ through = false) := by
      rintro ⟨last, kept⟩
      rw [replaced last] at kept
      cases kept
    rw [Node.follow, there]
    simpa [isDir, inside, Nat.not_lt_of_le fits, through] using ih
  | into fits found solid walk ih =>
    obtain ⟨holder, child, there, isDir, inside, rfl⟩ := exists_child found
    rw [Node.follow, there]
    cases child with
    | link target modified => exact absurd rfl (solid target modified)
    | _ => simpa [isDir, inside, Nat.not_lt_of_le fits] using ih

theorem follow_eq_ok :
    root.follow through links here steps = .ok landing ↔
      Leads root through links here steps landing :=
  ⟨leads_of_follow, Leads.follow⟩

namespace Leads

theorem holder {step : Step} (walk : Leads root through links here (step :: steps) landing) :
    root.seen here = some folder := by
  cases walk with
  | stay holder | up holder | free holder => exact holder
  | stop _ found | jump _ found | into _ found => exact seen_holder found

/-- A walk to an entry is the same in a tree that has lost at most files other than the goal. -/
theorem mono (lost : Spot → Prop)
    (kept : ∀ spot node, root.seen spot = some node →
      more.seen spot = some node ∨ lost spot ∧ node.isFile = true)
    {goal : Spot} (walk : Leads root through links here steps (.entry goal))
    (remains : ¬ lost goal) : Leads more through links here steps (.entry goal) := by
  have stays {spot : Spot} {node : Node} (found : root.seen spot = some node)
      (solid : node.isFile = false) : more.seen spot = some node := by
    rcases kept spot node found with same | ⟨_, file⟩
    · exact same
    · rw [solid] at file
      cases file
  generalize target : Landing.entry goal = landing at walk
  induction walk with
  | done =>
    cases target
    exact .done
  | stay holder _ ih => exact .stay (stays holder rfl) (ih target)
  | up holder _ ih => exact .up (stays holder rfl) (ih target)
  | free => cases target
  | stop fits found last =>
    cases target
    exact .stop fits (stays found rfl) last
  | jump fits found replaced _ ih => exact .jump fits (stays found rfl) replaced (ih target)
  | @into links here name node rest landing fits found solid walk ih =>
    rcases kept _ _ found with same | ⟨gone, file⟩
    · exact .into fits same solid (ih target)
    · -- A lost file can only be the goal, since nothing is below it.
      cases rest with
      | nil =>
        cases walk
        cases target
        exact absurd gone remains
      | cons step rest =>
        rw [walk.holder] at found
        cases found
        cases file

/-- A free name is found in a directory. -/
theorem vacant {parent : Spot} {name : String}
    (walk : Leads root through links here steps (.vacant parent name)) :
    root.seen parent = some folder ∧ root.seen (parent ++ [name]) = none := by
  generalize target : Landing.vacant parent name = landing at walk
  induction walk with
  | done | stop => cases target
  | stay _ _ ih | up _ _ ih | jump _ _ _ _ ih | into _ _ _ _ ih => exact ih target
  | free holder _ absent =>
    cases target
    exact ⟨holder, absent⟩

/-- A walk to a directory goes on to a name. -/
theorem concat {home : Spot} {last : Step} (walk : Leads root true links here steps (.entry home))
    (ends : ∀ links, Leads root through links home [last] landing) :
    Leads root through links here (steps ++ [last]) landing := by
  generalize target : Landing.entry home = reached at walk
  induction walk with
  | done =>
    cases target
    exact ends _
  | stay holder _ ih => exact .stay holder (ih target)
  | up holder _ ih => exact .up holder (ih target)
  | free => cases target
  | stop _ _ kept => cases kept
  | jump fits found _ _ ih =>
    refine .jump fits found (fun empty => absurd empty (by simp)) ?_
    simpa using ih target
  | into fits found solid _ ih => exact .into fits found solid (ih target)

/-- A walk goes to where its last step begins. -/
theorem split {last : Step} (walk : Leads root through links here (steps ++ [last]) landing) :
    ∃ home links', Leads root true links here steps (.entry home) ∧
      Leads root through links' home [last] landing := by
  generalize whole : steps ++ [last] = all at walk
  induction walk generalizing steps with
  | done => simp at whole
  | stay holder walk ih =>
    obtain ⟨rfl, single⟩ | ⟨front, rfl, rfl⟩ := List.append_eq_cons_iff.mp whole
    · cases single
      exact ⟨_, _, .done, .stay holder walk⟩
    · obtain ⟨home, left, before, ends⟩ := ih rfl
      exact ⟨home, left, .stay holder before, ends⟩
  | up holder walk ih =>
    obtain ⟨rfl, single⟩ | ⟨front, rfl, rfl⟩ := List.append_eq_cons_iff.mp whole
    · cases single
      exact ⟨_, _, .done, .up holder walk⟩
    · obtain ⟨home, left, before, ends⟩ := ih rfl
      exact ⟨home, left, .up holder before, ends⟩
  | free holder fits absent =>
    obtain ⟨rfl, single⟩ | ⟨front, _, rest⟩ := List.append_eq_cons_iff.mp whole
    · cases single
      exact ⟨_, 0, .done, .free holder fits absent⟩
    · simp at rest
  | stop fits found kept =>
    obtain ⟨rfl, single⟩ | ⟨front, _, rest⟩ := List.append_eq_cons_iff.mp whole
    · cases single
      exact ⟨_, 0, .done, .stop fits found kept⟩
    · simp at rest
  | jump fits found replaced walk ih =>
    obtain ⟨rfl, single⟩ | ⟨front, rfl, rfl⟩ := List.append_eq_cons_iff.mp whole
    · cases single
      exact ⟨_, _, .done, .jump fits found replaced walk⟩
    · obtain ⟨home, left, before, ends⟩ := ih (List.append_assoc _ _ _)
      exact ⟨home, left, .jump fits found (fun _ => rfl) before, ends⟩
  | into fits found solid walk ih =>
    obtain ⟨rfl, single⟩ | ⟨front, rfl, rfl⟩ := List.append_eq_cons_iff.mp whole
    · cases single
      exact ⟨_, _, .done, .into fits found solid walk⟩
    · obtain ⟨home, left, before, ends⟩ := ih rfl
      exact ⟨home, left, .into fits found solid before, ends⟩

theorem fits {name : String} (walk : Leads root through links here (.name name :: steps) landing) :
    name.utf8ByteSize ≤ Landing.nameLimit := by
  cases walk <;> assumption

/-- The last step of a walk ends at its name, unless that is a link to be replaced. -/
theorem last {home : Spot} {name : String}
    (walk : Leads root through links home [.name name] landing)
    (solid : through = true → ∀ target modified,
      root.seen (home ++ [name]) ≠ some (.link target modified)) :
    landing = .vacant home name ∧ root.seen (home ++ [name]) = none ∨
      landing = .entry (home ++ [name]) ∧ ∃ node, root.seen (home ++ [name]) = some node := by
  cases walk with
  | free _ _ absent => exact .inl ⟨rfl, absent⟩
  | stop _ found => exact .inr ⟨rfl, _, found⟩
  | jump _ found replaced => exact absurd found (solid (replaced rfl) _ _)
  | into _ found _ walk =>
    cases walk
    exact .inr ⟨rfl, _, found⟩

end Leads

end Node

namespace FileSystem

/-- Directories were added to a tree, and nothing else has changed. -/
structure Growth (before after : FileSystem) : Prop where
  current : after.current = before.current
  retains : ∀ spot node, before.root.seen spot = some node → after.root.seen spot = some node
  introduced : ∀ spot node, after.root.seen spot = some node → before.root.seen spot = none →
    node = .folder

namespace Growth

theorem refl (files : FileSystem) : Growth files files where
  current := rfl
  retains _ _ found := found
  introduced spot node found absent := by
    rw [absent] at found
    cases found

theorem trans {before between after : FileSystem} (first : Growth before between)
    (second : Growth between after) : Growth before after where
  current := second.current.trans first.current
  retains spot node found := second.retains spot node (first.retains spot node found)
  introduced spot node found absent := by
    cases middle : between.root.seen spot with
    | none => exact second.introduced spot node found middle
    | some held =>
      have same := second.retains spot held middle
      rw [found, Option.some_inj] at same
      rw [same]
      exact first.introduced spot held middle absent

/-- What is no directory is seen in the grown tree exactly where it was. -/
theorem seen_leaf {before after : FileSystem} (growth : Growth before after) (spot : Spot) :
    (after.root.seen spot).filter (fun node => !node.isDir) =
      (before.root.seen spot).filter fun node => !node.isDir := by
  cases old : before.root.seen spot with
  | some node => rw [growth.retains spot node old]
  | none =>
    cases new : after.root.seen spot with
    | none => rfl
    | some node =>
      rw [growth.introduced spot node new old]
      rfl

theorem leads {before after : FileSystem} (growth : Growth before after) {through : Bool}
    {links : Nat} {here goal : Spot} {steps : List Step}
    (walk : before.root.Leads through links here steps (.entry goal)) :
    after.root.Leads through links here steps (.entry goal) :=
  walk.mono (fun _ => False) (fun spot node found => .inl (growth.retains spot node found)) id

end Growth

variable {files after : FileSystem} {path : Path}

/-- Where the walk of a path begins. -/
def start (files : FileSystem) (path : Path) : Spot :=
  if path.isAbsolute then [] else files.current

/-- A path that can be walked at all. -/
def Walkable (path : Path) : Prop :=
  path.text.isEmpty = false ∧ Char.ofNat 0 ∉ path.text.toList

theorem walk_eq_ok {through : Bool} {landing : Landing} :
    files.walk through path = .ok landing ↔
      Walkable path ∧
        files.root.Leads through Landing.linkLimit (files.start path) path.steps landing := by
  rw [← Node.follow_eq_ok, walk, start, Walkable]
  by_cases empty : path.text.isEmpty = true
  · rw [if_pos empty]
    simp [empty]
  · by_cases ends : Char.ofNat 0 ∈ path.text.toList
    · rw [if_neg empty, if_pos (List.contains_iff_mem.mpr ends)]
      exact ⟨nofun, fun ⟨⟨_, plain⟩, _⟩ => absurd ends plain⟩
    · rw [if_neg empty, if_neg (mt List.contains_iff_mem.mp ends)]
      exact ⟨fun walk => ⟨⟨Bool.not_eq_true _ ▸ empty, ends⟩, walk⟩, And.right⟩

theorem growth_makeDirectory (made : files.makeDirectory path = .ok after) :
    Growth files after := by
  unfold makeDirectory at made
  cases walked : files.landClosed path with
  | error fault =>
    rw [walked] at made
    cases made
  | ok landing =>
    rw [walked] at made
    cases landing with
    | entry spot => cases made
    | vacant parent name =>
      obtain rfl := Except.ok.inj made
      have vacant : files.root.seen parent = some .folder ∧
          files.root.seen (parent ++ [name]) = none := by
        unfold landClosed at walked
        split at walked
        · cases walked
        · exact (walk_eq_ok.mp walked).2.vacant
      obtain ⟨holder, absent⟩ := vacant
      have changed : (Node.insertAt (.dir [] files.clock) files.root (parent ++ [name])).seen =
          Function.update files.root.seen (parent ++ [name]) (some .folder) :=
        Node.seen_insertAt holder (by rw [absent]; exact nofun) rfl
      refine ⟨rfl, fun spot node found => ?_, fun spot node found unseen => ?_⟩
      · show (Node.insertAt _ files.root _).seen spot = some node
        rw [changed, Function.update_of_ne, found]
        rintro rfl
        rw [absent] at found
        cases found
      · change (Node.insertAt _ files.root _).seen spot = some node at found
        rw [changed] at found
        by_cases same : spot = parent ++ [name]
        · subst same
          rw [Function.update_self] at found
          exact (Option.some.inj found).symm
        · rw [Function.update_of_ne same, unseen] at found
          cases found

theorem growth_makeNested (files : FileSystem) (paths : List Path) :
    Growth files (files.makeNested paths).2 := by
  induction paths generalizing files with
  | nil => exact .refl files
  | cons path outer ih =>
    have grown := ih files
    unfold makeNested
    split
    · exact growth_makeDirectory ‹_›
    · split
      · cases nested : files.makeNested outer with
        | mk fault between =>
          rw [nested] at grown
          cases fault with
          | some fault => exact grown
          | none =>
            dsimp only
            split
            · exact grown.trans (growth_makeDirectory ‹_›)
            · exact grown
      · exact .refl files

/-- Making directories adds directories and changes nothing else. -/
theorem growth_makeDirectories (files : FileSystem) (path : Path) :
    Growth files (files.makeDirectories path).2 := growth_makeNested files _

end FileSystem

end LiveReload
