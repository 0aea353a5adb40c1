/-
**Trees with one spot changed.**

A walk in a tree asks of each spot only whether there is a directory, a link or a file. With this
much of a tree as a function of the spot, putting or removing an entry changes the function at one
spot, as long as no directory gives way.

* `Node.seen`: what a walk sees at a spot;
* `Node.seen_insertAt`, `Node.seen_eraseAt`: the function with one spot updated.
-/
import LiveReload.Files.Basic
import Mathlib.Logic.Function.Basic

namespace LiveReload

namespace Node

/-- A directory as it is seen, without what it holds. -/
def folder : Node := dir [] 0

/-- What an entry shows of itself: of a directory, only that it is one. -/
def outline : Node → Node
  | dir _ _ => folder
  | node => node

/-- What is seen at a spot. -/
def seen (root : Node) (spot : Spot) : Option Node := (root.at? spot).map outline

theorem outline_eq_folder {node : Node} : node.outline = folder ↔ node.isDir = true := by
  cases node <;> simp [outline, folder, isDir]

theorem outline_of_not_dir {node : Node} (leaf : node.isDir = false) : node.outline = node := by
  cases node <;> simp_all [outline, isDir]

@[simp] theorem isDir_outline (node : Node) : node.outline.isDir = node.isDir := by
  cases node <;> rfl

theorem at?_append (root : Node) (front back : Spot) :
    root.at? (front ++ back) = (root.at? front).bind fun node => node.at? back := by
  induction front generalizing root with
  | nil => rfl
  | cons name rest ih =>
    rw [List.cons_append, at?, at?]
    cases root.child? name with
    | none => rfl
    | some child => exact ih child

theorem at?_concat (root : Node) (home : Spot) (name : String) :
    root.at? (home ++ [name]) = (root.at? home).bind fun node => node.child? name := by
  rw [at?_append]
  congr 1
  funext node
  simp [at?]

theorem seen_dir_cons (entries : List (String × Node)) (modified : Nat) (name : String)
    (rest : Spot) :
    (dir entries modified).seen (name :: rest) =
      (entries.lookup name).bind fun child => child.seen rest := by
  cases found : entries.lookup name <;> simp [seen, at?, child?, Node.entries, found]

theorem seen_dir_nil (entries : List (String × Node)) (modified : Nat) :
    (dir entries modified).seen [] = some folder := rfl

theorem seen_of_bare {node : Node} (bare : node.entries = []) {rest : Spot} (below : rest ≠ []) :
    node.seen rest = none := by
  obtain ⟨name, more, rfl⟩ := List.exists_cons_of_ne_nil below
  simp [seen, at?, child?, bare]

/-- Only directories have something below them. -/
theorem seen_below {root : Node} {spot rest : Spot} (leaf : root.seen spot ≠ some folder)
    (below : rest ≠ []) : root.seen (spot ++ rest) = none := by
  rw [seen, at?_append]
  cases found : root.at? spot with
  | none => rfl
  | some node =>
    have file : node.isDir = false := by
      rw [← Bool.not_eq_true, ← outline_eq_folder]
      simpa [seen, found] using leaf
    have bare : node.entries = [] := by cases node <;> first | rfl | cases file
    exact seen_of_bare bare below

/-- The holder of what is at a spot is a directory. -/
theorem seen_holder {root : Node} {home : Spot} {name : String} {node : Node}
    (found : root.seen (home ++ [name]) = some node) : root.seen home = some folder := by
  by_contra leaf
  rw [seen_below leaf (List.cons_ne_nil _ _)] at found
  cases found

/-- A directory is seen as the one entry of a name sees it. -/
theorem exists_dir_of_seen {root : Node} {first : String} {more : Spot}
    (holder : root.seen (first :: more) = some folder) :
    ∃ entries modified child, root = dir entries modified ∧ entries.lookup first = some child ∧
      child.seen more = some folder := by
  cases root with
  | dir entries modified =>
    rw [seen_dir_cons, Option.bind_eq_some_iff] at holder
    obtain ⟨child, found, inside⟩ := holder
    exact ⟨entries, modified, child, rfl, found, inside⟩
  | _ => simp [seen, at?, child?, entries] at holder

/-- A tree with one spot changed, all of whose other spots are seen as before. -/
theorem seen_put_cons {entries : List (String × Node)} {modified stamp : Nat} {first : String}
    {child changed : Node} {spot : Spot} {now : Option Node}
    (found : entries.lookup first = some child)
    (inside : changed.seen = Function.update child.seen spot now) :
    (dir (Entries.put first changed entries) stamp).seen =
      Function.update (dir entries modified).seen (first :: spot) now := by
  funext other
  cases other with
  | nil => simp [seen_dir_nil]
  | cons name rest =>
    rw [seen_dir_cons, Entries.lookup_put]
    by_cases same : name = first
    · subst same
      by_cases goal : rest = spot
      · simp [inside, goal]
      · simp [inside, goal, seen_dir_cons, found]
    · simp [same, seen_dir_cons]

/-- A directory with something else at one name, where no directory was and nothing is below. -/
theorem seen_of_lookup {entries changed : List (String × Node)} {modified stamp : Nat}
    {name : String} {now : Option Node} (bare : ∀ node ∈ now, node.entries = [])
    (leaf : (dir entries modified).seen [name] ≠ some folder)
    (lookup : ∀ other, changed.lookup other = if other = name then now else entries.lookup other) :
    (dir changed stamp).seen =
      Function.update (dir entries modified).seen [name] (now.map outline) := by
  funext other
  cases other with
  | nil => simp [seen_dir_nil]
  | cons first rest =>
    rw [seen_dir_cons, lookup]
    by_cases same : first = name
    · subst same
      rw [if_pos rfl]
      by_cases below : rest = []
      · subst below
        rw [Function.update_self]
        cases now <;> rfl
      · have gone : (now.bind fun node => node.seen rest) = none :=
          Option.bind_eq_none_iff.mpr fun node member => seen_of_bare (bare node member) below
        have old := seen_below leaf below
        rw [gone, Function.update_of_ne (by simpa using below)]
        exact old.symm
    · simp [same, seen_dir_cons]

/-- An entry that holds nothing is put where no directory is. -/
theorem seen_insertAt {root new : Node} {home : Spot} {name : String}
    (holder : root.seen home = some folder) (leaf : root.seen (home ++ [name]) ≠ some folder)
    (bare : new.entries = []) :
    (insertAt new root (home ++ [name])).seen =
      Function.update root.seen (home ++ [name]) (some new.outline) := by
  induction home generalizing root with
  | nil =>
    cases root with
    | dir entries modified =>
      have put : insertAt new (dir entries modified) ([] ++ [name]) =
          dir (Entries.put name new entries) modified := by
        rw [List.nil_append, insertAt]
        cases entries.lookup name <;> simp [insertAt]
      have held : ∀ node ∈ some new, node.entries = [] := by simpa using bare
      rw [put]
      exact seen_of_lookup held leaf fun other => Entries.lookup_put name other new entries
    | _ => simp [seen, at?, outline, folder] at holder
  | cons first more ih =>
    obtain ⟨entries, modified, child, rfl, found, inside⟩ := exists_dir_of_seen holder
    have below : child.seen (more ++ [name]) ≠ some folder := by
      simpa [seen_dir_cons, found] using leaf
    rw [List.cons_append, insertAt, found]
    exact seen_put_cons found (ih inside below)

/-- An entry is taken away that is no directory. -/
theorem seen_eraseAt {root : Node} {home : Spot} {name : String}
    (holder : root.seen home = some folder) (leaf : root.seen (home ++ [name]) ≠ some folder) :
    (eraseAt root (home ++ [name])).seen = Function.update root.seen (home ++ [name]) none := by
  induction home generalizing root with
  | nil =>
    cases root with
    | dir entries modified =>
      have held : ∀ node ∈ (none : Option Node), node.entries = [] := nofun
      rw [List.nil_append, eraseAt]
      exact seen_of_lookup held leaf fun other => Entries.lookup_erase name other entries
    | _ => simp [seen, at?, outline, folder] at holder
  | cons first more ih =>
    obtain ⟨entries, modified, child, rfl, found, inside⟩ := exists_dir_of_seen holder
    have below : child.seen (more ++ [name]) ≠ some folder := by
      simpa [seen_dir_cons, found] using leaf
    have step : eraseAt (dir entries modified) (first :: more ++ [name]) =
        dir (Entries.put first (eraseAt child (more ++ [name])) entries) modified := by
      rw [List.cons_append, eraseAt, found]
      simp
    rw [step]
    exact seen_put_cons found (ih inside below)

end Node

end LiveReload
