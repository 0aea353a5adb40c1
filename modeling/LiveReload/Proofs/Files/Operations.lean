/-
**What file operations do.**

An operation follows its path, looks at the entry it led to and answers. When it succeeds, all of
this did, so a success tells where the path led and what was there.

* `FileSystem.land_eq_ok`, `FileSystem.entryOf_eq_ok`: the two parts of every operation, and both
  together (`FileSystem.find_eq_ok`);
* `FileSystem.read_eq_ok`: a file that can be read, also after directories are made (`Growth.read`);
* `FileSystem.remove_eq_ok`: an entry that can be removed, and the files without it.
-/
import LiveReload.Proofs.Files.Walks

namespace LiveReload

theorem Node.at?_of_seen_file {root : Node} {spot : Spot} {content : Content} {modified : Nat}
    (found : root.seen spot = some (.file content modified)) :
    root.at? spot = some (.file content modified) := by
  rw [seen, Option.map_eq_some_iff] at found
  obtain ⟨node, there, outline⟩ := found
  cases node <;> simp_all [Node.outline, folder]

namespace FileSystem

variable {files after : FileSystem} {path : Path} {spot : Spot} {content : Content}

/-- A path that closes with a name is walked as it is. -/
theorem closed_of_not_open (named : path.endsOpen = false) : closed path = path := by
  unfold closed
  cases shape : path.text.toList.reverse with
  | nil => rfl
  | cons last rest =>
    have plain : last ≠ '/' := by
      rintro rfl
      rw [Path.endsOpen, ← List.head?_reverse, shape] at named
      simp at named
    rw [List.dropWhile_cons_of_neg (by simpa using plain), ← shape]
    simp

theorem landClosed_of_not_open (named : path.endsOpen = false) :
    files.landClosed path = files.land false path := by
  rw [landClosed, land, closed_of_not_open named]

/-! ### Reading -/

theorem land_eq_ok {through : Bool} {landing : Landing} :
    files.land through path = .ok landing ↔
      tooLong path = false ∧ Walkable path ∧
        files.root.Leads through Landing.linkLimit (files.start path) path.steps landing := by
  rw [land, ← walk_eq_ok]
  by_cases long : tooLong path = true <;> simp [long]

theorem bind_eq_ok {α β : Type} {first : Except Fault α} {next : α → Except Fault β} {result : β} :
    first >>= next = .ok result ↔ ∃ between, first = .ok between ∧ next between = .ok result := by
  cases first <;> simp [bind, Except.bind]

theorem entryOf_eq_ok {landing : Landing} {node : Node} :
    files.entryOf landing = .ok (spot, node) ↔
      landing = .entry spot ∧ files.root.at? spot = some node := by
  cases landing with
  | vacant parent name => simp [entryOf]
  | entry other =>
    cases found : files.root.at? other with
    | none =>
      simp only [entryOf, found, reduceCtorEq, Landing.entry.injEq, false_iff]
      rintro ⟨rfl, there⟩
      rw [found] at there
      cases there
    | some held =>
      simp only [entryOf, found, Except.ok.injEq, Prod.mk.injEq, Landing.entry.injEq]
      constructor
      · rintro ⟨rfl, rfl⟩
        exact ⟨rfl, found⟩
      · rintro ⟨rfl, there⟩
        rw [found, Option.some_inj] at there
        exact ⟨rfl, there⟩

theorem find_eq_ok {node : Node} : files.find path = .ok (spot, node) ↔
    files.land true path = .ok (.entry spot) ∧ files.root.at? spot = some node := by
  unfold find
  constructor
  · intro found
    obtain ⟨landing, landed, entry⟩ := bind_eq_ok.mp found
    obtain ⟨rfl, there⟩ := entryOf_eq_ok.mp entry
    exact ⟨landed, there⟩
  · rintro ⟨landed, there⟩
    exact bind_eq_ok.mpr ⟨_, landed, entryOf_eq_ok.mpr ⟨rfl, there⟩⟩

/-- What can be read is what a path leads to. -/
theorem read_eq_ok :
    files.read path = .ok content ↔
      ∃ spot modified, files.land true path = .ok (.entry spot) ∧
        files.root.seen spot = some (.file content modified) := by
  unfold read
  constructor
  · intro readable
    obtain ⟨⟨spot, node⟩, found, held⟩ := bind_eq_ok.mp readable
    obtain ⟨landed, there⟩ := find_eq_ok.mp found
    cases node with
    | file other modified =>
      obtain rfl := Except.ok.inj held
      exact ⟨spot, modified, landed, by rw [Node.seen, there]; rfl⟩
    | _ => cases held
  · rintro ⟨spot, modified, landed, seen⟩
    exact bind_eq_ok.mpr ⟨_, find_eq_ok.mpr ⟨landed, Node.at?_of_seen_file seen⟩, rfl⟩

/-- A file in the current directory is read by its name. -/
theorem read_name {name : String} {modified : Nat} (steps : Path.steps ⟨name⟩ = [.name name])
    (walkable : Walkable ⟨name⟩) (short : tooLong ⟨name⟩ = false)
    (fits : name.utf8ByteSize ≤ Landing.nameLimit) (beside : files.start ⟨name⟩ = files.current)
    (found : files.root.seen (files.current ++ [name]) = some (.file content modified)) :
    files.read ⟨name⟩ = .ok content := by
  refine read_eq_ok.mpr ⟨_, modified, land_eq_ok.mpr ⟨short, walkable, ?_⟩, found⟩
  rw [steps, beside]
  exact .into fits found nofun .done

theorem Growth.read (growth : files.Growth after) (readable : files.read path = .ok content) :
    after.read path = .ok content := by
  obtain ⟨spot, modified, landed, found⟩ := read_eq_ok.mp readable
  obtain ⟨short, walkable, walk⟩ := land_eq_ok.mp landed
  refine read_eq_ok.mpr ⟨spot, modified, land_eq_ok.mpr ⟨short, walkable, ?_⟩,
    growth.retains spot _ found⟩
  rw [start, growth.current]
  exact growth.leads walk

/-! ### Removing -/

/-- The files without the entry at a spot. -/
def without (files : FileSystem) (spot : Spot) : FileSystem :=
  { files with root := files.root.eraseAt spot }.note [⟨.remove, spot⟩]

theorem remove_eq_ok :
    files.remove path = .ok after ↔
      path.endsOpen = false ∧ ∃ spot node, files.land false path = .ok (.entry spot) ∧
        files.root.seen spot = some node ∧ node.isDir = false ∧ after = files.without spot := by
  unfold remove
  constructor
  · intro removed
    obtain ⟨landing, landed, removed⟩ := bind_eq_ok.mp removed
    obtain ⟨⟨spot, node⟩, entry, removed⟩ := bind_eq_ok.mp removed
    obtain ⟨rfl, found⟩ := entryOf_eq_ok.mp entry
    obtain ⟨leaf, named, same⟩ :
        node.isDir = false ∧ path.endsOpen = false ∧ files.without spot = after := by
      by_cases opens : path.endsOpen = true
      · cases node <;> simp [opens] at removed
      · cases node <;> simp_all [Node.isDir, without]
    rw [landClosed_of_not_open named] at landed
    refine ⟨named, spot, node.outline, landed, ?_, ?_, same.symm⟩
    · rw [Node.seen, found, Option.map_some]
    · rw [Node.isDir_outline, leaf]
  · rintro ⟨named, spot, node, landed, seen, leaf, rfl⟩
    obtain ⟨held, found, rfl⟩ := Option.map_eq_some_iff.mp seen
    rw [Node.isDir_outline] at leaf
    rw [← landClosed_of_not_open named] at landed
    refine bind_eq_ok.mpr ⟨_, landed, bind_eq_ok.mpr ⟨_, entryOf_eq_ok.mpr ⟨rfl, found⟩, ?_⟩⟩
    cases held with
    | dir entries modified => cases leaf
    | _ => simp [named, without]

end FileSystem

end LiveReload
