/-
**When the artifacts of several platforms go to different paths.**

If a request names several platforms, the native artifact goes to the path of the request, and the
others to this path with the extension of their platform. These are different paths, but for two
kinds of requests: the path has the extension of one of the platforms already, and the native
artifact is built too; or nothing but two dots is left of the path without its extension, so that
those of all other platforms go there.

* `Platform.lastOf`: the last component of the path of an artifact;
* `BuildRequest.Clashes`: two platforms of the request share a path;
* `BuildRequest.targets_distinct`: the paths are different exactly if the request does not clash.
-/
import LiveReload.Commands.Build
import LiveReload.Proofs.Files.Extensions
import Mathlib.Data.List.Nodup
import Mathlib.Data.List.Pairwise

namespace LiveReload

namespace Platform

variable {platform other : Platform} {loadable : Bool} {extension : String}

/-- An extension of a platform is a word. -/
theorem artifactExtension_plain (set : platform.artifactExtension loadable = some extension) :
    extension.toList ≠ [] ∧ '/' ∉ extension.toList ∧ '.' ∉ extension.toList := by
  cases platform <;> cases loadable <;> cases set <;> decide

/-- Platforms share no extension. -/
theorem artifactExtension_inj (set : platform.artifactExtension loadable = some extension)
    (same : other.artifactExtension loadable = some extension) : platform = other := by
  have both := set.trans same.symm
  clear set same
  cases platform <;> cases other <;> cases loadable <;> simp [artifactExtension] at both ⊢

theorem artifactExtension_eq_none :
    platform.artifactExtension loadable = none ↔ platform = native := by
  cases platform <;> cases loadable <;> simp [artifactExtension]

/-- The last component of the path of an artifact. -/
def lastOf (platform : Platform) (output : Path) (name : String) (loadable : Bool) : Component :=
  match platform.artifactExtension loadable with
  | none => .name name
  | some extension =>
    if output.CutsUp then .up else .name ((Path.cutName name).1 ++ "." ++ extension)

theorem lastOf_of_some {output : Path} {name : String}
    (set : platform.artifactExtension loadable = some extension) :
    platform.lastOf output name loadable =
      if output.CutsUp then .up else .name ((Path.cutName name).1 ++ "." ++ extension) := by
  unfold lastOf
  rw [set]

/-- The artifacts of all platforms lie side by side. -/
theorem components_artifactAt {output : Path} {name : String}
    (named : output.fileName = some name) (loadable : Bool) :
    ∃ outer, ∀ platform : Platform, (platform.artifactAt output loadable).components =
      outer ++ [platform.lastOf output name loadable] := by
  obtain ⟨outer, whole, replaced⟩ := Path.components_withExtension named
  refine ⟨outer, fun platform => ?_⟩
  unfold artifactAt lastOf
  cases set : platform.artifactExtension loadable with
  | none => exact whole
  | some extension =>
    obtain ⟨filled, plain, -⟩ := artifactExtension_plain set
    exact replaced extension filled plain

end Platform

namespace BuildRequest

variable {request : BuildRequest} {name : String}

/-- Two platforms of the request share a path: the native artifact goes to a path that has the
extension of another platform, or the artifacts of two others go up. -/
def Clashes (request : BuildRequest) : Prop :=
  if request.output.CutsUp then .windows ∈ request.platforms ∧ .wasm ∈ request.platforms
  else .native ∈ request.platforms ∧ ∃ platform ∈ request.platforms, ∃ extension,
    platform.artifactExtension request.loadable = some extension ∧
      request.output.extension = some extension

/-- A file name has the extension of a platform exactly if the artifact of the platform has this
file name. -/
theorem extension_eq_some_iff (named : request.output.fileName = some name) {platform : Platform}
    {extension : String}
    (set : platform.artifactExtension request.loadable = some extension) :
    request.output.extension = some extension ↔
      name = (Path.cutName name).1 ++ "." ++ extension := by
  obtain ⟨-, -, dotless⟩ := Platform.artifactExtension_plain set
  rw [Path.extension, named, Option.bind_some]
  exact Path.cutName_snd_eq_some_iff (Path.fileName_ne_nil named) dotless

/-- The native artifact and another one share a path if the path has the extension already. -/
theorem clashes_of_native (named : request.output.fileName = some name)
    (native : .native ∈ request.platforms) {platform : Platform}
    (member : platform ∈ request.platforms) {extension : String}
    (set : platform.artifactExtension request.loadable = some extension)
    (same : .name name = platform.lastOf request.output name request.loadable) :
    request.Clashes := by
  rw [Platform.lastOf_of_some set] at same
  by_cases up : request.output.CutsUp
  · rw [if_pos up] at same
    cases same
  · rw [if_neg up] at same
    unfold Clashes
    rw [if_neg up]
    exact ⟨native, platform, member, extension, set,
      (extension_eq_some_iff named set).mpr (Component.name.inj same)⟩

/-- A request clashes if the paths of two of its platforms end alike. -/
theorem clashes_of_same (named : request.output.fileName = some name) {one other : Platform}
    (first : one ∈ request.platforms) (second : other ∈ request.platforms) (apart : one ≠ other)
    (same : one.lastOf request.output name request.loadable =
      other.lastOf request.output name request.loadable) : request.Clashes := by
  cases set : one.artifactExtension request.loadable with
  | none =>
    obtain rfl := Platform.artifactExtension_eq_none.mp set
    cases otherSet : other.artifactExtension request.loadable with
    | none => exact absurd (Platform.artifactExtension_eq_none.mp otherSet).symm apart
    | some extension => exact clashes_of_native named first second otherSet same
  | some extension =>
    cases otherSet : other.artifactExtension request.loadable with
    | none =>
      obtain rfl := Platform.artifactExtension_eq_none.mp otherSet
      exact clashes_of_native named second first set same.symm
    | some otherExtension =>
      rw [Platform.lastOf_of_some set, Platform.lastOf_of_some otherSet] at same
      by_cases up : request.output.CutsUp
      · unfold Clashes
        rw [if_pos up]
        cases one <;> cases other <;> simp_all [Platform.artifactExtension]
      · rw [if_neg up, if_neg up, Component.name.injEq, String.append_right_inj] at same
        exact absurd (Platform.artifactExtension_inj set (same ▸ otherSet)) apart

/-- The paths of two platforms of a request that clashes end alike. -/
theorem exists_same_of_clashes (named : request.output.fileName = some name)
    (clashes : request.Clashes) :
    ∃ one ∈ request.platforms, ∃ other ∈ request.platforms, one ≠ other ∧
      one.lastOf request.output name request.loadable =
        other.lastOf request.output name request.loadable := by
  unfold Clashes at clashes
  split at clashes
  · next up =>
    refine ⟨.windows, clashes.1, .wasm, clashes.2, by decide, ?_⟩
    cases request.loadable <;> simp [Platform.lastOf, Platform.artifactExtension, up]
  · next up =>
    obtain ⟨native, platform, member, extension, set, already⟩ := clashes
    refine ⟨.native, native, platform, member, ?_, ?_⟩
    · rintro rfl
      cases set
    · rw [Platform.lastOf_of_some set, if_neg up,
        ← (extension_eq_some_iff named set).mp already]
      rfl

/-- **The artifacts of several platforms go to different paths**, exactly if the request does not
clash: unless two dots are left of its path without the extension, either the native artifact is not
built, or the path has none of the extensions of the platforms; if two dots are left, at most one of
the other platforms is named. -/
theorem targets_distinct (request : BuildRequest) (named : request.output.fileName.isSome = true)
    (several : 1 < request.platforms.length) (apart : request.platforms.Nodup) :
    request.targets.Pairwise (fun one other => one.output.same other.output = false) ↔
      ¬ request.Clashes := by
  obtain ⟨name, named⟩ := Option.isSome_iff_exists.mp named
  obtain ⟨outer, places⟩ := Platform.components_artifactAt named request.loadable
  have differ (one other : Platform) :
      (request.outputFor one).same (request.outputFor other) = false ↔
        one.lastOf request.output name request.loadable ≠
          other.lastOf request.output name request.loadable := by
    unfold outputFor Path.same
    rw [if_pos several, if_pos several, places, places, decide_eq_false_iff_not]
    simp
  unfold targets
  rw [List.pairwise_map]
  simp only [differ]
  constructor
  · intro distinct clashes
    obtain ⟨one, first, other, second, different, same⟩ := exists_same_of_clashes named clashes
    have : Std.Symm fun one other : Platform =>
        one.lastOf request.output name request.loadable ≠
          other.lastOf request.output name request.loadable := ⟨fun _ _ => Ne.symm⟩
    exact distinct.forall first second different same
  · exact fun clear => apart.pairwise_of_forall_ne fun one first other second different same =>
      clear (clashes_of_same named first second different same)

/-- Of a path with several dots the last extension counts, and it is none of a platform. -/
theorem targets_distinct_dotted :
    let request : BuildRequest :=
      ⟨⟨"src/a.rs"⟩, ⟨"out/a.exe.b/"⟩, [.wasm, .native, .windows], true, false⟩
    request.output.fileName.isSome = true ∧ 1 < request.platforms.length ∧
      request.platforms.Nodup ∧
      request.targets.Pairwise fun one other => one.output.same other.output = false := by
  intro request
  have clear : ¬ request.Clashes := by
    unfold Clashes
    rw [if_neg (by decide)]
    rintro ⟨-, platform, -, extension, set, already⟩
    have last : request.output.extension = some "b" := by decide
    obtain rfl := Option.some.inj (last.symm.trans already)
    revert set
    cases platform <;> decide
  exact ⟨by decide, by decide, by decide,
    (targets_distinct request (by decide) (by decide) (by decide)).mpr clear⟩

/-- The native artifact and the one for `windows` share a path that has the extension of this, and
two other artifacts share a path of which two dots are left. -/
theorem targets_coincide :
    let request (output : String) (platforms : List Platform) : BuildRequest :=
      ⟨⟨"src/a.rs"⟩, ⟨output⟩, platforms, false, false⟩
    let outputs (request : BuildRequest) := request.targets.map (·.output.text)
    ((request "out/a.exe" [.windows, .native]).output.fileName = some "a.exe" ∧
        outputs (request "out/a.exe" [.windows, .native]) = ["out/a.exe", "out/a.exe"]) ∧
      (request "out/..x" [.windows, .wasm]).output.fileName = some "..x" ∧
        outputs (request "out/..x" [.windows, .wasm]) = ["out/..", "out/.."] := by
  decide

end BuildRequest

end LiveReload
