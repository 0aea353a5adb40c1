/-
**Identifiers go around once before one comes again.**

An identifier is one more than the last, and zero is left out where the numbers wrap around. So the
identifiers are the numbers from one on, in a circle of all numbers of 32 bits but zero, and what
else is done with the context between them does not count: told from the last identifier alone, the
next ones are those of `idAfter`.

* `Context.idAfter`: the identifiers after one, in closed form; each number but zero is among the
  first `idCount` of them once (`idAfter_inj`, `exists_idAfter`);
* `Context.HandsOut`: a use of a context, with the identifiers that it takes;
* `Context.act_handsOut`: what any actions take that do not set the last identifier;
* `HandsOut.ids_unique`: no identifier is zero, none comes twice in one turn, and a whole turn
  meets all of them.
-/
import LiveReload.Proofs.Context.Requests
import Mathlib.Data.List.Count
import Mathlib.Data.List.Nodup

namespace LiveReload

namespace Context

/-! ### The circle of identifiers -/

/-- How many identifiers there are: all numbers of 32 bits but zero. -/
def idCount : Nat := 2 ^ 32 - 1

/-- Identifier number `n`, counted from zero, after the identifier `id`. -/
def idAfter (id : UInt32) (n : Nat) : UInt32 := .ofNat ((id.toNat + n) % idCount + 1)

theorem toNat_idAfter (id : UInt32) (n : Nat) :
    (idAfter id n).toNat = (id.toNat + n) % idCount + 1 := by
  have bound : (id.toNat + n) % idCount < idCount := Nat.mod_lt _ (by decide)
  rw [idAfter, UInt32.toNat_ofNat', Nat.mod_eq_of_lt]
  unfold idCount at bound ⊢
  omega

theorem idAfter_ne_zero (id : UInt32) (n : Nat) : idAfter id n ≠ 0 := by
  intro zero
  have number := congrArg UInt32.toNat zero
  rw [toNat_idAfter] at number
  exact Nat.succ_ne_zero _ number

theorem idAfter_idAfter (id : UInt32) (n : Nat) :
    idAfter (idAfter id 0) n = idAfter id (n + 1) := by
  apply UInt32.toNat_inj.mp
  rw [toNat_idAfter, toNat_idAfter, toNat_idAfter]
  unfold idCount
  omega

/-- In one turn no identifier comes twice. -/
theorem idAfter_inj {id : UInt32} {n m : Nat} (first : n < idCount) (second : m < idCount)
    (same : idAfter id n = idAfter id m) : n = m := by
  have numbers := congrArg UInt32.toNat same
  rw [toNat_idAfter, toNat_idAfter] at numbers
  unfold idCount at first second numbers
  omega

/-- In one turn every number but zero comes. -/
theorem exists_idAfter (id : UInt32) {other : UInt32} (used : other ≠ 0) :
    ∃ n < idCount, idAfter id n = other := by
  have positive : other.toNat ≠ 0 := fun zero => used (UInt32.toNat_inj.mp zero)
  have idBound := id.toNat_lt
  have otherBound := other.toNat_lt
  by_cases ahead : id.toNat < other.toNat
  · refine ⟨other.toNat - 1 - id.toNat, ?_, UInt32.toNat_inj.mp ?_⟩
    · unfold idCount
      omega
    · rw [toNat_idAfter]
      unfold idCount
      omega
  · refine ⟨other.toNat - 1 + idCount - id.toNat, ?_, UInt32.toNat_inj.mp ?_⟩
    · unfold idCount
      omega
    · rw [toNat_idAfter]
      unfold idCount
      omega

/-- A whole turn ends where it began. -/
theorem idAfter_turn {id : UInt32} (used : id ≠ 0) : idAfter id (idCount - 1) = id := by
  have positive : id.toNat ≠ 0 := fun zero => used (UInt32.toNat_inj.mp zero)
  have bound := id.toNat_lt
  apply UInt32.toNat_inj.mp
  rw [toNat_idAfter]
  unfold idCount
  omega

/-- The context hands out the first identifier after its last one. -/
theorem freshId_eq (context : Context) :
    context.freshId = (idAfter context.id 0, { context with id := idAfter context.id 0 }) := by
  have next : (if context.id + 1 = 0 then 1 else context.id + 1) = idAfter context.id 0 := by
    have bound := context.id.toNat_lt
    apply UInt32.toNat_inj.mp
    rw [toNat_idAfter]
    unfold idCount
    split
    · rename_i wrapped
      have number := congrArg UInt32.toNat wrapped
      rw [UInt32.toNat_add] at number
      simp at number ⊢
      omega
    · rename_i plain
      have number : (context.id + 1).toNat ≠ 0 := fun zero => plain (UInt32.toNat_inj.mp zero)
      rw [UInt32.toNat_add] at number ⊢
      simp at number ⊢
      omega
  simp only [freshId, next]

/-! ### Uses of a context -/

/-- A use of a context that takes identifiers, in their order, and leaves the context after it.
Whatever else is done with the context leaves its last identifier. -/
inductive HandsOut : Context → List UInt32 → Context → Prop
  | nothing (context : Context) : HandsOut context [] context
  | fresh {context after : Context} {ids : List UInt32}
    (rest : HandsOut context.freshId.2 ids after) : HandsOut context (context.freshId.1 :: ids) after
  | other {context between after : Context} {ids : List UInt32} (same : between.id = context.id)
    (rest : HandsOut between ids after) : HandsOut context ids after

namespace HandsOut

variable {context between after : Context} {ids more : List UInt32}

theorem of_same (same : after.id = context.id) : HandsOut context [] after :=
  .other same (.nothing after)

theorem append (first : HandsOut context ids between) (second : HandsOut between more after) :
    HandsOut context (ids ++ more) after := by
  induction first with
  | nothing context => exact second
  | fresh rest ih => exact .fresh (ih second)
  | other same rest ih => exact .other same (ih second)

/-- What leaves the last identifier may follow. -/
theorem followed (first : HandsOut context ids between) (same : after.id = between.id) :
    HandsOut context ids after :=
  List.append_nil ids ▸ first.append (.of_same same)

/-- What is handed out is told from the last identifier before. -/
theorem ids_eq (given : HandsOut context ids after) :
    ids = (List.range ids.length).map (idAfter context.id) := by
  induction given with
  | nothing context => rfl
  | @fresh context after ids rest ih =>
    rw [freshId_eq] at ih ⊢
    rw [List.length_cons, List.range_succ_eq_map, List.map_cons, List.map_map]
    refine congrArg (idAfter context.id 0 :: ·) (ih.trans ?_)
    exact List.map_congr_left fun n _ => idAfter_idAfter context.id n
  | other same rest ih => exact same ▸ ih

/-- The last identifier afterwards is the one handed out last, if one was. -/
theorem id_eq (given : HandsOut context ids after) : after.id = ids.getLast?.getD context.id := by
  induction given with
  | nothing context => rfl
  | fresh rest ih =>
    rw [ih, freshId_eq, List.getLast?_cons]
    rfl
  | other same rest ih => rw [ih, same]

/-- The state is made by an initializer that hands out identifiers only if there was none. -/
theorem ensureState (layout : Layout) {make : Initializer}
    (given : HandsOut context ids (make context).2) :
    HandsOut context (if context.state.isSome then [] else ids)
      (context.ensureState layout make).2 := by
  cases set : context.state with
  | some address =>
    rw [ensureState_of_some set]
    exact .nothing context
  | none =>
    rcases made : make context with ⟨crash | data, inside⟩ <;> rw [made] at given
    · rw [ensureState_of_error set made]
      exact given
    · rcases stored : inside.storeMem layout data with ⟨crash | region, after⟩
      all_goals
        have same : after.id = inside.id := congrArg (fun answer => answer.2.id) stored.symm
      · rw [ensureState_of_refused set made stored]
        exact given.followed same
      · rw [ensureState_of_stored set made stored]
        exact given.followed same

end HandsOut

end Context

/-! ### Actions -/

namespace Action

/-- The action sets the last identifier. -/
def setsId : Action → Bool
  | setId _ => true
  | _ => false

/-- The identifiers that an initializer takes. -/
def idsInOrigin (context : Context) : Origin → List UInt32
  | .identifier => [context.freshId.1]
  | .value _ => []
  | .nested _ => []

/-- The identifiers that an action takes. -/
def idsOf (context : Context) : Action → List UInt32
  | freshId => [context.freshId.1]
  | app origin => if context.state.isSome then [] else idsInOrigin context origin
  | _ => []

theorem initializer_handsOut (context : Context) (origin : Origin) :
    context.HandsOut (idsInOrigin context origin) (initializer origin context).2 := by
  cases origin with
  | value value => exact .nothing context
  | identifier => exact .fresh (.nothing _)
  | nested value =>
    have made : context.HandsOut (if context.state.isSome then [] else [])
        (context.ensureState wordLayout (giveValue value)).2 :=
      .ensureState wordLayout (.nothing context)
    rw [ite_self] at made
    simp only [initializer]
    rcases answer : context.ensureState wordLayout (giveValue value) with ⟨crash | address, after⟩
    all_goals rw [answer] at made
    · exact made
    · dsimp only
      split <;> exact made

/-- A use of the state takes what its initializer does. -/
theorem useApp_handsOut (context : Context) (origin : Origin)
    (use : Nat → Context → Answer × Context)
    (leaves : ∀ address context, (use address context).2.id = context.id) :
    context.HandsOut (if context.state.isSome then [] else idsInOrigin context origin)
      (useApp context origin use).2 := by
  have made := Context.HandsOut.ensureState wordLayout (initializer_handsOut context origin)
  rcases answer : context.ensureState wordLayout (initializer origin) with
    ⟨crash | address, after⟩
  all_goals
    rw [answer] at made
    simp only [useApp, answer]
  · exact made
  · exact made.followed (leaves address after)

/-- Every action but one that sets the last identifier hands out what it takes. -/
theorem perform_handsOut (context : Context) {action : Action} (leaves : action.setsId = false) :
    context.HandsOut (action.idsOf context) (perform context action).2.2 := by
  cases action with
  | freshId => exact .fresh (.nothing _)
  | setId id => cases leaves
  | app origin => exact useApp_handsOut context origin _ fun _ _ => rfl
  | addToApp origin amount =>
    have taken := useApp_handsOut context (.value origin)
      (fun address context =>
        let sum := wordAt context address + amount
        (.word sum, context.writeAt address (wordBytes sum))) fun _ _ => rfl
    rw [idsInOrigin, ite_self] at taken
    exact taken
  | allocate arena size align =>
    refine .of_same ?_
    rw [perform_allocate]
    cases Layout.of? size align with
    | none => rfl
    | some layout => cases arena <;> rfl
  | storeText arena text =>
    refine .of_same ?_
    rw [perform_storeText]
    cases textLayout? text with
    | none => rfl
    | some layout => cases arena <;> rfl
  | draw kind => exact .of_same (by cases kind <;> rfl)
  | pace now =>
    refine .of_same ?_
    simp only [perform, Context.pace]
    rcases context.pacer.advance now with ⟨crash | sleep, pacer⟩ <;> rfl
  | _ => exact .of_same rfl

end Action

namespace Context

/-- The identifiers that actions take, in order. -/
def idsIn (context : Context) : List Action → List UInt32
  | [] => []
  | action :: rest => action.idsOf context ++ idsIn (Action.perform context action).2.2 rest

/-- Actions that do not set the last identifier hand out what they take. -/
theorem act_handsOut (context : Context) {actions : List Action}
    (leave : ∀ action ∈ actions, action.setsId = false) :
    context.HandsOut (context.idsIn actions) (context.act actions) := by
  induction actions generalizing context with
  | nil => exact .nothing context
  | cons action rest ih =>
    obtain ⟨here, later⟩ := List.forall_mem_cons.mp leave
    exact (Action.perform_handsOut context here).append (ih _ later)

namespace HandsOut

variable {context after : Context} {ids : List UInt32}

theorem ne_zero (given : HandsOut context ids after) : ∀ id ∈ ids, id ≠ 0 := by
  intro id member
  rw [given.ids_eq] at member
  obtain ⟨n, -, rfl⟩ := List.mem_map.mp member
  exact idAfter_ne_zero context.id n

theorem nodup (given : HandsOut context ids after) (turn : ids.length ≤ idCount) : ids.Nodup := by
  rw [given.ids_eq]
  refine List.nodup_range.map_on fun n first m second same => ?_
  rw [List.mem_range] at first second
  exact idAfter_inj (Nat.lt_of_lt_of_le first turn) (Nat.lt_of_lt_of_le second turn) same

theorem mem_of_turn (given : HandsOut context ids after) (turn : ids.length = idCount) {id : UInt32}
    (used : id ≠ 0) : id ∈ ids := by
  rw [given.ids_eq, turn]
  obtain ⟨n, inside, rfl⟩ := exists_idAfter context.id used
  exact List.mem_map_of_mem (List.mem_range.mpr inside)

theorem getLast?_of_turn (given : HandsOut context ids after) (turn : ids.length = idCount)
    (used : context.id ≠ 0) : ids.getLast? = some context.id := by
  rw [given.ids_eq, turn, List.getLast?_map, List.getLast?_range, if_neg (by decide),
    Option.map_some, idAfter_turn used]

/-- As many identifiers as are wanted can be handed out one after the other. -/
theorem exists_of_count (context : Context) (count : Nat) :
    ∃ ids after, HandsOut context ids after ∧ ids.length = count := by
  induction count generalizing context with
  | zero => exact ⟨[], context, .nothing context, rfl⟩
  | succ count ih =>
    obtain ⟨ids, after, given, length⟩ := ih context.freshId.2
    exact ⟨_, after, .fresh given, by rw [List.length_cons, length]⟩

/-- **Identifiers are unique for a whole turn.** Whatever the last identifier was, and whatever else
is done with the context, no identifier is zero and no two of at most `2 ^ 32 - 1` are the same. If
the last one was not zero, as many identifiers as that are every number but zero, once each, and end
on the last one. -/
theorem ids_unique (given : HandsOut context ids after) :
    (∀ id ∈ ids, id ≠ 0) ∧
      (ids.length ≤ 2 ^ 32 - 1 → ids.Nodup) ∧
      (context.id ≠ 0 → ids.length = 2 ^ 32 - 1 →
        (∀ id, id ≠ 0 → ids.count id = 1) ∧
          ids.getLast? = some context.id ∧ after.id = context.id) := by
  refine ⟨given.ne_zero, given.nodup, fun used turn => ?_⟩
  have last := given.getLast?_of_turn turn used
  refine ⟨fun id other => ?_, last, ?_⟩
  · exact List.count_eq_one_of_mem (given.nodup (Nat.le_of_eq turn)) (given.mem_of_turn turn other)
  · rw [given.id_eq, last, Option.getD_some]

/-- Four identifiers across the end of the numbers, with other actions between them and one in an
initializer that runs once; and a whole turn. -/
theorem ids_unique_around :
    let start : Context := { new [] 0 .discarding .spaced with id := 4294967294 }
    let actions : List Action :=
      [.freshId, .print "frame", .freshId, .app .identifier, .closeTick, .app .identifier,
        .dropState, .freshId]
    (∀ action ∈ actions, action.setsId = false) ∧
      start.idsIn actions = [4294967295, 1, 2, 3] ∧ [4294967295, 1, 2, (3 : UInt32)].Nodup ∧
      ∃ ids after, HandsOut start ids after ∧ ids.length = 2 ^ 32 - 1 ∧
        ids.count 4294967294 = 1 ∧ after.id = 4294967294 := by
  intro start actions
  have leave : ∀ action ∈ actions, action.setsId = false := by decide
  have taken : start.idsIn actions = [4294967295, 1, 2, 3] := by decide
  obtain ⟨-, distinct, -⟩ := ids_unique (act_handsOut start leave)
  rw [taken] at distinct
  obtain ⟨ids, after, given, turn⟩ := exists_of_count start (2 ^ 32 - 1)
  obtain ⟨-, -, around⟩ := ids_unique given
  obtain ⟨once, -, back⟩ := around (by decide) turn
  exact ⟨leave, taken, distinct (by decide), ids, after, given, turn, once _ (by decide), back⟩

end HandsOut

end Context

end LiveReload
