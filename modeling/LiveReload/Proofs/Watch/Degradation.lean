/-
**When a watcher becomes unreliable.**

A watcher counts the errors since the last event, over all its waits, and is unreliable for good
once there were enough of them in a row or a wait found the channel closed. What it has said and
what it is depends only on what it consumed and on whether the channel was found closed, so it does
not matter which wait consumed what.

* `Streak`: errors in a row, and `errorsAtEnd`, those at the end (`streak_concat`);
* `Watcher.receiveAll`: notifications received in order, and what is known of the watcher then
  (`Watcher.Judged`, `Watcher.exists_judged`);
* `Course`: waits one after the other; each receives some notifications and may find the channel
  closed (`waitUntil_receives`, `Told.call`);
* `Course.degrades`: the rule for every course.
-/
import LiveReload.Proofs.Watch.Interleaving
import Mathlib.Data.List.DropRight

namespace LiveReload

/-! ### Errors in a row -/

/-- The notification is an error. -/
def Notification.isFailure : Notification → Bool
  | event _ => false
  | failure _ => true

/-- The record of an error. -/
def Notification.warning? : Notification → Option Record
  | event _ => none
  | failure error => some (Watcher.errorRecord error)

/-- At least so many errors came with no event between them. -/
def Streak (least : Nat) (heard : List Notification) : Prop :=
  ∃ errors, errors <:+: heard ∧ least ≤ errors.length ∧
    ∀ notification ∈ errors, notification.isFailure = true

/-- How many errors came since the last event. -/
def errorsAtEnd (heard : List Notification) : Nat :=
  (heard.rtakeWhile Notification.isFailure).length

section Streak

variable {least : Nat} {heard before : List Notification} {notification : Notification}

theorem errorsAtEnd_concat (heard : List Notification) (notification : Notification) :
    errorsAtEnd (heard ++ [notification]) =
      if notification.isFailure then errorsAtEnd heard + 1 else 0 := by
  unfold errorsAtEnd
  rw [List.rtakeWhile_concat]
  split
  · rw [List.length_append, List.length_singleton]
  · rfl

theorem Streak.mono (streak : Streak least before) (inside : before <:+: heard) :
    Streak least heard := by
  obtain ⟨errors, among, enough, failures⟩ := streak
  exact ⟨errors, among.trans inside, enough, failures⟩

theorem Streak.le_length (streak : Streak least heard) : least ≤ heard.length := by
  obtain ⟨errors, among, enough, _⟩ := streak
  exact Nat.le_trans enough among.length_le

/-- Errors at the end are no more than are counted there. -/
theorem length_le_errorsAtEnd {errors : List Notification} (last : errors <:+ heard)
    (failures : ∀ notification ∈ errors, notification.isFailure = true) :
    errors.length ≤ errorsAtEnd heard := by
  induction heard using List.reverseRecOn generalizing errors with
  | nil => rw [List.suffix_nil.mp last, List.length_nil]; exact Nat.zero_le _
  | append_singleton heard notification ih =>
    rcases List.suffix_concat_iff.mp last with rfl | ⟨earlier, rfl, inside⟩
    · exact Nat.zero_le _
    · have failure := failures notification (by simp)
      have most := ih inside fun other member => failures other (List.mem_append_left _ member)
      rw [errorsAtEnd_concat, if_pos failure, List.length_append, List.length_singleton]
      omega

/-- A streak ends now, or it was there before. -/
theorem streak_concat :
    Streak least (heard ++ [notification]) ↔
      Streak least heard ∨ least ≤ errorsAtEnd (heard ++ [notification]) := by
  constructor
  · rintro ⟨errors, among, enough, failures⟩
    rcases List.infix_concat_iff.mp among with last | inside
    · exact .inr (Nat.le_trans enough (length_le_errorsAtEnd last failures))
    · exact .inl ⟨errors, inside, enough, failures⟩
  · rintro (streak | enough)
    · exact streak.mono (List.prefix_append _ _).isInfix
    · exact ⟨_, (List.rtakeWhile_suffix _ _).isInfix, enough, fun _ => List.mem_rtakeWhile_imp⟩

end Streak

/-! ### Notifications received in order -/

namespace Watcher

/-- Receives notifications in order. -/
def receiveAll (watcher : Watcher) : List Notification → Except Crash (List Record × Watcher)
  | [] => .ok ([], watcher)
  | notification :: rest =>
    match watcher.receive notification with
    | .error crash => .error crash
    | .ok (_, records, watcher) =>
      (watcher.receiveAll rest).map fun (more, watcher) => (records ++ more, watcher)

section Receives

variable {watcher between after : Watcher} {heard more : List Notification}
  {notification : Notification} {relevant : Bool} {records further : List Record}

theorem receiveAll_cons (received : watcher.receive notification = .ok (relevant, records, between))
    (heard : List Notification) :
    watcher.receiveAll (notification :: heard) =
      (between.receiveAll heard).map fun (more, after) => (records ++ more, after) := by
  rw [receiveAll, received]

theorem receiveAll_append (watcher : Watcher) (heard more : List Notification) :
    watcher.receiveAll (heard ++ more) = (watcher.receiveAll heard).bind fun (earlier, between) =>
      (between.receiveAll more).map fun (later, after) => (earlier ++ later, after) := by
  induction heard generalizing watcher with
  | nil =>
    show _ = (watcher.receiveAll more).map id
    rw [Except.map_id]
    rfl
  | cons notification rest ih =>
    rcases first : watcher.receive notification with crash | ⟨relevant, said, next⟩
    · rw [List.cons_append, receiveAll, receiveAll, first]
      rfl
    · rw [List.cons_append, receiveAll_cons first, receiveAll_cons first, ih]
      rcases next.receiveAll rest with crash | ⟨earlier, between⟩
      · rfl
      · show ((between.receiveAll more).map _).map _ = (between.receiveAll more).map _
        rcases between.receiveAll more with crash | ⟨later, after⟩
        · rfl
        · exact congrArg (fun records => Except.ok (records, after))
            (List.append_assoc said earlier later).symm

theorem receiveAll_append_eq_ok
    (received : watcher.receiveAll (heard ++ more) = .ok (records, after)) :
    ∃ earlier between later, watcher.receiveAll heard = .ok (earlier, between) ∧
      between.receiveAll more = .ok (later, after) ∧ records = earlier ++ later := by
  rw [receiveAll_append] at received
  rcases first : watcher.receiveAll heard with crash | ⟨earlier, between⟩
  · rw [first] at received
    cases received
  · rw [first] at received
    rcases second : between.receiveAll more with crash | ⟨later, last⟩
    · simp [second, Except.bind, Except.map] at received
    · obtain ⟨rfl, rfl⟩ := by simpa [second, Except.bind, Except.map] using received
      exact ⟨earlier, between, later, rfl, second, rfl⟩

end Receives

/-- What is known of a watcher that received notifications, and of what it said. -/
structure Judged (config : WatchSettings) (heard : List Notification) (records : List Record)
    (watcher : Watcher) : Prop where
  settings : watcher.config = config
  errors : watcher.errors = errorsAtEnd heard
  degraded : watcher.degraded = true ↔ Streak (max 1 config.maxConsecutiveErrors) heard
  warnings : records.filter (·.severity = .warn) = heard.filterMap Notification.warning?
  alarms : records.countP (·.severity = .error) = if watcher.degraded then 1 else 0

section Judged

variable {config : WatchSettings} {heard : List Notification} {records said : List Record}
  {watcher : Watcher}

theorem Judged.new (config : WatchSettings) : Judged config [] [] (new config) where
  settings := rfl
  errors := rfl
  degraded := by
    refine ⟨nofun, fun streak => ?_⟩
    have := streak.le_length
    rw [List.length_nil] at this
    omega
  warnings := rfl
  alarms := rfl

/-- An event begins the count anew and says nothing severe. -/
theorem Judged.event (judged : Judged config heard records watcher) (happened : Event)
    (quiet : ∀ record ∈ said, record.severity = .trace) :
    Judged config (heard ++ [.event happened]) (records ++ said) { watcher with errors := 0 } where
  settings := judged.settings
  errors := by rw [errorsAtEnd_concat]; rfl
  degraded := by
    rw [streak_concat, errorsAtEnd_concat]
    refine judged.degraded.trans (or_iff_left ?_).symm
    show ¬ max 1 config.maxConsecutiveErrors ≤ 0
    omega
  warnings := by
    have none : said.filter (·.severity = .warn) = [] := by
      refine List.filter_eq_nil_iff.mpr fun record member => ?_
      simp [quiet record member]
    rw [List.filter_append, none, List.filterMap_append, judged.warnings]
    rfl
  alarms := by
    have none : said.countP (·.severity = .error) = 0 := by
      refine List.countP_eq_zero.mpr fun record member => ?_
      simp [quiet record member]
    rw [List.countP_append, none, judged.alarms]
    rfl

/-- An error is warned of; the one that completes a streak raises the alarm, once. -/
theorem Judged.failure (judged : Judged config heard records watcher) (error : BackendError)
    (few : errorsAtEnd heard + 1 < countLimit) :
    ∃ said after, watcher.countError error = .ok (said, after) ∧
      Judged config (heard ++ [.failure error]) (records ++ said) after := by
  have count : errorsAtEnd (heard ++ [.failure error]) = errorsAtEnd heard + 1 := by
    rw [errorsAtEnd_concat]
    rfl
  have streak : Streak (max 1 config.maxConsecutiveErrors) (heard ++ [.failure error]) ↔
      watcher.degraded = true ∨ config.maxConsecutiveErrors ≤ errorsAtEnd heard + 1 := by
    rw [streak_concat, count, ← judged.degraded]
    exact or_congr Iff.rfl (by omega)
  have warned : List.filterMap Notification.warning? (heard ++ [.failure error]) =
      records.filter (·.severity = .warn) ++ [errorRecord error] := by
    rw [List.filterMap_append, judged.warnings]
    rfl
  have alarms := judged.alarms
  unfold countError
  rw [judged.errors, judged.settings, if_neg (Nat.not_le.mpr few)]
  split
  · next alarm =>
    simp only [Bool.and_eq_true, Bool.not_eq_true', decide_eq_true_eq] at alarm
    refine ⟨_, _, rfl, rfl, count.symm, ?_, ?_, ?_⟩
    · exact iff_of_true rfl (streak.mpr (.inr alarm.2))
    · rw [warned, List.filter_append]
      rfl
    · rw [List.countP_append, alarms, alarm.1]
      rfl
  · next calm =>
    simp only [Bool.and_eq_true, Bool.not_eq_true', decide_eq_true_eq, not_and] at calm
    refine ⟨_, _, rfl, rfl, count.symm, ?_, ?_, ?_⟩
    · refine Iff.trans ?_ streak.symm
      cases known : watcher.degraded with
      | true => simp
      | false => simpa using calm known
    · rw [warned, List.filter_append]
      rfl
    · rw [List.countP_append, alarms]
      rfl

/-- What was received is judged, unless there were too many errors in a row to be counted. -/
theorem exists_judged (config : WatchSettings) (few : ¬ Streak countLimit heard) :
    ∃ records watcher, (new config).receiveAll heard = .ok (records, watcher) ∧
      Judged config heard records watcher := by
  induction heard using List.reverseRecOn with
  | nil => exact ⟨[], new config, rfl, .new config⟩
  | append_singleton heard notification ih =>
    rw [streak_concat, not_or] at few
    obtain ⟨records, watcher, received, judged⟩ := ih few.1
    have last (relevant : Bool) {said : List Record} {after : Watcher}
        (next : watcher.receive notification = .ok (relevant, said, after)) :
        (new config).receiveAll (heard ++ [notification]) = .ok (records ++ said, after) := by
      simp [receiveAll_append, received, receiveAll, next, Except.bind, Except.map]
    cases notification with
    | event happened =>
      by_cases relevant : happened.isRelevant watcher.config = true
      · exact ⟨_, _, last true (if_pos relevant),
          judged.event happened (by simp [eventRecord, say])⟩
      · exact ⟨_, _, last false (if_neg relevant), judged.event happened (by simp)⟩
    | failure error =>
      have least : errorsAtEnd heard + 1 < countLimit := by
        simpa [errorsAtEnd_concat, Notification.isFailure] using few.2
      obtain ⟨said, after, counted, judged⟩ := judged.failure error least
      exact ⟨_, _, last false (by rw [receive, counted]), judged⟩

end Judged

/-! ### What a wait receives and says -/

/-- What was received and said, and what is said then if the channel is found closed. -/
def closedIf (found : Bool) (heard : List Record × Watcher) : List Record × Watcher :=
  if found then (heard.1 ++ heard.2.recordClosed.1, heard.2.recordClosed.2) else heard

/-- A watcher that finds the channel closed is unreliable, and says so if it was not before. -/
theorem Judged.closedIf {config : WatchSettings} {heard : List Notification} {records : List Record}
    {watcher : Watcher} (judged : Judged config heard records watcher) (found : Bool) :
    let ended := closedIf found (records, watcher)
    (ended.2.degraded = true ↔
        Streak (max 1 config.maxConsecutiveErrors) heard ∨ found = true) ∧
      ended.1.filter (·.severity = .warn) = heard.filterMap Notification.warning? ∧
      ended.1.countP (·.severity = .error) = if ended.2.degraded then 1 else 0 := by
  have streak := judged.degraded
  have alarms := judged.alarms
  rw [← judged.warnings, ← streak]
  cases found with
  | false => exact ⟨by simp [Watcher.closedIf], rfl, alarms⟩
  | true =>
    cases known : watcher.degraded with
    | true =>
      rw [known] at alarms
      simp [Watcher.closedIf, recordClosed, known, alarms]
    | false =>
      rw [known] at alarms
      simp [Watcher.closedIf, recordClosed, known, alarms, closedRecord, say]

theorem closedIf_append (found : Bool) (records more : List Record) (watcher : Watcher) :
    closedIf found (records ++ more, watcher) =
      (records ++ (closedIf found (more, watcher)).1, (closedIf found (more, watcher)).2) := by
  cases found
  · rfl
  · simp [closedIf]

/-- A watcher that found the channel closed says nothing when it finds it closed again. -/
theorem closedIf_again (found : Bool) (watcher : Watcher) :
    closedIf found ([], watcher.recordClosed.2) = ([], watcher.recordClosed.2) := by
  cases known : watcher.degraded <;> cases found <;> simp [closedIf, recordClosed, known]

end Watcher

/-- The wait was over with nothing left to receive and the sender gone. -/
def Wait.foundClosed (wait : Wait) : Bool :=
  wait.answer.isOk && wait.channel.deliveries.isEmpty &&
    Watcher.closesBy wait.channel.closing wait.now

namespace Watcher

/-- A wait receives the first part of what is delivered, in order, and may find the channel closed;
it says what belongs to that and nothing else. -/
structure Receives (watcher : Watcher) (deliveries taken : List Delivery) (wait : Wait) : Prop where
  parts : deliveries = taken ++ wait.channel.deliveries
  said : ∀ heard, watcher.receiveAll (taken.map Delivery.notification) = .ok heard →
    (wait.records, wait.watcher) = closedIf wait.foundClosed heard

section Receives

variable {watcher after : Watcher} {delivery : Delivery} {deliveries taken : List Delivery}
  {wait : Wait} {records : List Record} {relevant : Bool}

/-- A notification that is received before the others of a wait. -/
theorem Receives.cons (receives : Receives after deliveries taken wait)
    (received : watcher.receive delivery.notification = .ok (relevant, records, after)) :
    Receives watcher (delivery :: deliveries) (delivery :: taken)
      { wait with records := records ++ wait.records } where
  parts := congrArg (delivery :: ·) receives.parts
  said := by
    intro heard all
    rw [List.map_cons, receiveAll_cons received] at all
    rcases others : after.receiveAll (taken.map Delivery.notification) with crash | ⟨more, last⟩
    · rw [others] at all
      cases all
    · rw [others] at all
      obtain rfl := Except.ok.inj all
      show (records ++ wait.records, wait.watcher) =
        closedIf wait.foundClosed (records ++ more, last)
      rw [closedIf_append, ← receives.said _ others]

/-- A wait that receives nothing. -/
theorem Receives.nothing (left : wait.channel.deliveries = deliveries)
    (said : (wait.records, wait.watcher) = closedIf wait.foundClosed ([], watcher)) :
    Receives watcher deliveries [] wait where
  parts := left.symm
  said := by
    intro heard all
    obtain rfl := Except.ok.inj all
    exact said

theorem waitUntil_receives (watcher : Watcher) (closing : Option Instant) (now deadline : Instant)
    (changed : Bool) (deliveries : List Delivery) :
    ∃ taken, Receives watcher deliveries taken
      (watcher.waitUntil closing now deadline changed deliveries) := by
  induction deliveries generalizing watcher now deadline changed with
  | nil =>
    rw [waitUntil]
    cases gone : closesBy closing deadline
    · exact ⟨[], .nothing rfl (by simp [Wait.foundClosed, gone, closedIf])⟩
    · exact ⟨[], .nothing rfl
        (by simp [Wait.foundClosed, Except.isOk, Except.toBool, gone, closedIf])⟩
  | cons delivery rest ih =>
    by_cases due : delivery.instant.nanos ≤ deadline.nanos
    · rw [waitUntil, if_neg (Nat.not_lt.mpr due)]
      rcases received : watcher.receive delivery.notification with
        crash | ⟨_ | _, records, after⟩
      · -- Too many errors to count: the wait ends with nothing known.
        refine ⟨[delivery], rfl, fun heard all => ?_⟩
        rw [List.map_singleton, receiveAll, received] at all
        cases all
      · obtain ⟨taken, receives⟩ := ih after (.latest now delivery.instant) deadline changed
        exact ⟨delivery :: taken, receives.cons received⟩
      · dsimp only
        rcases (Instant.latest now delivery.instant).after after.config.debounce with
          crash | restarted
        · -- The clock cannot reach the new deadline, but the event was received.
          have ends : Receives after rest []
              ⟨.error crash, after, ⟨rest, closing⟩, .latest now delivery.instant, []⟩ :=
            .nothing rfl rfl
          have receives := ends.cons received
          rw [List.append_nil] at receives
          exact ⟨[delivery], receives⟩
        · obtain ⟨taken, receives⟩ := ih after (.latest now delivery.instant) restarted true
          exact ⟨delivery :: taken, receives.cons received⟩
    · rw [waitUntil, if_pos (Nat.lt_of_not_le due)]
      exact ⟨[], .nothing rfl (by simp [Wait.foundClosed, closedIf])⟩

theorem awaitChange_receives (watcher : Watcher) (channel : Channel) (start : Instant)
    (timeout : Span) :
    ∃ taken, Receives watcher channel.deliveries taken
      (watcher.awaitChange channel start timeout) := by
  unfold awaitChange
  rcases start.after timeout with crash | deadline
  · exact ⟨[], .nothing rfl rfl⟩
  · exact watcher.waitUntil_receives channel.closing start deadline false channel.deliveries

end Receives

end Watcher

/-! ### Waits one after the other -/

/-- What waits leave that follow each other. -/
structure Course where
  watcher : Watcher
  channel : Channel
  records : List Record
  /-- Some wait found the channel closed. -/
  foundClosed : Bool

namespace Course

/-- When a wait begins, and how long it may last. -/
structure Call where
  start : Instant
  timeout : Span

/-- Before the first wait. -/
def new (config : WatchSettings) (channel : Channel) : Course := ⟨.new config, channel, [], false⟩

/-- One more wait. -/
def call (course : Course) (call : Call) : Course :=
  let wait := course.watcher.awaitChange course.channel call.start call.timeout
  ⟨wait.watcher, wait.channel, course.records ++ wait.records,
    course.foundClosed || wait.foundClosed⟩

/-- Waits in order. -/
def callAll (course : Course) (calls : List Call) : Course := calls.foldl Course.call course

theorem callAll_append (course : Course) (earlier later : List Call) :
    course.callAll (earlier ++ later) = (course.callAll earlier).callAll later :=
  List.foldl_append

/-- What a course took from its channel, in all its waits: it says what belongs to that and nothing
else. -/
structure Told (config : WatchSettings) (channel : Channel) (taken : List Delivery)
    (course : Course) : Prop where
  parts : channel.deliveries = taken ++ course.channel.deliveries
  empty : course.foundClosed = true → course.channel.deliveries = []
  said : ∀ heard,
    (Watcher.new config).receiveAll (taken.map Delivery.notification) = .ok heard →
      (course.records, course.watcher) = Watcher.closedIf course.foundClosed heard

variable {config : WatchSettings} {channel : Channel} {taken : List Delivery} {course : Course}

theorem Told.new (config : WatchSettings) (channel : Channel) :
    Told config channel [] (new config channel) where
  parts := rfl
  empty := nofun
  said := by
    intro heard received
    obtain rfl := Except.ok.inj received
    rfl

theorem Told.call (told : Told config channel taken course) (call : Call) :
    ∃ more, Told config channel (taken ++ more) (course.call call) := by
  obtain ⟨more, receives⟩ :=
    course.watcher.awaitChange_receives course.channel call.start call.timeout
  refine ⟨more, ?_, ?_, ?_⟩
  · rw [told.parts, receives.parts, List.append_assoc]
    rfl
  · intro found
    rcases Bool.or_eq_true_iff.mp found with before | now
    · have nothing := receives.parts
      rw [told.empty before] at nothing
      exact (List.append_eq_nil_iff.mp nothing.symm).2
    · simp only [Wait.foundClosed, Bool.and_eq_true, List.isEmpty_iff] at now
      exact now.1.2
  · rintro ⟨records, after⟩ received
    rw [List.map_append] at received
    obtain ⟨earlier, between, later, first, second, rfl⟩ :=
      Watcher.receiveAll_append_eq_ok received
    have before := told.said _ first
    have now := receives.said
    cases found : course.foundClosed with
    | false =>
      rw [found] at before
      obtain ⟨said, same⟩ := Prod.mk.inj before
      have quiet := now _ (same ▸ second)
      simp only [Course.call, found, Bool.false_or, Watcher.closedIf_append, ← quiet, said]
    | true =>
      -- Nothing was left to receive, and the alarm was raised.
      rw [found] at before
      have nothing := receives.parts
      rw [told.empty found] at nothing
      rw [(List.append_eq_nil_iff.mp nothing.symm).1] at second now
      obtain ⟨rfl, rfl⟩ := Prod.mk.inj (Except.ok.inj second)
      have quiet := now _ rfl
      have same : course.watcher = between.recordClosed.2 := (Prod.mk.inj before).2
      rw [same, Watcher.closedIf_again] at quiet
      obtain ⟨silent, still⟩ := Prod.mk.inj quiet
      simp only [Course.call, found, Bool.true_or, List.append_nil, ← before, same, silent, still]

theorem Told.callAll (told : Told config channel taken course) (calls : List Call) :
    ∃ more, Told config channel (taken ++ more) (course.callAll calls) ∧
      (course.foundClosed = true → (course.callAll calls).foundClosed = true) := by
  induction calls generalizing course taken with
  | nil => exact ⟨[], by rwa [List.append_nil], id⟩
  | cons call rest ih =>
    obtain ⟨more, told⟩ := told.call call
    obtain ⟨further, told, still⟩ := ih told
    rw [List.append_assoc] at told
    refine ⟨more ++ further, told, fun found => still ?_⟩
    exact Bool.or_eq_true_iff.mpr (.inl found)

/-- The errors that a course took can be counted if those of the channel can. -/
theorem Told.few (told : Told config channel taken course)
    (few : ¬ Streak Watcher.countLimit (channel.deliveries.map Delivery.notification)) :
    ¬ Streak Watcher.countLimit (taken.map Delivery.notification) := by
  intro streak
  rw [told.parts, List.map_append] at few
  exact few (streak.mono (List.prefix_append _ _).isInfix)

/-- What is known of a course whose errors can be counted. -/
theorem Told.judged (told : Told config channel taken course)
    (few : ¬ Streak Watcher.countLimit (taken.map Delivery.notification)) :
    (course.watcher.degraded = true ↔
        Streak (max 1 config.maxConsecutiveErrors) (taken.map Delivery.notification) ∨
          course.foundClosed = true) ∧
      course.records.filter (·.severity = .warn) =
        (taken.map Delivery.notification).filterMap Notification.warning? ∧
      course.records.countP (·.severity = .error) = if course.watcher.degraded then 1 else 0 := by
  obtain ⟨records, watcher, received, judged⟩ := Watcher.exists_judged config few
  have known := judged.closedIf course.foundClosed
  rwa [← told.said _ received] at known

/-- What makes a watcher unreliable is still there after more waits. -/
theorem Told.still_degraded (told : Told config channel taken course)
    (few : ¬ Streak Watcher.countLimit (channel.deliveries.map Delivery.notification))
    (calls : List Call) (degraded : course.watcher.degraded = true) :
    (course.callAll calls).watcher.degraded = true := by
  obtain ⟨more, later, still⟩ := told.callAll calls
  refine (later.judged (later.few few)).1.mpr ?_
  refine ((told.judged (told.few few)).1.mp degraded).imp (fun streak => ?_) still
  rw [List.map_append]
  exact streak.mono (List.prefix_append _ _).isInfix

/-- Courses that took the same leave the same watcher and the same records, if both found their
channel closed or neither did. -/
theorem Told.same {other : Channel} {otherTaken : List Delivery} {again : Course}
    (told : Told config channel taken course) (retold : Told config other otherTaken again)
    (few : ¬ Streak Watcher.countLimit (taken.map Delivery.notification))
    (heard : otherTaken.map Delivery.notification = taken.map Delivery.notification)
    (found : again.foundClosed = course.foundClosed) :
    again.watcher = course.watcher ∧ again.records = course.records := by
  obtain ⟨records, watcher, received, -⟩ := Watcher.exists_judged config few
  have said := retold.said _ (heard ▸ received)
  rw [found, ← told.said _ received] at said
  exact (Prod.mk.inj said).symm

/-- **A watcher is unreliable after too many errors in a row, or without its channel.** Whatever is
delivered, with fewer errors in a row than can be counted, and whatever waits consume it:
* the watcher is unreliable exactly if what was consumed has as many errors in a row as are allowed,
  or one, or a wait found the channel closed;
* it stays so;
* it warned of each error once, in order;
* it raised one alarm if it is unreliable, and none otherwise;
* waits that consume the same in another way leave the same watcher and the same records, if they
  find the channel closed as these do. -/
theorem degrades (config : WatchSettings) (channel : Channel) (calls : List Call)
    (few : ¬ Streak Watcher.countLimit (channel.deliveries.map Delivery.notification)) :
    let course := (new config channel).callAll calls
    ∃ heard, channel.deliveries.map Delivery.notification =
        heard ++ course.channel.deliveries.map Delivery.notification ∧
      (course.watcher.degraded = true ↔
        Streak (max 1 config.maxConsecutiveErrors) heard ∨ course.foundClosed = true) ∧
      (∀ earlier later, calls = earlier ++ later →
        ((new config channel).callAll earlier).watcher.degraded = true →
        course.watcher.degraded = true) ∧
      course.records.filter (·.severity = .warn) = heard.filterMap Notification.warning? ∧
      course.records.countP (·.severity = .error) =
        (if course.watcher.degraded then 1 else 0) ∧
      ∀ (other : Channel) (otherCalls : List Call),
        let again := (new config other).callAll otherCalls
        other.deliveries.map Delivery.notification =
          heard ++ again.channel.deliveries.map Delivery.notification →
        again.foundClosed = course.foundClosed →
        again.watcher = course.watcher ∧ again.records = course.records := by
  obtain ⟨taken, told, -⟩ := (Told.new config channel).callAll calls
  rw [List.nil_append] at told
  obtain ⟨degraded, warnings, alarms⟩ := told.judged (told.few few)
  refine ⟨taken.map Delivery.notification, ?_, degraded, ?_, warnings, alarms, ?_⟩
  · rw [← List.map_append, ← told.parts]
  · rintro earlier later rfl before
    obtain ⟨first, toldEarlier, -⟩ := (Told.new config channel).callAll earlier
    rw [callAll_append]
    exact toldEarlier.still_degraded few later before
  · intro other otherCalls again whole found
    obtain ⟨otherTaken, retold, -⟩ := (Told.new config other).callAll otherCalls
    rw [List.nil_append] at retold
    have heard : otherTaken.map Delivery.notification = taken.map Delivery.notification := by
      rw [retold.parts, List.map_append] at whole
      exact List.append_cancel_right whole
    exact told.same retold (told.few few) heard found

/-- Two errors in a row are too many here, and each is consumed by a wait of its own; an event that
is not relevant parts them from the first one. One wait that consumes all leaves the same. -/
theorem degrades_across_waits :
    let config := { WatchSettings.forDir ⟨"src"⟩ with maxConsecutiveErrors := 2 }
    let failure (millis : Nat) : Delivery :=
      ⟨⟨1000000 * millis⟩, .failure ⟨.watchNotFound, [⟨"src"⟩]⟩⟩
    let channel : Channel :=
      ⟨[failure 10, ⟨⟨20000000⟩, .event ⟨.access, [⟨"src/app.rs"⟩]⟩⟩, failure 120, failure 260],
        none⟩
    let call (millis : Nat) : Call := ⟨⟨1000000 * millis⟩, ⟨100000000⟩⟩
    let course := (new config channel).callAll [call 0, call 100, call 200]
    let again := (new config channel).callAll [⟨⟨0⟩, .ofSeconds 1⟩]
    ¬ Streak Watcher.countLimit (channel.deliveries.map Delivery.notification) ∧
      ((new config channel).callAll [call 0, call 100]).watcher.degraded = false ∧
      course.watcher.degraded = true ∧ course.records.countP (·.severity = .error) = 1 ∧
      again.watcher = course.watcher ∧ again.records = course.records := by
  intro config failure channel call course again
  have few : ¬ Streak Watcher.countLimit (channel.deliveries.map Delivery.notification) := by
    intro streak
    exact absurd streak.le_length (by decide)
  have degraded : course.watcher.degraded = true := by decide +kernel
  obtain ⟨heard, parts, _, _, _, alarms, same⟩ :=
    degrades config channel [call 0, call 100, call 200] few
  have left : course.channel.deliveries = [] := by decide +kernel
  have leftAgain : again.channel.deliveries = [] := by decide +kernel
  refine ⟨few, by decide +kernel, degraded, ?_, same channel [⟨⟨0⟩, .ofSeconds 1⟩] ?_ ?_⟩
  · exact alarms.trans (if_pos degraded)
  · rw [parts]
    exact congrArg (heard ++ List.map Delivery.notification ·) (left.trans leftAgain.symm)
  · decide +kernel

end Course

end LiveReload
