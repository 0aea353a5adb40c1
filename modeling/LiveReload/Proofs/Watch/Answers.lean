/-
**Which waits answer.**

A wait has no answer if the clock cannot reach its end or that of a debounce span, or if it
receives more errors in a row than are counted. On a channel with fewer errors in a row, and where
the clock reaches a debounce span from each arrival, waits do not fail at any notification: each
answers exactly if the clock reaches the end that it begins with. A time may be too long for that,
whatever the channel holds.

* `Watcher.waitUntil_answers`: notifications that can be received do not end a wait early;
* `Course.answers_iff`: when a wait of a course answers.
-/
import LiveReload.Proofs.Watch.Degradation

namespace LiveReload

/-- The clock reaches the end of a span that begins at the instant. -/
def Instant.Reaches (instant : Instant) (span : Span) : Prop :=
  instant.nanos + span.nanos < Instant.limit

theorem Instant.reaches_iff {instant : Instant} {span : Span} :
    instant.Reaches span ↔ ∃ sum, instant.after span = .ok sum := by
  unfold Reaches after
  split <;> simp [*]

theorem Instant.Reaches.latest {now other : Instant} {span : Span} (here : now.Reaches span)
    (there : other.Reaches span) : (Instant.latest now other).Reaches span := by
  unfold Instant.latest
  split <;> assumption

namespace Watcher

/-- Notifications that can be received do not end a wait early. -/
theorem waitUntil_answers {watcher : Watcher} {closing : Option Instant} {now deadline : Instant}
    {changed : Bool} {deliveries : List Delivery}
    (receivable : ∃ heard, watcher.receiveAll (deliveries.map Delivery.notification) = .ok heard)
    (near : ∀ delivery ∈ deliveries, delivery.instant.Reaches watcher.config.debounce)
    (soon : now.Reaches watcher.config.debounce) :
    ∃ answer, (watcher.waitUntil closing now deadline changed deliveries).answer = .ok answer := by
  induction deliveries generalizing watcher now deadline changed with
  | nil =>
    rw [waitUntil]
    exact ⟨changed, rfl⟩
  | cons delivery rest ih =>
    rw [waitUntil]
    split
    · exact ⟨changed, rfl⟩
    · have soonAfter := soon.latest (near delivery List.mem_cons_self)
      rcases received : watcher.receive delivery.notification with
        crash | ⟨relevant, records, after⟩
      · obtain ⟨heard, all⟩ := receivable
        rw [List.map_cons, receiveAll, received] at all
        cases all
      · have same := (receive_relevant received).2
        have receivableAfter :
            ∃ heard, after.receiveAll (rest.map Delivery.notification) = .ok heard := by
          obtain ⟨heard, all⟩ := receivable
          rw [List.map_cons, receiveAll_cons received] at all
          rcases others : after.receiveAll (rest.map Delivery.notification) with crash | heard
          · rw [others] at all
            cases all
          · exact ⟨heard, rfl⟩
        have nearAfter : ∀ other ∈ rest, other.instant.Reaches after.config.debounce := by
          rw [same]
          exact fun other member => near other (List.mem_cons_of_mem _ member)
        rw [← same] at soonAfter
        have answers (deadline : Instant) (changed : Bool) : ∃ answer,
            (after.waitUntil closing (Instant.latest now delivery.instant) deadline changed
              rest).answer = .ok answer :=
          ih receivableAfter nearAfter soonAfter
        cases relevant with
        | false => exact answers deadline changed
        | true =>
          obtain ⟨restarted, moved⟩ := Instant.reaches_iff.mp soonAfter
          dsimp only
          rw [moved]
          exact answers restarted true

end Watcher

namespace Course

variable {config : WatchSettings} {channel : Channel} {taken : List Delivery} {course : Course}

/-- A course whose errors can be counted keeps its configuration, and can receive what is left. -/
theorem Told.receivable (told : Told config channel taken course)
    (few : ¬ Streak Watcher.countLimit (channel.deliveries.map Delivery.notification)) :
    course.watcher.config = config ∧
      ∃ heard, course.watcher.receiveAll (course.channel.deliveries.map Delivery.notification) =
        .ok heard := by
  obtain ⟨records, last, all, -⟩ := Watcher.exists_judged config few
  rw [told.parts, List.map_append] at all
  obtain ⟨earlier, between, later, first, rest, -⟩ := Watcher.receiveAll_append_eq_ok all
  have settings : between.config = config := by
    obtain ⟨_, _, received, judged⟩ := Watcher.exists_judged config (told.few few)
    rw [first] at received
    obtain ⟨rfl, rfl⟩ := Prod.mk.inj (Except.ok.inj received)
    exact judged.settings
  have said := told.said _ first
  cases found : course.foundClosed with
  | false =>
    rw [found] at said
    obtain ⟨-, rfl⟩ := Prod.mk.inj said
    exact ⟨settings, _, rest⟩
  | true =>
    rw [found] at said
    have same : course.watcher = between.recordClosed.2 := (Prod.mk.inj said).2
    rw [told.empty found, same, Watcher.recordClosed_config]
    exact ⟨settings, _, rfl⟩

/-- **A wait answers if the clock reaches its end.** Let a channel have fewer errors in a row than
can be counted, and let the clock reach a debounce span from each delivery and from the beginning of
a wait. After whatever waits came before, this wait answers exactly if the clock reaches the end of
its own time. -/
theorem answers_iff (config : WatchSettings) (channel : Channel) (calls : List Call) (call : Call)
    (few : ¬ Streak Watcher.countLimit (channel.deliveries.map Delivery.notification))
    (near : ∀ delivery ∈ channel.deliveries, delivery.instant.Reaches config.debounce)
    (soon : call.start.Reaches config.debounce) :
    let course := (new config channel).callAll calls
    (∃ answer, (course.watcher.awaitChange course.channel call.start call.timeout).answer =
      .ok answer) ↔ call.start.Reaches call.timeout := by
  intro course
  obtain ⟨taken, told, -⟩ := (Told.new config channel).callAll calls
  obtain ⟨settings, receivable⟩ := told.receivable few
  have left : ∀ delivery ∈ course.channel.deliveries,
      delivery.instant.Reaches course.watcher.config.debounce := by
    intro delivery member
    rw [settings]
    exact near delivery (told.parts ▸ List.mem_append_right _ member)
  rw [← settings] at soon
  unfold Watcher.awaitChange
  constructor
  · rintro ⟨answer, answered⟩
    rcases reached : call.start.after call.timeout with crash | deadline
    · rw [reached] at answered
      cases answered
    · exact Instant.reaches_iff.mpr ⟨deadline, reached⟩
  · intro reaches
    obtain ⟨deadline, reached⟩ := Instant.reaches_iff.mp reaches
    rw [reached]
    exact Watcher.waitUntil_answers receivable left soon

/-- No wait of the longest time answers, even at the beginning of the clock. -/
example : ((Watcher.new .standard).awaitChange ⟨[], none⟩ ⟨0⟩ (.ofSeconds (2 ^ 64 - 1))).answer =
    .error Instant.outOfReach := by decide

end Course

end LiveReload
