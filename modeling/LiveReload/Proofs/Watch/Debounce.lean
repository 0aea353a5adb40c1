/-
**Waits are debounced.**

A wait that hears of no change lasts as long as it was asked to. The first relevant notification
cuts it down to one debounce span, and every further one begins the span anew, so a wait is over one
span after the last relevant notification that it received. What arrives within a span of that one
is received too, and nothing that arrived before the end is left for the next wait.

* `Drains`: everything that a wait can receive, and when it is over (`waitUntil_drains`);
* `Drains.window`, `Drains.early`, `Drains.late`: what is received lies before the end, relevant
  ones at least a span, and what is left lies after it;
* `lastHeard?`: when the last relevant one was received, from which the end follows
  (`Drains.finish_eq`);
* `Close`: arrivals of which the second is received with the first (`Drains.close`);
* `awaitChange_debounces`: all of this of every wait that answers.
-/
import LiveReload.Proofs.Watch.Interleaving
import Mathlib.Logic.Relation

namespace LiveReload

theorem Instant.nanos_latest (a b : Instant) :
    (Instant.latest a b).nanos = max a.nanos b.nanos := by
  unfold Instant.latest
  split <;> omega

/-- The delivery is of a relevant notification. -/
def Delivery.counts (delivery : Delivery) (config : WatchSettings) : Bool :=
  delivery.notification.isRelevant config

/-- A schedule of arrivals: of two deliveries the earlier one comes first. -/
def InOrder (deliveries : List Delivery) : Prop :=
  deliveries.Pairwise fun early late => early.instant.nanos ≤ late.instant.nanos

namespace Watcher

/-! ### What a wait receives -/

/-- A wait from `now` to `deadline` receives the first part of what is delivered, leaves the rest
and is over at an instant. -/
inductive Drains (config : WatchSettings) :
    Instant → Instant → List Delivery → List Delivery → List Delivery → Instant → Prop
  | ended {now deadline : Instant} {left : List Delivery}
      (late : ∀ first ∈ left.head?, deadline.nanos < first.instant.nanos) :
    Drains config now deadline left [] left deadline
  | passed {now deadline finish : Instant} {delivery : Delivery} {later taken left : List Delivery}
      (due : delivery.instant.nanos ≤ deadline.nanos) (idle : delivery.counts config = false)
      (rest : Drains config (.latest now delivery.instant) deadline later taken left finish) :
    Drains config now deadline (delivery :: later) (delivery :: taken) left finish
  | renewed {now deadline restarted finish : Instant} {delivery : Delivery}
      {later taken left : List Delivery} (due : delivery.instant.nanos ≤ deadline.nanos)
      (counts : delivery.counts config = true)
      (moved : (Instant.latest now delivery.instant).after config.debounce = .ok restarted)
      (rest : Drains config (.latest now delivery.instant) restarted later taken left finish) :
    Drains config now deadline (delivery :: later) (delivery :: taken) left finish

theorem waitUntil_drains (closing : Option Instant) {watcher : Watcher} {now deadline : Instant}
    {changed answer : Bool} {deliveries : List Delivery}
    (answered : (watcher.waitUntil closing now deadline changed deliveries).answer = .ok answer) :
    let wait := watcher.waitUntil closing now deadline changed deliveries
    ∃ taken, Drains watcher.config now deadline deliveries taken wait.channel.deliveries wait.now ∧
      answer = (changed || taken.any (·.counts watcher.config)) ∧
      wait.watcher.config = watcher.config := by
  induction deliveries generalizing watcher now deadline changed with
  | nil =>
    rw [waitUntil] at answered ⊢
    refine ⟨[], .ended (by simp), ?_, ?_⟩
    · simpa using (Except.ok.inj answered).symm
    · dsimp only
      split
      · exact watcher.recordClosed_config
      · rfl
  | cons delivery later ih =>
    by_cases due : delivery.instant.nanos ≤ deadline.nanos
    · obtain ⟨relevant, records, after, restarted, received, moved, step⟩ :=
        waitUntil_received due answered
      obtain ⟨tells, config⟩ := receive_relevant received
      rw [step] at answered ⊢
      obtain ⟨taken, drains, told, kept⟩ := ih answered
      rw [config] at drains told kept moved
      refine ⟨delivery :: taken, ?_, ?_, kept⟩
      · cases relevant with
        | false =>
          obtain rfl := Except.ok.inj moved
          exact .passed due tells.symm drains
        | true => exact .renewed due tells.symm moved drains
      · rw [told, tells, List.any_cons, Bool.or_assoc]
        rfl
    · rw [waitUntil, if_pos (Nat.lt_of_not_le due)] at answered ⊢
      refine ⟨[], .ended (by simpa using due), ?_, rfl⟩
      simpa using (Except.ok.inj answered).symm

namespace Drains

variable {config : WatchSettings} {now deadline finish : Instant}
  {deliveries taken left : List Delivery}

theorem parts (drains : Drains config now deadline deliveries taken left finish) :
    deliveries = taken ++ left := by
  induction drains with
  | ended => rfl
  | passed _ _ _ ih | renewed _ _ _ _ ih => rw [ih, List.cons_append]

/-- What is left arrives after the wait is over. -/
theorem late (drains : Drains config now deadline deliveries taken left finish)
    (ordered : InOrder deliveries) : ∀ delivery ∈ left, finish.nanos < delivery.instant.nanos := by
  -- The wait compares only the first one left with its end, and the others come after that one.
  have head : ∀ first ∈ left.head?, finish.nanos < first.instant.nanos := by
    clear ordered
    induction drains with
    | ended late => exact late
    | passed _ _ _ ih | renewed _ _ _ _ ih => exact ih
  rw [drains.parts, InOrder] at ordered
  intro delivery member
  cases left with
  | nil => cases member
  | cons first rest =>
    have begins := head first rfl
    rcases List.mem_cons.mp member with rfl | behind
    · exact begins
    · have order := List.rel_of_pairwise_cons (List.pairwise_append.mp ordered).2.1 behind
      omega

/-- A wait is not over before its deadline unless a relevant notification cuts it down to a debounce
span from then on. -/
theorem lasts (drains : Drains config now deadline deliveries taken left finish) :
    min deadline.nanos (now.nanos + config.debounce.nanos) ≤ finish.nanos := by
  induction drains with
  | ended => exact Nat.min_le_left _ _
  | @passed now deadline _ delivery _ _ _ _ _ _ ih =>
    have latest := Instant.nanos_latest now delivery.instant
    omega
  | @renewed now deadline restarted _ delivery _ _ _ _ _ moved _ ih =>
    have latest := Instant.nanos_latest now delivery.instant
    have ahead := (Instant.after_eq_ok_iff.mp moved).2
    omega

/-- A wait goes on for a debounce span after every relevant notification that it received. -/
theorem window (drains : Drains config now deadline deliveries taken left finish) :
    ∀ delivery ∈ taken, delivery.counts config = true →
      delivery.instant.nanos + config.debounce.nanos ≤ finish.nanos := by
  induction drains with
  | ended => simp
  | passed _ idle _ ih =>
    rintro delivery (_ | ⟨_, behind⟩) counts
    · rw [idle] at counts
      cases counts
    · exact ih delivery behind counts
  | @renewed now _ _ _ first _ _ _ _ _ moved rest ih =>
    rintro delivery (_ | ⟨_, behind⟩) counts
    · -- The deadline begins anew here, and what follows does not move it before a span is over.
      have latest := Instant.nanos_latest now first.instant
      have ahead := (Instant.after_eq_ok_iff.mp moved).2
      have lasts := rest.lasts
      omega
    · exact ih delivery behind counts

/-- What is received arrived before the wait was over. -/
theorem early (drains : Drains config now deadline deliveries taken left finish)
    (ahead : now.nanos ≤ deadline.nanos) :
    ∀ delivery ∈ taken, delivery.instant.nanos ≤ finish.nanos := by
  induction drains with
  | ended => simp
  | @passed now _ _ first _ _ _ due _ rest ih =>
    have latest := Instant.nanos_latest now first.instant
    have lasts := rest.lasts
    rintro delivery (_ | ⟨_, behind⟩)
    · omega
    · exact ih (by omega) delivery behind
  | @renewed now _ _ _ first _ _ _ _ _ moved rest ih =>
    have latest := Instant.nanos_latest now first.instant
    have restarted := (Instant.after_eq_ok_iff.mp moved).2
    have lasts := rest.lasts
    rintro delivery (_ | ⟨_, behind⟩)
    · omega
    · exact ih (by omega) delivery behind

/-- Nothing relevant is received if nothing relevant arrives before the deadline. -/
theorem idle (drains : Drains config now deadline deliveries taken left finish)
    (later : ∀ delivery ∈ deliveries, delivery.counts config = true →
      deadline.nanos < delivery.instant.nanos) : taken.any (·.counts config) = false := by
  induction drains with
  | ended => rfl
  | passed _ idle _ ih =>
    rw [List.any_cons, idle, Bool.false_or]
    exact ih fun delivery member => later delivery (List.mem_cons_of_mem _ member)
  | renewed due counts _ _ _ =>
    have := later _ List.mem_cons_self counts
    omega

end Drains

/-! ### When a wait is over -/

/-- When a wait that begins at `start` received the last relevant one of what it received: at once
if it had arrived before, and else on its arrival. -/
def lastHeard? (config : WatchSettings) (start : Instant) (taken : List Delivery) :
    Option Instant :=
  (taken.filter (·.counts config)).getLast?.map fun delivery => .latest start delivery.instant

theorem lastHeard?_passed {config : WatchSettings} {start : Instant} {delivery : Delivery}
    {taken : List Delivery} (idle : delivery.counts config = false) :
    lastHeard? config start (delivery :: taken) = lastHeard? config start taken := by
  simp [lastHeard?, idle]

theorem lastHeard?_renewed {config : WatchSettings} {start : Instant} {delivery : Delivery}
    {taken : List Delivery} (counts : delivery.counts config = true) :
    lastHeard? config start (delivery :: taken) =
      some ((lastHeard? config start taken).getD (.latest start delivery.instant)) := by
  have first : (delivery :: taken).filter (·.counts config) =
      delivery :: taken.filter (·.counts config) := by simp [counts]
  rw [lastHeard?, first, List.getLast?_cons, lastHeard?]
  cases (taken.filter (·.counts config)).getLast? <;> rfl

/-- What arrives later is received when it arrives, whenever before the wait began. -/
theorem lastHeard?_latest {config : WatchSettings} {start reached : Instant}
    {taken : List Delivery} (behind : ∀ delivery ∈ taken, reached.nanos ≤ delivery.instant.nanos) :
    lastHeard? config (.latest start reached) taken = lastHeard? config start taken := by
  unfold lastHeard?
  cases last : (taken.filter (·.counts config)).getLast? with
  | none => rfl
  | some delivery =>
    have order := behind delivery (List.mem_filter.mp (List.mem_of_getLast? last)).1
    have same : Instant.latest (.latest start reached) delivery.instant =
        .latest start delivery.instant := by
      unfold Instant.latest
      split_ifs <;> first | rfl | omega
    rw [Option.map_some, same, Option.map_some]

/-- A wait is over at its deadline, or one debounce span after the last relevant notification. -/
theorem Drains.finish_eq {config : WatchSettings} {now deadline finish : Instant}
    {deliveries taken left : List Delivery}
    (drains : Drains config now deadline deliveries taken left finish)
    (ordered : InOrder deliveries) :
    finish.nanos = match lastHeard? config now taken with
      | none => deadline.nanos
      | some received => received.nanos + config.debounce.nanos := by
  induction drains with
  | ended => rfl
  | passed _ idle rest ih =>
    obtain ⟨first, ordered⟩ := List.pairwise_cons.mp ordered
    have behind := fun delivery member =>
      first delivery (rest.parts ▸ List.mem_append_left _ member)
    rw [ih ordered, lastHeard?_passed idle, lastHeard?_latest behind]
  | renewed _ counts moved rest ih =>
    obtain ⟨first, ordered⟩ := List.pairwise_cons.mp ordered
    have behind := fun delivery member =>
      first delivery (rest.parts ▸ List.mem_append_left _ member)
    rw [ih ordered, lastHeard?_renewed counts, lastHeard?_latest behind]
    cases lastHeard? config _ _ with
    | none => exact (Instant.after_eq_ok_iff.mp moved).2
    | some received => rfl

theorem awaitChange_drains {watcher : Watcher} {channel : Channel} {start : Instant}
    {timeout : Span} {answer : Bool}
    (answered : (watcher.awaitChange channel start timeout).answer = .ok answer) :
    let wait := watcher.awaitChange channel start timeout
    ∃ deadline taken, deadline.nanos = start.nanos + timeout.nanos ∧
      Drains watcher.config start deadline channel.deliveries taken wait.channel.deliveries
        wait.now ∧
      answer = taken.any (·.counts watcher.config) ∧ wait.watcher.config = watcher.config := by
  rw [awaitChange] at answered ⊢
  rcases begun : start.after timeout with crash | deadline
  · simp [begun] at answered
  · simp only [begun] at answered ⊢
    obtain ⟨taken, drains, told, config⟩ := waitUntil_drains channel.closing answered
    exact ⟨deadline, taken, (Instant.after_eq_ok_iff.mp begun).2, drains, told, config⟩

/-! ### Bursts -/

/-- Two deliveries, told by their numbers, are of relevant notifications, and the second one arrives
less than one debounce span after the first. -/
def Close (config : WatchSettings) (deliveries : List Delivery) (first second : Nat) : Prop :=
  ∃ early late, deliveries[first]? = some early ∧ deliveries[second]? = some late ∧
    early.counts config = true ∧ late.counts config = true ∧
    late.instant.nanos < early.instant.nanos + config.debounce.nanos

/-- What is close to a notification that was received is received too. -/
theorem Drains.close {config : WatchSettings} {now deadline finish : Instant}
    {deliveries taken left : List Delivery} {first second : Nat}
    (drains : Drains config now deadline deliveries taken left finish)
    (ordered : InOrder deliveries) (close : Close config deliveries first second)
    (received : first < taken.length) : second < taken.length := by
  obtain ⟨early, late, here, there, counts, _, soon⟩ := close
  rw [drains.parts, List.getElem?_append_left received] at here
  have window := drains.window early (List.mem_of_getElem? here) counts
  by_contra beyond
  rw [drains.parts, List.getElem?_append_right (Nat.le_of_not_lt beyond)] at there
  have after := drains.late ordered late (List.mem_of_getElem? there)
  omega

/-- **Waits are debounced.** If notifications arrive in order, a wait that answers received a first
part of them, and
* it tells of a change exactly if one of these was relevant;
* it is over when its time has passed if none was, and else one debounce span after the last
  relevant one was received, also when the channel was found closed;
* relevant notifications that arrive one after the other, each less than a debounce span after the
  one before, are all received if the first one is;
* what it received arrived before its end and what is left after it, and a wait that goes on with
  what is left tells of no change if nothing relevant arrives in its time. -/
theorem awaitChange_debounces (watcher : Watcher) (channel : Channel) (start : Instant)
    (timeout : Span) {answer : Bool} (ordered : InOrder channel.deliveries)
    (answered : (watcher.awaitChange channel start timeout).answer = .ok answer) :
    let wait := watcher.awaitChange channel start timeout
    let config := watcher.config
    ∃ taken, channel.deliveries = taken ++ wait.channel.deliveries ∧
      (answer = true ↔ ∃ delivery ∈ taken, delivery.counts config = true) ∧
      wait.now.nanos = (match lastHeard? config start taken with
        | none => start.nanos + timeout.nanos
        | some received => received.nanos + config.debounce.nanos) ∧
      (∀ first last, Relation.ReflTransGen (Close config channel.deliveries) first last →
        first < taken.length → last < taken.length) ∧
      (∀ delivery ∈ taken, delivery.instant.nanos ≤ wait.now.nanos) ∧
      (∀ delivery ∈ wait.channel.deliveries, wait.now.nanos < delivery.instant.nanos) ∧
      ∀ later further told,
        (∀ delivery ∈ wait.channel.deliveries, delivery.counts config = true →
          later.nanos + further.nanos < delivery.instant.nanos) →
        (wait.watcher.awaitChange wait.channel later further).answer = .ok told →
        told = false := by
  intro wait config
  obtain ⟨deadline, taken, begun, drains, told, kept⟩ := awaitChange_drains answered
  refine ⟨taken, drains.parts, ?_, ?_, ?_, drains.early (by omega), drains.late ordered, ?_⟩
  · rw [told, List.any_eq_true]
  · rw [drains.finish_eq ordered, begun]
  · intro first last burst received
    induction burst with
    | refl => exact received
    | tail _ close ih => exact drains.close ordered close ih
  · intro later further again quiet answered
    obtain ⟨ending, more, ahead, drains, told, _⟩ := awaitChange_drains answered
    rw [kept] at drains told
    rw [told]
    refine drains.idle fun delivery member counts => ?_
    have apart := quiet delivery member counts
    omega

/-- A wait with a change that is queued, an error, another change in its window, and a late one. -/
theorem awaitChange_debounces_burst :
    let watcher := new (.forDir ⟨"src"⟩)
    let touch (kind : EventKind) (millis : Nat) : Delivery :=
      ⟨⟨1000000 * millis⟩, .event ⟨kind, [⟨"src/app.rs"⟩]⟩⟩
    let channel : Channel :=
      ⟨[touch .access 10, touch .modify 20, ⟨⟨120000000⟩, .failure ⟨.watchNotFound, []⟩⟩,
        touch .create 140, touch .modify 400], none⟩
    let wait := watcher.awaitChange channel ⟨50000000⟩ (.ofSeconds 1)
    InOrder channel.deliveries ∧ wait.answer = .ok true ∧ wait.now = ⟨240000000⟩ ∧
      ∃ taken, channel.deliveries = taken ++ wait.channel.deliveries ∧
        wait.now.nanos = match lastHeard? watcher.config ⟨50000000⟩ taken with
          | none => 50000000 + 1000000000
          | some received => received.nanos + 100000000 := by
  intro watcher touch channel wait
  have ordered : InOrder channel.deliveries := by unfold InOrder; decide
  have answered : wait.answer = .ok true := by decide +kernel
  obtain ⟨taken, parts, _, finish, _⟩ :=
    awaitChange_debounces watcher channel ⟨50000000⟩ (.ofSeconds 1) ordered answered
  exact ⟨ordered, answered, by decide +kernel, taken, parts, finish⟩

end Watcher

end LiveReload
