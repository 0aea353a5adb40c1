/-
**Waits with a clock are waits by a schedule.**

In a wait with a clock every notification has an instant: those up to the beginning of the wait are
in the inbox already, those up to the deadline are received as they come, and the others are left.
That is one order of deliveries and steps among all that a schedule can name, so whatever holds of
every schedule holds of every wait with a clock.

* `Scheduled`: a wait with a clock does what a wait by a schedule does;
* `awaitChange_scheduled`: every wait with a clock that answers is one.
-/
import LiveReload.Proofs.Watch.Interleaving

namespace LiveReload.Scene

variable {W : Type}

/-! ### The schedule of a wait -/

/-- Notifications that are in the inbox are received. -/
def receipts (deliveries : List Delivery) : List Move := deliveries.map fun _ => .proceed

/-- Notifications arrive one after the other, each of them received at once. -/
def arrivals (deliveries : List Delivery) : List Move :=
  deliveries.flatMap fun delivery => [.deliver delivery.notification, .proceed]

/-- A wait by a schedule does what a wait with a clock does, up to the moves that are left. -/
structure Agrees (host : Host W) (scene : Scene W) (answer : Bool) (wait : Wait) (rest : List Move)
    (result : Option Bool × Scene W) : Prop where
  answer : result.1 = some answer
  watcher : result.2.watcher = wait.watcher
  world : result.2.world =
    wait.records.foldl (fun world record => host.record record world) scene.world
  schedule : result.2.schedule = rest

/-- A wait with a clock is the wait by a schedule that receives what is queued and what comes until
the deadline passes, with a sender that goes away at the end or not. -/
def Scheduled (host : Host W) (scene : Scene W) (changed quiet answer : Bool)
    (queued coming : List Delivery) (wait : Wait) (rest : List Move) : Prop :=
  ∃ taken ending, coming = taken ++ wait.channel.deliveries ∧
    (ending = [] ∨ ending = [.hangUp]) ∧
    Agrees host scene answer wait rest
      (scene.listen host changed quiet
        (receipts queued ++ (arrivals taken ++ (ending ++ .proceed :: .expire :: rest))))

section Scheduled

variable {host : Host W} {scene : Scene W} {changed quiet answer relevant : Bool}
  {queued coming : List Delivery} {delivery : Delivery} {records : List Record}
  {watcher : Watcher} {wait : Wait} {rest : List Move}

/-- Records that came before are in the world already. -/
theorem Agrees.after {later : Scene W} {result : Option Bool × Scene W}
    (agrees : Agrees host later answer wait rest result)
    (world : later.world =
      records.foldl (fun world record => host.record record world) scene.world) :
    Agrees host scene answer { wait with records := records ++ wait.records } rest result :=
  { agrees with world := by rw [agrees.world, world, List.foldl_append] }

/-- The deadline passes when nothing is in the inbox. -/
theorem listen_quiet (host : Host W) (changed quiet : Bool) (rest : List Move)
    (empty : scene.inbox.queue = []) :
    scene.listen host changed quiet (.proceed :: .expire :: rest) =
      (some changed, { scene.findEmpty host with schedule := rest }.endRound changed) := by
  simp only [listen, empty, if_true]

/-- A notification that is queued is received. -/
theorem Scheduled.receipt
    (full : scene.inbox = ⟨delivery.notification :: queued.map Delivery.notification, true⟩)
    (received : scene.watcher.receive delivery.notification = .ok (relevant, records, watcher))
    (scheduled : Scheduled host
      ((scene.consume delivery.notification (queued.map Delivery.notification)).tell host records
        watcher)
      (changed || relevant) false answer queued coming wait rest) :
    Scheduled host scene changed quiet answer (delivery :: queued) coming
      { wait with records := records ++ wait.records } rest := by
  obtain ⟨taken, ending, parts, sender, agrees⟩ := scheduled
  refine ⟨taken, ending, parts, sender, ?_⟩
  show Agrees _ _ _ _ _ (scene.listen host changed quiet (.proceed ::
    (receipts queued ++ (arrivals taken ++ (ending ++ .proceed :: .expire :: rest)))))
  rw [listen]
  simp only [full, received]
  exact agrees.after rfl

/-- A notification arrives at an empty inbox and is received. -/
theorem Scheduled.arrival (empty : scene.inbox = ⟨[], true⟩)
    (received : scene.watcher.receive delivery.notification = .ok (relevant, records, watcher))
    (scheduled : Scheduled host
      (({ scene with inbox := ⟨[delivery.notification], true⟩ }.hear
        [.delivered delivery.notification]).consume delivery.notification [] |>.tell host records
          watcher)
      (changed || relevant) false answer [] coming wait rest) :
    Scheduled host scene changed quiet answer [] (delivery :: coming)
      { wait with records := records ++ wait.records } rest := by
  obtain ⟨taken, ending, parts, sender, agrees⟩ := scheduled
  refine ⟨delivery :: taken, ending, congrArg (delivery :: ·) parts, sender, ?_⟩
  show Agrees _ _ _ _ _ (scene.listen host changed quiet
    (.deliver delivery.notification :: .proceed ::
      (arrivals taken ++ (ending ++ .proceed :: .expire :: rest))))
  simp only [listen, Inbox.after, empty, hear, if_true, List.nil_append, received]
  exact agrees.after rfl

/-- The deadline passes with an empty inbox. -/
theorem Scheduled.silence (changed quiet : Bool) (coming : List Delivery) (closing : Option Instant)
    (deadline : Instant) (rest : List Move) (empty : scene.inbox = ⟨[], true⟩) :
    Scheduled host scene changed quiet changed [] coming
      ⟨.ok changed, scene.watcher, ⟨coming, closing⟩, deadline, []⟩ rest := by
  have nothing : scene.inbox.queue = [] := by rw [empty]
  have same : scene.findEmpty host = scene := by
    unfold findEmpty
    rw [empty, if_pos rfl]
  refine ⟨[], [], rfl, .inl rfl, ?_⟩
  show Agrees _ _ _ _ _ (scene.listen host changed quiet (.proceed :: .expire :: rest))
  rw [listen_quiet host changed quiet rest nothing, same]
  exact ⟨rfl, rfl, rfl, rfl⟩

/-- The sender goes away before the deadline passes. -/
theorem Scheduled.alone (changed quiet : Bool) (closing : Option Instant) (deadline : Instant)
    (rest : List Move) (empty : scene.inbox = ⟨[], true⟩) :
    Scheduled host scene changed quiet changed [] []
      ⟨.ok changed, scene.watcher.recordClosed.2, ⟨[], closing⟩, deadline,
        scene.watcher.recordClosed.1⟩ rest := by
  let left : Scene W := { scene with inbox.isOpen := false }.hear []
  have nothing : left.inbox.queue = [] := by
    show scene.inbox.queue = []
    rw [empty]
  refine ⟨[], [.hangUp], rfl, .inr rfl, ?_⟩
  show Agrees _ _ _ _ _ (left.listen host changed quiet (.proceed :: .expire :: rest))
  rw [listen_quiet host changed quiet rest nothing]
  exact ⟨rfl, rfl, rfl, rfl⟩

end Scheduled

/-! ### The wait follows its schedule -/

/-- One receive of a wait with a clock that answers, after which the wait goes on until a deadline
that is still ahead. -/
theorem waitUntil_cons {watcher : Watcher} {closing : Option Instant} {now deadline : Instant}
    {changed answer : Bool} {delivery : Delivery} {later : List Delivery}
    (ahead : now.nanos ≤ deadline.nanos) (due : delivery.instant.nanos ≤ deadline.nanos)
    (answered : (watcher.waitUntil closing now deadline changed (delivery :: later)).answer =
      .ok answer) :
    ∃ relevant records after restarted,
      watcher.receive delivery.notification = .ok (relevant, records, after) ∧
      (Instant.latest now delivery.instant).nanos ≤ restarted.nanos ∧
      (after.waitUntil closing (Instant.latest now delivery.instant) restarted
        (changed || relevant) later).answer = .ok answer ∧
      watcher.waitUntil closing now deadline changed (delivery :: later) =
        { after.waitUntil closing (Instant.latest now delivery.instant) restarted
            (changed || relevant) later with
          records := records ++
            (after.waitUntil closing (Instant.latest now delivery.instant) restarted
              (changed || relevant) later).records } := by
  obtain ⟨relevant, records, after, restarted, received, moved, step⟩ :=
    Watcher.waitUntil_received due answered
  rw [step] at answered
  refine ⟨relevant, records, after, restarted, received, ?_, answered, step⟩
  cases relevant with
  | false =>
    obtain rfl := Except.ok.inj moved
    unfold Instant.latest
    split
    · exact due
    · exact ahead
  | true =>
    rw [(Instant.after_eq_ok_iff.mp moved).2]
    exact Nat.le_add_right _ _

/-- What comes until the deadline is received as it comes. -/
theorem waitUntil_scheduled (host : Host W) (closing : Option Instant) (rest : List Move)
    {answer : Bool} (coming : List Delivery) (scene : Scene W) (now deadline : Instant)
    (changed quiet : Bool) (empty : scene.inbox = ⟨[], true⟩)
    (ahead : now.nanos ≤ deadline.nanos)
    (answered : (scene.watcher.waitUntil closing now deadline changed coming).answer = .ok answer) :
    Scheduled host scene changed quiet answer [] coming
      (scene.watcher.waitUntil closing now deadline changed coming) rest := by
  -- Every receive may move the deadline, so the induction is on what is still to come.
  induction coming generalizing scene now deadline changed quiet with
  | nil =>
    unfold Watcher.waitUntil at answered ⊢
    obtain rfl := Except.ok.inj answered
    by_cases closed : Watcher.closesBy closing deadline = true
    · rw [if_pos closed]
      exact .alone changed quiet closing deadline rest empty
    · rw [if_neg closed]
      exact .silence changed quiet [] closing deadline rest empty
  | cons delivery later ih =>
    by_cases due : delivery.instant.nanos ≤ deadline.nanos
    · obtain ⟨relevant, records, after, restarted, received, ahead, goes, step⟩ :=
        waitUntil_cons ahead due answered
      rw [step]
      exact .arrival empty received (ih _ _ restarted _ _ rfl ahead goes)
    · rw [Watcher.waitUntil, if_pos (Nat.lt_of_not_le due)] at answered ⊢
      obtain rfl := Except.ok.inj answered
      exact .silence changed quiet _ closing deadline rest empty

/-- What is in the inbox is received first. -/
theorem waitUntil_queued (host : Host W) (closing : Option Instant) (rest : List Move)
    {answer : Bool} (queued coming : List Delivery) (scene : Scene W) (now deadline : Instant)
    (changed quiet : Bool) (full : scene.inbox = ⟨queued.map Delivery.notification, true⟩)
    (before : ∀ delivery ∈ queued, delivery.instant.nanos ≤ now.nanos)
    (ahead : now.nanos ≤ deadline.nanos)
    (answered : (scene.watcher.waitUntil closing now deadline changed (queued ++ coming)).answer =
      .ok answer) :
    Scheduled host scene changed quiet answer queued coming
      (scene.watcher.waitUntil closing now deadline changed (queued ++ coming)) rest := by
  induction queued generalizing scene now deadline changed quiet with
  | nil =>
    exact waitUntil_scheduled host closing rest coming scene now deadline changed quiet full ahead
      answered
  | cons delivery later ih =>
    have early := before delivery List.mem_cons_self
    rw [List.cons_append] at answered ⊢
    obtain ⟨relevant, records, after, restarted, received, ahead, goes, step⟩ :=
      waitUntil_cons ahead (Nat.le_trans early ahead) answered
    rw [step]
    refine .receipt full received (ih _ _ restarted _ _ ?_ ?_ ahead goes)
    · simp only [tell, consume, hear, full]
    · intro other member
      have := before other (List.mem_cons_of_mem _ member)
      unfold Instant.latest
      split
      · next later => exact Nat.le_trans this later
      · exact this

/-- **A wait with a clock is a wait by a schedule.** If what was delivered before is in the inbox,
then the answer of the wait, the watcher and its records are those of one order of deliveries and
steps. -/
theorem awaitChange_scheduled (host : Host W) {scene : Scene W} {queued coming : List Delivery}
    {closing : Option Instant} {now : Instant} {timeout : Span} {answer : Bool} (rest : List Move)
    (full : scene.inbox = ⟨queued.map Delivery.notification, true⟩)
    (before : ∀ delivery ∈ queued, delivery.instant.nanos ≤ now.nanos)
    (answered : (scene.watcher.awaitChange ⟨queued ++ coming, closing⟩ now timeout).answer =
      .ok answer) :
    Scheduled host scene false false answer queued coming
      (scene.watcher.awaitChange ⟨queued ++ coming, closing⟩ now timeout) rest := by
  unfold Watcher.awaitChange at answered ⊢
  rcases begun : now.after timeout with crash | deadline
  · rw [begun] at answered
    cases answered
  · simp only [begun] at answered ⊢
    refine waitUntil_queued host closing rest queued coming scene now deadline _ _ full before ?_
      answered
    rw [(Instant.after_eq_ok_iff.mp begun).2]
    exact Nat.le_add_right _ _

end LiveReload.Scene
