import Twilight.Proofs.Daemon.Operations

namespace Twilight

/-!
# Operations that run at the same time

An operation of the manager is a sequence of sections, each of them run while a lock is held.
Operations of several threads take turns: whoever's turn it is runs the next section.

* `SwitchPhase`, `FiringPhase`, `ChangePhase` — how far a switch of users, a firing and the handling
  of a changed setting have come, with what they know by then; `next` runs one more section.
* `Task`, `interleave` — such operations under way, and their turns in any order.
* `Task.alone` — a task that has all turns to itself does what the whole operation does.
* `interleave_induction` — what every turn preserves holds after all of them.
-/

open Daemon

variable {h : Hooks} {d : Daemon}

/-! ### Sections -/

/-- How far a switch of users has come. -/
inductive SwitchPhase where
  | begun
  | prepared
  /-- Somebody else is observed. -/
  | exchanged (previous : UserId) (failures : Nat)
  /-- The user before is forgotten. -/
  | retired
  | read (state : DarkModeState)
  | taken (resolution : Resolution)
  | finished (answer : Except Fault Unit)

/-- How far a firing has come. -/
inductive FiringPhase where
  | begun
  /-- The firing is one of the active user. -/
  | mine
  | honoured (dark : Bool)
  | finished

/-- How far the handling of a changed setting has come. -/
inductive ChangePhase where
  | begun
  | read (change : StateChange)
  /-- The setting is one of the active user. -/
  | mine (change : StateChange)
  | taken (resolution : Resolution)
  | finished

/-- The next section of a switch. -/
def SwitchPhase.next (h : Hooks) (user : UserId) : SwitchPhase → Act SwitchPhase
  | .begun => do
    match ← prepareStore with
    | .error f => pure (.finished (.error f))
    | .ok _ => pure .prepared
  | .prepared => do
    if (← get).manager.receiver.isNone then pure (.finished (.error .observersMissing))
    else
      let (previous, failures) ← exchangeObservers user
      pure (.exchanged previous failures)
  | .exchanged previous failures => do
    retire h previous
    if failures ≠ 0 then pure (.finished (.error (.observersRefused failures user)))
    else pure .retired
  | .retired => do
    info s!"Active user is now {user}"
    let state ← readState user
    pure (.read state)
  | .read state => do
    let resolution ← takeState h user state
    pure (.taken resolution)
  | .taken resolution => do
    let answer ← finish h user resolution .onChange
    reportLoaded user answer
    pure (.finished (.ok ()))
  | .finished answer => pure (.finished answer)

/-- The next section of a firing. -/
def FiringPhase.next (h : Hooks) (request : ScheduleRequest) (boundary : Boundary) :
    FiringPhase → Act FiringPhase
  | .begun => do
    if ← isForActiveUser request boundary then pure .mine else pure .finished
  | .mine => do
    match ← honour h request boundary with
    | some dark => pure (.honoured dark)
    | none => pure .finished
  | .honoured dark => do
    notify h dark request.user .always
    pure .finished
  | .finished => pure .finished

/-- The next section of the handling of a changed setting. -/
def ChangePhase.next (h : Hooks) (key : StateKey) (user : UserId) : ChangePhase → Act ChangePhase
  | .begun => do
    let change ← readChange key user
    pure (.read change)
  | .read change => do
    if user = (← get).manager.active then pure (.mine change)
    else
      debug s!"Ignoring '{key.name}' change for background user {user}"
      pure .finished
  | .mine change => do
    let resolution ← takeChange h user change
    pure (.taken resolution)
  | .taken resolution => do
    let answer ← finish h user resolution .always
    reportUnresolved key user answer
    pure .finished
  | .finished => pure .finished

/-! ### Tasks -/

/-- An operation under way. -/
inductive Task where
  | switching (user : UserId) (phase : SwitchPhase)
  | firing (request : ScheduleRequest) (boundary : Boundary) (phase : FiringPhase)
  | changing (key : StateKey) (user : UserId) (phase : ChangePhase)

namespace Task

/-- Run the next section. -/
def next (h : Hooks) : Task → Act Task
  | .switching user phase => do
    let phase ← phase.next h user
    pure (.switching user phase)
  | .firing request boundary phase => do
    let phase ← phase.next h request boundary
    pure (.firing request boundary phase)
  | .changing key user phase => do
    let phase ← phase.next h key user
    pure (.changing key user phase)

/-- The operation as it begins. -/
def restarted : Task → Task
  | .switching user _ => .switching user .begun
  | .firing request boundary _ => .firing request boundary .begun
  | .changing key user _ => .changing key user .begun

/-- Nothing of the operation is left to do. -/
def isOver : Task → Bool
  | .switching _ (.finished _) | .firing _ _ .finished | .changing _ _ .finished => true
  | _ => false

/-- The operation as a whole. -/
def whole (h : Hooks) : Task → Act Unit
  | .switching user _ => do
    let _ ← switchUser h user
    pure ()
  | .firing request boundary _ => fireBoundary h request boundary
  | .changing key user _ => stateSettingChanged h key user

end Task

/-- Let a task have its turn, if there is such a task. -/
def takeTurn (h : Hooks) (tasks : List Task) (i : Nat) : Act (List Task) :=
  match tasks[i]? with
  | some task => do
    let task ← task.next h
    pure (tasks.set i task)
  | none => pure tasks

/-- Let tasks have their turns in the given order. -/
def interleave (h : Hooks) (tasks : List Task) : List Nat → Act (List Task)
  | [] => pure tasks
  | i :: rest => do
    let tasks ← takeTurn h tasks i
    interleave h tasks rest

/-- What every turn of a task preserves holds after a whole schedule of `interleave`. -/
theorem interleave_induction {P : List Task → Daemon → Prop}
    (step : ∀ tasks i task d, tasks[i]? = some task → P tasks d →
      P (tasks.set i ((task.next h).on d).1) ((task.next h).on d).2)
    (schedule : List Nat) {tasks : List Task} (hd : P tasks d) :
    P ((interleave h tasks schedule).on d).1 ((interleave h tasks schedule).on d).2 := by
  induction schedule generalizing tasks d with
  | nil => exact hd
  | cons i rest ih =>
    unfold interleave takeTurn
    cases htask : tasks[i]? with
    | none => exact ih hd
    | some task => exact ih (step tasks i task d htask hd)

/-- Turns that are taken after others go on with the tasks and the daemon that these left. -/
theorem interleave_append (tasks : List Task) (before after : List Nat) :
    (interleave h tasks (before ++ after)).on d =
      (interleave h ((interleave h tasks before).on d).1 after).on
        ((interleave h tasks before).on d).2 := by
  induction before generalizing tasks d with
  | nil => rfl
  | cons i rest ih => exact ih _

/-! ### A task alone -/

/-- A task that `isOver` does nothing more in its `next` turn. -/
theorem Task.next_of_isOver {task : Task} (ht : task.isOver = true) :
    (task.next h).on d = (task, d) := by
  cases task with
  | switching user phase => cases phase <;> first | rfl | contradiction
  | firing request boundary phase => cases phase <;> first | rfl | contradiction
  | changing key user phase => cases phase <;> first | rfl | contradiction

/-- A task alone takes one turn after the other. -/
theorem interleave_single (task : Task) (n : Nat) (d : Daemon) :
    (interleave h [task] (List.replicate (n + 1) 0)).on d =
      (interleave h [((task.next h).on d).1] (List.replicate n 0)).on ((task.next h).on d).2 := rfl

/-- A task that `isOver` does nothing with any further turns. -/
theorem interleave_single_of_isOver {task : Task} (ht : task.isOver = true) (n : Nat)
    (d : Daemon) : (interleave h [task] (List.replicate n 0)).on d = ([task], d) := by
  induction n with
  | zero => rfl
  | succ n ih => rw [interleave_single, Task.next_of_isOver ht, ih]

theorem Task.next_switching (user : UserId) (phase : SwitchPhase) (d : Daemon) :
    ((Task.switching user phase).next h).on d =
      (.switching user ((phase.next h user).on d).1, ((phase.next h user).on d).2) := rfl

theorem Task.next_changing (key : StateKey) (user : UserId) (phase : ChangePhase) (d : Daemon) :
    ((Task.changing key user phase).next h).on d =
      (.changing key user ((phase.next h key user).on d).1, ((phase.next h key user).on d).2) := rfl

theorem ChangePhase.next_begun (key : StateKey) (user : UserId) (d : Daemon) :
    (ChangePhase.begun.next h key user).on d =
      (.read ((readChange key user).on d).1, ((readChange key user).on d).2) := rfl

/-- A change that was read is one of the active user, or it is ignored. -/
theorem ChangePhase.next_read_of_active (key : StateKey) {user : UserId} (change : StateChange)
    (hu : user = d.manager.active) :
    ((ChangePhase.read change).next h key user).on d = (.mine change, d) := by
  unfold ChangePhase.next
  rw [Act.on_get_bind, if_pos hu]
  rfl

/-- A change for a user who is not the active one ends there, with a line in the journal. -/
theorem ChangePhase.next_read_of_background (key : StateKey) {user : UserId} (change : StateChange)
    (hu : user ≠ d.manager.active) :
    ((ChangePhase.read change).next h key user).on d =
      (.finished,
        ((debug s!"Ignoring '{key.name}' change for background user {user}").on d).2) := by
  unfold ChangePhase.next
  rw [Act.on_get_bind, if_neg hu]
  rfl

/-- A switch that is prepared goes on with the observers, if there is something to receive the
    statuses. -/
theorem SwitchPhase.next_prepared_of_none (user : UserId)
    (hr : d.manager.receiver.isNone = true) :
    (SwitchPhase.prepared.next h user).on d = (.finished (.error .observersMissing), d) := by
  unfold SwitchPhase.next
  rw [Act.on_get_bind, if_pos hr]
  rfl

/-- With a receiver installed, a switch that is `prepared` exchanges the observers in its next
    section. -/
theorem SwitchPhase.next_prepared_of_some (user : UserId)
    (hr : ¬ d.manager.receiver.isNone = true) :
    (SwitchPhase.prepared.next h user).on d =
      (.exchanged ((exchangeObservers user).on d).1.1 ((exchangeObservers user).on d).1.2,
        ((exchangeObservers user).on d).2) := by
  unfold SwitchPhase.next
  rw [Act.on_get_bind, if_neg hr]
  rfl

/-- Turn after turn of a firing alone is the whole of `fireBoundary`. It takes three turns, and six
    are enough for every task. -/
theorem firing_alone (request : ScheduleRequest) (boundary : Boundary) (d : Daemon) :
    (interleave h [.firing request boundary .begun] (List.replicate 6 0)).on d =
      ([.firing request boundary .finished], ((fireBoundary h request boundary).on d).2) := by
  unfold fireBoundary
  rw [interleave_single]
  simp only [Task.next, FiringPhase.next, Act.on_bind]
  -- a firing for somebody else ends here, with five turns left over
  generalize (isForActiveUser request boundary).on d = asked
  obtain ⟨mine, d₁⟩ := asked
  cases mine with
  | false => exact interleave_single_of_isOver rfl 5 d₁
  | true =>
    show (interleave h [.firing request boundary .mine] (List.replicate 5 0)).on d₁ = _
    rw [interleave_single]
    simp only [Task.next, FiringPhase.next, Act.on_bind, if_true]
    -- and one that is out of range ends here, with four
    generalize (honour h request boundary).on d₁ = honoured
    obtain ⟨dark?, d₂⟩ := honoured
    cases dark? with
    | none => exact interleave_single_of_isOver rfl 4 d₂
    | some dark => exact interleave_single_of_isOver rfl 3 _

/-- Turn after turn of a change alone is the whole of `stateSettingChanged`. It takes four turns. -/
theorem changing_alone (key : StateKey) (user : UserId) (d : Daemon) :
    (interleave h [.changing key user .begun] (List.replicate 6 0)).on d =
      ([.changing key user .finished], ((stateSettingChanged h key user).on d).2) := by
  unfold stateSettingChanged
  rw [interleave_single, Task.next_changing, ChangePhase.next_begun, Act.on_bind]
  generalize (readChange key user).on d = readOut
  obtain ⟨change, d₁⟩ := readOut
  show (interleave h [.changing key user (.read change)] (List.replicate 5 0)).on d₁ = _
  rw [interleave_single, Task.next_changing, Act.on_get_bind]
  by_cases hu : user = d₁.manager.active
  · rw [ChangePhase.next_read_of_active key change hu, if_pos hu]
    rfl
  · rw [ChangePhase.next_read_of_background key change hu, if_neg hu]
    exact interleave_single_of_isOver rfl 4 _

/-- Turn after turn of a switch alone is the whole of `switchUser`, with its answer. It takes six
    turns. -/
theorem switching_alone (user : UserId) (d : Daemon) :
    (interleave h [.switching user .begun] (List.replicate 6 0)).on d =
      ([.switching user (.finished ((switchUser h user).on d).1)],
        ((switchUser h user).on d).2) := by
  unfold switchUser
  rw [interleave_single, Act.on_bind]
  simp only [Task.next, SwitchPhase.next, Act.on_bind]
  generalize prepareStore.on d = prepared
  obtain ⟨result, d₁⟩ := prepared
  cases result with
  -- each way in which a switch may end early leaves turns in which nothing happens
  | error f => exact interleave_single_of_isOver rfl 5 d₁
  | ok _ =>
    show (interleave h [.switching user .prepared] (List.replicate 5 0)).on d₁ = _
    rw [interleave_single, Task.next_switching]
    simp only []
    rw [Act.on_get_bind]
    by_cases hr : d₁.manager.receiver.isNone = true
    · rw [SwitchPhase.next_prepared_of_none user hr, if_pos hr]
      exact interleave_single_of_isOver rfl 4 d₁
    · rw [SwitchPhase.next_prepared_of_some user hr, if_neg hr, Act.on_bind]
      generalize (exchangeObservers user).on d₁ = exchanged
      obtain ⟨⟨previous, failures⟩, d₂⟩ := exchanged
      rw [interleave_single]
      simp only [Task.next, SwitchPhase.next, Act.on_bind]
      by_cases hn : failures ≠ 0
      · rw [if_pos hn, if_pos hn]
        exact interleave_single_of_isOver rfl 3 _
      · -- the last three sections follow without any condition
        rw [if_neg hn, if_neg hn]
        rfl

/-- **A task that has all turns to itself does what the whole operation does.** -/
theorem Task.alone (task : Task) (d : Daemon) :
    ∃ done, (interleave h [task.restarted] (List.replicate 6 0)).on d =
      ([done], ((task.whole h).on d).2) ∧ done.isOver = true := by
  cases task with
  | switching user phase => exact ⟨_, switching_alone user d, rfl⟩
  | firing request boundary phase => exact ⟨_, firing_alone request boundary d, rfl⟩
  | changing key user phase => exact ⟨_, changing_alone key user d, rfl⟩

end Twilight
