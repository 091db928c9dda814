import Twilight.Proofs.Daemon.Settings
import Twilight.Proofs.Daemon.Switching

namespace Twilight

/-!
# Runs of operations

* `Operation` — what can be asked of a daemon from outside, or happens to it.
* `Operation.perform`, `runAll` — one operation, and any number of them in order.
* `runAll_induction` — what every operation preserves holds after every run.
* `Daemon.Fresh` — where runs start: no user has a state, timers or alarms.
* `Daemon.alarmsOf` — the pending alarms for a user.
-/

open Time

/-- What can be asked of a daemon from outside, or happens to it. -/
inductive Operation where
  | install (receiver : Receiver)
  | load (user : UserId) (notify : Bool)
  | reevaluate (user : UserId) (notify : Bool)
  | switch (user : UserId)
  | put (key value : String) (user : UserId)
  /-- Somebody else changes the files in whatever way, and the settings file is read again; what
      changed is announced in the order that `order` brings it in. -/
  | rewrite (files : FileSystem) (order : List (String × UserId) → List (String × UserId))
  /-- An alarm for a request fires, or fires late. -/
  | fire (request : ScheduleRequest) (boundary : Boundary)
  | fireDue
  | resync
  | reconcile (user : UserId) (dark : Bool)
  | setClock (nanos : Int)
  /-- Pending alarms get lost. -/
  | lose (gone : AlarmId → Bool)

namespace Daemon

/-- Change the files, and read the settings file again if there is one. -/
def rewriteSettings (h : Hooks) (files : FileSystem)
    (order : List (String × UserId) → List (String × UserId)) : Act Unit := do
  modify fun d => { d with files := files }
  if let some path := (← get).settings.file then
    let _ ← reloadIn order h path

end Daemon

open Daemon

/-- Perform an operation; what it answers does not count. -/
def Operation.perform (h : Hooks) : Operation → Act Unit
  | .install receiver => Daemon.install receiver
  | .load user notify => do
    let _ ← Daemon.load h user notify
    pure ()
  | .reevaluate user notify => do
    let _ ← Daemon.reevaluate h user notify
    pure ()
  | .switch user => do
    let _ ← switchUser h user
    pure ()
  | .put key value user => do
    let _ ← putSetting h key value user
    pure ()
  | .rewrite files order => rewriteSettings h files order
  | .fire request boundary => fireBoundary h request boundary
  | .fireDue => do
    let _ ← Daemon.fireDue h
    pure ()
  | .resync => do
    let _ ← Daemon.resync h
    pure ()
  | .reconcile user dark => do
    let _ ← Daemon.reconcile h user dark
    pure ()
  | .setClock nanos => modify fun d => { d with clock := .ofNanos d.zone nanos }
  | .lose gone => modify fun d => { d with alarms := d.alarms.losing gone }

/-- Perform operations in order. -/
def runAll (h : Hooks) : List Operation → Act Unit
  | [] => pure ()
  | op :: rest => do
    op.perform h
    runAll h rest

/-- A user whose window is from 20:00 to 06:00 becomes active. -/
def nightUser (user : UserId) : List Operation :=
  [.install { applies := false, reports := true }, .put StateKey.mode.name "2" user,
    .put StateKey.start.name "1200" user, .put StateKey.finish.name "360" user, .switch user]

/-- What all allowed operations preserve holds after every run of them by `runAll`. -/
theorem runAll_induction {h : Hooks} {P : Daemon → Prop} (allowed : Operation → Prop)
    (step : ∀ op d, allowed op → P d → P ((op.perform h).on d).2) (ops : List Operation)
    (hops : ∀ op ∈ ops, allowed op) {d : Daemon} (hd : P d) : P ((runAll h ops).on d).2 := by
  induction ops generalizing d with
  | nil => exact hd
  | cons op rest ih =>
    have hop := step op d (hops op (by simp)) hd
    exact ih (fun op' hop' => hops op' (List.mem_cons_of_mem _ hop')) hop

namespace Daemon

variable {lossy : Prop} {h : Hooks} {d : Daemon}

/-! ### Rewriting the settings -/

/-- `reloadIn` leaves the daemon as it is, or it takes all values over before it announces the
    changes. -/
theorem reloadIn_cases (order : List (String × UserId) → List (String × UserId)) (path : String)
    (d : Daemon) :
    ((reloadIn order h path).on d).2 = d ∨
      ∃ t j, ((reloadIn order h path).on d).2 =
        ((announceAll h (order (d.settings.values.changes t))).on
          { d.withValues t with journal := j }).2 := by
  unfold reloadIn
  rw [Act.on_bind]
  rcases takeFile_cases path d with ⟨f, he⟩ | ⟨t, j, he⟩
  · rw [he]
    exact .inl rfl
  · rw [he]
    exact .inr ⟨t, j, rfl⟩

/-- Rewritten settings that can be read are taken over as a whole before any change is announced;
    otherwise none is. -/
theorem rewriteSettings_cases (files : FileSystem)
    (order : List (String × UserId) → List (String × UserId)) (d : Daemon) :
    ((rewriteSettings h files order).on d).2 = { d with files := files } ∨
      ∃ t j, ((rewriteSettings h files order).on d).2 =
        ((announceAll h (order (d.settings.values.changes t))).on
          { d.withValues t with files := files, journal := j }).2 := by
  unfold rewriteSettings
  rw [Act.on_bind, Act.on_modify, Act.on_get_bind]
  cases d.settings.file with
  | none => exact .inl rfl
  | some path => exact reloadIn_cases order path { d with files := files }

/-! ### Firing what is due -/

/-- By `fire`, an alarm has its request honoured, as `Fired` says, or a script notes that it was
    called. -/
theorem fire_cases (hl : h.Losing lossy) (hc : d.alarms.Cancels) (action : AlarmAction) :
    (∃ request, Fired lossy request d ((fire h action).on d).2) ∨
      ∃ e, ((fire h action).on d).2 = { d with events := e } := by
  cases action with
  | boundary request boundary => exact .inl ⟨request, fireBoundary_on hl hc request boundary⟩
  | script label boundary steps =>
    refine .inr ⟨.fired label boundary :: d.events, ?_⟩
    simp only [fire, Act.on_bind, note, Act.on_modify, hl.run, Act.on_pure]

/-- Everything due is taken out before the first of it fires. -/
theorem fireDue_on (d : Daemon) :
    ((fireDue h).on d).2 =
      ((fireAll h ((d.alarms.takeDue d.zone d.clock).1.map fun p => p.2.action)).on
        { d with alarms := (d.alarms.takeDue d.zone d.clock).2 }).2 := rfl

/-- What every firing preserves holds after `fireDue`, if it holds once everything due was taken
    out. -/
theorem fireDue_induction {P : Daemon → Prop}
    (step : ∀ action d, P d → P ((fire h action).on d).2)
    (hd : P { d with alarms := (d.alarms.takeDue d.zone d.clock).2 }) :
    P ((fireDue h).on d).2 := by
  -- what was taken out fires in order, whatever the earlier firings arm
  have hall : ∀ actions d, P d → P ((fireAll h actions).on d).2 := by
    intro actions
    induction actions with
    | nil => exact fun d hd => hd
    | cons action rest ih => exact fun d hd => ih _ (step action d hd)
  rw [fireDue_on]
  exact hall _ _ hd

/-! ### The start -/

/-- The manager and the timers are new, and no alarm is pending. -/
structure Fresh (d : Daemon) : Prop where
  manager : d.manager = {}
  timers : d.timers = {}
  pending : ∀ i, d.pending? i = none

/-- A `Fresh` daemon has no pending alarms and no records, so its timers are sound. -/
theorem Fresh.soundTimers (hd : Fresh d) : SoundTimers d where
  owned i a ha := by
    rw [hd.pending i] at ha
    contradiction
  records user r hr := by
    rw [hd.timers] at hr
    contradiction

/-! ### Alarms of a user -/

/-- The pending alarms for a user, with their numbers. -/
def alarmsOf (d : Daemon) (user : UserId) : List (AlarmId × Alarm AlarmAction) :=
  d.alarms.queue.pending.entries.filter fun p => p.2.action.user? = some user

theorem mem_alarmsOf {user : UserId} {i : AlarmId} {a : Alarm AlarmAction} :
    (i, a) ∈ d.alarmsOf user ↔ d.pending? i = some a ∧ a.action.user? = some user := by
  unfold alarmsOf
  rw [List.mem_filter, ← Table.get?_eq_some_iff, decide_eq_true_eq]
  rfl

/-- Under `SoundTimers`, a user without a record has no alarms pending. -/
theorem SoundTimers.alarmsOf_eq_nil (hs : SoundTimers d) {user : UserId}
    (hr : d.timers.get? user = none) : d.alarmsOf user = [] := by
  rw [List.eq_nil_iff_forall_not_mem]
  rintro ⟨i, a⟩ hmem
  obtain ⟨ha, hu⟩ := mem_alarmsOf.1 hmem
  obtain ⟨other, r, hr', _, hu'⟩ := hs.owned i a ha
  obtain rfl : other = user := Option.some.inj (hu'.symm.trans hu)
  rw [hr] at hr'
  contradiction

end Daemon

end Twilight
