import Twilight.Proofs.Daemon.Alike

namespace Twilight

/-!
# Failing alarms change nothing that is told

Two runs make the same calls at the same readings of the clock, and no alarm fires in between. They
may be in different zones, and different calls on the alarm service may fail in them: they report
the same statuses, and keep the same states and settings.

* `Call`, `runCalls` — calls, each under conditions of its own, and any number of them in order.
* `Operation.Resolves` — whose state a call resolves, and how it notifies the status.
* `Daemon.Heard` — what becomes of a status that is notified.
* `Daemon.blind_of_run` — the two runs agree, and every window is resolved from the clock.
-/

open Time

/-! ### Calls -/

/-- The zone that the daemon is in, and which calls on the alarm service fail. -/
structure Conditions where
  zone : Zone := {}
  armFails : Nat → Bool := fun _ => false
  cancelFails : Nat → Bool := fun _ => false

/-- A call: what is asked for, what the clock reads, and the conditions. -/
structure Call where
  operation : Operation
  clock : Moment
  conditions : Conditions := {}

/-- The calls differ in their conditions only. -/
def Call.SameAs (c c' : Call) : Prop := c.operation = c'.operation ∧ c.clock = c'.clock

/-- Nothing fires, and the clock stands still meanwhile. -/
def Operation.isCall : Operation → Bool
  | .fire _ _ | .fireDue | .setClock _ => false
  | _ => true

namespace Daemon

/-- The daemon when a call reaches it. -/
def reachedBy (d : Daemon) (c : Call) : Daemon :=
  { d with
    clock := c.clock
    zone := c.conditions.zone
    alarms := { d.alarms with
      armFails := c.conditions.armFails
      cancelFails := c.conditions.cancelFails } }

/-- The daemon with an alarm service of which no call fails. -/
def mended (d : Daemon) : Daemon :=
  { d with alarms := { d.alarms with armFails := fun _ => false, cancelFails := fun _ => false } }

end Daemon

open Daemon

/-- Make a call. -/
def Call.make (h : Hooks) (c : Call) : Act Unit := do
  modify fun d => d.reachedBy c
  c.operation.perform h

/-- Make calls in order. -/
def runCalls (h : Hooks) : List Call → Act Unit
  | [] => pure ()
  | c :: rest => do
    c.make h
    runCalls h rest

/-- The call resolves the state of a user, and notifies the status as the policy asks. -/
inductive Operation.Resolves (d : Daemon) : Operation → UserId → NotifyPolicy → Prop
  | load (user : UserId) (notify : Bool) : Resolves d (.load user notify) user (.ofFlag notify)
  | reevaluate (user : UserId) (notify : Bool) :
    Resolves d (.reevaluate user notify) user (.ofFlag notify)
  | switch (user : UserId) (accepted : ((switchUser .quiet user).on d).1 = .ok ()) :
    Resolves d (.switch user) user .onChange
  | put (key : StateKey) (value : String)
    (observed : d.Observes d.manager.active key)
    (stored : ((putSetting .quiet key.name value d.manager.active).on d).1 = .ok ()) :
    Resolves d (.put key.name value d.manager.active) d.manager.active .always
  | resync (somebody : d.manager.active ≠ noUser) :
    Resolves d .resync d.manager.active .onChange

namespace Daemon

variable {lossy : Prop} {h : Hooks} {d d' d₁ d₂ : Daemon} {user : UserId}

/-! ### The same reports -/

/-- Every operation that `isCall` does the same to daemons that are `Alike`. The cases are those of
    `Operation`. -/
theorem twin_perform (hl : h.Losing lossy) (op : Operation) (hop : op.isCall = true) :
    Act.Twin Eq (op.perform h) (op.perform h) := by
  cases op with
  | install receiver =>
    refine (twin_modifyManager _).bind_eq fun _ => ?_
    exact (Act.logs_debug _).twin (Act.logs_debug _)
  | load user notify =>
    exact (twin_loadWith hl user _).bind fun _ _ _ => Act.twin_pure rfl
  | reevaluate user notify =>
    exact (twin_reevaluate hl user notify).bind fun _ _ _ => Act.twin_pure rfl
  | switch user => exact (twin_switchUser hl user).bind_eq fun _ => Act.twin_pure rfl
  | put key value user =>
    exact (twin_putSetting hl key value user).bind_eq fun _ => Act.twin_pure rfl
  | rewrite files order => exact twin_rewriteSettings hl files order
  | fire request boundary => contradiction
  | fireDue => contradiction
  | resync => exact (twin_resync hl).bind fun _ _ _ => Act.twin_pure rfl
  | reconcile user dark =>
    exact (twin_reconcile hl user dark).bind_eq fun _ => Act.twin_pure rfl
  | setClock nanos => contradiction
  | lose gone =>
    -- alarms that get lost are among what may differ
    intro d d' ha
    exact ⟨rfl, ha.rescheduled ⟨_, _, _, rfl⟩ ⟨_, _, _, rfl⟩⟩

/-- Calls that are the `SameAs` each other, though made under different conditions, lead from
    `Alike` daemons to such daemons. -/
theorem Alike.make (ha : Alike d d') {c c' : Call} (hsame : c.SameAs c')
    (hc : c.operation.isCall = true) :
    Alike ((c.make .quiet).on d).2 ((c'.make .quiet).on d').2 := by
  have hreached : Alike (d.reachedBy c) (d'.reachedBy c') := by
    obtain ⟨z, t, a, j, rfl⟩ := ha
    unfold reachedBy
    rw [hsame.2]
    exact ⟨c'.conditions.zone, t, _, j, rfl⟩
  have htwin := twin_perform (Hooks.quiet_losing True) c.operation hc _ _ hreached
  have hop : c'.operation = c.operation := hsame.1.symm
  show Alike ((c.operation.perform .quiet).on (d.reachedBy c)).2
    ((c'.operation.perform .quiet).on (d'.reachedBy c')).2
  rw [hop]
  exact htwin.2

/-- Runs of calls that are pairwise the `SameAs` each other lead from `Alike` daemons to such
    daemons. By induction on the calls. -/
theorem Alike.runCalls {calls calls' : List Call} (hsame : List.Forall₂ Call.SameAs calls calls')
    (hcalls : ∀ c ∈ calls, c.operation.isCall = true) (ha : Alike d d') :
    Alike ((runCalls .quiet calls).on d).2 ((runCalls .quiet calls').on d').2 := by
  induction hsame generalizing d d' with
  | nil => exact ha
  | cons hfirst _ ih =>
    have hmade := ha.make hfirst (hcalls _ List.mem_cons_self)
    exact ih (fun c hc => hcalls c (List.mem_cons_of_mem _ hc)) hmade

/-! ### Windows and the clock -/

/-- A status was treated as a policy asks: it was remembered and reported if the policy lets it
    through, and otherwise nothing was. -/
structure Heard (dark : Bool) (user : UserId) (policy : NotifyPolicy) (d d₁ : Daemon) : Prop where
  remembered : NotifyPolicy.passes policy (d.manager.lastStatus.get? user) dark →
    d₁.manager.lastStatus = d.manager.lastStatus.insert user dark
  reported : NotifyPolicy.passes policy (d.manager.lastStatus.get? user) dark →
    ∀ r, d.manager.receiver = some r → r.reports = true → d₁.updates = (dark, user) :: d.updates
  kept : ¬ NotifyPolicy.passes policy (d.manager.lastStatus.get? user) dark →
    d₁.manager.lastStatus = d.manager.lastStatus ∧ d₁.updates = d.updates

/-- A status that was `Notified` under a policy is `Heard` as the policy asks: what the daemon
    remembers and reports is read off the three cases. -/
theorem Notified.heard {dark : Bool} {policy : NotifyPolicy}
    (hn : Notified dark user policy d d₁) : Heard dark user policy d d₁ := by
  cases hn with
  | told passes told =>
    exact ⟨fun _ => told.lastStatus, fun _ => told.reported, fun hno => absurd passes hno⟩
  | silent passes logged =>
    obtain ⟨j, rfl⟩ := logged
    exact ⟨fun hp => absurd hp passes, fun hp => absurd hp passes, fun _ => ⟨rfl, rfl⟩⟩

/-- Whether a status was `Heard` depends on the last statuses, the receiver and the updates alone.
    -/
theorem Heard.congr {dark : Bool} {policy : NotifyPolicy} {e e₁ : Daemon}
    (hh : Heard dark user policy d d₁)
    (hlast : e.manager.lastStatus = d.manager.lastStatus)
    (hrec : e.manager.receiver = d.manager.receiver) (hup : e.updates = d.updates)
    (hlast₁ : e₁.manager.lastStatus = d₁.manager.lastStatus) (hup₁ : e₁.updates = d₁.updates) :
    Heard dark user policy e e₁ := by
  refine ⟨?_, ?_, ?_⟩
  · rw [hlast, hlast₁]
    exact hh.remembered
  · rw [hlast, hrec, hup, hup₁]
    exact hh.reported
  · rw [hlast, hlast₁, hup, hup₁]
    exact hh.kept

/-- After a state was settled, it is the state of its user, and if it is a window, the status that
    is notified is read off the clock. -/
theorem Settled.heard {state : DarkModeState} {policy : NotifyPolicy}
    (hs : Settled lossy user state policy d d₁) {w : Window}
    (hw : (d₁.manager.states.get? user).bind DarkModeState.window? = some w) :
    Heard (w.containsMoment d.clock) user policy d d₁ := by
  obtain ⟨d₀, hr, hc⟩ := hs
  have hstate : d₁.manager.states.get? user = some state := by
    rw [hc.delivered.states, hr.rescheduled.manager]
    exact Table.get?_insert_self _ _ _
  rw [hstate] at hw
  rw [DarkModeState.status?_of_window? hw] at hc
  obtain ⟨t, a, j, rfl⟩ := hr.rescheduled
  exact (Notified.heard hc).congr rfl rfl rfl rfl rfl

/-- If `putSetting` succeeds then the value is in the table, and what is left is what `announce`
    makes of that. -/
theorem putSetting_of_ok {key value : String}
    (hok : ((putSetting h key value user).on d).1 = .ok ()) :
    ∃ fs, ((putSetting h key value user).on d).2 = ((announce h key user).on
      { d.withValues (d.settings.values.put key value user) with files := fs }).2 := by
  obtain ⟨fs, _, he | ⟨f, he⟩⟩ := putSetting_cases h key value user d
  · rw [he]
    exact ⟨fs, rfl⟩
  · rw [he] at hok
    contradiction

/-- A switch that succeeds has the status of the window that it loads notified if it is another
    one. -/
theorem switchUser_heard (hc : d.alarms.Cancels)
    (hok : ((switchUser .quiet user).on d).1 = .ok ()) {w : Window}
    (hw : (((switchUser .quiet user).on d).2.manager.states.get? user).bind
      DarkModeState.window? = some w) :
    Heard (w.containsMoment d.clock) user .onChange d ((switchUser .quiet user).on d).2 := by
  have hcases := switchUser_cases (Hooks.quiet_losing True) hc user
  generalize (switchUser .quiet user).on d = switched at hcases hok hw ⊢
  cases hcases with
  | refused f _ _ _ => contradiction
  | unloaded f _ _ _ _ _ => contradiction
  | loaded d₀ d₁ d₂ hobs _ _ _ hret hset =>
    -- neither exchanging observers nor forgetting a user is told to anybody
    have hheard := hset.heard hw
    obtain ⟨s, t, a, j, rfl⟩ := hret.eq
    obtain ⟨o, f, ac, b, j₀, rfl⟩ := hobs
    exact hheard.congr rfl rfl rfl rfl rfl

/-- A setting of the active user that is stored has the status of their window notified. -/
theorem putSetting_heard (hc : d.alarms.Cancels) {key : StateKey} {value : String}
    (hobs : d.Observes d.manager.active key)
    (hok : ((putSetting .quiet key.name value d.manager.active).on d).1 = .ok ()) {w : Window}
    (hw : (((putSetting .quiet key.name value d.manager.active).on d).2.manager.states.get?
      d.manager.active).bind DarkModeState.window? = some w) :
    Heard (w.containsMoment d.clock) d.manager.active .always d
      ((putSetting .quiet key.name value d.manager.active).on d).2 := by
  obtain ⟨fs, he⟩ := putSetting_of_ok hok
  rw [he] at hw ⊢
  have hann := announce_on (d := { d.withValues (d.settings.values.put key.name value
    d.manager.active) with files := fs }) (Hooks.quiet_losing True) hc key.name d.manager.active
  cases hann with
  | others observer _ => exact absurd hobs (observer key.name)
  | manager told observer changed =>
    obtain rfl : key.name = told :=
      (Observer.mk.inj (Option.some.inj (hobs.symm.trans observer))).1
    cases changed with
    | ignored reason _ => simp [withValues] at reason
    | taken _ _ _ hset => exact (hset.heard hw).congr rfl rfl rfl rfl rfl

/-- Resyncing has the status of the active user's window notified if it is another one. -/
theorem resync_heard (hsomebody : d.manager.active ≠ noUser) {w : Window}
    (hw : (((resync .quiet).on d).2.manager.states.get? d.manager.active).bind
      DarkModeState.window? = some w) :
    Heard (w.containsMoment d.clock) d.manager.active .onChange d ((resync .quiet).on d).2 := by
  have hl : Hooks.quiet.Losing True := Hooks.quiet_losing True
  obtain ⟨d₀, hlog, hconcluded⟩ := resync_restartAll hl d
  have hrestarted := (reschedules_restartAll hl d).trans hlog.rescheduled
  have hmanager := hrestarted.manager
  rw [hconcluded.delivered.states, hmanager] at hw
  obtain ⟨state, hs, hwin⟩ := Option.bind_eq_some_iff.1 hw
  obtain ⟨hmode, rfl, hvalid⟩ := DarkModeState.window?_eq_some.1 hwin
  have hstatus : d₀.activeWindowStatus? = some (state.window.containsMoment d.clock) := by
    unfold activeWindowStatus? liveRequest?
    rw [hmanager, hrestarted.clock, if_neg hsomebody, hs]
    simp [DarkModeState.request?, hmode, hvalid]
  rw [hstatus, hmanager] at hconcluded
  exact (Notified.heard hconcluded).congr (by rw [hmanager]) (by rw [hmanager])
    hrestarted.updates.symm rfl rfl

/-- While no call on the alarm service fails, every call has the status of the window that it
    resolves notified as its policy asks. -/
theorem heard_of_cancels (hc : d.alarms.Cancels) {op : Operation} {policy : NotifyPolicy}
    (hop : op.Resolves d user policy) {w : Window}
    (hw : (((op.perform .quiet).on d).2.manager.states.get? user).bind DarkModeState.window? =
      some w) :
    Heard (w.containsMoment d.clock) user policy d ((op.perform .quiet).on d).2 := by
  have hl : Hooks.quiet.Losing True := Hooks.quiet_losing True
  cases hop with
  | load user notify => exact (loadWith_on hl hc user (.ofFlag notify)).heard hw
  | reevaluate user notify => exact (reevaluate_on hl hc user notify).heard hw
  | switch user accepted => exact switchUser_heard hc accepted hw
  | put key value observed stored => exact putSetting_heard hc observed stored hw
  | resync somebody => exact resync_heard somebody hw

/-- A call resolves the same user's state, by the same policy, on alike daemons. -/
theorem Alike.resolves (ha : Alike d d') {op : Operation} {policy : NotifyPolicy}
    (hop : op.Resolves d user policy) : op.Resolves d' user policy := by
  have hl : Hooks.quiet.Losing True := Hooks.quiet_losing True
  have hactive : d'.manager.active = d.manager.active := by rw [ha.manager]
  cases hop with
  | load user notify => exact .load user notify
  | reevaluate user notify => exact .reevaluate user notify
  | switch user accepted =>
    have hanswer := (twin_switchUser hl user d d' ha).1
    exact .switch user (hanswer ▸ accepted)
  | put key value observed stored =>
    have hanswer := (twin_putSetting hl key.name value d.manager.active d d' ha).1
    -- the active user and the observers are the same on both sides
    have hobserved : d'.Observes d'.manager.active key := by
      unfold Observes
      rw [hactive, ha.settings]
      exact observed
    have hput := Operation.Resolves.put key value hobserved (d := d')
    rw [hactive] at hput
    exact hput (hanswer ▸ stored)
  | resync somebody =>
    rw [← hactive] at somebody ⊢
    exact .resync somebody

/-- Mending the alarm service makes an alike daemon. -/
theorem alike_mended (d : Daemon) : Alike d d.mended := ⟨_, _, _, _, rfl⟩

/-- Of the service that `mended` puts in place no call to cancel fails. -/
theorem mended_cancels (d : Daemon) : d.mended.alarms.Cancels := fun _ => rfl

/-- Every call has the status of the window that it resolves notified as its policy asks, whichever
    calls on the alarm service fail. -/
theorem heard_of_resolves {op : Operation} (hcall : op.isCall = true) {policy : NotifyPolicy}
    (hop : op.Resolves d user policy) {w : Window}
    (hw : (((op.perform .quiet).on d).2.manager.states.get? user).bind DarkModeState.window? =
      some w) :
    Heard (w.containsMoment d.clock) user policy d ((op.perform .quiet).on d).2 := by
  have hperformed := (twin_perform (Hooks.quiet_losing True) op hcall d d.mended
    (alike_mended d)).2
  have hcancels := mended_cancels d
  -- the mended daemon hears the same
  have hheard := heard_of_cancels hcancels ((alike_mended d).resolves hop) (w := w)
    (by rw [hperformed.manager]; exact hw)
  exact hheard.congr rfl rfl rfl (by rw [hperformed.manager]) hperformed.updates.symm

/-- A state resolves to the status that it stands for, whatever becomes of its alarms. -/
theorem dark?_resolve (user : UserId) (state : DarkModeState) (d : Daemon) :
    ((resolve .quiet user state).on d).1.dark? = state.status? d.clock := by
  have hl : Hooks.quiet.Losing True := Hooks.quiet_losing True
  have hcancels := mended_cancels d
  have htwin := (twin_resolve hl user state d d.mended (alike_mended d)).1
  obtain ⟨r, d₁, he, hdark, -⟩ := resolve_on hl hcancels user state
  rw [he] at htwin
  exact htwin.trans hdark

/-- A window is resolved to the status that it has by the clock. -/
theorem dark?_of_window? (user : UserId) {state : DarkModeState} {w : Window}
    (hw : state.window? = some w) (d : Daemon) :
    ((resolve .quiet user state).on d).1.dark? = some (w.containsMoment d.clock) := by
  rw [dark?_resolve, DarkModeState.status?_of_window? hw]

/-! ### After every run -/

/-- Whichever user's window a call resolves: the status is the one that the window has by the clock,
    and it is notified as the call asks. -/
def TellsByClock (d : Daemon) (c : Call) : Prop :=
  ∀ user policy w, c.operation.Resolves (d.reachedBy c) user policy →
    (((c.make .quiet).on d).2.manager.states.get? user).bind DarkModeState.window? = some w →
    Heard (w.containsMoment c.clock) user policy (d.reachedBy c) ((c.make .quiet).on d).2

/-- **Failing alarms change nothing that is told.** Two runs make the same calls at the same
    readings of the clock, whatever zone they are in and whichever calls on the alarm service fail.
    They agree on everything but the timers, the alarms and the journal. Every valid window is
    resolved from the clock in them, and its status notified as the call asks. -/
theorem blind_of_run (calls calls' : List Call) (hsame : List.Forall₂ Call.SameAs calls calls')
    (hcalls : ∀ c ∈ calls, c.operation.isCall = true) (d : Daemon) :
    Alike ((runCalls .quiet calls).on d).2 ((runCalls .quiet calls').on d).2 ∧
      (∀ before c after, calls = before ++ c :: after →
        ((runCalls .quiet before).on d).2.TellsByClock c) ∧
      ∀ user state w, state.window? = some w → ∀ d,
        ((resolve .quiet user state).on d).1.dark? = some (w.containsMoment d.clock) := by
  refine ⟨(Alike.refl d).runCalls hsame hcalls, fun before c after heq => ?_,
    fun user state w hw d => dark?_of_window? user hw d⟩
  intro user policy w hop hw
  have hcall : c.operation.isCall = true := hcalls c (by simp [heq])
  exact heard_of_resolves hcall hop hw

/-- At 22:00 a user's window from 20:00 to 06:00 is set up. -/
def nightCalls (conditions : Conditions) : List Call :=
  (nightUser 100).map fun op => ⟨op, ⟨22 * 3600 * nanosPerSecond, 0⟩, conditions⟩

/-- Where nothing can be armed, the user's status is reported as where all can be. -/
theorem blind_of_night :
    Alike ((runCalls .quiet (nightCalls { armFails := fun _ => true })).on default).2
        ((runCalls .quiet (nightCalls {})).on default).2 ∧
      ((runCalls .quiet (nightCalls { armFails := fun _ => true })).on default).2.updates =
        [(true, 100)] ∧
      ((runCalls .quiet (nightCalls { armFails := fun _ => true })).on
        default).2.alarms.pendingCount = 0 ∧
      ((runCalls .quiet (nightCalls {})).on default).2.alarms.pendingCount = 2 := by
  refine ⟨(blind_of_run (nightCalls { armFails := fun _ => true }) (nightCalls {}) ?_ ?_ default).1,
    ?_, ?_, ?_⟩
  · simp [nightCalls, nightUser, Call.SameAs]
  · simp [nightCalls, nightUser, Operation.isCall]
  · decide +kernel
  · decide +kernel
  · decide +kernel

end Daemon

end Twilight
