import Twilight.Proofs.Daemon.Operations
import Twilight.Proofs.Daemon.Rescheduling

namespace Twilight

/-!
# Frames

What operations leave alone is shown once, for every relation between a daemon and a later one that
their building blocks keep: work on timers, a status that is notified, and changes of the clock, of
states, settings and files.

* `Daemon.Frame` — a relation that the building blocks keep.
* `Daemon.Frame.perform` — then all operations keep it but those that install a receiver, switch
  users, or are told a status.
* `Daemon.Frame.reconcile_cases` — a status that is told is all that is outside of the frame.
* `Daemon.Frame.retire`, `Daemon.Frame.activate` — in a switch the observers are.
-/

/-- The operation neither installs a receiver, nor switches users, nor is told a status. -/
def Operation.isFramed : Operation → Bool
  | .install _ | .switch _ | .reconcile _ _ => false
  | _ => true

namespace Daemon

variable {lossy : Prop} {h : Hooks} {R : Daemon → Daemon → Prop} {d d₁ d₂ : Daemon}

/-! ### Relations that are kept -/

/-- `d₁` is `d` but for the clock, the states of users, the stored settings, the files, the journal,
    and what callbacks noted. -/
def Elsewhere (d d₁ : Daemon) : Prop :=
  ∃ c s v f e j, d₁ = { d with
    clock := c
    manager := { d.manager with states := s }
    settings := { d.settings with values := v }
    files := f
    events := e
    journal := j }

/-- The relation holds between a daemon and what becomes of it by work on timers, by a status that
    is notified, and by changes elsewhere. It goes on holding if one is done after the other. -/
structure Frame (R : Daemon → Daemon → Prop) : Prop where
  trans {d d₁ d₂ : Daemon} : R d d₁ → R d₁ d₂ → R d d₂
  rescheduled {d d₁ : Daemon} : Rescheduled d d₁ → R d d₁
  notified {dark : Bool} {user : UserId} {policy : NotifyPolicy} {d d₁ : Daemon} :
    Notified dark user policy d d₁ → R d d₁
  elsewhere {d d₁ : Daemon} : Elsewhere d d₁ → R d d₁

/-- The action leaves a daemon in the relation to what it was before. -/
def Keeps {α : Type} (R : Daemon → Daemon → Prop) (act : Act α) : Prop := ∀ d, R d (act.on d).2

/-- Giving a user another state is a change `Elsewhere`. -/
theorem elsewhere_withState (user : UserId) (state : DarkModeState) (d : Daemon) :
    Elsewhere d (d.withState user state) := ⟨_, _, _, _, _, _, rfl⟩

/-- A look at the daemon keeps what the rest keeps. -/
theorem keeps_get_bind {β : Type} {f : Daemon → Act β} (hf : ∀ d, Keeps R (f d)) :
    Keeps R (get >>= f) := fun d => hf d d

namespace Frame

variable (hR : Frame R)
include hR

/-- A relation that is a `Frame` holds along lines that are logged, which are a case of work on
    timers. -/
theorem logged (hd : Logged d d₁) : R d d₁ := hR.rescheduled hd.rescheduled

theorem refl (d : Daemon) : R d d := hR.logged (.refl d)

/-- It holds along a change that is brought to an end, with its lines and at most one status
    notified. -/
theorem concluded {dark? : Option Bool} {user : UserId} {policy : NotifyPolicy}
    (hc : Concluded dark? user policy d d₁) : R d d₁ := by
  cases dark? with
  | some dark => exact hR.notified hc
  | none => exact hR.logged hc

/-- Two actions in a row keep it if both do, whatever the first one answers. -/
theorem bind {α β : Type} {x : Act α} {f : α → Act β} (hx : Keeps R x) (hf : ∀ a, Keeps R (f a)) :
    Keeps R (x >>= f) := fun d => hR.trans (hx d) (hf _ _)

theorem pure {α : Type} (a : α) : Keeps R (Pure.pure a : Act α) := fun d => hR.refl d

theorem of_logs {α : Type} {act : Act α} (ha : act.Logs) : Keeps R act := fun d => hR.logged (ha d)

/-- Actions that work on timers only keep it. -/
theorem of_reschedules {α : Type} {act : Act α} (ha : act.Reschedules) : Keeps R act :=
  fun d => hR.rescheduled (ha d)

/-- Giving a user a state keeps it, being a change `Elsewhere`. -/
theorem setState (user : UserId) (state : DarkModeState) : Keeps R (setState user state) :=
  fun d => hR.elsewhere (elsewhere_withState user state d)

/-- Asking for a user's state keeps it, even where the default one is put in place. -/
theorem stateOrDefault (user : UserId) : Keeps R (stateOrDefault user) :=
  fun d => hR.elsewhere (elsewhere_withState user _ d)

theorem note (e : Event) : Keeps R (note e) := fun _ => hR.elsewhere ⟨_, _, _, _, _, _, rfl⟩

section

variable (hl : h.Losing lossy)
include hl

/-! ### Users -/

/-- Notifying a status keeps it, whatever the policy lets through. -/
theorem notify (dark : Bool) (user : UserId) (policy : NotifyPolicy) :
    Keeps R (notify h dark user policy) :=
  fun d => hR.notified (notify_on hl.run dark user policy d)

/-- Bringing a resolution to an end by `finish` keeps the frame. -/
theorem finish (user : UserId) (resolution : Resolution) (policy : NotifyPolicy) :
    Keeps R (finish h user resolution policy) := by
  intro d
  obtain ⟨d₁, he, hc⟩ := finish_on hl.run user resolution policy d
  rw [he]
  exact hR.concluded hc

/-- Loading a user keeps it: reading the state, resolving it and notifying its status do. -/
theorem loadWith (user : UserId) (policy : NotifyPolicy) : Keeps R (loadWith h user policy) := by
  have hread : Keeps R (readState user) := by
    intro d
    obtain ⟨d₁, he, hd⟩ := readState_on user d
    rw [he]
    exact hR.logged hd
  have htake : ∀ state, Keeps R (takeState h user state) := by
    intro state
    refine hR.bind (hR.setState user state) fun _ =>
      hR.bind (hR.of_logs (Act.logs_info _)) fun _ => ?_
    exact hR.of_reschedules (reschedules_resolve hl user state)
  refine hR.bind hread fun state => hR.bind (htake state) fun r => ?_
  exact hR.finish hl user r policy

/-- Evaluating a user's state again by `reevaluate` keeps the frame. -/
theorem reevaluate (user : UserId) (notify : Bool) : Keeps R (reevaluate h user notify) := by
  refine hR.bind (hR.stateOrDefault user) fun state => ?_
  refine hR.bind (hR.of_reschedules (reschedules_resolve hl user state)) fun r => ?_
  exact hR.finish hl user r _

/-- A change that the manager is told of keeps it, whether it takes it over or not. -/
theorem settingChanged (key : String) (user : UserId) : Keeps R (settingChanged h key user) := by
  -- reading a setting only logs
  have hread : ∀ part, Keeps R (readChange part user) := by
    intro part d
    obtain ⟨d₁, he, hd⟩ := readChange_on part user d
    rw [he]
    exact hR.logged hd
  -- the change sets a state and resolves it
  have htake : ∀ change, Keeps R (takeChange h user change) := by
    intro change
    refine hR.bind (hR.stateOrDefault user) fun state => ?_
    refine hR.bind (hR.of_logs (logs_reportChange user state change)) fun _ => ?_
    refine hR.bind (hR.setState user _) fun _ => ?_
    exact hR.of_reschedules (reschedules_resolve hl user _)
  unfold Daemon.settingChanged
  cases StateKey.ofName? key with
  | none => exact hR.of_logs (Act.logs_debug _)
  | some part =>
    refine hR.bind (hread part) fun change => keeps_get_bind fun d => ?_
    by_cases hu : user = d.manager.active
    · simp only [if_pos hu]
      refine hR.bind (htake change) fun r => hR.bind (hR.finish hl user r .always) fun answer => ?_
      exact hR.of_logs (logs_reportUnresolved part user answer)
    · simp only [if_neg hu]
      exact hR.of_logs (Act.logs_debug _)

/-! ### Settings -/

/-- `announce` keeps the frame, whoever the observer is: the manager, a script, or nobody. -/
theorem announce (key : String) (user : UserId) : Keeps R (announce h key user) := by
  refine keeps_get_bind fun d => ?_
  cases d.settings.observers.get? (key, user) with
  | none => exact hR.pure _
  | some observer =>
    obtain ⟨told, action⟩ := observer
    cases action with
    | manager => exact hR.settingChanged hl told user
    | script label steps =>
      refine hR.bind (hR.note _) fun _ => ?_
      rw [hl.run]
      exact hR.pure _

/-- `announceAll` keeps the frame. By induction on the changes. -/
theorem announceAll (changes : List (String × UserId)) : Keeps R (announceAll h changes) := by
  induction changes with
  | nil => exact hR.pure _
  | cons change rest ih =>
    obtain ⟨key, user⟩ := change
    refine hR.bind (hR.of_logs (Act.logs_debug _)) fun _ => ?_
    exact hR.bind (hR.announce hl key user) fun _ => ih

/-- Storing a value keeps it: what is stored is a change `Elsewhere`, and then it is announced. -/
theorem putSetting (key value : String) (user : UserId) :
    Keeps R (putSetting h key value user) := by
  intro d
  obtain ⟨fs, _, he | ⟨f, he⟩⟩ := putSetting_cases h key value user d
  · rw [he]
    have htaken : Elsewhere d { d.withValues (d.settings.values.put key value user) with
        files := fs } := ⟨_, _, _, _, _, _, rfl⟩
    exact hR.trans (hR.elsewhere htaken) (hR.announce hl key user _)
  · rw [he]
    exact hR.elsewhere ⟨_, _, _, _, _, _, rfl⟩

/-- `rewriteSettings` keeps the frame, with all that is announced by it. -/
theorem rewriteSettings (files : FileSystem)
    (order : List (String × UserId) → List (String × UserId)) :
    Keeps R (rewriteSettings h files order) := by
  intro d
  rcases rewriteSettings_cases files order d with he | ⟨t, j, he⟩
  · rw [he]
    exact hR.elsewhere ⟨_, _, _, _, _, _, rfl⟩
  · rw [he]
    have htaken : Elsewhere d { d.withValues t with files := files, journal := j } :=
      ⟨_, _, _, _, _, _, rfl⟩
    exact hR.trans (hR.elsewhere htaken) (hR.announceAll hl _ _)

/-- A status that the manager is told is remembered, unless a fixed mode that contradicts it could
    not be replaced. -/
theorem reconcile_cases (user : UserId) (dark : Bool) (d : Daemon) :
    ∃ d₀, R d d₀ ∧ ((reconcile h user dark).on d = (.ok (), d₀.remembering user dark) ∨
      ∃ f, (reconcile h user dark).on d = (.error f, d₀)) := by
  unfold reconcile
  rw [Act.on_get_bind]
  simp only []
  by_cases hfixed : (!((d.manager.states.get? user).getD {}).mode.isFixed ||
      decide (((d.manager.states.get? user).getD {}).mode = Mode.fixed dark)) = true
  · -- nothing to correct: the status is remembered after a line
    rw [if_pos hfixed]
    exact ⟨_, hR.logged (Act.logs_debug _ d), .inl rfl⟩
  · rw [if_neg hfixed]
    simp only [Act.on_bind]
    have hlog := hR.logged (Act.logs_info
      s!"Correcting stored mode for user {user} to {(Mode.fixed dark).name}" d)
    have hput := hR.putSetting hl StateKey.mode.name (toString (Mode.fixed dark).number) user
      ((info s!"Correcting stored mode for user {user} to {(Mode.fixed dark).name}").on d).2
    generalize
      (Daemon.putSetting h StateKey.mode.name (toString (Mode.fixed dark).number) user).on _ =
        r at hput
    obtain ⟨result, d₀⟩ := r
    refine ⟨d₀, hR.trans hlog hput, ?_⟩
    cases result with
    -- the status is remembered only if the mode could be stored
    | error f => exact .inr ⟨f, rfl⟩
    | ok _ => exact .inl rfl

/-! ### Alarms -/

/-- A boundary that fires keeps it, whether its request is honoured or came too late. -/
theorem fireBoundary (request : ScheduleRequest) (boundary : Boundary) :
    Keeps R (fireBoundary h request boundary) := by
  have hmine : Keeps R (isForActiveUser request boundary) := by
    refine keeps_get_bind fun d => ?_
    by_cases hu : request.user = d.manager.active
    · rw [if_pos hu]
      exact hR.pure _
    · rw [if_neg hu]
      exact hR.bind (hR.of_logs (Act.logs_debug _)) fun _ => hR.pure _
  -- a stale request only logs; a live one arms alarms anew
  have hhonour : Keeps R (honour h request boundary) := by
    intro d
    by_cases hreq : d.liveRequest? request.user = some request
    · obtain ⟨j, d₁, hlog, he⟩ := honour_of_live (h := h) boundary hreq
      have hsched := reschedules_scheduleRequest hl request { d with journal := j }
      have hall := (Rescheduled.trans ⟨_, _, j, rfl⟩ hsched).trans hlog.rescheduled
      rw [he]
      exact hR.rescheduled hall
    · obtain ⟨d₁, he, hlog⟩ := honour_of_stale (h := h) boundary hreq
      rw [he]
      exact hR.logged hlog
  refine hR.bind hmine fun mine => ?_
  cases mine with
  | false => exact hR.pure _
  | true =>
    refine hR.bind hhonour fun dark? => ?_
    cases dark? with
    | none => exact hR.pure _
    | some dark => exact hR.notify hl dark _ _

/-- `fireDue` keeps the frame, as each alarm that it fires does. -/
theorem fireDue : Keeps R (fireDue h) := by
  intro d
  have hfire : ∀ action, Keeps R (fire h action) := by
    intro action
    cases action with
    | boundary request boundary => exact hR.fireBoundary hl request boundary
    | script label boundary steps =>
      refine hR.bind (hR.note _) fun _ => ?_
      rw [hl.run]
      exact hR.pure _
  exact fireDue_induction (P := fun d₁ => R d d₁)
    (fun action d₁ hd => hR.trans hd (hfire action d₁))
    (hR.rescheduled ⟨_, _, _, rfl⟩)

/-- Setting up all timers anew keeps it, and so does the status that is notified then. -/
theorem resync : Keeps R (resync h) := by
  intro d
  obtain ⟨d₀, hlog, hc⟩ := resync_restartAll hl d
  have hrestarted := (reschedules_restartAll hl d).trans hlog.rescheduled
  exact hR.trans (hR.rescheduled hrestarted) (hR.concluded hc)

/-! ### Operations -/

/-- Every operation that `isFramed` keeps it. So a property of runs has to be proved for the other
    three kinds only. -/
theorem perform (op : Operation) (hop : op.isFramed = true) : Keeps R (op.perform h) := by
  cases op with
  | install receiver => contradiction
  | load user notify => exact hR.bind (hR.loadWith hl user _) fun _ => hR.pure _
  | reevaluate user notify => exact hR.bind (hR.reevaluate hl user notify) fun _ => hR.pure _
  | switch user => contradiction
  | put key value user => exact hR.bind (hR.putSetting hl key value user) fun _ => hR.pure _
  | rewrite files order => exact hR.rewriteSettings hl files order
  | fire request boundary => exact hR.fireBoundary hl request boundary
  | fireDue => exact hR.bind (hR.fireDue hl) fun _ => hR.pure _
  | resync => exact hR.bind (hR.resync hl) fun _ => hR.pure _
  | reconcile user dark => contradiction
  | setClock nanos => exact fun _ => hR.elsewhere ⟨_, _, _, _, _, _, rfl⟩
  | lose gone => exact fun _ => hR.rescheduled ⟨_, _, _, rfl⟩

/-- `retire` keeps the frame: it forgets a user's state and clears their timers. -/
theorem retire (user : UserId) : Keeps R (retire h user) := by
  unfold Daemon.retire
  by_cases hu : user ≠ noUser
  · rw [if_pos hu]
    have hforget : Keeps R (modifyManager fun m => { m with states := m.states.erase user }) :=
      fun _ => hR.elsewhere ⟨_, _, _, _, _, _, rfl⟩
    exact hR.bind hforget fun _ => hR.of_reschedules (reschedules_dropTimers hl user)
  · rw [if_neg hu]
    exact hR.pure _

/-- `activate` keeps the frame, which is that of loading the user. -/
theorem activate (user : UserId) : Keeps R (activate h user) := by
  refine hR.bind (hR.of_logs (Act.logs_info _)) fun _ => ?_
  exact hR.bind (hR.loadWith hl user .onChange) fun answer =>
    hR.of_logs (logs_reportLoaded user answer)

end

end Frame

end Daemon

end Twilight
