import Twilight.Proofs.Daemon.Operations

namespace Twilight

/-!
# The color mode after a switch

There is one color mode, which is that of the status handed over last, whoever it is for. A switch
hands a status over only if it is not the last one known of the user who becomes active, and in the
meantime other users may have had theirs shown.

* `Daemon.Connected` — the invariant: statuses are handed to the appearance, nothing fails there,
  and once a status is known some status is shown.
* `Daemon.Connected.notified`, `Daemon.Connected.perform` — a status that is handed over is shown,
  and operations preserve the invariant.
* `Daemon.Connected.shows_notified_iff`, `Daemon.shows_of_switch_iff` — when the color mode is that
  of the user who became active.
* `Daemon.not_shows_of_return` — it is not when two users take turns.
-/

namespace Daemon

variable {lossy : Prop} {h : Hooks} {d d₁ : Daemon} {user : UserId}

/-! ### The invariant -/

/-- The manager hands statuses to the appearance, where nothing fails; and as soon as it knows a
    status of anybody, some status is shown. -/
structure Connected (d : Daemon) : Prop where
  faultless : d.settings.faults = {}
  cancels : d.alarms.Cancels
  sound : SoundTimers d
  receiver : ∃ r, d.manager.receiver = some r ∧ r.applies = true
  applies : d.CanApply
  writable : d.Writable
  shown : ∀ user dark, d.manager.lastStatus.get? user = some dark →
    ∃ a shown, d.appearance = Appearance.showing a shown

/-- The timers, the alarms, the settings, the files, the appearance and what is known of statuses
    are the same. -/
structure SameColors (d d₁ : Daemon) : Prop where
  timers : d₁.timers = d.timers
  alarms : d₁.alarms = d.alarms
  settings : d₁.settings = d.settings
  files : d₁.files = d.files
  appearance : d₁.appearance = d.appearance
  receiver : d₁.manager.receiver = d.manager.receiver
  lastStatus : d₁.manager.lastStatus = d.manager.lastStatus

/-- Logging lines leaves all that counts for what is shown, so `Logged` is a case of `SameColors`.
    -/
theorem Logged.sameColors (hd : Logged d d₁) : SameColors d d₁ := by
  obtain ⟨j, rfl⟩ := hd
  exact ⟨rfl, rfl, rfl, rfl, rfl, rfl, rfl⟩

namespace Connected

/-- `Connected` reads nothing but what `SameColors` compares, so it carries over. -/
theorem same (hc : Connected d) (hs : SameColors d d₁) : Connected d₁ where
  faultless := by rw [hs.settings]; exact hc.faultless
  cancels := by rw [hs.alarms]; exact hc.cancels
  sound := hc.sound.congr hs.timers hs.alarms
  receiver := by rw [hs.receiver]; exact hc.receiver
  applies := hc.applies.congr hs.appearance (by rw [hs.files]; exact .refl _)
  writable := hc.writable.congr (by rw [hs.settings]) (by rw [hs.files]; exact .refl _)
  shown := by rw [hs.lastStatus, hs.appearance]; exact hc.shown

/-- A daemon stays `Connected` with other files, as long as there are the same directories. -/
theorem withFiles (hc : Connected d) {fs : FileSystem} (hf : d.files.SameDirectories fs) :
    Connected { d with files := fs } where
  faultless := hc.faultless
  cancels := hc.cancels
  sound := hc.sound.congr rfl rfl
  receiver := hc.receiver
  applies := hc.applies.congr rfl hf
  writable := hc.writable.congr rfl hf
  shown := hc.shown

/-- A daemon stays `Connected` with other timers, as long as these are sound and the same calls
    fail. -/
theorem rescheduled (hc : Connected d) (hr : Rescheduled d d₁)
    (hplans : d.alarms.SamePlans d₁.alarms) (hs : SoundTimers d₁) : Connected d₁ where
  faultless := by rw [hr.settings]; exact hc.faultless
  cancels := hplans.cancels hc.cancels
  sound := hs
  receiver := by rw [hr.manager]; exact hc.receiver
  applies := hc.applies.congr hr.appearance (by rw [hr.files]; exact .refl _)
  writable := hc.writable.congr (by rw [hr.settings]) (by rw [hr.files]; exact .refl _)
  shown := by rw [hr.manager, hr.appearance]; exact hc.shown

/-! ### Statuses -/

/-- On a `Connected` daemon a status that was `Told` is what the appearance shows from then on. -/
theorem showing_of_told (hc : Connected d) {dark : Bool} (ht : Told dark user d d₁) :
    d₁.appearance = d.appearance.showing dark ∧ d.files.SameDirectories d₁.files := by
  obtain ⟨r, hr, happlies⟩ := hc.receiver
  exact ht.shown r hr happlies hc.applies

/-- A status that is notified is applied before it is remembered, so a daemon stays `Connected`:
    some status is shown as soon as one is known. -/
theorem notified (hc : Connected d) {dark : Bool} {policy : NotifyPolicy}
    (hn : Notified dark user policy d d₁) : Connected d₁ := by
  cases hn with
  | silent _ logged => exact hc.same logged.sameColors
  | told _ told =>
    obtain ⟨happ, hfiles⟩ := hc.showing_of_told told
    have hd := told.delivered
    refine ⟨?_, ?_, hc.sound.delivered hd, ?_, hc.applies.of_showing happ hfiles, ?_, ?_⟩
    · rw [hd.settings]
      exact hc.faultless
    · rw [hd.alarms]
      exact hc.cancels
    · rw [hd.receiver]
      exact hc.receiver
    · exact hc.writable.congr (by rw [hd.settings]) hfiles
    · exact fun _ _ _ => ⟨_, dark, happ⟩

/-- Bringing a change to an end notifies one status at most, which keeps the daemon `Connected`. -/
theorem concluded (hc : Connected d) {dark? : Option Bool} {policy : NotifyPolicy}
    (hn : Concluded dark? user policy d d₁) : Connected d₁ := by
  cases dark? with
  | some dark => exact hc.notified hn
  | none => exact hc.same (Logged.sameColors hn)

/-- Resolving a state keeps a daemon `Connected`: it arms alarms, and touches nothing of the
    appearance. -/
theorem resolved (hc : Connected d) {state : DarkModeState}
    (hr : Resolved lossy user state (d.withState user state) d₁) : Connected d₁ := by
  have hset : Connected (d.withState user state) := hc.same ⟨rfl, rfl, rfl, rfl, rfl, rfl, rfl⟩
  exact hset.rescheduled hr.rescheduled hr.plans (hr.soundTimers hset.sound)

/-- So does taking over a state, as `Settled` says: the rest of it are timers and lines. -/
theorem settled (hc : Connected d) {state : DarkModeState} {policy : NotifyPolicy}
    (hs : Settled lossy user state policy d d₁) : Connected d₁ := by
  obtain ⟨d₀, hr, hn⟩ := hs
  exact (hc.resolved hr).concluded hn

/-! ### Operations -/

/-- A change of a setting that was told to the manager keeps the daemon `Connected`, whether it took
    the change over or not. -/
theorem changed (hc : Connected d) {key : String} (hch : Changed lossy key user d d₁) :
    Connected d₁ := by
  cases hch with
  | ignored _ logged => exact hc.same logged.sameColors
  | taken _ _ _ settled => exact hc.settled settled

/-- An announced value is told to the manager, or to a callback that only notes it; both keep the
    daemon `Connected`. -/
theorem announced (hc : Connected d) {key : String} (ha : Announced lossy key user d d₁) :
    Connected d₁ := by
  cases ha with
  | manager _ _ changed => exact hc.changed changed
  | others _ noted =>
    obtain ⟨e, rfl⟩ := noted
    exact hc.same ⟨rfl, rfl, rfl, rfl, rfl, rfl, rfl⟩

/-- Storing a value keeps the daemon `Connected`, whether the store takes it and announces it or
    refuses it. -/
theorem put (hc : Connected d) {key value : String} (hp : Put lossy key value user d d₁) :
    Connected d₁ := by
  cases hp with
  | refused fs directories same =>
    rw [same]
    exact hc.withFiles (directories hc.writable)
  | stored fs directories announced =>
    have hput : Connected (d.withValues (d.settings.values.put key value user)) :=
      ⟨hc.faultless, hc.cancels, hc.sound.congr rfl rfl,
        hc.receiver, hc.applies.congr rfl (.refl _), hc.writable, hc.shown⟩
    exact (hput.withFiles (directories hc.writable)).announced announced

/-- A request that is honoured reloads the state of its user at most, which keeps the daemon
    `Connected`. -/
theorem fired (hc : Connected d) {request : ScheduleRequest} (hf : Fired lossy request d d₁) :
    Connected d₁ := by
  cases hf with
  | ignored _ logged => exact hc.same logged.sameColors
  | outOfRange _ _ notified => exact hc.notified notified
  | honoured _ _ _ _ settled => exact hc.settled settled

/-- Firing an alarm keeps the daemon `Connected`, whatever its action is. -/
theorem fire (hl : h.Losing lossy) (action : AlarmAction) (hc : Connected d) :
    Connected ((Daemon.fire h action).on d).2 := by
  rcases fire_cases hl hc.cancels action with ⟨request, hf⟩ | ⟨e, he⟩
  · exact hc.fired hf
  · rw [he]
    exact hc.same ⟨rfl, rfl, rfl, rfl, rfl, rfl, rfl⟩

/-- Firing all that is due keeps the daemon `Connected`, one alarm after the other. -/
theorem fireDue (hl : h.Losing lossy) (hc : Connected d) :
    Connected ((Daemon.fireDue h).on d).2 :=
  fireDue_induction (fun action _ hd => hd.fire hl action)
    ⟨hc.faultless, hc.cancels, hc.sound.takeDue _ _, hc.receiver, hc.applies.congr rfl (.refl _),
      hc.writable, hc.shown⟩

/-- Setting up all timers anew and notifying the active user's status keeps the daemon `Connected`.
    -/
theorem resync (hl : h.Losing lossy) (hc : Connected d) :
    Connected ((Daemon.resync h).on d).2 := by
  obtain ⟨d₀, hlog, hn⟩ := resync_restartAll hl d
  obtain ⟨hr, hsound⟩ := restartAll_on hl hc.cancels hc.sound
  have hrestarted := hc.rescheduled hr.rescheduled hr.plans hsound
  exact (hrestarted.same hlog.sameColors).concluded hn

/-- Exchanging observers keeps the daemon `Connected`, if no faults of the store come with it. -/
theorem observed (hc : Connected d) (ho : Observed d d₁) (hf : d₁.settings.faults = {}) :
    Connected d₁ where
  faultless := hf
  cancels := by rw [ho.alarms]; exact hc.cancels
  sound := hc.sound.congr ho.timers ho.alarms
  receiver := by rw [ho.receiver]; exact hc.receiver
  applies := hc.applies.congr ho.appearance (by rw [ho.files]; exact .refl _)
  writable := hc.writable.congr ho.file (by rw [ho.files]; exact .refl _)
  shown := by rw [ho.lastStatus, ho.appearance]; exact hc.shown

/-- Forgetting the state and the timers of a user keeps the daemon `Connected`, since nothing known
    of statuses is forgotten. -/
theorem retired (hc : Connected d) (hr : Retired lossy user d d₁) : Connected d₁ := by
  cases hr with
  | nobody _ same =>
    rw [same]
    exact hc
  | forgotten _ cleared =>
    have hwithout : Connected (d.withoutState user) := hc.same ⟨rfl, rfl, rfl, rfl, rfl, rfl, rfl⟩
    exact hwithout.rescheduled cleared.rescheduled cleared.plans (hwithout.sound.cleared cleared)

/-- Until the new user's state is settled, a switch touches neither the appearance nor what is known
    of statuses. -/
theorem switch_on (hl : h.Losing lossy) (hc : Connected d) (user : UserId) :
    ∃ d₁ d₂, (switchUser h user).on d = (.ok (), d₂) ∧ Connected d₁ ∧ d₁.clock = d.clock ∧
      d₁.appearance = d.appearance ∧ d₁.manager.lastStatus = d.manager.lastStatus ∧
      Settled lossy user (d.settings.decoded user) .onChange d₁ d₂ := by
  obtain ⟨r, hr, _⟩ := hc.receiver
  obtain ⟨d₀, d₁, d₂, he, hobs, _, hf, _, _, hret, hset⟩ :=
    switchUser_of_faultless hl hc.cancels user hc.faultless (by rw [hr]; simp)
  have hsame : d₁.clock = d₀.clock ∧ d₁.appearance = d₀.appearance ∧
      d₁.manager.lastStatus = d₀.manager.lastStatus ∧ d₁.settings = d₀.settings := by
    obtain ⟨s, t, a, j, rfl⟩ := hret.eq
    exact ⟨rfl, rfl, rfl, rfl⟩
  obtain ⟨hclock, happ, hlast, hsettings⟩ := hsame
  rw [hsettings, hobs.decoded hc.faultless hf] at hset
  exact ⟨d₁, d₂, he, (hc.observed hobs hf).retired hret, hclock.trans hobs.clock,
    happ.trans hobs.appearance, hlast.trans hobs.lastStatus, hset⟩

end Connected

/-! ### Switching -/

/-- As soon as a status is known of anybody, the color mode alone says which one is shown. -/
theorem Connected.shows_iff (hc : Connected d) {known : Bool}
    (hknown : d.manager.lastStatus.get? user = some known) (dark : Bool) :
    d.Shows dark ↔ d.appearance.mode = .fixed dark := by
  obtain ⟨a, shown, happ⟩ := hc.shown user known hknown
  have hshows := shows_of_appearance hc.applies happ
  have hmode : d.appearance.mode = .fixed shown := by
    rw [happ]
    rfl
  constructor
  · intro hdark
    rw [hmode]
    exact Except.ok.inj (hshows.mode.symm.trans hdark.mode)
  · intro hdark
    rw [← Mode.fixed_injective (hmode.symm.trans hdark)]
    exact hshows

/-- Treating a status as a switch does: it is shown then exactly if it was not the last one known of
    its user, or the color mode was of that status already. -/
theorem Connected.shows_notified_iff (hc : Connected d) {dark : Bool}
    (hn : Notified dark user .onChange d d₁) :
    d₁.Shows dark ↔
      d.manager.lastStatus.get? user ≠ some dark ∨ d.appearance.mode = .fixed dark := by
  have hc₁ := hc.notified hn
  cases hn with
  | told passes told =>
    have hnew := (passes.resolve_left (by simp)).2
    exact ⟨fun _ => .inl hnew,
      fun _ => shows_of_appearance hc₁.applies (hc.showing_of_told told).1⟩
  | silent passes logged =>
    have hknown : d.manager.lastStatus.get? user = some dark := by
      by_contra hno
      exact passes (.inr ⟨rfl, hno⟩)
    -- nothing was handed over, so the color mode is the one from before
    have hsame := logged.sameColors
    rw [hc₁.shows_iff (hsame.lastStatus ▸ hknown), hsame.appearance]
    exact ⟨.inr, fun h => h.resolve_left (not_not.2 hknown)⟩

/-- Where statuses are applied without faults, a switch to a user whose settings resolve to a status
    succeeds, and treats the status so. -/
theorem Connected.shows_switch_iff (hl : h.Losing lossy) (hc : Connected d) {dark : Bool}
    (hs : (d.settings.decoded user).status? d.clock = some dark) :
    ((switchUser h user).on d).1 = .ok () ∧
      (((switchUser h user).on d).2.Shows dark ↔
        d.manager.lastStatus.get? user ≠ some dark ∨ d.appearance.mode = .fixed dark) := by
  obtain ⟨d₁, d₂, he, hc₁, hclock, happ, hlast, d₃, hr, hn⟩ := hc.switch_on hl user
  rw [hclock, hs] at hn
  have hn : Notified dark user .onChange d₃ d₂ := hn
  have hlast₃ : d₃.manager.lastStatus = d.manager.lastStatus := by
    rw [hr.rescheduled.manager]
    exact hlast
  have happ₃ : d₃.appearance = d.appearance := hr.rescheduled.appearance.trans happ
  have hiff := (hc₁.resolved hr).shows_notified_iff hn
  rw [hlast₃, happ₃] at hiff
  rw [he]
  exact ⟨rfl, hiff⟩

end Daemon

/-! ### Runs -/

/-- Operations that leave it to the manager what is shown: all but those that replace the receiver
    or the files, and observed statuses, which are remembered without being applied. -/
def Operation.LeavesShowing : Operation → Prop
  | .install _ | .rewrite .. | .reconcile .. => False
  | _ => True

namespace Daemon

variable {lossy : Prop} {h : Hooks} {d d₁ : Daemon} {user : UserId}

/-- Every operation that leaves it to the manager what is shown, as `LeavesShowing` says, keeps the
    daemon `Connected`. -/
theorem Connected.perform (hl : h.Losing lossy) {op : Operation} (hop : op.LeavesShowing)
    (hc : Connected d) : Connected ((op.perform h).on d).2 := by
  cases op with
  | install receiver => exact hop.elim
  | load user notify => exact hc.settled (loadWith_on hl hc.cancels user _)
  | reevaluate user notify => exact hc.settled (reevaluate_on hl hc.cancels user notify)
  | switch user =>
    obtain ⟨d₁, d₂, he, hc₁, _, _, _, hset⟩ := hc.switch_on hl user
    show Connected ((switchUser h user).on d).2
    rw [he]
    exact hc₁.settled hset
  | put key value user => exact hc.put (putSetting_on hl hc.cancels key value user)
  | rewrite files order => exact hop.elim
  | fire request boundary => exact hc.fired (fireBoundary_on hl hc.cancels request boundary)
  | fireDue => exact hc.fireDue hl
  | resync => exact hc.resync hl
  | reconcile user dark => exact hop.elim
  | setClock nanos =>
    -- what is shown does not depend on the clock
    exact ⟨hc.faultless, hc.cancels, hc.sound.congr rfl rfl,
      hc.receiver, hc.applies.congr rfl (.refl _), hc.writable, hc.shown⟩
  | lose gone =>
    exact ⟨hc.faultless, hc.cancels, hc.sound.losing gone, hc.receiver,
      hc.applies.congr rfl (.refl _), hc.writable, hc.shown⟩

/-- A fresh daemon is connected once a receiver is installed that applies statuses. -/
theorem Fresh.connected (hd : Fresh d) (hf : d.settings.faults = {}) (hc : d.alarms.Cancels)
    (ha : d.CanApply) (hw : d.Writable) {r : Receiver} (hr : r.applies = true) :
    Connected ((install r).on d).2 := by
  obtain ⟨j, hj⟩ := install_on r d
  rw [hj]
  refine ⟨hf, hc, hd.soundTimers.congr rfl rfl, ⟨r, rfl, hr⟩,
    ha.congr rfl (.refl _), hw, fun user dark hknown => ?_⟩
  -- nothing is known of anybody yet
  have hknown : d.manager.lastStatus.get? user = some dark := hknown
  rw [hd.manager] at hknown
  contradiction

/-- **What a switch shows.** Let a receiver that applies statuses be installed in a fresh daemon
    where nothing fails, and let any operations follow. Then a switch to a user whose settings
    resolve to a status succeeds. The status is shown afterwards exactly if it is not the last one
    that the user had been given, or the color mode was already of that status. -/
theorem shows_of_switch_iff (hd : Fresh d) (hf : d.settings.faults = {}) (hc : d.alarms.Cancels)
    (ha : d.CanApply) (hw : d.Writable) {r : Receiver} (hr : r.applies = true)
    (ops : List Operation) (hops : ∀ op ∈ ops, op.LeavesShowing)
    (hrun : ((runAll .quiet (.install r :: ops)).on d).2 = d₁) {dark : Bool}
    (hs : (d₁.settings.decoded user).status? d₁.clock = some dark) :
    ((switchUser .quiet user).on d₁).1 = .ok () ∧
      (((switchUser .quiet user).on d₁).2.Shows dark ↔
        d₁.manager.lastStatus.get? user ≠ some dark ∨ d₁.appearance.mode = .fixed dark) := by
  have hstart := hd.connected hf hc ha hw hr
  have hlater : Connected ((runAll .quiet ops).on ((install r).on d).2).2 :=
    runAll_induction Operation.LeavesShowing
      (fun _ _ hop hc => hc.perform (Hooks.quiet_losing False) hop) ops hops hstart
  have hconnected : Connected d₁ := hrun ▸ hlater
  exact hconnected.shows_switch_iff (Hooks.quiet_losing False) hs

/-- User 100 always has it dark and user 101 always light; both become active. -/
def turns : List Operation :=
  [.put StateKey.mode.name "1" 100, .put StateKey.mode.name "0" 101, .switch 100, .switch 101]

/-- The daemon once both have been active, 101 the last. -/
def afterTurns : Daemon :=
  ((runAll .quiet (.install { applies := true, reports := false } :: turns)).on default).2

/-- `afterTurns`, a switch back to user 101 succeeds and the service still shows their status, as
    that of user 100 was never passed on. -/
theorem shows_of_switch_again :
    ((switchUser .quiet 101).on afterTurns).1 = .ok () ∧
      ((switchUser .quiet 101).on afterTurns).2.Shows false := by
  have hops : ∀ op ∈ turns, op.LeavesShowing := by simp [turns, Operation.LeavesShowing]
  have hrun : ((runAll .quiet (.install { applies := true, reports := false } :: turns)).on
      default).2 = afterTurns := by
    rw [afterTurns]
  have hstatus : (afterTurns.settings.decoded 101).status? afterTurns.clock = some false := by
    decide +kernel
  have happlies : (default : Daemon).CanApply :=
    ⟨rfl, rfl, rfl, rfl, rfl, fun _ hfile => nomatch hfile⟩
  obtain ⟨hok, hshows⟩ := shows_of_switch_iff ⟨rfl, rfl, fun _ => rfl⟩ rfl (fun _ => rfl) happlies
    (fun _ hfile => nomatch hfile) rfl turns hops hrun hstatus
  exact ⟨hok, hshows.2 (.inr (by decide +kernel))⟩

/-- When user 100 becomes active again, the light color mode of user 101 stays: dark is the last
    status that user 100 had been given. -/
theorem not_shows_of_return :
    (afterTurns.settings.decoded 100).status? afterTurns.clock = some true ∧
      ((switchUser .quiet 100).on afterTurns).1 = .ok () ∧
      ((switchUser .quiet 100).on afterTurns).2.Shows false ∧
      ¬ ((switchUser .quiet 100).on afterTurns).2.Shows true := by
  refine ⟨by decide +kernel, by decide +kernel, ?_, fun hshows => ?_⟩
  · exact ⟨by decide +kernel, by decide +kernel, by decide +kernel⟩
  · exact absurd hshows.mode (by decide +kernel)

end Daemon

end Twilight
