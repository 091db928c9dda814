import Twilight.Proofs.Daemon.Course
import Twilight.Proofs.SettingsFile

namespace Twilight

/-!
# What a status report foretells

* `TimerView.outline`, `DarkModeState.outline` — timers but for the numbers of their alarms, and
  those that a state comes to where nobody has any.
* `Daemon.settles_alone` — in a daemon without timers, a state settles to its own timers.
* `Daemon.Opens`, `Daemon.assemble_on`, `Daemon.opens_of_assemble` — a daemon is assembled exactly
  if its files can be opened.
* `Daemon.Described`, `Daemon.switchUser_of_fresh` — describing a user and activating one both come
  to the state that the store serves.
* `Daemon.foretells_of_assembled` — a report shows what every new daemon over the same settings
  comes to by activating the user, and leaves nothing behind.
-/

open Time

/-- What a view of timers says but for the numbers of the alarms: whose they are, their window, and
    which of the two are armed. -/
def TimerView.outline (v : TimerView) : UserId × Window × Pair Bool :=
  (v.user, v.window, ⟨v.alarms.start.isSome, v.alarms.finish.isSome⟩)

/-- The timers that a user's state comes to: those of its window, if that has next occurrences. -/
def DarkModeState.outline (state : DarkModeState) (zone : Zone) (now : Moment) (user : UserId) :
    List (UserId × Window × Pair Bool) :=
  match state.window? with
  | none => []
  | some w =>
    match w.occurrences zone now with
    | .ok _ => [(user, w, ⟨true, true⟩)]
    | .error _ => []

namespace Daemon

variable {lossy : Prop} {h : Hooks} {user : UserId} {config : Config} {d d₁ : Daemon}

/-! ### Settling without timers -/

/-- Where nobody has timers and all alarms can be armed, settling a state comes to that state and
    the timers that it asks for. -/
theorem settles_alone {state : DarkModeState} {policy : NotifyPolicy} (ht : d.timers = {})
    (ha : d.alarms.Arms) (hs : Settled lossy user state policy d d₁) :
    d₁.manager.states = d.manager.states.insert user state ∧
      d₁.timerViews.map TimerView.outline = state.outline d.zone d.clock user := by
  obtain ⟨d₀, hr, hc⟩ := hs
  have hstates : d₁.manager.states = d.manager.states.insert user state := by
    rw [hc.delivered.states, hr.rescheduled.manager]
    rfl
  refine ⟨hstates, ?_⟩
  unfold timerViews DarkModeState.outline
  rw [hc.delivered.timers]
  -- one case for each way to resolve a state; nobody else's timers are there to be kept
  cases hr with
  | unset mode logged =>
    have hnone : state.window? = none := by
      refine Option.eq_none_iff_forall_ne_some.2 fun w hw => ?_
      have hcustom := (DarkModeState.window?_eq_some.1 hw).1
      rw [mode] at hcustom
      cases hcustom
    have htimers : d₀.timers = {} := logged.delivered.timers.trans ht
    rw [hnone, htimers]
    rfl
  | cleared mode window cleared =>
    have htimers : d₀.timers = ({} : Table UserId TimerRecord).erase user := by
      rw [cleared.timers, ← ht]
      rfl
    rw [window, htimers]
    rfl
  | armed w triggers ids window occurrences rearmed =>
    have htimers : d₀.timers = ({} : Table UserId TimerRecord).insert user
        ⟨ids, w, (ScheduleRequest.mk user w).actions⟩ := by
      rw [rearmed.timers, ← ht]
      rfl
    have hoccurrences : w.occurrences d.zone d.clock = .ok triggers := occurrences
    obtain ⟨hstart, hfinish⟩ := rearmed.full ha
    rw [window, htimers]
    simp only [hoccurrences]
    show [(user, w, Pair.mk ids.start.isSome ids.finish.isSome)] = _
    rw [hstart, hfinish]
  | stuck w f window occurrences logged =>
    have htimers : d₀.timers = {} := logged.delivered.timers.trans ht
    have hoccurrences : w.occurrences d.zone d.clock = .error f := occurrences
    rw [window, htimers]
    simp only [hoccurrences]
    rfl

/-! ### Assembling -/

/-- The files that a configuration names can be opened: settings at `path` and parameters. -/
structure Opens (config : Config) (d : Daemon) (path : String) (r : SettingsTable.Reading)
    (parameters : Parameters) : Prop where
  located : config.settingsPath? d.environment = .ok path
  read : readSettings? d.files path = .ok r
  parameters : ∃ other, config.parametersPath? d.environment = .ok other ∧
    Parameters.open? d.files other = .ok parameters

/-- A daemon with what was opened, and nothing else. -/
def assembled (d : Daemon) (path : String) (r : SettingsTable.Reading) (parameters : Parameters) :
    Daemon :=
  { d.renewed with
    settings := { values := r.table, file := some path }
    appearance := { parameters := parameters } }

variable {path : String} {r : SettingsTable.Reading} {parameters : Parameters}

/-- Where the configured file can be read, `openConfiguredSettings` succeeds and takes its table
    over. -/
theorem openConfiguredSettings_on (hp : config.settingsPath? d.environment = .ok path)
    (hr : readSettings? d.files path = .ok r) :
    ∃ j, (openConfiguredSettings config).on d = (.ok (), { d with
      journal := j
      settings := { d.settings with values := r.table, file := some path } }) := by
  obtain ⟨j, he⟩ := openSettings_of_read hr
  refine ⟨j, ?_⟩
  unfold openConfiguredSettings
  rw [Act.on_get_bind, hp]
  simp only [Act.on_bind, he]
  rfl

/-- If `openConfiguredSettings` succeeds then there is a path, and its file could be read. -/
theorem located_of_openConfiguredSettings
    (hok : ((openConfiguredSettings config).on d).1 = .ok ()) :
    ∃ path r, config.settingsPath? d.environment = .ok path ∧
      readSettings? d.files path = .ok r := by
  unfold openConfiguredSettings at hok
  rw [Act.on_get_bind] at hok
  cases hp : config.settingsPath? d.environment with
  | error e =>
    rw [hp] at hok
    cases hok
  | ok path =>
    rw [hp] at hok
    cases ho : ((openSettings path).on d).1 with
    | error f =>
      simp only [Act.on_bind, ho] at hok
      cases hok
    | ok _ =>
      obtain ⟨r, hr⟩ := readSettings?_of_openSettings ho
      exact ⟨path, r, rfl, hr⟩

/-- Where the configured file can be opened, `openConfiguredParameters` succeeds and takes the
    parameters over. -/
theorem openConfiguredParameters_on {other : String}
    (hp : config.parametersPath? d.environment = .ok other)
    (ho : Parameters.open? d.files other = .ok parameters) :
    (openConfiguredParameters config).on d =
      (.ok (), { d with appearance := { d.appearance with parameters := parameters } }) := by
  unfold openConfiguredParameters openParameters
  rw [Act.on_get_bind, hp]
  simp only [Act.on_bind, Act.on_get, ho]
  rfl

/-- If `openConfiguredParameters` succeeds then there is a path, and its file could be opened. -/
theorem located_of_openConfiguredParameters
    (hok : ((openConfiguredParameters config).on d).1 = .ok ()) :
    ∃ other parameters, config.parametersPath? d.environment = .ok other ∧
      Parameters.open? d.files other = .ok parameters := by
  unfold openConfiguredParameters openParameters at hok
  rw [Act.on_get_bind] at hok
  cases hp : config.parametersPath? d.environment with
  | error e =>
    rw [hp] at hok
    cases hok
  | ok other =>
    rw [hp] at hok
    cases ho : Parameters.open? d.files other with
    | error f =>
      simp only [Act.on_bind, Act.on_get, ho, Act.on_pure] at hok
      cases hok
    | ok parameters => exact ⟨other, parameters, rfl, ho⟩

/-- Where both files can be opened, `assemble` succeeds, and makes a daemon `assembled` of them. -/
theorem assemble_on (ho : Opens config d path r parameters) :
    ∃ j, (assemble config).on d =
      (.ok (), { d.assembled path r parameters with journal := j }) := by
  obtain ⟨j, hj⟩ := Act.logs_debug "Creating timer manager for DarkColorMode" d.renewed
  obtain ⟨j₁, hsettings⟩ :
      ∃ j₁, (openConfiguredSettings config).on { d.renewed with journal := j } = _ :=
    openConfiguredSettings_on ho.located ho.read
  obtain ⟨other, hother, hopen⟩ := ho.parameters
  refine ⟨j₁, ?_⟩
  unfold assemble createTimers
  simp only [Act.on_bind, Act.on_modify, hj, hsettings]
  exact openConfiguredParameters_on hother hopen

/-- `assemble` succeeds only if both files could be opened, as `Opens` says. -/
theorem opens_of_assemble (hok : ((assemble config).on d).1 = .ok ()) :
    ∃ path r parameters, Opens config d path r parameters := by
  obtain ⟨j, hj⟩ := Act.logs_debug "Creating timer manager for DarkColorMode" d.renewed
  unfold assemble createTimers at hok
  simp only [Act.on_bind, Act.on_modify, hj] at hok
  cases hs : ((openConfiguredSettings config).on { d.renewed with journal := j }).1 with
  | error e =>
    simp only [hs, Act.on_pure] at hok
    cases hok
  | ok _ =>
    obtain ⟨path, r, hlocated, hread⟩ := located_of_openConfiguredSettings hs
    obtain ⟨j₁, he⟩ := openConfiguredSettings_on hlocated hread
    simp only [he] at hok
    obtain ⟨other, parameters, hother, hopen⟩ := located_of_openConfiguredParameters hok
    exact ⟨path, r, parameters, hlocated, hread, other, hother, hopen⟩

/-! ### Describing a user -/

theorem dump_on (d : Daemon) : ∃ j, dump.on d = (d.snapshot, { d with journal := j }) := ⟨_, rfl⟩

/-- Under the policy `never` a conclusion is only logged. -/
theorem Concluded.logged_of_never {dark? : Option Bool}
    (hc : Concluded dark? user .never d d₁) : Logged d d₁ := by
  cases dark? with
  | none => exact hc
  | some dark =>
    cases hc with
    | told passes _ => simp [NotifyPolicy.passes] at passes
    | silent _ logged => exact logged

/-- The end of a report: the snapshot, before all timers are cleared. -/
def dumpAndClear : Act (Except StartError Snapshot) := do
  let snapshot ← dump
  match ← clearAllTimers .quiet with
  | .ok _ => pure (.ok snapshot)
  | .error f => pure (.error (.fault f))

/-- As long as cancelling works, `dumpAndClear` answers the snapshot of before, and leaves no alarm
    pending. -/
theorem dumpAndClear_on (hs : SoundTimers d) (hc : d.alarms.Cancels) :
    ∃ d₁, dumpAndClear.on d = (.ok d.snapshot, d₁) ∧ d₁.files = d.files ∧
      ∀ i, d₁.pending? i = none := by
  obtain ⟨j, hj⟩ := dump_on d
  have hlogged : SoundTimers { d with journal := j } := hs.congr rfl rfl
  obtain ⟨d₁, he, hcancelled⟩ := clearAllTimers_on (d := { d with journal := j })
    (Hooks.quiet_losing False) hc
  refine ⟨d₁, ?_, hcancelled.rescheduled.files, hlogged.pending?_of_all_cancelled hcancelled⟩
  unfold dumpAndClear
  simp only [Act.on_bind, hj, he]
  rfl

/-- `load` without a notification touches no file. -/
theorem files_load (hc : d.alarms.Cancels) (user : UserId) :
    ((load .quiet user false).on d).2.files = d.files := by
  obtain ⟨d₀, hresolved, hconcluded⟩ := loadWith_on (Hooks.quiet_losing False) hc user .never
  exact hconcluded.logged_of_never.rescheduled.files.trans hresolved.rescheduled.files

/-- A snapshot shows the state that the store of `d` serves of a user, with the timers that it asks
    for. In `d₁`, nothing is left of them. -/
structure Described (user : UserId) (d : Daemon) (snapshot : Snapshot) (d₁ : Daemon) : Prop where
  states : snapshot.states = d.manager.states.insert user (d.settings.decoded user)
  timers : snapshot.timers.map TimerView.outline =
    (d.settings.decoded user).outline d.zone d.clock user
  files : d₁.files = d.files
  pending : ∀ i, d₁.pending? i = none

/-- After a user was loaded by a daemon without timers, `dumpAndClear` shows them as `Described`. -/
theorem describeLoaded_on (ht : d.timers = {}) (hs : SoundTimers d) (hc : d.alarms.Cancels)
    (ha : d.alarms.Arms) (user : UserId) {loaded : Daemon}
    (hloaded : Logged ((load .quiet user false).on d).2 loaded) :
    ∃ snapshot d₁, dumpAndClear.on loaded = (.ok snapshot, d₁) ∧
      Described user d snapshot d₁ := by
  have hsettled := (loadWith_on (Hooks.quiet_losing False) hc user .never).logged hloaded
  have hcourse := Course.settled hsettled
  obtain ⟨hstates, htimers⟩ := settles_alone ht ha hsettled
  obtain ⟨d₁, he, hfiles, hnone⟩ :=
    dumpAndClear_on (hcourse.soundTimers hs) (hcourse.plans.cancels hc)
  refine ⟨_, d₁, he, hstates, htimers, ?_, hnone⟩
  rw [hfiles, hloaded.rescheduled.files, files_load hc user]

/-- `describeUser` answers a snapshot in which the user is `Described`, and leaves no alarm pending.
    -/
theorem describeUser_on (ht : d.timers = {}) (hs : SoundTimers d) (hc : d.alarms.Cancels)
    (ha : d.alarms.Arms) (user : UserId) :
    ∃ snapshot d₁, (describeUser user).on d = (.ok snapshot, d₁) ∧
      Described user d snapshot d₁ := by
  obtain ⟨j, hinstalled⟩ := install_on ⟨false, false⟩ d
  have hloaded : ∀ loaded,
      Logged
        ((load .quiet user false).on { d.withReceiver ⟨false, false⟩ with journal := j }).2 loaded →
      ∃ snapshot d₁, dumpAndClear.on loaded = (.ok snapshot, d₁) ∧
        Described user d snapshot d₁ := by
    intro loaded hl
    obtain ⟨snapshot, d₁, he, hd⟩ := describeLoaded_on
      (d := { d.withReceiver ⟨false, false⟩ with journal := j }) ht (hs.congr rfl rfl) hc ha user hl
    exact ⟨snapshot, d₁, he, hd.states, hd.timers, hd.files, hd.pending⟩
  unfold describeUser
  simp only [Act.on_bind, hinstalled]
  -- a user who does not resolve gets one more line
  cases ((load .quiet user false).on { d.withReceiver ⟨false, false⟩ with journal := j }).1 with
  | ok _ => exact hloaded _ (.refl _)
  | error f => exact hloaded _ (Act.logs_debug _ _)

/-! ### Activating a user -/

/-- A new daemon comes to the state that the store serves, with the timers that it asks for, when a
    user becomes active. -/
theorem switchUser_of_fresh (hl : h.Losing lossy) (hd : Fresh d) (hf : d.settings.faults = {})
    (hc : d.alarms.Cancels) (ha : d.alarms.Arms) (receiver : Receiver) (user : UserId) :
    ∃ d₁, (switchUser h user).on ((install receiver).on d).2 = (.ok (), d₁) ∧
      d₁.manager.states = d.manager.states.insert user (d.settings.decoded user) ∧
      d₁.timerViews.map TimerView.outline =
        (d.settings.decoded user).outline d.zone d.clock user := by
  obtain ⟨j, hinstalled⟩ := install_on receiver d
  have hreceiver : (d.withReceiver receiver).manager.receiver ≠ none := Option.some_ne_none _
  obtain ⟨d₀, d₁, d₂, he, hobserved, -, hfaults, -, -, hretired, hsettled⟩ :=
    switchUser_of_faultless (d := { d.withReceiver receiver with journal := j }) hl hc user hf
      hreceiver
  have hnobody : (d.withReceiver receiver).manager.active = noUser := by
    show d.manager.active = noUser
    rw [hd.manager]
  -- nobody was active, so nobody is forgotten
  obtain rfl : d₁ = d₀ := by
    cases hretired with
    | nobody _ same => exact same
    | forgotten somebody _ => exact absurd hnobody somebody
  rw [hobserved.decoded hf hfaults] at hsettled
  obtain ⟨hstates, htimers⟩ := settles_alone (hobserved.timers.trans hd.timers)
    (by rw [hobserved.alarms]; exact ha) hsettled
  rw [hobserved.states] at hstates
  rw [hobserved.zone, hobserved.clock] at htimers
  rw [hinstalled]
  exact ⟨d₂, he, hstates, htimers⟩

/-! ### What a report foretells -/

/-- A new daemon over the settings file that a configuration names, at the same place and time.
    Nothing about its store and its alarms fails. -/
structure NewOver (config : Config) (d new : Daemon) : Prop where
  fresh : Fresh new
  faultless : new.settings.faults = {}
  cancels : new.alarms.Cancels
  arms : new.alarms.Arms
  zone : new.zone = d.zone
  clock : new.clock = d.clock
  values : ∃ path ignored, config.settingsPath? d.environment = .ok path ∧
    readSettings? d.files path = .ok ⟨new.settings.values, ignored⟩

theorem NewOver.assembled (ho : Opens config d path r parameters) (j : Log.Journal) :
    NewOver config d { d.assembled path r parameters with journal := j } where
  fresh := ⟨rfl, rfl, fun _ => rfl⟩
  faultless := rfl
  cancels _ := rfl
  arms _ := rfl
  zone := rfl
  clock := rfl
  values := ⟨path, r.ignored, ho.located, ho.read⟩

/-- What a store without faults serves depends on its values only. -/
theorem decoded_congr {s t : SettingsStore} (hs : s.faults = {}) (ht : t.faults = {})
    (hv : s.values = t.values) (user : UserId) : s.decoded user = t.decoded user :=
  DarkModeState.ext_part fun _ => SettingsStore.decoded_part_congr hs ht (by rw [hv])

/-- Where the files of a configuration can be opened, a status report is given. It shows the states
    and the timers, but for the numbers of the alarms, that any new daemon over the settings file
    has once it made the configured user active, whatever receives its statuses. Nothing is left of
    the report but log lines: no file is touched, and no alarm stays pending. -/
theorem foretells_of_assembled (hok : ((assemble config).on d).1 = .ok ()) :
    ∃ snapshot d₁, (statusOf config).on d = (.ok snapshot, d₁) ∧ Logged d d₁ ∧
      (∀ i, ((describeUser config.user).on ((assemble config).on d).2).2.pending? i = none) ∧
      ∀ h receiver new, h.Losing lossy → NewOver config d new →
        ∃ active, (switchUser h config.user).on ((install receiver).on new).2 = (.ok (), active) ∧
          (dump.on active).1.states = snapshot.states ∧
          (dump.on active).1.timers.map TimerView.outline =
            snapshot.timers.map TimerView.outline := by
  obtain ⟨path, r, parameters, ho⟩ := opens_of_assemble hok
  obtain ⟨j, he⟩ := assemble_on ho
  -- the daemon of the report is itself a new one over the settings file
  have hassembled := NewOver.assembled ho j
  obtain ⟨snapshot, d₁, he₁, hdescribed⟩ :=
    describeUser_on hassembled.fresh.timers hassembled.fresh.soundTimers hassembled.cancels
      hassembled.arms config.user
  refine ⟨snapshot, { d with journal := d₁.journal }, ?_, ⟨_, rfl⟩, ?_,
    fun h receiver new hl hnew => ?_⟩
  · unfold statusOf
    rw [Act.on_get_bind]
    simp only [Act.on_bind, he, he₁, Act.on_modify, Act.on_pure, hdescribed.files]
    rfl
  · rw [he, he₁]
    exact hdescribed.pending
  · -- both stores were read from one file, so they serve the same state
    obtain ⟨path', ignored, hlocated, hread⟩ := hnew.values
    obtain rfl : path = path' := Except.ok.inj (ho.located.symm.trans hlocated)
    have hr : r = ⟨new.settings.values, ignored⟩ := Except.ok.inj (ho.read.symm.trans hread)
    have hdecoded := decoded_congr hnew.faultless hassembled.faultless (by rw [hr]; rfl) config.user
    obtain ⟨active, hswitched, hactive, hviews⟩ := switchUser_of_fresh hl hnew.fresh hnew.faultless
      hnew.cancels hnew.arms receiver config.user
    refine ⟨active, hswitched, ?_, ?_⟩
    · show active.manager.states = snapshot.states
      rw [hactive, hdescribed.states, hdecoded, hnew.fresh.manager, hassembled.fresh.manager]
    · show active.timerViews.map TimerView.outline = _
      rw [hviews, hdescribed.timers, hdecoded, hnew.zone, hnew.clock]
      rfl

/-- A window over midnight, and the mode that follows it. -/
def nightSettings : SettingsTable :=
  ((SettingsTable.put {} StateKey.mode.name "2" 100).put StateKey.start.name "1320" 100).put
    StateKey.finish.name "360" 100

def nightConfig : Config where
  settingsPath := some "/s.toml"
  parametersPath := some "/p.toml"
  userId := some 100

/-- Somebody wrote these settings; the parameters have no file. -/
def nightStored : Daemon where
  clock := default
  processes := default
  files := (FileSystem.replace {} "/s.toml" nightSettings.write).2

theorem opens_nightStored :
    Opens nightConfig nightStored "/s.toml" ⟨nightSettings, []⟩ { file := some "/p.toml" } where
  located := rfl
  read := by
    have hnumbered : nightSettings.Numbered :=
      ((SettingsTable.Numbered.put (fun _ _ h => by cases h) ⟨by decide, by decide⟩ _ "2").put
        ⟨by decide, by decide⟩ _ "1320").put ⟨by decide, by decide⟩ _ "360"
    have hwritten : FileSystem.replace {} "/s.toml" nightSettings.write =
        (.ok (), nightStored.files) :=
      rfl
    exact readSettings?_of_replace hnumbered hwritten
  parameters := ⟨"/p.toml", rfl, rfl⟩

/-- The report shows what the daemon does that is assembled over the same files. -/
theorem foretells_of_night :
    ∃ snapshot d₁ active, (statusOf nightConfig).on nightStored = (.ok snapshot, d₁) ∧
      (switchUser .quiet 100).on
          ((install ⟨true, false⟩).on ((assemble nightConfig).on nightStored).2).2 =
        (.ok (), active) ∧
      (dump.on active).1.states = snapshot.states ∧
      (dump.on active).1.timers.map TimerView.outline = snapshot.timers.map TimerView.outline := by
  obtain ⟨j, he⟩ := assemble_on opens_nightStored
  have hok : ((assemble nightConfig).on nightStored).1 = .ok () := by rw [he]
  obtain ⟨snapshot, d₁, hstatus, -, -, hforetold⟩ := foretells_of_assembled hok
  obtain ⟨active, hactive, hstates, htimers⟩ := hforetold .quiet ⟨true, false⟩ _
    (Hooks.quiet_losing False) (NewOver.assembled opens_nightStored j)
  refine ⟨snapshot, d₁, active, hstatus, ?_, hstates, htimers⟩
  rw [he]
  exact hactive

end Daemon

end Twilight
