import Mathlib.Data.Option.Basic
import Twilight.Proofs.Blindness
import Twilight.Proofs.Daemon.Watch

namespace Twilight

/-!
# The last status of a user

The manager keeps the last status that is known of every user, so as not to report it again.

* `latest` — the last status of a user among statuses of all users.
* `Daemon.Books`, `Daemon.frame_books` — statuses are reported, and the last one of every user is
  known then. Operations do no more, but for a status that they are told.
* `Daemon.switchUser_news`, `Daemon.resync_news` — what a switch and a resync report: a status, if
  there is one and another one is known.
* `Occasion`, `Daemon.history` — an operation, before which anything but the manager may change; the
  statuses that a run of them makes known.
* `Daemon.Reporting.afterAll` — what is known after a run is the last of them.
* `Daemon.booked_of_run` — so it is from the installation of a receiver on, and nothing is reported
  twice.
-/

/-- The last status of a user, the statuses being given with the last one first. -/
def latest (statuses : List (Bool × UserId)) (user : UserId) : Option Bool :=
  (statuses.find? fun status => status.2 = user).map Prod.fst

/-- The last status of a user is the first one in the list that is theirs, so one more in front
    counts if it is. -/
theorem latest_cons (dark : Bool) (other : UserId) (statuses : List (Bool × UserId))
    (user : UserId) :
    latest ((dark, other) :: statuses) user =
      if user = other then some dark else latest statuses user := by
  unfold latest
  by_cases hu : user = other
  · simp [hu]
  · simp [hu, Ne.symm hu]

/-- The last status of a user among some and earlier ones is that among the former, or else that
    among the earlier ones. -/
theorem latest_append (statuses earlier : List (Bool × UserId)) (user : UserId) :
    latest (statuses ++ earlier) user = (latest statuses user).or (latest earlier user) := by
  unfold latest
  rw [List.find?_append]
  cases statuses.find? fun status => decide (status.2 = user) with
  | none => rfl
  | some status => rfl

/-- What a status comes to when it is reported unless it is the last one known. -/
def news (dark? : Option Bool) (last : Option Bool) (user : UserId) : List (Bool × UserId) :=
  match dark? with
  | some dark => if last = some dark then [] else [(dark, user)]
  | none => []

/-- A status that is known already is no news. -/
theorem news_self (dark : Bool) (user : UserId) : news (some dark) (some dark) user = [] :=
  if_pos rfl

/-- A status other than the last one known is news, and it is the only one. -/
theorem news_of_ne {dark : Bool} {last : Option Bool} (hl : last ≠ some dark) (user : UserId) :
    news (some dark) last user = [(dark, user)] := if_neg hl

namespace Daemon

variable {lossy : Prop} {h : Hooks} {d d₁ d₂ : Daemon} {user : UserId}

/-! ### Books -/

/-- Statuses were reported, and of every user the last one of them is known. -/
def Books (d d₁ : Daemon) : Prop :=
  d.Reporting → d₁.Reporting ∧ ∃ reported, d₁.updates = reported ++ d.updates ∧
    ∀ user, d₁.manager.lastStatus.get? user =
      (latest reported user).or (d.manager.lastStatus.get? user)

/-- Where receiver, updates and last statuses stay the same nothing was reported, so `Books` holds
    with an empty list. -/
theorem books_of_same (hr : d₁.manager.receiver = d.manager.receiver)
    (hu : d₁.updates = d.updates) (hl : d₁.manager.lastStatus = d.manager.lastStatus) :
    Books d d₁ := by
  rintro ⟨r, hrec, hreports⟩
  refine ⟨⟨r, hr.trans hrec, hreports⟩, [], hu, fun user => ?_⟩
  rw [hl]
  rfl

/-- What is reported in two stretches that keep `Books` is reported in both together, and the later
    reports win. -/
theorem Books.trans (h₁ : Books d d₁) (h₂ : Books d₁ d₂) : Books d d₂ := by
  intro hrep
  obtain ⟨hrep₁, reported₁, hup₁, hlast₁⟩ := h₁ hrep
  obtain ⟨hrep₂, reported₂, hup₂, hlast₂⟩ := h₂ hrep₁
  refine ⟨hrep₂, reported₂ ++ reported₁, ?_, fun user => ?_⟩
  · rw [hup₂, hup₁, List.append_assoc]
  · rw [hlast₂, hlast₁, latest_append, Option.or_assoc]

/-- A status that was told, as `Told` says, is remembered and reported together, so it keeps
    `Books`. -/
theorem Told.books {dark : Bool} (ht : Told dark user d d₁) : Books d d₁ := by
  rintro ⟨r, hrec, hreports⟩
  refine ⟨⟨r, ht.delivered.receiver.trans hrec, hreports⟩, [(dark, user)],
    ht.reported r hrec hreports, fun other => ?_⟩
  rw [ht.lastStatus, Table.get?_insert, latest_cons]
  by_cases ho : other = user
  · rw [if_pos ho, if_pos ho]
    rfl
  · rw [if_neg ho, if_neg ho]
    rfl

/-- `Books` is a `Frame`: it is preserved by whatever else an operation does, so that it holds of
    whole operations. -/
theorem frame_books : Frame Books where
  trans h₁ h₂ := h₁.trans h₂
  rescheduled hr := by
    obtain ⟨_, _, _, rfl⟩ := hr
    exact books_of_same rfl rfl rfl
  notified hn := by
    cases hn with
    | told _ told => exact told.books
    | silent _ logged =>
      obtain ⟨_, rfl⟩ := logged
      exact books_of_same rfl rfl rfl
  elsewhere he := by
    obtain ⟨_, _, _, _, _, _, rfl⟩ := he
    exact books_of_same rfl rfl rfl

/-- Exchanging observers touches neither what is known of users nor what is reported. -/
theorem Observed.books (ho : Observed d d₁) : Books d d₁ := by
  obtain ⟨_, _, _, _, _, rfl⟩ := ho
  exact books_of_same rfl rfl rfl

/-- A switch to a user keeps `Books`, at whatever stage it ends. -/
theorem books_switchUser (hl : h.Losing lossy) (user : UserId) (d : Daemon) :
    Books d ((switchUser h user).on d).2 := by
  by_cases hs : d.CanSwitch
  · obtain ⟨b, j, hafter, -⟩ := switchUser_of_canSwitch frame_books hl hs user
    have hready : Books d { d with
        settings := { d.settings with faults := { d.settings.faults with ready := b } }
        journal := j } := books_of_same rfl rfl rfl
    obtain ⟨n, d₀, he, hobs, -⟩ := exchangeObservers_on user { d with
        settings := { d.settings with faults := { d.settings.faults with ready := b } }
        journal := j }
    rw [he] at hafter
    exact (hready.trans hobs.books).trans hafter
  · obtain ⟨f, b, j, -, he⟩ := switchUser_of_not_canSwitch (h := h) hs user
    rw [he]
    exact books_of_same rfl rfl rfl

/-! ### Switching and resyncing -/

/-- A status that is notified if it is another one is reported exactly then, and the one that is
    kept afterwards. -/
theorem Concluded.news {dark? : Option Bool} (hrep : d.Reporting)
    (hc : Concluded dark? user .onChange d d₁) :
    d₁.updates = news dark? (d.manager.lastStatus.get? user) user ++ d.updates ∧
      d₁.manager.lastStatus.get? user = dark?.or (d.manager.lastStatus.get? user) := by
  obtain ⟨r, hrec, hreports⟩ := hrep
  cases dark? with
  | none =>
    obtain ⟨_, rfl⟩ := (hc : Logged d d₁)
    exact ⟨rfl, rfl⟩
  | some dark =>
    rcases (hc : Notified dark user .onChange d d₁) with ⟨hpasses, htold⟩ | ⟨hpasses, _, rfl⟩
    · -- `onChange` let the status through, so another one was known
      have hother : d.manager.lastStatus.get? user ≠ some dark :=
        (hpasses.resolve_left (by decide)).2
      refine ⟨?_, ?_⟩
      · rw [htold.reported r hrec hreports, news_of_ne hother]
        rfl
      · rw [htold.lastStatus, Table.get?_insert_self]
        rfl
    · -- it was kept silent about, so it was known already
      have hsame : d.manager.lastStatus.get? user = some dark :=
        not_not.1 fun hother => hpasses (.inr ⟨rfl, hother⟩)
      refine ⟨?_, hsame⟩
      rw [hsame, news_self]
      rfl

/-- A user's state is loaded: it is set to what the store serves, and its status is treated as the
    policy asks. -/
theorem loadWith_concluded (user : UserId) (policy : NotifyPolicy) (d : Daemon) :
    ∃ d₀, Rescheduled (d.withState user (d.settings.decoded user)) d₀ ∧
      Concluded ((d.settings.decoded user).status? d.clock) user policy d₀
        ((loadWith .quiet user policy).on d).2 := by
  have hl : Hooks.quiet.Losing True := Hooks.quiet_losing True
  obtain ⟨_, hread, j, rfl⟩ := readState_on user d
  generalize d.settings.decoded user = state at hread ⊢
  obtain ⟨j₁, hj₁⟩ := Act.logs_info
    (s!"Loaded settings for user {user}: {state.mode.name}, window " ++ state.window.text)
    (({ d with journal := j } : Daemon).withState user state)
  have hdark := dark?_resolve user state
    ({ ({ d with journal := j } : Daemon).withState user state with journal := j₁ } : Daemon)
  have hres := reschedules_resolve hl user state
    ({ ({ d with journal := j } : Daemon).withState user state with journal := j₁ } : Daemon)
  generalize hresolved : (resolve .quiet user state).on _ = resolved at hdark hres
  -- the status is settled here, whatever becomes of the timers
  obtain ⟨resolution, d₀⟩ := resolved
  obtain ⟨d₁, hfinish, hc⟩ := finish_on hl.run user resolution policy d₀
  refine ⟨d₀, ?_, ?_⟩
  · exact Rescheduled.trans ⟨_, _, j₁, rfl⟩ hres
  · have he : (loadWith .quiet user policy).on d = (resolution.result, d₁) := by
      unfold loadWith takeState
      simp only [Act.on_bind, hread, setState_on, hj₁, hresolved, hfinish]
    rw [he]
    rw [hdark] at hc
    exact hc

/-- What the store serves, the clock, and what is known and reported are as before. -/
structure SameReading (d d₁ : Daemon) : Prop where
  decoded : ∀ user, d₁.settings.decoded user = d.settings.decoded user
  clock : d₁.clock = d.clock
  receiver : d₁.manager.receiver = d.manager.receiver
  lastStatus : d₁.manager.lastStatus = d.manager.lastStatus
  updates : d₁.updates = d.updates

/-- What is served, known and reported stays the same over two stretches if it does over each. -/
theorem SameReading.trans (h₁ : SameReading d d₁) (h₂ : SameReading d₁ d₂) : SameReading d d₂ where
  decoded user := (h₂.decoded user).trans (h₁.decoded user)
  clock := h₂.clock.trans h₁.clock
  receiver := h₂.receiver.trans h₁.receiver
  lastStatus := h₂.lastStatus.trans h₁.lastStatus
  updates := h₂.updates.trans h₁.updates

/-- Timers, alarms and lines of the journal are no part of what `SameReading` compares. -/
theorem Rescheduled.sameReading (hr : Rescheduled d d₁) : SameReading d d₁ := by
  obtain ⟨_, _, _, rfl⟩ := hr
  exact ⟨fun _ => rfl, rfl, rfl, rfl, rfl⟩

/-- Retiring a user by `retire` drops their state and timers, and leaves what is served and known of
    everybody. -/
theorem sameReading_retire (hl : h.Losing lossy) (user : UserId) (d : Daemon) :
    SameReading d ((retire h user).on d).2 := by
  unfold retire
  by_cases hu : user ≠ noUser
  · rw [if_pos hu]
    have hforgotten : SameReading d (d.withoutState user) := ⟨fun _ => rfl, rfl, rfl, rfl, rfl⟩
    exact hforgotten.trans (reschedules_dropTimers hl user (d.withoutState user)).sameReading
  · rw [if_neg hu]
    exact ⟨fun _ => rfl, rfl, rfl, rfl, rfl⟩

/-- A switch that succeeds loads the user it is for, and nothing else in it is told to anybody. -/
theorem switchUser_of_ok (hl : h.Losing lossy) (hok : ((switchUser h user).on d).1 = .ok ()) :
    ∃ d₀, SameReading d d₀ ∧ ((switchUser h user).on d).2 = ((activate h user).on d₀).2 := by
  by_cases hs : d.CanSwitch
  · obtain ⟨b, j, previous, n, d₁, hexchange, he⟩ := switchUser_stages (h := h) hs user
    obtain ⟨_, d₂, hexchange', hobs, -, hfaults, -⟩ := exchangeObservers_on user { d with
      settings := { d.settings with faults := { d.settings.faults with ready := b } }
      journal := j }
    obtain rfl : d₁ = d₂ := (Prod.mk.inj (hexchange.symm.trans hexchange')).2
    -- what the exchange changed is spelled out, so that no reading of it is lost
    obtain ⟨o, f, a, registered, j₁, rfl⟩ := hobs
    obtain rfl : f = { d.settings.faults with ready := b } := hfaults
    have hretire := sameReading_retire hl previous ({ d with
      settings := { d.settings with
        observers := o, faults := { d.settings.faults with ready := b } }
      manager := { d.manager with active := a, allRegistered := registered }
      journal := j₁ } : Daemon)
    rw [he] at hok ⊢
    by_cases hn : n ≠ 0
    · -- an observer was refused, and the switch failed
      rw [if_pos hn] at hok
      cases hok
    · rw [if_neg hn]
      refine ⟨_, SameReading.trans ?_ hretire, rfl⟩
      exact ⟨fun _ => rfl, rfl, rfl, rfl, rfl⟩
  · obtain ⟨f, b, j, -, he⟩ := switchUser_of_not_canSwitch (h := h) hs user
    rw [he] at hok
    cases hok

/-- Activating a user by `activate` takes the state that the store serves, and its status is
    notified if it is another one than the last. -/
theorem activate_concluded (user : UserId) (d : Daemon) :
    ∃ d₀, Rescheduled (d.withState user (d.settings.decoded user)) d₀ ∧
      Concluded ((d.settings.decoded user).status? d.clock) user .onChange d₀
        ((activate .quiet user).on d).2 := by
  obtain ⟨j, hj⟩ := Act.logs_info s!"Active user is now {user}" d
  obtain ⟨d₀, hr, hc⟩ := loadWith_concluded user .onChange { d with journal := j }
  refine ⟨d₀, Rescheduled.trans ⟨_, _, j, rfl⟩ hr, ?_⟩
  unfold activate
  simp only [Act.on_bind, hj]
  exact hc.logged (logs_reportLoaded user _ _)

/-- A switch that succeeds reports the status that the user's settings resolve to if it is another
    one than is known, and nothing else. -/
theorem switchUser_news (hrep : d.Reporting) (hok : ((switchUser .quiet user).on d).1 = .ok ()) :
    ((switchUser .quiet user).on d).2.updates =
        news ((d.settings.decoded user).status? d.clock) (d.manager.lastStatus.get? user) user ++
          d.updates ∧
      ((switchUser .quiet user).on d).2.manager.lastStatus.get? user =
        ((d.settings.decoded user).status? d.clock).or (d.manager.lastStatus.get? user) := by
  obtain ⟨d₀, hsame, he⟩ := switchUser_of_ok (Hooks.quiet_losing True) hok
  obtain ⟨d₁, hr, hc⟩ := activate_concluded user d₀
  have hread : SameReading d d₁ := by
    have hset : SameReading d₀ (d₀.withState user (d₀.settings.decoded user)) :=
      ⟨fun _ => rfl, rfl, rfl, rfl, rfl⟩
    exact hsame.trans (hset.trans hr.sameReading)
  have hrep₁ : d₁.Reporting := by
    unfold Reporting
    rw [hread.receiver]
    exact hrep
  have hnews := hc.news hrep₁
  rw [he, ← hsame.decoded, ← hsame.clock, ← hread.lastStatus, ← hread.updates]
  exact hnews

/-- What the clock says about the active user, if their state is a window. -/
def clockStatus? (d : Daemon) : Option Bool :=
  if d.manager.active = noUser then none
  else ((d.manager.states.get? d.manager.active).bind DarkModeState.window?).map
    fun w => w.containsMoment d.clock

/-- What `activeWindowStatus?` answers is the status that the clock gives the active user's window,
    as `clockStatus?` has it. -/
theorem activeWindowStatus?_eq (d : Daemon) : d.activeWindowStatus? = d.clockStatus? := by
  unfold activeWindowStatus? clockStatus? liveRequest?
  by_cases ha : d.manager.active = noUser
  · rw [if_pos ha, if_pos ha]
  · rw [if_neg ha, if_neg ha]
    cases d.manager.states.get? d.manager.active with
    | none => rfl
    | some state =>
      by_cases hm : state.mode = .customWindow
      · by_cases hv : state.window.valid = true
        · simp [DarkModeState.request?, DarkModeState.window?, hm, hv]
        · simp [DarkModeState.request?, DarkModeState.window?, hm, hv]
      · simp [DarkModeState.request?, DarkModeState.window?, hm]

/-- A resync reports what the clock says about the active user's window if it is another status than
    is known, and nothing else. -/
theorem resync_news (hrep : d.Reporting) :
    ((resync .quiet).on d).2.updates =
        news d.clockStatus? (d.manager.lastStatus.get? d.manager.active) d.manager.active ++
          d.updates ∧
      ((resync .quiet).on d).2.manager.lastStatus.get? d.manager.active =
        d.clockStatus?.or (d.manager.lastStatus.get? d.manager.active) := by
  have hl : Hooks.quiet.Losing True := Hooks.quiet_losing True
  obtain ⟨d₀, hlog, hc⟩ := resync_restartAll hl d
  have hr := (reschedules_restartAll hl d).trans hlog.rescheduled
  have hstatus : d₀.activeWindowStatus? = d.clockStatus? := by
    rw [activeWindowStatus?_eq]
    unfold clockStatus?
    rw [hr.manager, hr.clock]
  have hrep₀ : d₀.Reporting := by
    unfold Reporting
    rw [hr.manager]
    exact hrep
  rw [hstatus, hr.manager] at hc
  have hnews := hc.news hrep₀
  rw [hr.manager, hr.updates] at hnews
  exact hnews

end Daemon

/-! ### Histories -/

open Daemon

/-- An operation, and what happens before it: anything may change then but the manager, so that
    calls on the store and on the alarm service fail in any way. -/
structure Occasion where
  meanwhile : Daemon → Daemon := id
  manager : ∀ d, (meanwhile d).manager = d.manager
  operation : Operation

namespace Occasion

/-- A receiver that is installed reports what it is given. -/
def Sensible (o : Occasion) : Prop := ∀ r, o.operation = .install r → r.reports = true

/-- An occasion that installs no receiver is `Sensible`. -/
theorem sensible_of_operation {o : Occasion} {op : Operation} (ho : o.operation = op)
    (hop : ∀ r, op ≠ .install r) : o.Sensible := fun r hr => absurd (ho.symm.trans hr) (hop r)

/-- The daemon as the operation finds it. Reports are counted from there on. -/
def before (o : Occasion) (d : Daemon) : Daemon := { o.meanwhile d with updates := [] }

/-- The daemon once the operation was performed. -/
def after (o : Occasion) (d : Daemon) : Daemon := ((o.operation.perform .quiet).on (o.before d)).2

end Occasion

/-- The status that the operation is told of, if it takes it over. -/
def Operation.learned (op : Operation) (d : Daemon) : List (Bool × UserId) :=
  match op with
  | .reconcile user dark =>
    match ((Daemon.reconcile .quiet user dark).on d).1 with
    | .ok _ => [(dark, user)]
    | .error _ => []
  | _ => []

namespace Daemon

variable {d : Daemon} {o : Occasion}

/-- The daemon once everything was performed, in order. -/
def afterAll (d : Daemon) (os : List Occasion) : Daemon := os.foldl (fun d o => o.after d) d

/-- The statuses that were reported, or told and taken over, the last one first. -/
def history (d : Daemon) : List Occasion → List (Bool × UserId)
  | [] => []
  | o :: rest => (o.after d).history rest ++
      (o.operation.learned (o.before d) ++ (o.after d).updates)

/-- Installing a receiver that reports keeps `Books`: nothing is reported by it, and nobody's status
    becomes known. -/
theorem books_install {r : Receiver} (hr : r.reports = true) (d : Daemon) :
    Books d ((install r).on d).2 := by
  obtain ⟨j, he⟩ := install_on r d
  rw [he]
  rintro -
  exact ⟨⟨r, rfl, hr⟩, [], rfl, fun _ => rfl⟩

/-- An operation on a daemon that has nothing to report so far makes known what it reports, or is
    told and takes over. -/
theorem Reporting.perform (hrep : d.Reporting) (hup : d.updates = []) (op : Operation)
    (hop : ∀ r, op = .install r → r.reports = true) :
    ((op.perform .quiet).on d).2.Reporting ∧
      ∀ user, ((op.perform .quiet).on d).2.manager.lastStatus.get? user =
        (latest (op.learned d ++ ((op.perform .quiet).on d).2.updates) user).or
          (d.manager.lastStatus.get? user) := by
  have hl : Hooks.quiet.Losing True := Hooks.quiet_losing True
  -- where nothing is learned, the books say it all
  have hbooks : ∀ d₁, Books d d₁ → d₁.Reporting ∧ ∀ user, d₁.manager.lastStatus.get? user =
      (latest d₁.updates user).or (d.manager.lastStatus.get? user) := by
    intro d₁ hb
    obtain ⟨hrep₁, reported, hreported, hlast⟩ := hb hrep
    rw [hup, List.append_nil] at hreported
    rw [hreported]
    exact ⟨hrep₁, hlast⟩
  cases hframed : op.isFramed with
  | true =>
    have hlearned : op.learned d = [] := by
      cases op <;> first | rfl | contradiction
    rw [hlearned]
    exact hbooks _ (frame_books.perform hl op hframed d)
  | false =>
    cases op with
    | install r => exact hbooks _ (books_install (hop r rfl) d)
    | switch user => exact hbooks _ (books_switchUser hl user d)
    | reconcile user dark =>
      obtain ⟨d₀, hb, he | ⟨f, he⟩⟩ := frame_books.reconcile_cases hl user dark d
      · obtain ⟨hrep₀, hlast⟩ := hbooks d₀ hb
        have hlearned : (Operation.reconcile user dark).learned d = [(dark, user)] := by
          simp only [Operation.learned, he]
        have hperformed : (((Operation.reconcile user dark).perform .quiet).on d).2 =
            d₀.remembering user dark := congrArg Prod.snd he
        rw [hlearned, hperformed]
        refine ⟨hrep₀, fun other => ?_⟩
        show (d₀.manager.lastStatus.insert user dark).get? other =
          (latest ((dark, user) :: d₀.updates) other).or _
        rw [Table.get?_insert, latest_cons, hlast]
        by_cases ho : other = user
        · rw [if_pos ho, if_pos ho]
          rfl
        · rw [if_neg ho, if_neg ho]
      · have hlearned : (Operation.reconcile user dark).learned d = [] := by
          simp only [Operation.learned, he]
        have hperformed : (((Operation.reconcile user dark).perform .quiet).on d).2 = d₀ :=
          congrArg Prod.snd he
        rw [hlearned, hperformed]
        exact hbooks d₀ hb
    | _ => contradiction

/-- What happens before an operation does not touch the manager, so a daemon that reports is still
    `Reporting` when the operation finds it. -/
theorem before_reporting (hrep : d.Reporting) (o : Occasion) : (o.before d).Reporting := by
  obtain ⟨r, hrec, hreports⟩ := hrep
  refine ⟨r, ?_, hreports⟩
  show (o.meanwhile d).manager.receiver = some r
  rw [o.manager, hrec]

/-- An occasion makes known what it reports, or is told and takes over. -/
theorem Reporting.after (hrep : d.Reporting) (ho : o.Sensible) :
    (o.after d).Reporting ∧ ∀ user, (o.after d).manager.lastStatus.get? user =
      (latest (o.operation.learned (o.before d) ++ (o.after d).updates) user).or
        (d.manager.lastStatus.get? user) := by
  have hmanager : (o.before d).manager = d.manager := o.manager d
  rw [← hmanager]
  exact (before_reporting hrep o).perform rfl o.operation ho

/-- A manager that is `Reporting` stays so through a run of occasions, and its last status of each
    user is the latest one of the `history`. By induction on the occasions. -/
theorem Reporting.afterAll (hrep : d.Reporting) {os : List Occasion} (hos : ∀ o ∈ os, o.Sensible) :
    (d.afterAll os).Reporting ∧ ∀ user, (d.afterAll os).manager.lastStatus.get? user =
      (latest (d.history os) user).or (d.manager.lastStatus.get? user) := by
  induction os generalizing d with
  | nil => exact ⟨hrep, fun _ => rfl⟩
  | cons o rest ih =>
    obtain ⟨hrep₁, hfirst⟩ := hrep.after (hos o List.mem_cons_self)
    obtain ⟨hrep₂, hrest⟩ := ih hrep₁ fun o' ho' => hos o' (List.mem_cons_of_mem _ ho')
    refine ⟨hrep₂, fun user => ?_⟩
    show ((o.after d).afterAll rest).manager.lastStatus.get? user = _
    rw [hrest, hfirst, ← Option.or_assoc, ← latest_append]
    rfl

/-! ### Nothing twice -/

/-- Neither the clock nor what the store serves for the user is another one at `d₂` than at `d`, and
    what was known of them at `d₁` still is. -/
structure SettingsStand (user : UserId) (d d₁ d₂ : Daemon) : Prop where
  clock : d₂.clock = d.clock
  decoded : d₂.settings.decoded user = d.settings.decoded user
  known : d₂.manager.lastStatus.get? user = d₁.manager.lastStatus.get? user

/-- Neither the clock nor the active user's state is another one at `d₂` than at `d`, and what was
    known of them at `d₁` still is. -/
structure StateStands (d d₁ d₂ : Daemon) : Prop where
  clock : d₂.clock = d.clock
  active : d₂.manager.active = d.manager.active
  state : d₂.manager.states.get? d.manager.active = d.manager.states.get? d.manager.active
  known : d₂.manager.lastStatus.get? d.manager.active = d₁.manager.lastStatus.get? d.manager.active

/-- What is known of users, and what comes of a switch or a resync on the next occasion `o`. A
    status is reported only if another one is known; on a later occasion `o'`, when everything that
    counts stands as it did, none is. -/
structure Booked (last : UserId → Option Bool) (d : Daemon) : Prop where
  known : ∀ user, d.manager.lastStatus.get? user = last user
  switched : ∀ (o : Occasion) (user : UserId), o.operation = .switch user →
    ((switchUser .quiet user).on (o.before d)).1 = .ok () →
    (o.after d).updates =
      news (((o.before d).settings.decoded user).status? (o.before d).clock) (last user) user
  resynced : ∀ o : Occasion, o.operation = .resync →
    (o.after d).updates = news (o.before d).clockStatus? (last d.manager.active) d.manager.active
  switchedAgain : ∀ (o o' : Occasion) (user : UserId) (between : List Occasion),
    o.operation = .switch user → o'.operation = .switch user → (∀ b ∈ between, b.Sensible) →
    ((switchUser .quiet user).on (o.before d)).1 = .ok () →
    ((switchUser .quiet user).on (o'.before ((o.after d).afterAll between))).1 = .ok () →
    SettingsStand user (o.before d) (o.after d) (o'.before ((o.after d).afterAll between)) →
    (o'.after ((o.after d).afterAll between)).updates = []
  resyncedAgain : ∀ (o o' : Occasion) (between : List Occasion),
    o.operation = .resync → o'.operation = .resync → (∀ b ∈ between, b.Sensible) →
    StateStands (o.before d) (o.after d) (o'.before ((o.after d).afterAll between)) →
    (o'.after ((o.after d).afterAll between)).updates = []

theorem before_manager (o : Occasion) (d : Daemon) : (o.before d).manager = d.manager := o.manager d

/-- What a switch on the next occasion reports, and what is known of its user then. -/
theorem Reporting.switch {user : UserId} (hrep : d.Reporting) (ho : o.operation = .switch user)
    (hok : ((switchUser .quiet user).on (o.before d)).1 = .ok ()) :
    (o.after d).updates = news (((o.before d).settings.decoded user).status? (o.before d).clock)
        (d.manager.lastStatus.get? user) user ∧
      (o.after d).manager.lastStatus.get? user =
        (((o.before d).settings.decoded user).status? (o.before d).clock).or
          (d.manager.lastStatus.get? user) := by
  have hafter : o.after d = ((switchUser .quiet user).on (o.before d)).2 := by
    unfold Occasion.after
    rw [ho]
    rfl
  obtain ⟨hreported, hknown⟩ := switchUser_news (before_reporting hrep o) hok
  rw [← hafter, before_manager] at hreported hknown
  exact ⟨hreported.trans (List.append_nil _), hknown⟩

/-- What a resync on the next occasion reports, and what is known of the active user then. -/
theorem Reporting.resync (hrep : d.Reporting) (ho : o.operation = .resync) :
    (o.after d).updates = news (o.before d).clockStatus?
        (d.manager.lastStatus.get? d.manager.active) d.manager.active ∧
      (o.after d).manager.lastStatus.get? d.manager.active =
        (o.before d).clockStatus?.or (d.manager.lastStatus.get? d.manager.active) := by
  have hafter : o.after d = ((Daemon.resync .quiet).on (o.before d)).2 := by
    unfold Occasion.after
    rw [ho]
    rfl
  obtain ⟨hreported, hknown⟩ := resync_news (before_reporting hrep o)
  rw [← hafter, before_manager] at hreported hknown
  exact ⟨hreported.trans (List.append_nil _), hknown⟩

/-- Of a status that was known, or was reported just now, there is no news. -/
theorem news_or (dark? last : Option Bool) (user : UserId) :
    news dark? (dark?.or last) user = [] := by
  cases dark? with
  | none => rfl
  | some dark => exact news_self dark user

/-- Where the clock and the active user's state stand, as `StateStands` says, the clock says the
    same about them. -/
theorem StateStands.clockStatus? {d₁ d₂ : Daemon} (hs : StateStands d d₁ d₂) :
    d₂.clockStatus? = d.clockStatus? := by
  unfold Daemon.clockStatus?
  rw [hs.active, hs.state, hs.clock]

/-- A manager that is `Reporting` has its books in order, as `Booked` says: it reports exactly the
    news, and nothing twice. -/
theorem Reporting.booked (hrep : d.Reporting) : Booked d.manager.lastStatus.get? d where
  known _ := rfl
  switched o user ho hok := (hrep.switch ho hok).1
  resynced o ho := (hrep.resync ho).1
  -- what was reported by the first occasion is what the second one compares with
  switchedAgain o o' user between ho ho' hbetween hok hok' hstand := by
    have hsensible : o.Sensible := Occasion.sensible_of_operation ho fun _ h => by cases h
    have hrep' := ((hrep.after hsensible).1.afterAll hbetween).1
    have hknown := hstand.known
    rw [before_manager] at hknown
    rw [(hrep'.switch ho' hok').1, hstand.decoded, hstand.clock, hknown, (hrep.switch ho hok).2]
    exact news_or _ _ user
  resyncedAgain o o' between ho ho' hbetween hstand := by
    have hsensible : o.Sensible := Occasion.sensible_of_operation ho fun _ h => by cases h
    have hrep' := ((hrep.after hsensible).1.afterAll hbetween).1
    have hactive := hstand.active
    have hknown := hstand.known
    rw [before_manager, before_manager] at hactive hknown
    rw [(hrep'.resync ho').1, hstand.clockStatus?, hactive, hknown, (hrep.resync ho).2]
    exact news_or _ _ _

/-- **The last status of a user is known, and not reported again.** From the installation of a
    receiver on, whatever was asked of the manager and whatever failed: of every user the status is
    known that was the last one to be reported, or to be told and taken over. A switch that succeeds
    reports the status that the user's settings resolve to, and a resync the one that the clock says
    about the active user's window, if there is one and another one is known. Done again when
    nothing else has changed, neither reports anything. -/
theorem booked_of_run {d : Daemon} (hd : d.manager = {}) {r : Receiver} (hr : r.reports = true)
    {os : List Occasion} (hos : ∀ o ∈ os, o.Sensible) :
    Booked (latest (((install r).on d).2.history os)) (((install r).on d).2.afterAll os) := by
  obtain ⟨j, he⟩ := install_on r d
  have hrep : ((install r).on d).2.Reporting := by
    rw [he]
    exact ⟨r, rfl, hr⟩
  have hlast : ((install r).on d).2.manager.lastStatus = {} := by
    rw [he]
    show d.manager.lastStatus = {}
    rw [hd]
  obtain ⟨hrep', hknown⟩ := hrep.afterAll hos
  -- at first no status is known, so those known in the end are from the history
  have hlatest : (((install r).on d).2.afterAll os).manager.lastStatus.get? =
      latest (((install r).on d).2.history os) := by
    funext user
    rw [hknown, hlast]
    exact Option.or_none
  rw [← hlatest]
  exact hrep'.booked

/-- A receiver of reports. -/
def reporter : Receiver := { applies := false, reports := true }

/-- User 100 is always dark, becomes active, and is observed to be light while no setting can be
    stored. -/
def contradicted : List Occasion :=
  [{ manager := fun _ => rfl, operation := .put StateKey.mode.name "1" 100 },
    { manager := fun _ => rfl, operation := .switch 100 },
    { meanwhile := fun d => { d with
        settings := { d.settings with faults := { failsSet := fun _ => true } } }
      manager := fun _ => rfl
      operation := .reconcile 100 false }]

/-- The status that was observed is not taken over, so that dark is known, and not reported again.
    -/
theorem booked_of_contradicted :
    ((install reporter).on default).2.history contradicted = [(true, 100)] ∧
      Booked (latest [(true, 100)]) (((install reporter).on default).2.afterAll contradicted) := by
  have hhistory : ((install reporter).on default).2.history contradicted = [(true, 100)] := by
    decide +kernel
  have hos : ∀ o ∈ contradicted, o.Sensible := by
    simp [contradicted, Occasion.Sensible]
  have hbooked := booked_of_run (d := default) rfl (r := reporter) rfl hos
  rw [hhistory] at hbooked
  exact ⟨hhistory, hbooked⟩

end Daemon

end Twilight
