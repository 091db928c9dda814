import Twilight.Proofs.Daemon.Slots

namespace Twilight

/-!
# Interruptions

While an operation on timers is under way, a user's timers may be scheduled and cleared: any number
of times before each of its calls on the alarm service.

* `Interruption`, `interruptAll` — what is done for a user meanwhile.
* `Interruption.effect` — the request that the user's record is for afterwards.
* `Hooks.interrupting` — an operation is interrupted according to a plan, call by call.
* `Daemon.Interrupted` — what interruptions leave behind: the user's record as it was or with new
  alarms only, for the request that the last effective interruption made.
* `Daemon.armPair_interrupting`, `Daemon.discardAll_interrupting` — so do calls that are
  interrupted.
-/

open Time

/-! ### Interruptions of a user's timers -/

/-- What is done for a user in between. -/
inductive Interruption where
  | schedule (window : Window) (actions : Pair AlarmAction)
  | clear

/-- Interrupt for a user; nothing interrupts an interruption. -/
def Interruption.perform (user : UserId) : Interruption → Act Unit
  | .schedule window actions => do
    let _ ← Daemon.schedule .quiet user window actions
    pure ()
  | .clear => do
    let _ ← Daemon.clearTimers .quiet user
    pure ()

/-- Interrupt several times. -/
def interruptAll (user : UserId) : List Interruption → Act Unit
  | [] => pure ()
  | op :: rest => do
    op.perform user
    interruptAll user rest

/-- What the user's record is for after an interruption. Scheduling takes effect if the bounds are
    valid and occur again. -/
def Interruption.effect (z : Zone) (now : Moment) (request? : Option TimerRequest) :
    Interruption → Option TimerRequest
  | .schedule window actions =>
    if window.valid && (window.occurrences z now).isOk then some ⟨window, actions⟩ else request?
  | .clear => none

/-- Before a call on the alarm service: note the call, and do what is planned for it. -/
def interrupt (user : UserId) (plan : Nat → List Interruption) (call : Event) : Act Unit := do
  let calls := (← get).events.length
  Daemon.note call
  interruptAll user (plan calls)

/-- Each call on the alarm service is interrupted for a user as planned. -/
def Hooks.interrupting (user : UserId) (plan : Nat → List Interruption) : Hooks where
  beforeArm := interrupt user plan .arming
  beforeCancel := interrupt user plan .cancelling
  run _ := pure ()

/-- What interrupted the calls that were made between `d` and `d₁`. -/
def interruptions (plan : Nat → List Interruption) (d d₁ : Daemon) : List Interruption :=
  (List.range' d.events.length (d₁.events.length - d.events.length)).flatMap plan

/-- What interrupted two stretches of calls is what interrupted the first one, then what interrupted
    the second one. -/
theorem interruptions_append (plan : Nat → List Interruption) {d d₁ d₂ : Daemon}
    (h₁ : d.events.length ≤ d₁.events.length) (h₂ : d₁.events.length ≤ d₂.events.length) :
    interruptions plan d d₂ = interruptions plan d d₁ ++ interruptions plan d₁ d₂ := by
  unfold interruptions
  obtain ⟨m, hm⟩ := Nat.exists_eq_add_of_le h₁
  obtain ⟨n, hn⟩ := Nat.exists_eq_add_of_le h₂
  rw [hn, hm, ← List.flatMap_append, Nat.add_assoc, Nat.add_sub_cancel_left,
    Nat.add_sub_cancel_left, ← Nat.add_assoc, Nat.add_sub_cancel_left, List.range'_append_1]

/-- Where no call was noted there are no `interruptions`. -/
theorem interruptions_of_events_eq (plan : Nat → List Interruption) {d d₁ : Daemon}
    (h : d₁.events = d.events) : interruptions plan d d₁ = [] := by
  unfold interruptions
  rw [h, Nat.sub_self]
  rfl

/-- A single call that was noted has the `interruptions` that the plan has for its number. -/
theorem interruptions_of_noted (plan : Nat → List Interruption) {d d₁ : Daemon} {call : Event}
    (h : d₁.events = call :: d.events) : interruptions plan d d₁ = plan d.events.length := by
  unfold interruptions
  rw [h, List.length_cons, Nat.add_sub_cancel_left]
  exact List.append_nil _

namespace Daemon

variable {d d₁ d₂ : Daemon} {user : UserId} {plan : Nat → List Interruption}

/-! ### What they leave behind -/

/-- `d₁` is `d` after interruptions for a user, one after the other. -/
structure Performed (user : UserId) (ops : List Interruption) (d d₁ : Daemon) : Prop where
  touched : Touched user d d₁
  events : d₁.events = d.events
  rejected : d₁.alarms.rejected = d.alarms.rejected
  request : d₁.request? user = ops.foldl (Interruption.effect d.zone d.clock) (d.request? user)

/-- Interruptions that are performed after others are performed together with them, in this order.
    -/
theorem Performed.append {ops more : List Interruption} (h₁ : Performed user ops d d₁)
    (h₂ : Performed user more d₁ d₂) : Performed user (ops ++ more) d d₂ where
  touched := h₁.touched.trans h₂.touched
  events := h₂.events.trans h₁.events
  rejected := h₂.rejected.trans h₁.rejected
  request := by
    rw [h₂.request, h₁.request, h₁.touched.onward.zone, h₁.touched.onward.clock,
      List.foldl_append]

/-- `schedule` takes effect exactly if a new record was put in, and this is what `Performed` says of
    it. -/
theorem schedule_performed (hc : d.alarms.Cancels) (window : Window)
    (actions : Pair AlarmAction) :
    Performed user [.schedule window actions] d
      ((schedule .quiet user window actions).on d).2 := by
  have hl := Hooks.quiet_losing False
  have hrej := (schedule_reports user window actions d).rejected_eq hc
  have htouched := schedule_touched hl hc user window actions user
  rcases schedule_cases hl hc user window actions with
    ⟨hv, triggers, ids, ho, hd⟩ | ⟨hnot, hlog⟩
  · refine ⟨htouched, hd.rescheduled.events, hrej, ?_⟩
    simp [request?, hd.timers, Interruption.effect, hv, ho, Except.isOk, Except.toBool,
      TimerRecord.request]
  · -- it was refused, or a bound does not occur again: the request that counts is the old one
    have heffect : (window.valid && (window.occurrences d.zone d.clock).isOk) = false := by
      rcases hnot with hv | ⟨f, ho⟩
      · rw [hv, Bool.false_and]
      · rw [ho]
        exact Bool.and_false _
    generalize ((schedule .quiet user window actions).on d).2 = d₁ at hrej htouched hlog
    obtain ⟨j, rfl⟩ := hlog
    refine ⟨htouched, rfl, hrej, ?_⟩
    simp only [List.foldl_cons, List.foldl_nil, Interruption.effect, heffect, Bool.false_eq_true,
      if_false]
    rfl

/-- Clearing a user's timers is performed as the interruption `clear`. -/
theorem clearTimers_performed (hc : d.alarms.Cancels) :
    Performed user [.clear] d ((clearTimers .quiet user).on d).2 := by
  have hl := Hooks.quiet_losing False
  have hrej := (clearTimers_reports user d).rejected_eq hc
  have htouched := clearTimers_touched hl hc user user
  obtain ⟨d₁, he, hd⟩ := clearTimers_cleared hl hc user
  rw [he] at hrej htouched ⊢
  refine ⟨htouched, hd.rescheduled.events, hrej, ?_⟩
  simp [request?, hd.timers, Interruption.effect]

/-- Interrupting several times performs all the interruptions, in order, with a service that
    `Cancels`. -/
theorem interruptAll_on (ops : List Interruption) (hc : d.alarms.Cancels) :
    Performed user ops d ((interruptAll user ops).on d).2 := by
  induction ops generalizing d with
  | nil => exact ⟨.refl d, rfl, rfl, rfl⟩
  | cons op rest ih =>
    have hfirst : Performed user [op] d ((op.perform user).on d).2 := by
      cases op with
      | schedule window actions => exact schedule_performed hc window actions
      | clear => exact clearTimers_performed hc
    exact hfirst.append (ih (hfirst.touched.onward.plans.cancels hc))

/-- `d₁` comes after `d`, and the user's request was changed by the interruptions in between. -/
structure Follows (user : UserId) (plan : Nat → List Interruption) (d d₁ : Daemon) : Prop where
  onward : Onward d d₁
  events : d.events.length ≤ d₁.events.length
  rejected : d₁.alarms.rejected = d.alarms.rejected
  request : d₁.request? user =
    (interruptions plan d d₁).foldl (Interruption.effect d.zone d.clock) (d.request? user)

namespace Follows

/-- `Follows` adds up along stretches, and so do the interruptions in them. -/
theorem trans (h₁ : Follows user plan d d₁) (h₂ : Follows user plan d₁ d₂) :
    Follows user plan d d₂ where
  onward := h₁.onward.trans h₂.onward
  events := Nat.le_trans h₁.events h₂.events
  rejected := h₂.rejected.trans h₁.rejected
  request := by
    rw [h₂.request, h₁.request, h₁.onward.zone, h₁.onward.clock,
      interruptions_append plan h₁.events h₂.events, List.foldl_append]

/-- What happens without any call of its own `Follows` the plan: nothing interrupted, and the
    request stays. -/
theorem of_own (ho : Onward d d₁) (hev : d₁.events = d.events)
    (hrej : d₁.alarms.rejected = d.alarms.rejected)
    (hrequest : d₁.request? user = d.request? user) : Follows user plan d d₁ where
  onward := ho
  events := Nat.le_of_eq (congrArg List.length hev).symm
  rejected := hrej
  request := by
    rw [hrequest, interruptions_of_events_eq plan hev]
    rfl

end Follows

/-- Besides, the user's record is as it was or has new alarms only. -/
structure Interrupted (user : UserId) (plan : Nat → List Interruption) (d d₁ : Daemon) : Prop where
  follows : Follows user plan d d₁
  touched : Touched user d d₁

namespace Interrupted

/-- So does `Interrupted`, whose record keeps its alarms or gets new ones in every stretch. -/
theorem trans (h₁ : Interrupted user plan d d₁) (h₂ : Interrupted user plan d₁ d₂) :
    Interrupted user plan d d₂ := ⟨h₁.follows.trans h₂.follows, h₁.touched.trans h₂.touched⟩

/-- Nothing interrupted, and the user's record is left alone. -/
theorem of_own (ho : Onward d d₁) (hev : d₁.events = d.events)
    (hrej : d₁.alarms.rejected = d.alarms.rejected)
    (hr : d₁.timers.get? user = d.timers.get? user) : Interrupted user plan d d₁ :=
  ⟨.of_own ho hev hrej (congrArg (Option.map TimerRecord.request) hr), .of_onward ho hr⟩

theorem refl (d : Daemon) : Interrupted user plan d d := of_own (.refl d) rfl rfl rfl

/-- Lines that are logged make no call, so they are `Interrupted` by nothing. -/
theorem of_logged (hj : Logged d d₁) : Interrupted user plan d d₁ := by
  have ho := hj.onward
  obtain ⟨j, rfl⟩ := hj
  exact of_own ho rfl rfl rfl

/-- Interruptions do not touch the plans for failing calls, so a service that `Cancels` goes on
    doing so. -/
theorem cancels (hd : Interrupted user plan d d₁) (hc : d.alarms.Cancels) : d₁.alarms.Cancels :=
  hd.follows.onward.plans.cancels hc

end Interrupted

/-! ### Interrupted calls -/

variable (user : UserId) (plan : Nat → List Interruption)

/-- What `interrupt` does before a call is to note it and to perform what is planned for it. -/
theorem interrupt_on (hc : d.alarms.Cancels) (call : Event) :
    Interrupted user plan d ((interrupt user plan call).on d).2 := by
  have hp : Performed user (plan d.events.length) { d with events := call :: d.events }
      ((interrupt user plan call).on d).2 := interruptAll_on _ hc
  have hnoted : Onward d { d with events := call :: d.events } := .of_alarms rfl rfl rfl
  have ho := hnoted.trans hp.touched.onward
  refine ⟨⟨ho, ?_, hp.rejected, ?_⟩, ho, hp.touched.record⟩
  · rw [hp.events]
    exact Nat.le_succ _
  · rw [interruptions_of_noted plan hp.events]
    exact hp.request

/-- A call to `arm` is `Interrupted` once, before it is carried out. It gives out a number that is
    new even then, or none. -/
theorem arm_interrupting (hc : d.alarms.Cancels) (a : Alarm AlarmAction) :
    Interrupted user plan d ((arm (.interrupting user plan) a).on d).2 ∧
      ∀ i : Nat, ((arm (.interrupting user plan) a).on d).1.toOption = some i →
        d.alarms.lastId < i ∧
          i ≤ ((arm (.interrupting user plan) a).on d).2.alarms.lastId ∧
          ((arm (.interrupting user plan) a).on d).2.pending? i = some a := by
  -- the interruptions come first
  have hbefore := interrupt_on user plan hc .arming
  unfold arm
  simp only [Act.on_bind, Act.on_modifyGet]
  change Interrupted user plan d (((Hooks.interrupting user plan).beforeArm.on d).2) at hbefore
  generalize ((Hooks.interrupting user plan).beforeArm.on d).2 = d₀ at hbefore
  have hrej : (d₀.alarms.arm a).2.rejected = d₀.alarms.rejected := by
    unfold AlarmService.arm
    split <;> rfl
  obtain ⟨s, hplans, ⟨hs, hlast, hpend⟩ | ⟨_, hs, hlast, hpend⟩⟩ := AlarmService.arm_eq d₀.alarms a
  · -- the number is behind all that were given out, those of the interruptions included
    rw [hs] at hrej ⊢
    have hown : Onward d₀ { d₀ with alarms := s } := by
      refine ⟨rfl, rfl, hplans, ?_, fun i b hi hb => ?_⟩
      · exact hlast ▸ Nat.le_succ _
      · have hb : s.pending? i = some b := hb
        rw [hpend i, if_neg (by omega)] at hb
        exact hb
    refine ⟨hbefore.trans (.of_own hown rfl hrej rfl), fun i hi => ?_⟩
    obtain rfl := Option.some.inj hi
    refine ⟨Nat.lt_succ_of_le hbefore.follows.onward.lastId, Nat.le_of_eq hlast.symm, ?_⟩
    exact (hpend _).trans (if_pos rfl)
  · rw [hs] at hrej ⊢
    have hown : Onward d₀ { d₀ with alarms := s } :=
      ⟨rfl, rfl, hplans, Nat.le_of_eq hlast.symm, fun i b _ hb => (hpend i).symm.trans hb⟩
    exact ⟨hbefore.trans (.of_own hown rfl hrej rfl), fun i hi => nomatch hi⟩

/-- A call to `cancel` is `Interrupted` once, before it is carried out. -/
theorem cancel_interrupting (hc : d.alarms.Cancels) (id : AlarmId) :
    Interrupted user plan d ((cancel (.interrupting user plan) id).on d).2 := by
  have hbefore := interrupt_on user plan hc .cancelling
  have hquiet := (cancel_reports id (interrupt user plan .cancelling |>.on d).2).rejected_eq
    (hbefore.cancels hc)
  obtain ⟨d₁, he, hd⟩ := cancel_on (Hooks.quiet_losing False) (hbefore.cancels hc) id
  -- once interrupted, the call goes on as if nothing else happened
  have hstep : ((cancel (.interrupting user plan) id).on d).2 =
      ((cancel .quiet id).on (interrupt user plan .cancelling |>.on d).2).2 := rfl
  rw [hstep]
  rw [he] at hquiet ⊢
  refine hbefore.trans (.of_own hd.onward hd.rescheduled.events hquiet ?_)
  rw [hd.timers]

/-- So is one of `discard`. -/
theorem discard_interrupting (hc : d.alarms.Cancels) (id : AlarmId) :
    Interrupted user plan d ((discard (.interrupting user plan) id).on d).2 := by
  have hcancel := cancel_interrupting user plan hc id
  unfold discard
  simp only [Act.on_bind]
  cases ((cancel (.interrupting user plan) id).on d).1 with
  | ok _ => exact hcancel
  | error f => exact hcancel.trans (.of_logged (Act.logs_warn _ _))

/-- `discardAll` is `Interrupted` before each of its calls to cancel. By induction on the numbers.
    -/
theorem discardAll_interrupting (ids : List AlarmId) (hc : d.alarms.Cancels) :
    Interrupted user plan d ((discardAll (.interrupting user plan) ids).on d).2 := by
  induction ids generalizing d with
  | nil => exact .refl d
  | cons id ids ih =>
    have hfirst := discard_interrupting user plan hc id
    exact hfirst.trans (ih (hfirst.cancels hc))

/-- The alarms of a new pair: their numbers are new, and what is pending under them is what was
    armed. -/
def FreshPair (ids : Pair (Option AlarmId)) (triggers : Pair Moment) (actions : Pair AlarmAction)
    (d d₁ : Daemon) : Prop :=
  ∀ boundary (i : Nat), ids.get boundary = some i →
    d.alarms.lastId < i ∧ i ≤ d₁.alarms.lastId ∧
      ∀ a, d₁.pending? i = some a → a = .once (triggers.get boundary) (actions.get boundary)

/-- A pair is armed in two calls; the first alarm may be pending no longer when the second is. -/
theorem armPair_interrupting (hc : d.alarms.Cancels) (triggers : Pair Moment)
    (actions : Pair AlarmAction) :
    Interrupted user plan d ((armPair (.interrupting user plan) triggers actions).on d).2 ∧
      FreshPair ((armPair (.interrupting user plan) triggers actions).on d).1.1 triggers actions d
        ((armPair (.interrupting user plan) triggers actions).on d).2 := by
  obtain ⟨hstart, hfirst⟩ := arm_interrupting user plan hc
    (.once triggers.start actions.start)
  obtain ⟨hfinish, hsecond⟩ := arm_interrupting user plan
    (hstart.cancels hc) (.once triggers.finish actions.finish)
  refine ⟨hstart.trans hfinish, fun boundary i hi => ?_⟩
  cases boundary with
  | start =>
    obtain ⟨hlast, hle, hpend⟩ := hfirst i hi
    refine ⟨hlast, Nat.le_trans hle hfinish.follows.onward.lastId, fun a ha => ?_⟩
    have hkept := hfinish.follows.onward.kept i a hle ha
    exact Option.some.inj (hkept.symm.trans hpend)
  | finish =>
    obtain ⟨hlast, hle, hpend⟩ := hsecond i hi
    refine ⟨Nat.lt_of_le_of_lt hstart.follows.onward.lastId hlast, hle, fun a ha => ?_⟩
    exact Option.some.inj (ha.symm.trans hpend)

end Daemon

end Twilight
