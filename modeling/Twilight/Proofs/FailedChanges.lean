import Twilight.Proofs.Daemon.Items

namespace Twilight

/-!
# Changes that fail

A call that sets an item may fail at any of its stages. Up to the last one it leaves no trace then;
but where the value cannot be kept as a parameter, it is in effect all the same.

* `Change.Traceless` — a change that fails leaves no trace, and may be repeated later on.
* `Change.Unkept` — a value is in effect, but its parameter is the old one.
* `Daemon.repaired` — nothing fails any more.
* `Change.Traces`, `Change.traces_of_failed` — what a change that fails leaves behind, and what
  becomes of the same change afterwards.
-/

/-! ### Faults that are gone -/

/-- The appearance service, permitted and with collaborators of which no call fails. -/
def Appearance.repaired (a : Appearance) : Appearance :=
  { a with
    permitted := true
    configuration := { values := a.configuration.values }
    parameters := { values := a.parameters.values, file := a.parameters.file } }

/-- The daemon with other files, once nothing fails in the appearance service. -/
def Daemon.repaired (d : Daemon) (fs : FileSystem) : Daemon :=
  { d with appearance := d.appearance.repaired, files := fs }

/-- The same answer, and the same daemon but for the journal. -/
def SameOutcome (x y : Except Fault Unit × Daemon) : Prop := x.1 = y.1 ∧ Daemon.Logged x.2 y.2

namespace Appearance

variable {a : Appearance} {item : Item} {value : String}

/-- Where nothing fails, a value that is adopted is configured. -/
theorem repaired_adopting (a : Appearance) (item : Item) (value : String) :
    a.repaired.adopting item value = taking item value { a.repaired with
      configuration := { values := a.configuration.values.set item (some value) } } := by
  simp [adopting, pushed, repaired, Configuration.update]

/-- `adopting` a value that was adopted before configures it just the same. -/
theorem set_values_adopting (a : Appearance) (item : Item) (value : String) :
    (a.adopting item value).configuration.values.set item (some value) =
      a.configuration.values.set item (some value) := by
  rw [configuration_adopting]
  cases hu : a.configuration.failsUpdate.get item with
  | true => rw [pushed_of_fails hu]
  | false =>
    simp only [pushed, Configuration.update, hu, Bool.false_eq_true, if_false]
    cases item <;> rfl

/-- Where nothing fails, it makes no difference whether a value was adopted before. -/
theorem adopting_repaired (a : Appearance) (item : Item) (value : String) :
    (a.adopting item value).repaired.adopting item value = a.repaired.adopting item value := by
  rw [repaired_adopting, repaired_adopting, set_values_adopting]
  cases item <;> rfl

end Appearance

/-! ### Parameters that are not taken -/

namespace Parameters

variable {p : Parameters} {fs : FileSystem} {key value : String}

/-- Parameters of which no write fails take every value, if their file can be replaced. -/
theorem set_ok (hk : p.failsSet key = false)
    (hfile : ∀ path, p.file = some path → fs.Replaceable path) (value : String) :
    (p.set fs key value).1 = .ok () := by
  have hnone : p.refusal? fs key = none := by
    unfold refusal?
    rw [if_neg (by simp [hk])]
    cases hp : p.file with
    | none => rfl
    | some path =>
      obtain ⟨fs₁, he, -⟩ := FileSystem.replace_of_replaceable (hfile path hp) ""
      have hobstacle : fs.obstacle? path = none := FileSystem.obstacle?_eq_none.2 (by rw [he])
      simp only [Option.bind_some, hobstacle, Option.map_none]
  rw [set_fst, hnone]
  rfl

/-- Parameters that do not take a value are the old ones, and no file is touched. -/
theorem set_error {f : Fault} (hf : (p.set fs key value).1 = .error f) :
    (p.set fs key value).2.1 = p ∧ fs.SameFiles (p.set fs key value).2.2 := by
  cases hr : p.refusal? fs key with
  | none =>
    rw [set_fst, hr] at hf
    cases hf
  | some g =>
    obtain ⟨fs₁, he, hfiles, -⟩ := set_of_refused hr value
    rw [he]
    exact ⟨rfl, hfiles⟩

end Parameters

/-! ### What a change leaves behind -/

namespace Change

open Daemon

variable {c : Change} {f : Fault} {d d₁ : Daemon}

/-- A change that fails leaves the appearance and all files as they were, so that the same change
    has the same outcome later on, when nothing fails any more. -/
def Traceless (c : Change) (d : Daemon) : Prop :=
  ∀ f, (c.make.on d).1 = .error f →
    (c.make.on d).2.appearance = d.appearance ∧ d.files.SameFiles (c.make.on d).2.files ∧
      ∀ fs, SameOutcome (c.make.on ((c.make.on d).2.repaired fs)) (c.make.on (d.repaired fs))

/-- The value was pushed and taken over, but could not be kept: it is in effect, and the parameters
    are those from before. -/
structure Unkept (c : Change) (f : Fault) (d d₁ : Daemon) : Prop where
  cause : (d.appearance.parameters.set d.files c.item.parameter c.value).1 = .error f
  eq : ∃ fs j, d₁ = { d with
    appearance := d.appearance.adopting c.item c.value, files := fs, journal := j }
  files : d.files.SameFiles d₁.files
  parameters : d₁.appearance.parameters = d.appearance.parameters
  inEffect : d₁.appearance.value c.item = c.value
  configured : d₁.appearance.configuration.values.get c.item = some c.value

/-- A line that was logged before makes no difference to what a change comes to. -/
theorem sameOutcome_of_logged (c : Change) (hd : Logged d d₁) :
    SameOutcome (c.make.on d₁) (c.make.on d) := by
  obtain ⟨j, rfl⟩ := hd
  cases hr : c.refusal? d.appearance with
  | some f =>
    obtain ⟨j₁, he⟩ := make_of_refused hr
    obtain ⟨j₂, he'⟩ := make_of_refused (d := { d with journal := j }) hr
    rw [he, he']
    exact ⟨rfl, j₁, rfl⟩
  | none =>
    obtain ⟨j₁, he⟩ := make_of_accepted hr
    obtain ⟨j₂, he'⟩ := make_of_accepted (d := { d with journal := j }) hr
    rw [he, he']
    exact ⟨rfl, j₁, rfl⟩

/-- Once the appearance is `repaired`, the only `refusal?` of a change is the `misfit?` of its
    value. -/
theorem refusal?_repaired (c : Change) (a : Appearance) : c.refusal? a.repaired = c.misfit? a := by
  have hpermitted : a.repaired.permitted = true := rfl
  have hcounts : a.repaired.unconfirmed? c.item c.value = none :=
    Appearance.unconfirmed?_of_updates (PerItem.get_const false c.item) c.value
  unfold refusal?
  rw [if_pos hpermitted, hcounts, Option.or_none]
  cases c <;> rfl

/-- A change that is not refused is not refused either once the appearance is `repaired`. -/
theorem accepted_repaired (hn : c.refusal? d.appearance = none) (fs : FileSystem) :
    c.refusal? (d.repaired fs).appearance = none :=
  (refusal?_repaired c d.appearance).trans (refusal?_eq_none.1 hn).2.1

/-- A change that fails without being refused was stopped by the parameters, with its value in
    effect: it is `Unkept`. -/
theorem unkept_of_failed (hn : c.refusal? d.appearance = none) (hf : (c.make.on d).1 = .error f) :
    Unkept c f d (c.make.on d).2 := by
  obtain ⟨j, he⟩ := make_of_accepted hn
  rw [he] at hf ⊢
  obtain ⟨hparameters, hfiles⟩ := Parameters.set_error hf
  have happearance : ({ d.appearance.adopting c.item c.value with
      parameters := (d.appearance.parameters.set d.files c.item.parameter c.value).2.1 } :
        Appearance) =
      d.appearance.adopting c.item c.value := by
    rw [hparameters, ← Appearance.parameters_adopting d.appearance c.item c.value]
  simp only [happearance]
  refine ⟨hf, ⟨_, j, rfl⟩, hfiles, Appearance.parameters_adopting _ _ _, value_adopting c _, ?_⟩
  rw [Appearance.configuration_adopting]
  exact Appearance.configuration_pushed (refusal?_eq_none.1 hn).2.2

/-- A daemon whose parameters cannot be written. -/
def readOnly : Daemon where
  clock := default
  processes := default
  appearance := { parameters := { failsSet := fun _ => true } }

/-- Under `readOnly` parameters a color mode can be pushed but not kept, so the change fails. -/
theorem failed_of_readOnly :
    ((color .alwaysDark).make.on readOnly).1 = .error .parametersReadOnly := by
  obtain ⟨j, he⟩ := make_of_accepted (c := color .alwaysDark) (d := readOnly) rfl
  rw [he]
  rfl

/-- A mode whose parameter cannot be written is in effect, although the change to it failed. -/
theorem not_traceless_of_readOnly : ¬ Traceless (.color .alwaysDark) readOnly := by
  intro htraceless
  have hsame := (htraceless _ failed_of_readOnly).1
  have heffect := (unkept_of_failed rfl failed_of_readOnly).inEffect
  rw [hsame] at heffect
  -- the service is still light if nothing changed
  exact absurd heffect (by decide)

/-! ### The same change again -/

/-- A scale that could not be kept is adopted once more: whether it fits does not depend on the one
    in effect. -/
theorem Unkept.again (hu : Unkept c f d d₁) (hn : c.refusal? d.appearance = none)
    (hi : c.item ≠ .colorMode) (fs : FileSystem) :
    SameOutcome (c.make.on (d₁.repaired fs)) (c.make.on (d.repaired fs)) := by
  obtain ⟨fs₀, j₀, rfl⟩ := hu.eq
  -- a scale fits whether or not it is in effect already; a mode does not
  have hfits : c.misfit? (d.appearance.adopting c.item c.value) = none := by
    have hbefore := (refusal?_eq_none.1 hn).2.1
    cases c with
    | color mode => exact absurd rfl hi
    | fontSize value => exact hbefore
    | fontWeight value => exact hbefore
  obtain ⟨j, he⟩ := make_of_accepted (accepted_repaired hn fs)
  obtain ⟨j₁, he₁⟩ := make_of_accepted (c := c) (d := ({ d with
      appearance := d.appearance.adopting c.item c.value
      files := fs₀
      journal := j₀ } : Daemon).repaired fs)
    ((refusal?_repaired c _).trans hfits)
  rw [he, he₁]
  -- the parameters were not touched, and adopting the value twice is adopting it
  have hparameters : (d.appearance.adopting c.item c.value).repaired.parameters =
      d.appearance.repaired.parameters := by
    unfold Appearance.repaired
    rw [Appearance.parameters_adopting]
  have hadopting := Appearance.adopting_repaired d.appearance c.item c.value
  simp only [repaired, hparameters, hadopting]
  exact ⟨rfl, j, rfl⟩

/-- A mode that could not be kept is refused the next time: the service is in it. -/
theorem Unkept.stuck {mode : Mode} (hu : Unkept (.color mode) f d d₁)
    (hn : (color mode).refusal? d.appearance = none) (fs : FileSystem) :
    ∃ j, (color mode).make.on (d₁.repaired fs) =
      (.error (.alreadyInMode mode), { d₁.repaired fs with journal := j }) := by
  obtain ⟨fs₀, j₀, rfl⟩ := hu.eq
  have hin := mode_adopting (refusal?_eq_none.1 hn).2.1
  apply make_of_refused
  show (color mode).refusal? (d.appearance.adopting .colorMode (color mode).value).repaired = _
  rw [refusal?_repaired, misfit?]
  simp only [hin, if_true]

/-- Once the appearance is `repaired`, a change that was not refused before succeeds, as long as its
    file can be written. -/
theorem make_repaired (hn : c.refusal? d.appearance = none) {fs : FileSystem}
    (hfile : ∀ path, d.appearance.parameters.file = some path → fs.Replaceable path) :
    (c.make.on (d.repaired fs)).1 = .ok () := by
  obtain ⟨j, he⟩ := make_of_accepted (accepted_repaired hn fs)
  rw [he]
  exact Parameters.set_ok (p := d.appearance.repaired.parameters) rfl hfile c.value

/-- What a change that fails leaves behind, and what the same change comes to once nothing fails any
    more. -/
structure Traces (c : Change) (f : Fault) (d : Daemon) : Prop where
  /-- Refused before the parameter is written, it leaves nothing but lines. -/
  refused : c.refusal? d.appearance ≠ none → Logged d (c.make.on d).2
  /-- Otherwise the value is in effect, and was not kept. -/
  unkept : c.refusal? d.appearance = none → Unkept c f d (c.make.on d).2
  /-- A scale may be set again in either case. -/
  again : c.refusal? d.appearance ≠ none ∨ c.item ≠ .colorMode →
    ∀ fs, SameOutcome (c.make.on ((c.make.on d).2.repaired fs)) (c.make.on (d.repaired fs))
  /-- A mode that was not kept stands in its own way, and nothing else does. -/
  stuck : ∀ mode, c = .color mode → c.refusal? d.appearance = none → ∀ fs,
    (∃ j, c.make.on ((c.make.on d).2.repaired fs) =
      (.error (.alreadyInMode mode), { (c.make.on d).2.repaired fs with journal := j })) ∧
    ((∀ path, d.appearance.parameters.file = some path → fs.Replaceable path) →
      (c.make.on (d.repaired fs)).1 = .ok ())

/-- **What a failed change leaves.** A change that is refused leaves nothing but lines. Only a value
    whose parameter cannot be written is `Unkept`, that is in effect all the same; a scale may be
    set again then, and a mode is refused as the one that is in effect already. -/
theorem traces_of_failed (c : Change) (d : Daemon) {f : Fault} (hf : (c.make.on d).1 = .error f) :
    Traces c f d where
  refused hr := by
    obtain ⟨f', hf'⟩ := Option.ne_none_iff_exists'.1 hr
    obtain ⟨j, he⟩ := make_of_refused hf'
    rw [he]
    exact ⟨j, rfl⟩
  unkept hn := unkept_of_failed hn hf
  again h fs := by
    cases hr : c.refusal? d.appearance with
    | some f' =>
      obtain ⟨j, he⟩ := make_of_refused hr
      rw [he]
      exact sameOutcome_of_logged c ⟨j, rfl⟩
    | none =>
      have hi : c.item ≠ .colorMode := h.resolve_left fun hno => hno hr
      exact (unkept_of_failed hr hf).again hr hi fs
  stuck mode hc hn fs := by
    subst hc
    exact ⟨(unkept_of_failed hn hf).stuck hn fs, make_repaired hn⟩

/-- Dark is in effect there but not kept, and once it could be kept it is refused. -/
theorem traces_of_readOnly :
    ((color .alwaysDark).make.on readOnly).1 = .error .parametersReadOnly ∧
      (color .alwaysDark).refusal? readOnly.appearance = none ∧
      Traces (.color .alwaysDark) .parametersReadOnly readOnly ∧
      ((color .alwaysDark).make.on
        (((color .alwaysDark).make.on readOnly).2.repaired {})).1 =
            .error (.alreadyInMode .alwaysDark) := by
  have htraces := traces_of_failed (.color .alwaysDark) readOnly failed_of_readOnly
  obtain ⟨⟨j, he⟩, -⟩ := htraces.stuck .alwaysDark rfl rfl {}
  refine ⟨failed_of_readOnly, rfl, htraces, ?_⟩
  rw [he]

end Change

end Twilight
