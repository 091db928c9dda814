import Twilight.Appearance.Parameters
import Twilight.Proofs.Files.Replace
import Twilight.Proofs.Settings.Written

namespace Twilight

/-!
# The parameters in memory and in their file

* `Parameters.setBy_eq` — a value that cannot be written leaves no trace in memory, whether or not
  its key had one before.
* `ParameterTable.ofFile?`, `Parameters.Agrees` — what a file holds; memory holds the same.
* `Parameters.SetRun` — values are stored one after another, and any of them may fail to be written.
* `Parameters.agrees_of_setRun` — the two agree after every such run, so that opening the file anew
  gets the same parameters.
-/

open FileSystem (SameFile)

/-- The parameters that a file holds, if it can be read. One that is missing holds none. -/
def ParameterTable.ofFile? (fs : FileSystem) (path : String) : Option ParameterTable :=
  if fs.exists? path then (fs.text? path).bind ParameterTable.read? else some {}

/-- `ofFile?` is read off the file at the path alone. -/
theorem ParameterTable.ofFile?_congr {fs fs₁ : FileSystem} {path : String}
    (hs : SameFile fs fs₁ path) : ofFile? fs₁ path = ofFile? fs path := by
  unfold ofFile? FileSystem.text?
  rw [hs.exists?, hs.readText]

/-- `ofFile?` reads back the parameters that were written into the file. -/
theorem ParameterTable.ofFile?_write {fs : FileSystem} {path : String}
    {t : ParameterTable} {id : Nat}
    (hf : fs.lookup? path = some (.file id (.text t.write))) : ofFile? fs path = some t := by
  obtain ⟨hexists, htext⟩ := FileSystem.reads_of_lookup? hf
  unfold ofFile? FileSystem.text?
  rw [if_pos hexists, htext]
  exact ParameterTable.read?_write t

namespace Parameters

variable {path key value : String} {p₀ p : Parameters} {fs₀ fs : FileSystem}
variable {replace : String → String → Except FileProblem Unit × FileSystem}

/-! ### One value -/

/-- A value is in memory if it could be written, and otherwise memory is as before. -/
theorem setBy_eq (p : Parameters)
    (replace : String → String → Except FileProblem Unit × FileSystem) (fs : FileSystem)
    (key value : String) : p.setBy replace fs key value =
      match p.file with
      | none => (.ok (), { p with values := p.values.insert key value }, fs)
      | some path =>
        match replace path (ParameterTable.write (p.values.insert key value)) with
        | (.error problem, fs) => (.error (.unwritable path problem), p, fs)
        | (.ok _, fs) => (.ok (), { p with values := p.values.insert key value }, fs) := by
  obtain ⟨values, file, failsGet, failsSet⟩ := p
  unfold setBy
  cases file with
  | none => rfl
  | some path =>
    dsimp only
    generalize replace path (ParameterTable.write (values.insert key value)) = written
    obtain ⟨result, fs₁⟩ := written
    cases result with
    | ok _ => rfl
    | error problem =>
      -- putting back what was there, or removing the key, undoes the insertion
      dsimp only
      rw [Table.putBack_insert]

/-! ### Opening -/

/-- The parameters are those of the file at `path`. -/
structure Agrees (path : String) (p : Parameters) (fs : FileSystem) : Prop where
  file : p.file = some path
  held : ParameterTable.ofFile? fs path = some p.values

/-- Parameters that `open?` returns are in step with their file. -/
theorem agrees_of_open? (ho : open? fs path = .ok p) : p.Agrees path fs := by
  unfold open? at ho
  by_cases hexists : fs.exists? path = true
  · rw [if_pos hexists] at ho
    cases htext : fs.readText path with
    | error problem =>
      rw [htext] at ho
      cases ho
    | ok text =>
      simp only [htext] at ho
      cases hread : ParameterTable.read? text with
      | none =>
        rw [hread] at ho
        cases ho
      | some values =>
        rw [hread] at ho
        obtain rfl := Except.ok.inj ho
        refine ⟨rfl, ?_⟩
        unfold ParameterTable.ofFile? FileSystem.text?
        rw [if_pos hexists, htext]
        exact hread
  · -- a file that is missing holds no parameters
    rw [if_neg hexists] at ho
    obtain rfl := Except.ok.inj ho
    exact ⟨rfl, if_neg hexists⟩

/-- `open?` of the file anew gets the parameters that are in memory. -/
theorem Agrees.open? (ha : p.Agrees path fs) :
    Parameters.open? fs path = .ok { values := p.values, file := some path } := by
  have hheld := ha.held
  unfold ParameterTable.ofFile? FileSystem.text? at hheld
  unfold Parameters.open?
  by_cases hexists : fs.exists? path = true
  · rw [if_pos hexists] at hheld ⊢
    cases htext : fs.readText path with
    | error problem =>
      rw [htext] at hheld
      cases hheld
    | ok text =>
      rw [htext] at hheld
      have hread : ParameterTable.read? text = some p.values := hheld
      simp only [hread]
  · rw [if_neg hexists] at hheld ⊢
    rw [← Option.some.inj hheld]

/-! ### Values stored one after another -/

/-- A value is in memory and in the file, and nothing else changes there; or it is in neither. -/
theorem Agrees.setBy_cases (ha : p.Agrees path fs) (hw : fs.Writes path replace)
    (key value : String) :
    (∃ fs₁, p.setBy replace fs key value =
        (.ok (), { p with values := p.values.insert key value }, fs₁) ∧
      ParameterTable.ofFile? fs₁ path = some (p.values.insert key value)) ∨
    ∃ f fs₁, p.setBy replace fs key value = (.error f, p, fs₁) ∧ SameFile fs fs₁ path := by
  simp only [setBy_eq, ha.file]
  cases hr : replace path (ParameterTable.write (p.values.insert key value)) with
  | mk result fs₁ =>
    cases result with
    | ok _ =>
      obtain ⟨id, hfile⟩ := hw.taken hr
      exact .inl ⟨fs₁, rfl, ParameterTable.ofFile?_write hfile⟩
    | error problem => exact .inr ⟨_, fs₁, rfl, hw.refused hr⟩

/-- The parameters and their file after values were stored, one after another, and other things
    happened that leave the file alone. Each value has a way of its own to be written, so that any
    of them may fail. -/
inductive SetRun (path : String) (p₀ : Parameters) (fs₀ : FileSystem) :
    Parameters → FileSystem → Prop where
  | start : SetRun path p₀ fs₀ p₀ fs₀
  | stored {p : Parameters} {fs : FileSystem} {key value : String}
      {replace : String → String → Except FileProblem Unit × FileSystem} :
      SetRun path p₀ fs₀ p fs → fs.Writes path replace →
      SetRun path p₀ fs₀ (p.setBy replace fs key value).2.1 (p.setBy replace fs key value).2.2
  | aside {p : Parameters} {fs fs₁ : FileSystem} : SetRun path p₀ fs₀ p fs →
      SameFile fs fs₁ path → SetRun path p₀ fs₀ p fs₁

/-- A call that writes through the file system is a run, even where it is refused from the start. -/
theorem SetRun.set (hr : SetRun path p₀ fs₀ p fs) (hw : fs.Atomic path) (key value : String) :
    SetRun path p₀ fs₀ (p.set fs key value).2.1 (p.set fs key value).2.2 := by
  unfold Parameters.set
  by_cases hk : p.failsSet key = true
  · rw [if_pos hk]
    exact hr
  · rw [if_neg hk]
    exact hr.stored (FileSystem.writes_replace hw)

/-- Parameters stay in step with their file through any `SetRun`, since a value that cannot be
    written is taken back in memory. -/
theorem SetRun.agrees (hr : SetRun path p₀ fs₀ p fs) (h₀ : p₀.Agrees path fs₀) :
    p.Agrees path fs := by
  induction hr with
  | start => exact h₀
  | @stored p fs key value replace _ hw ih =>
    rcases ih.setBy_cases hw key value with ⟨fs₁, he, hheld⟩ | ⟨f, fs₁, he, hsame⟩
    · rw [he]
      exact ⟨ih.file, hheld⟩
    · rw [he]
      exact ⟨ih.file, (ParameterTable.ofFile?_congr hsame).trans ih.held⟩
  | aside _ hs ih => exact ⟨ih.file, (ParameterTable.ofFile?_congr hs).trans ih.held⟩

/-- A `SetRun` does not touch which parameters fail to be read. -/
theorem SetRun.failsGet (hr : SetRun path p₀ fs₀ p fs) : p.failsGet = p₀.failsGet := by
  induction hr with
  | start => rfl
  | @stored p fs key value replace _ _ ih =>
    rw [setBy_eq]
    split
    · exact ih
    · split
      · exact ih
      · exact ih
  | aside _ _ ih => exact ih

/-- No parameter that `open?` gets from a file fails to be read. -/
theorem failsGet_of_open? (ho : Parameters.open? fs path = .ok p) :
    p.failsGet = fun _ => false := by
  have he := ho.symm.trans (agrees_of_open? ho).open?
  rw [Except.ok.inj he]

/-- From the opening of a parameter file on, in every run in which any values are stored, and any of
    them fail to be written: memory holds exactly what the file holds. A value that is stored is the
    only one that changes, in memory and in the file; with one that fails nothing changes in either.
    And opening the file anew gives the same answer for every key and fallback. -/
theorem agrees_of_setRun (hopen : Parameters.open? fs₀ path = .ok p₀)
    (hr : SetRun path p₀ fs₀ p fs) :
    ParameterTable.ofFile? fs path = some p.values ∧
    (∀ replace key value, fs.Writes path replace →
      (∃ p₁ fs₁, p.setBy replace fs key value = (.ok (), p₁, fs₁) ∧
        ParameterTable.ofFile? fs₁ path = some p₁.values ∧
        ∀ other, p₁.values.get? other = if other = key then some value else p.values.get? other) ∨
      ∃ f fs₁, p.setBy replace fs key value = (.error f, p, fs₁) ∧
        ParameterTable.ofFile? fs₁ path = some p.values) ∧
    ∃ p₁, Parameters.open? fs path = .ok p₁ ∧
      ∀ key fallback, p₁.get key fallback = p.get key fallback := by
  have ha := hr.agrees (agrees_of_open? hopen)
  refine ⟨ha.held, fun replace key value hw => ?_, _, ha.open?, fun key fallback => ?_⟩
  · rcases ha.setBy_cases hw key value with ⟨fs₁, he, hheld⟩ | ⟨f, fs₁, he, hsame⟩
    · exact .inl ⟨_, fs₁, he, hheld, fun other => Table.get?_insert p.values key other value⟩
    · exact .inr ⟨f, fs₁, he, (ParameterTable.ofFile?_congr hsame).trans ha.held⟩
  · unfold Parameters.get
    rw [hr.failsGet, failsGet_of_open? hopen]

/-- A store with a new file, after a value was stored in it. -/
def onceStored : Parameters × FileSystem :=
  (Parameters.setBy { file := some "/p.toml" } (FileSystem.replace {}) {} "font" "1").2

/-- Then neither a second value of that key nor a first one of another key could be written. -/
def twiceRefused : Parameters × FileSystem :=
  let refused := onceStored.1.setBy onceStored.2.refusing onceStored.2 "font" "2"
  (refused.2.1.setBy refused.2.2.refusing refused.2.2 "weight" "1").2

/-- Then the other key got a value. -/
def lastStored : Parameters × FileSystem :=
  (twiceRefused.1.setBy twiceRefused.2.replace twiceRefused.2 "weight" "2").2

/-- What was stored is read when the file is opened again, and nothing of what failed. -/
theorem agrees_of_refused_between :
    SetRun "/p.toml" { file := some "/p.toml" } {} lastStored.1 lastStored.2 ∧
    ParameterTable.ofFile? lastStored.2 "/p.toml" = some lastStored.1.values ∧
    ∃ p, Parameters.open? lastStored.2 "/p.toml" = .ok p ∧
      p.get "font" "0" = .ok "1" ∧ p.get "weight" "0" = .ok "2" ∧ p.get "color" "0" = .ok "0" := by
  have hatomic : ∀ fs : FileSystem,
      fs.createDirectories (Path.directory "/p.toml") = (.ok (), fs) :=
    fun fs => rfl
  have hwrites : ∀ fs : FileSystem, fs.Writes "/p.toml" fs.replace := fun fs =>
    FileSystem.writes_replace (FileSystem.atomic_of_directory (hatomic fs))
  have hrun : SetRun "/p.toml" { file := some "/p.toml" } {} lastStored.1 lastStored.2 :=
    (((SetRun.start.stored (hwrites _)).stored (FileSystem.writes_refusing _ _)).stored
      (FileSystem.writes_refusing _ _)).stored (hwrites _)
  have hopen : Parameters.open? {} "/p.toml" = .ok { file := some "/p.toml" } := rfl
  obtain ⟨hheld, -, p, hreopen, hget⟩ := agrees_of_setRun hopen hrun
  exact ⟨hrun, hheld, p, hreopen, hget "font" "0", hget "weight" "0", hget "color" "0"⟩

end Parameters

end Twilight
