import Twilight.Proofs.Files.Replace

namespace Twilight.FileSystem

/-!
# Contents put at a path again and again

* `FileSystem.obstacle?` — what any new contents for a path meet with.
* `FileSystem.obstacle?_replace` — that stays the same, whether contents were put there meanwhile or
  were refused: directories that were made on the way are not in the way.
* `FileSystem.lookup?_of_not_replaced` — a file is still there after contents were refused
  somewhere.
-/

variable {fs fs₁ : FileSystem} {path : String}

/-! ### Directories made twice -/

/-- Directories that were made once need not be made again; what was in the way still is. -/
theorem createFrom_again (fs : FileSystem) (place : Place) (pieces : List String) :
    (fs.createFrom place pieces).2.createFrom place pieces = fs.createFrom place pieces := by
  induction pieces generalizing fs place with
  | nil => rfl
  | cons piece rest ih =>
    by_cases hname : Path.isName piece = true
    · cases hnode : fs.node? (step place piece) with
      | none =>
        by_cases hnameless : place.isNameless = true
        · simp only [createFrom, hname, hnode, hnameless, if_true]
        · have hstart : fs.createFrom place (piece :: rest) =
              (fs.putNode (step place piece) .directory).createFrom (step place piece) rest := by
            simp only [createFrom, hname, hnode, hnameless, if_true]
            rfl
          -- the directory that was made is there the second time
          have hmade :
              (fs.putNode (step place piece) .directory).isDirectory (step place piece) = true := by
            rw [isDirectory_iff, node?_putDirectory, if_pos rfl]
          have hthere := (sameFiles_createFrom _ (step place piece) rest).directory _ hmade
          rw [hstart]
          conv_lhs => unfold createFrom
          simp only [hname, if_true, isDirectory_iff.1 hthere]
          exact ih _ _
      | some node =>
        cases node with
        | file id contents => simp only [createFrom, hname, hnode, if_true]
        | directory =>
          have hstart : fs.createFrom place (piece :: rest) =
              fs.createFrom (step place piece) rest := by
            simp only [createFrom, hname, hnode, if_true]
          have hthere := (sameFiles_createFrom fs (step place piece) rest).directory _
            (isDirectory_iff.2 hnode)
          rw [hstart]
          conv_lhs => unfold createFrom
          simp only [hname, if_true, isDirectory_iff.1 hthere]
          exact ih _ _
    · simp [createFrom, hname]

/-- `createFrom` does not move the place where relative paths start. By induction on the pieces. -/
theorem here_createFrom (fs : FileSystem) (place : Place) (pieces : List String) :
    (fs.createFrom place pieces).2.here = fs.here := by
  induction pieces generalizing fs place with
  | nil => rfl
  | cons piece rest ih =>
    unfold createFrom
    dsimp only
    split
    · split
      · exact ih fs _
      · rfl
      · split
        · rfl
        · exact ih _ _
    · rfl

/-- `createDirectories` does not move the place where relative paths start. -/
theorem here_createDirectories (fs : FileSystem) (path : String) :
    (fs.createDirectories path).2.here = fs.here := by
  unfold createDirectories
  cases refusal? path with
  | some problem => rfl
  | none =>
    by_cases he : path = ""
    · simp only [if_pos he]
    · simp only [if_neg he]
      exact here_createFrom fs _ _

/-- Creating the same directories again has the same result: what could be made is there, and what
    stopped it still does. -/
theorem createDirectories_again (fs : FileSystem) (path : String) :
    (fs.createDirectories path).2.createDirectories path = fs.createDirectories path := by
  have horigin : (fs.createDirectories path).2.origin path = fs.origin path := by
    unfold origin
    rw [here_createDirectories]
  unfold createDirectories at horigin ⊢
  cases hrefusal : refusal? path with
  | some problem => rfl
  | none =>
    by_cases he : path = ""
    · simp only [if_pos he]
    · simp only [hrefusal, if_neg he] at horigin ⊢
      rw [horigin]
      exact createFrom_again fs _ _

/-! ### What is in the way -/

/-- What any new contents for a path meet with, if they are refused. -/
def obstacle? (fs : FileSystem) (path : String) : Option FileProblem :=
  match (fs.replace path "").1 with
  | .error problem => some problem
  | .ok _ => none

/-- What `replace` answers is the `obstacle?` at the path, whatever the contents are. -/
theorem replace_fst (fs : FileSystem) (path contents : String) :
    (fs.replace path contents).1 =
      match fs.obstacle? path with
      | some problem => .error problem
      | none => .ok () := by
  unfold obstacle? replace
  generalize fs.createDirectories (Path.directory path) = made
  obtain ⟨result, fs₀⟩ := made
  cases result with
  | error e => rfl
  | ok _ =>
    dsimp only
    cases fs₀.refusalFromRoot? (Path.join (Path.directory path) temporaryName) with
    | some problem => rfl
    | none =>
      dsimp only
      cases fs₀.place? path with
      | none => rfl
      | some place =>
        dsimp only
        by_cases hdir : fs₀.isDirectory place = true
        · simp only [if_pos hdir]
        · simp only [if_neg hdir]

/-- There is no `obstacle?` exactly where contents can be replaced, whichever they are. -/
theorem obstacle?_eq_none {contents : String} :
    fs.obstacle? path = none ↔ (fs.replace path contents).1 = .ok () := by
  rw [replace_fst]
  cases fs.obstacle? path <;> simp

/-- Nor does it depend on whether contents were put there before, or could not be. -/
theorem obstacle?_replace (fs : FileSystem) (path contents : String) :
    (fs.replace path contents).2.obstacle? path = fs.obstacle? path := by
  have hfst := replace_fst fs path contents
  generalize hr : fs.replace path contents = r at hfst
  obtain ⟨result, fs₁⟩ := r
  cases result with
  | ok _ =>
    -- what was replaced still can be
    obtain ⟨fs₂, hagain, -⟩ := replace_of_replaceable (replaceable_of_replace hr) ""
    have hnow : fs₁.obstacle? path = none := obstacle?_eq_none.2 (by rw [hagain])
    have hthen : fs.obstacle? path = none := obstacle?_eq_none.2 (by rw [hr])
    rw [hnow, hthen]
  | error problem =>
    show fs₁.obstacle? path = fs.obstacle? path
    rw [eq_of_not_replaced hr]
    unfold obstacle? replace
    rw [createDirectories_again]

/-! ### Files elsewhere -/

/-- A way through the directories is still there where files are the same and directories were only
    added. -/
theorem follow_of_sameFiles (hs : SameFiles fs fs₁) {place target : Place} {pieces : List String}
    (hf : fs.follow place pieces = some target) : fs₁.follow place pieces = some target := by
  induction pieces generalizing place with
  | nil => exact hf
  | cons piece rest ih =>
    unfold follow at hf ⊢
    by_cases hstep : (fs.isDirectory place && Path.isName piece) = true
    · rw [if_pos hstep] at hf
      obtain ⟨hdir, hname⟩ := Bool.and_eq_true_iff.1 hstep
      rw [if_pos (by rw [hs.directory place hdir, hname]; rfl)]
      exact ih hf
    · rw [if_neg hstep] at hf
      cases hf

/-- A path that names a file does so still where `replace` failed, at whichever path. -/
theorem lookup?_of_not_replaced {contents other : String} {problem : FileProblem} {id : Nat}
    {found : Contents} (he : fs.replace path contents = (.error problem, fs₁))
    (hfile : fs.lookup? other = some (.file id found)) :
    fs₁.lookup? other = some (.file id found) := by
  have hs := sameFiles_of_not_replaced he
  have hhere : fs₁.here = fs.here := by
    rw [eq_of_not_replaced he, here_createDirectories]
  unfold lookup? at hfile ⊢
  obtain ⟨place, hplace, hnode⟩ := Option.bind_eq_some_iff.1 hfile
  have hplace₁ : fs₁.place? other = some place := by
    unfold place? origin at hplace ⊢
    rw [hhere]
    by_cases hp : other ≠ "" ∧ Path.isPossible other = true
    · rw [if_pos hp] at hplace ⊢
      exact follow_of_sameFiles hs hplace
    · rw [if_neg hp] at hplace
      cases hplace
  rw [hplace₁, Option.bind_some]
  exact (hs.file place id found).2 hnode

end Twilight.FileSystem
