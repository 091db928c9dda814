import Mathlib.Data.List.Induction
import Twilight.CommandLine.Arguments

namespace Twilight.CommandLine

/-!
# The grammar of the command line

* `Item`, `written` — options with their values and words, and the arguments they are written as.
* `optionsOf`, `wordsOf` — what items set, and the words among them.
* `split_eq_ok_iff` — arguments are split exactly if they are written items.
* `Rearranged` — options stand elsewhere, in the same order among those of their kind.
* `Understood`, `understood_parse` — which arguments ask for what.
-/

/-! ### Items -/

/-- An argument that is no option: it does not begin with a dash, or is only a dash. -/
def IsWord (argument : String) : Prop := argument.toList.head? ≠ some '-' ∨ argument = "-"

/-- How the name of an option is spelled. -/
inductive Spelling where
  | long
  | short

/-- An option, with its value if it takes one, or a word. -/
inductive Item where
  | debug (spelling : Spelling)
  | directory (spelling : Spelling) (value : String)
  | logFile (spelling : Spelling) (value : String)
  | word (text : String) (isWord : IsWord text)

namespace Item

def debugName : Spelling → String
  | .long => "--debug"
  | .short => "-d"

def directoryName : Spelling → String
  | .long => "--config"
  | .short => "-c"

def logFileName : Spelling → String
  | .long => "--log"
  | .short => "-l"

/-- The arguments that an item is written as. -/
def written : Item → List String
  | .debug spelling => [debugName spelling]
  | .directory spelling value => [directoryName spelling, value]
  | .logFile spelling value => [logFileName spelling, value]
  | .word text _ => [text]

def kind : Item → Kind
  | .debug _ => .debug
  | .directory _ _ => .directory
  | .logFile _ _ => .logFile
  | .word _ _ => .word

def directory? : Item → Option String
  | .directory _ value => some value
  | _ => none

def logFile? : Item → Option String
  | .logFile _ value => some value
  | _ => none

def word? : Item → Option String
  | .word text _ => some text
  | _ => none

end Item

/-- The arguments that items are written as. -/
def written (items : List Item) : List String := items.flatMap Item.written

/-- What items set: of two values of an option, the last one counts. -/
def optionsOf (items : List Item) : Options where
  debug := items.any fun item => item.kind = .debug
  configDirectory := (items.filterMap Item.directory?).getLast?
  logFile := (items.filterMap Item.logFile?).getLast?

/-- The words among items. -/
def wordsOf (items : List Item) : List String := items.filterMap Item.word?

/-! ### Arguments one by one -/

variable {argument : String} {arguments rest words : List String} {o : Options} {action : Action}

/-- The arguments that `isOption` says no to are exactly the words. -/
theorem isOption_eq_false_iff : isOption argument = false ↔ IsWord argument := by
  unfold isOption IsWord
  rw [← String.toList_inj]
  split
  · rename_i cs hcs
    simp [hcs]
  · rename_i hno
    simp only [true_iff]
    cases hcs : argument.toList with
    | nil => exact .inl (by simp)
    | cons c cs =>
      by_cases hc : c = '-'
      · cases cs with
        | nil =>
          rw [hc]
          exact .inr rfl
        | cons d ds => exact absurd hcs (by rw [hc]; exact hno d ds)
      · exact .inl (by simpa using hc)

/-- A name in one of the two spellings is the long one or the short one. -/
theorem exists_spelling_iff {name : Spelling → String} :
    (∃ s, argument = name s) ↔ argument = name .long ∨ argument = name .short := by
  constructor
  · rintro ⟨s, rfl⟩
    cases s with
    | long => exact .inl rfl
    | short => exact .inr rfl
  · exact fun h => h.elim (fun h => ⟨.long, h⟩) fun h => ⟨.short, h⟩

/-- `kindOf` takes an argument for the debug option if and only if it is a spelling of its name. -/
theorem kindOf_eq_debug_iff : kindOf argument = .debug ↔ ∃ s, argument = Item.debugName s := by
  rw [exists_spelling_iff]
  unfold kindOf Item.debugName
  grind

/-- `kindOf` takes an argument for the option of the configuration directory if and only if it is a
    spelling of its name. -/
theorem kindOf_eq_directory_iff :
    kindOf argument = .directory ↔ ∃ s, argument = Item.directoryName s := by
  rw [exists_spelling_iff]
  unfold kindOf Item.directoryName
  grind

/-- `kindOf` takes an argument for the option of the log file if and only if it is a spelling of its
    name. -/
theorem kindOf_eq_logFile_iff :
    kindOf argument = .logFile ↔ ∃ s, argument = Item.logFileName s := by
  rw [exists_spelling_iff]
  unfold kindOf Item.logFileName
  grind

/-- `kindOf` takes an argument for a word if and only if it is one, as `IsWord` says. -/
theorem kindOf_eq_word_iff : kindOf argument = .word ↔ IsWord argument := by
  have hnames : ∀ name ∈ ["--debug", "-d", "--config", "-c", "--log", "-l"],
      isOption name = true := by
    decide
  rw [← isOption_eq_false_iff]
  unfold kindOf
  grind

/-! ### Splitting -/

/-- Options once one more item is read. -/
def Options.note (o : Options) : Item → Options
  | .debug _ => { o with debug := true }
  | .directory _ value => { o with configDirectory := some value }
  | .logFile _ value => { o with logFile := some value }
  | .word _ _ => o

/-- What items set when one more comes last is what that item makes of what the others set, by
    `Options.note`. -/
theorem optionsOf_snoc (items : List Item) (item : Item) :
    optionsOf (items ++ [item]) = (optionsOf items).note item := by
  unfold optionsOf
  cases item <;>
    simp [Options.note, Item.kind, List.filterMap_append, Item.directory?, Item.logFile?]

/-- Noting items one after another, from no options on, gives all that they set, as `optionsOf`
    says. -/
theorem foldl_note (items : List Item) : items.foldl Options.note {} = optionsOf items := by
  induction items using List.reverseRecOn with
  | nil => rfl
  | append_singleton items item ih =>
    rw [List.foldl_append, ih, optionsOf_snoc]
    rfl

/-- `splitFrom` reads the arguments that an item is written as in one go: it notes the item, and
    goes on with the rest. -/
theorem splitFrom_item (o : Options) (words : List String) (item : Item) (rest : List String) :
    splitFrom o words (item.written ++ rest) =
      splitFrom (o.note item) (words ++ item.word?.toList) rest := by
  cases item with
  | debug s =>
    show splitFrom o words (Item.debugName s :: rest) = _
    rw [splitFrom.eq_def]
    simp only [kindOf_eq_debug_iff.2 ⟨s, rfl⟩]
    exact congrArg (splitFrom _ · rest) (List.append_nil words).symm
  | directory s value =>
    show splitFrom o words (Item.directoryName s :: value :: rest) = _
    rw [splitFrom.eq_def]
    simp only [kindOf_eq_directory_iff.2 ⟨s, rfl⟩]
    exact congrArg (splitFrom _ · rest) (List.append_nil words).symm
  | logFile s value =>
    show splitFrom o words (Item.logFileName s :: value :: rest) = _
    rw [splitFrom.eq_def]
    simp only [kindOf_eq_logFile_iff.2 ⟨s, rfl⟩]
    exact congrArg (splitFrom _ · rest) (List.append_nil words).symm
  | word text hword =>
    -- a word is put behind those before it
    show splitFrom o words (text :: rest) = _
    rw [splitFrom.eq_def]
    simp only [kindOf_eq_word_iff.2 hword]
    rfl

/-- `splitFrom` reads the arguments of written items without an error, and gets their options and
    their words. -/
theorem splitFrom_written (o : Options) (words : List String) (items : List Item) :
    splitFrom o words (written items) =
      .ok (items.foldl Options.note o, words ++ wordsOf items) := by
  -- each item is noted before the rest is read, so options and words stand for any
  induction items generalizing o words with
  | nil =>
    rw [wordsOf, List.filterMap_nil, List.append_nil]
    rfl
  | cons item items ih =>
    have hwords : item.word?.toList ++ wordsOf items = wordsOf (item :: items) := by
      cases item <;> rfl
    show splitFrom o words (item.written ++ written items) = _
    rw [splitFrom_item, ih, List.append_assoc, hwords]
    rfl

/-- Arguments that `splitFrom` reads without an error are written items. By induction along the
    function, each of its cases being one kind of item. -/
theorem exists_written_of_splitFrom {result : Options × List String}
    (h : splitFrom o words arguments = .ok result) : ∃ items, arguments = written items := by
  -- cases 3, 5 and 7 are the options that lack their value, or that nobody knows
  fun_induction splitFrom o words arguments with
  | case1 => exact ⟨[], rfl⟩
  | case2 o words argument rest hkind ih =>
    obtain ⟨s, rfl⟩ := kindOf_eq_debug_iff.1 hkind
    obtain ⟨items, rfl⟩ := ih h
    exact ⟨.debug s :: items, rfl⟩
  | case3 => cases h
  | case4 o words argument hkind value rest ih =>
    obtain ⟨s, rfl⟩ := kindOf_eq_directory_iff.1 hkind
    obtain ⟨items, rfl⟩ := ih h
    exact ⟨.directory s value :: items, rfl⟩
  | case5 => cases h
  | case6 o words argument hkind value rest ih =>
    obtain ⟨s, rfl⟩ := kindOf_eq_logFile_iff.1 hkind
    obtain ⟨items, rfl⟩ := ih h
    exact ⟨.logFile s value :: items, rfl⟩
  | case7 => cases h
  | case8 o words argument rest hkind ih =>
    have hword := kindOf_eq_word_iff.1 hkind
    obtain ⟨items, rfl⟩ := ih h
    exact ⟨.word argument hword :: items, rfl⟩

/-- `split` gets from written items what they set and which words there are. -/
theorem split_written (items : List Item) :
    split (written items) = .ok (optionsOf items, wordsOf items) := by
  unfold split
  rw [splitFrom_written, foldl_note, List.nil_append]

/-- `split` succeeds exactly on what is written as items, with their options and words. So the items
    are the grammar that it reads. -/
theorem split_eq_ok_iff : split arguments = .ok (o, words) ↔
    ∃ items, arguments = written items ∧ o = optionsOf items ∧ words = wordsOf items := by
  constructor
  · intro h
    obtain ⟨items, rfl⟩ := exists_written_of_splitFrom h
    rw [split_written] at h
    obtain ⟨rfl, rfl⟩ := Prod.mk.inj (Except.ok.inj h)
    exact ⟨items, rfl, rfl, rfl⟩
  · rintro ⟨items, rfl, rfl, rfl⟩
    exact split_written items

/-! ### Words -/

/-- Words that make up a command, and the action that they ask for. -/
inductive Commands (o : Options) (words : List String) : Action → Prop
  | run : words = [] ∨ words = ["run"] → Commands o words (.run o)
  | status : words = ["status"] → Commands o words (.status o)
  | check {start finish : String} : words = ["check", start, finish] →
      Commands o words (.check o start finish)

/-- `dispatch` finds the action of words that make up a command. -/
theorem Commands.dispatch_eq (h : Commands o words action) : dispatch o words = action := by
  cases h with
  | run hwords => rcases hwords with rfl | rfl <;> rfl
  | status hwords =>
    subst hwords
    rfl
  | check hwords =>
    subst hwords
    rfl

/-- Words that make up a command by `Commands` are never answered with a usage error. -/
theorem Commands.ne_usageError (h : Commands o words action) (e : UsageError) :
    action ≠ .usageError e := by
  rintro rfl
  cases h

/-- `dispatch` answers the command that the words make up by `Commands`, or a usage error where
    there is none. -/
theorem commands_or_usageError (o : Options) (words : List String) :
    Commands o words (dispatch o words) ∨ ∃ e, dispatch o words = .usageError e := by
  -- one case per branch of `dispatch`; only words that are too many or unknown are refused
  cases words with
  | nil => exact .inl (.run (.inl rfl))
  | cons command rest =>
    unfold dispatch
    by_cases hrun : command = "run"
    · by_cases hrest : rest = []
      · simp only [if_pos hrun, if_pos hrest]
        exact .inl (.run (.inr (by rw [hrun, hrest])))
      · simp only [if_pos hrun, if_neg hrest]
        exact .inr ⟨_, rfl⟩
    · by_cases hstatus : command = "status"
      · by_cases hrest : rest = []
        · simp only [if_neg hrun, if_pos hstatus, if_pos hrest]
          exact .inl (.status (by rw [hstatus, hrest]))
        · simp only [if_neg hrun, if_pos hstatus, if_neg hrest]
          exact .inr ⟨_, rfl⟩
      · by_cases hcheck : command = "check"
        · simp only [if_neg hrun, if_neg hstatus, if_pos hcheck]
          split
          · exact .inl (.check (by rw [hcheck]))
          · exact .inr ⟨_, rfl⟩
        · simp only [if_neg hrun, if_neg hstatus, if_neg hcheck]
          exact .inr ⟨_, rfl⟩

/-! ### Requests for the version and for help -/

/-- One of the names is among the arguments. -/
def Requests (names arguments : List String) : Prop := ∃ name ∈ names, name ∈ arguments

def versionNames : List String := ["--version", "-V", "-v"]

def helpNames : List String := ["--help", "-h"]

/-- Nobody asks for the version or for help. -/
def Ordinary (arguments : List String) : Prop :=
  ¬ Requests versionNames arguments ∧ ¬ Requests helpNames arguments

/-- Some argument asks for the version, as `asksVersion` tests it, if and only if one of
    `versionNames` is among them. -/
theorem any_asksVersion_iff :
    arguments.any asksVersion = true ↔ Requests versionNames arguments := by
  simp [Requests, versionNames, asksVersion, or_assoc, and_or_left, exists_or]

/-- Some argument asks for help, as `asksHelp` tests it, if and only if one of `helpNames` is among
    them. -/
theorem any_asksHelp_iff : arguments.any asksHelp = true ↔ Requests helpNames arguments := by
  simp [Requests, helpNames, asksHelp, and_or_left, exists_or]

/-- A request for the version decides what `parse` answers, whatever else is among the arguments. -/
theorem parse_of_version (h : Requests versionNames arguments) : parse arguments = .version :=
  if_pos (any_asksVersion_iff.2 h)

/-- Where nobody asks for the version, a request for help decides the outcome of `parse`, whatever
    else is there. -/
theorem parse_of_help (hversion : ¬ Requests versionNames arguments)
    (hhelp : Requests helpNames arguments) : parse arguments = .help := by
  unfold parse
  rw [if_neg (mt any_asksVersion_iff.1 hversion), if_pos (any_asksHelp_iff.2 hhelp)]

/-- Of items with no such request, `parse` gives what `dispatch` finds for their options and words.
    -/
theorem parse_written {items : List Item} (h : Ordinary (written items)) :
    parse (written items) = dispatch (optionsOf items) (wordsOf items) := by
  unfold parse
  rw [if_neg (mt any_asksVersion_iff.1 h.1), if_neg (mt any_asksHelp_iff.1 h.2), split_written]

/-- Arguments without such a request that are no written items are a usage error to `parse`. -/
theorem parse_of_not_written (h : Ordinary arguments) (hno : ¬ ∃ items, arguments = written items) :
    ∃ e, parse arguments = .usageError e := by
  unfold parse
  rw [if_neg (mt any_asksVersion_iff.1 h.1), if_neg (mt any_asksHelp_iff.1 h.2)]
  cases hsplit : split arguments with
  | ok result => exact absurd (exists_written_of_splitFrom hsplit) hno
  | error e => exact ⟨e, rfl⟩

/-- Without a request, arguments ask for the command that they are written for, or are refused. -/
theorem Ordinary.parse_cases (h : Ordinary arguments) :
    (∃ items, arguments = written items ∧
        Commands (optionsOf items) (wordsOf items) (parse arguments)) ∨
      (∃ e, parse arguments = .usageError e) := by
  by_cases hwritten : ∃ items, arguments = written items
  · obtain ⟨items, rfl⟩ := hwritten
    rcases commands_or_usageError (optionsOf items) (wordsOf items) with hcommand | hrefused
    · rw [← parse_written h] at hcommand
      exact .inl ⟨items, rfl, hcommand⟩
    · rw [← parse_written h] at hrefused
      exact .inr hrefused
  · exact .inr (parse_of_not_written h hwritten)

/-! ### Options in other places -/

/-- The same items, with those of each kind in the same order. -/
def Rearranged (items items₁ : List Item) : Prop :=
  ∀ k, items₁.filter (·.kind = k) = items.filter (·.kind = k)

/-- Moving one item past others of other kinds leaves the arguments `Rearranged`. -/
theorem rearranged_move (before between rest : List Item) {item : Item}
    (h : ∀ other ∈ between, other.kind ≠ item.kind) :
    Rearranged (before ++ item :: (between ++ rest)) (before ++ (between ++ item :: rest)) := by
  intro k
  by_cases hk : item.kind = k
  · -- nothing in between is of its kind, so it stays where it is among these
    have hnone : between.filter (·.kind = k) = [] := by
      rw [List.filter_eq_nil_iff]
      intro other hother
      simpa [hk] using h other hother
    simp [List.filter_append, hk, hnone]
  · simp [List.filter_append, hk]

variable {items items₁ : List Item}

/-- Rearranging keeps every item, because an item is among those of its kind. -/
theorem Rearranged.mem_iff (h : Rearranged items items₁) (item : Item) :
    item ∈ items₁ ↔ item ∈ items := by
  have hself : ∀ l : List Item, item ∈ l ↔ item ∈ l.filter (·.kind = item.kind) := by
    intro l
    simp [List.mem_filter]
  rw [hself items₁, h item.kind, ← hself items]

/-- What a function reads off the items of one kind, and off no others, is the same after these were
    `Rearranged`. -/
theorem Rearranged.filterMap (h : Rearranged items items₁) {k : Kind} {f : Item → Option String}
    (hf : ∀ item, item.kind ≠ k → f item = none) : items₁.filterMap f = items.filterMap f := by
  have hfilter : ∀ l : List Item, l.filterMap f = (l.filter (·.kind = k)).filterMap f := by
    intro l
    rw [List.filterMap_filter]
    congr 1
    funext item
    by_cases hk : item.kind = k
    · simp [hk]
    · simp [hk, hf item hk]
  rw [hfilter items₁, h k, ← hfilter items]

/-- Rearranging keeps the words in order, since they are the items of one kind. -/
theorem Rearranged.wordsOf (h : Rearranged items items₁) : wordsOf items₁ = wordsOf items := by
  refine h.filterMap (k := .word) fun item hk => ?_
  cases item with
  | word text isWord => exact absurd rfl hk
  | _ => rfl

/-- Rearranging keeps what the items set: of two values of an option the last one stays the last
    one. -/
theorem Rearranged.optionsOf (h : Rearranged items items₁) :
    optionsOf items₁ = optionsOf items := by
  have hdirectory : items₁.filterMap Item.directory? = items.filterMap Item.directory? := by
    refine h.filterMap (k := .directory) fun item hk => ?_
    cases item with
    | directory s value => exact absurd rfl hk
    | _ => rfl
  have hlogFile : items₁.filterMap Item.logFile? = items.filterMap Item.logFile? := by
    refine h.filterMap (k := .logFile) fun item hk => ?_
    cases item with
    | logFile s value => exact absurd rfl hk
    | _ => rfl
  -- for the flag it is enough that it is there
  have hdebug : items₁.any (fun item => item.kind = .debug) =
      items.any fun item => item.kind = .debug := by
    rw [Bool.eq_iff_iff, List.any_eq_true, List.any_eq_true]
    simp only [h.mem_iff]
  unfold CommandLine.optionsOf
  rw [hdirectory, hlogFile, hdebug]

/-- Rearranging adds no request for the version or for help, and loses none. -/
theorem Rearranged.requests_iff (h : Rearranged items items₁) (names : List String) :
    Requests names (written items₁) ↔ Requests names (written items) := by
  unfold Requests written
  simp only [List.mem_flatMap, h.mem_iff]

/-- Rearranged items mean the same to `parse`, with or without requests among them. -/
theorem Rearranged.parse_eq (h : Rearranged items items₁) :
    parse (written items₁) = parse (written items) := by
  by_cases hversion : Requests versionNames (written items)
  · rw [parse_of_version hversion, parse_of_version ((h.requests_iff _).2 hversion)]
  · have hversion₁ := mt (h.requests_iff versionNames).1 hversion
    by_cases hhelp : Requests helpNames (written items)
    · rw [parse_of_help hversion hhelp, parse_of_help hversion₁ ((h.requests_iff _).2 hhelp)]
    · have hhelp₁ := mt (h.requests_iff helpNames).1 hhelp
      rw [parse_written ⟨hversion, hhelp⟩, parse_written ⟨hversion₁, hhelp₁⟩, h.optionsOf,
        h.wordsOf]

/-! ### What arguments ask for -/

/-- Arguments ask for the version, or otherwise for help, or they are ordinary. -/
theorem request_cases (arguments : List String) : Requests versionNames arguments ∨
    (¬ Requests versionNames arguments ∧ Requests helpNames arguments) ∨ Ordinary arguments := by
  by_cases hversion : Requests versionNames arguments
  · exact .inl hversion
  · by_cases hhelp : Requests helpNames arguments
    · exact .inr (.inl ⟨hversion, hhelp⟩)
    · exact .inr (.inr ⟨hversion, hhelp⟩)

/-- Arguments that are `Ordinary` are answered neither with the version nor with help. -/
theorem Ordinary.not_request (h : Ordinary arguments) :
    parse arguments ≠ .version ∧ parse arguments ≠ .help := by
  rcases h.parse_cases with ⟨items, -, hc⟩ | ⟨e, he⟩
  · constructor
    · intro hparse
      rw [hparse] at hc
      cases hc
    · intro hparse
      rw [hparse] at hc
      cases hc
  · rw [he]
    exact ⟨nofun, nofun⟩

/-- Where `parse` answers neither the version nor help, the arguments were `Ordinary`. -/
theorem ordinary_of_parse (hparse : parse arguments = action) (hversion : action ≠ .version)
    (hhelp : action ≠ .help) : Ordinary arguments := by
  rcases request_cases arguments with h | ⟨h, h'⟩ | h
  · exact absurd (hparse.symm.trans (parse_of_version h)) hversion
  · exact absurd (hparse.symm.trans (parse_of_help h h')) hhelp
  · exact h

/-- An action of a command is that of the arguments that the command is written as. -/
theorem parse_eq_iff_of_command (hversion : action ≠ .version) (hhelp : action ≠ .help)
    (hcommand : ∀ e, action ≠ .usageError e) : parse arguments = action ↔ Ordinary arguments ∧
      ∃ items, arguments = written items ∧ Commands (optionsOf items) (wordsOf items) action := by
  constructor
  · intro hparse
    have h := ordinary_of_parse hparse hversion hhelp
    rcases h.parse_cases with hwritten | ⟨e, he⟩
    · exact ⟨h, hparse ▸ hwritten⟩
    · exact absurd (hparse.symm.trans he) (hcommand e)
  · rintro ⟨h, items, rfl, hc⟩
    rw [parse_written h, hc.dispatch_eq]

/-- The action is what the arguments ask for. -/
structure Understood (arguments : List String) (action : Action) : Prop where
  /-- A request for the version wins wherever it stands, -/
  version : action = .version ↔ Requests versionNames arguments
  /-- and then one for help. -/
  help : action = .help ↔ ¬ Requests versionNames arguments ∧ Requests helpNames arguments
  /-- Without these, a command is asked for by its words and by options anywhere among them. -/
  run : ∀ o, action = .run o ↔ Ordinary arguments ∧ ∃ items, arguments = written items ∧
    o = optionsOf items ∧ (wordsOf items = [] ∨ wordsOf items = ["run"])
  status : ∀ o, action = .status o ↔ Ordinary arguments ∧ ∃ items, arguments = written items ∧
    o = optionsOf items ∧ wordsOf items = ["status"]
  check : ∀ o start finish, action = .check o start finish ↔ Ordinary arguments ∧
    ∃ items, arguments = written items ∧ o = optionsOf items ∧
      wordsOf items = ["check", start, finish]
  /-- Everything else is refused. -/
  refused : (∃ e, action = .usageError e) ↔ Ordinary arguments ∧ ¬ ∃ items command,
    arguments = written items ∧ Commands (optionsOf items) (wordsOf items) command
  /-- Options may as well stand elsewhere, if those of one kind keep their order. -/
  anywhere : ∀ items items₁, arguments = written items → Rearranged items items₁ →
    parse (written items₁) = action

/-- **Grammar of the command line.** All arguments are understood: as the request or the command
    that they are written for, and otherwise as a mistake. -/
theorem understood_parse (arguments : List String) : Understood arguments (parse arguments) where
  version := by
    refine ⟨fun hparse => ?_, parse_of_version⟩
    -- the arguments ask for the version, or for help and not for that, or for neither
    rcases request_cases arguments with h | ⟨hversion, hhelp⟩ | h
    · exact h
    · rw [parse_of_help hversion hhelp] at hparse
      cases hparse
    · exact absurd hparse h.not_request.1
  help := by
    refine ⟨fun hparse => ?_, fun h => parse_of_help h.1 h.2⟩
    rcases request_cases arguments with h | h | h
    · rw [parse_of_version h] at hparse
      cases hparse
    · exact h
    · exact absurd hparse h.not_request.2
  run o := by
    rw [parse_eq_iff_of_command (by simp) (by simp) (by simp)]
    refine and_congr_right' (exists_congr fun items => and_congr_right' ?_)
    constructor
    · intro hc
      cases hc with
      | run hwords => exact ⟨rfl, hwords⟩
    · rintro ⟨rfl, hwords⟩
      exact .run hwords
  status o := by
    rw [parse_eq_iff_of_command (by simp) (by simp) (by simp)]
    refine and_congr_right' (exists_congr fun items => and_congr_right' ?_)
    constructor
    · intro hc
      cases hc with
      | status hwords => exact ⟨rfl, hwords⟩
    · rintro ⟨rfl, hwords⟩
      exact .status hwords
  check o start finish := by
    rw [parse_eq_iff_of_command (by simp) (by simp) (by simp)]
    refine and_congr_right' (exists_congr fun items => and_congr_right' ?_)
    constructor
    · intro hc
      cases hc with
      | check hwords => exact ⟨rfl, hwords⟩
    · rintro ⟨rfl, hwords⟩
      exact .check hwords
  refused := by
    constructor
    · rintro ⟨e, he⟩
      -- a usage error is no answer to a request, so the arguments are ordinary
      have h := ordinary_of_parse he (by simp) (by simp)
      refine ⟨h, ?_⟩
      rintro ⟨items, command, rfl, hc⟩
      rw [parse_written h, hc.dispatch_eq] at he
      exact hc.ne_usageError e he
    · rintro ⟨h, hno⟩
      refine h.parse_cases.resolve_left ?_
      rintro ⟨items, hwritten, hc⟩
      exact hno ⟨items, _, hwritten, hc⟩
  anywhere := by
    rintro items items₁ rfl h
    exact h.parse_eq

/-- An option moves to the front, past the word and the other option, whose value looks like a third
    one. -/
theorem understood_of_moved :
    parse ["-d", "status", "-c", "--log"] = parse ["status", "-c", "--log", "-d"] ∧
      parse ["status", "-c", "--log", "-d"] =
        .status { debug := true, configDirectory := some "--log" } := by
  have hword : IsWord "status" := .inl (by decide)
  have hothers : ∀ other ∈ [Item.word "status" hword, .directory .short "--log"],
      other.kind ≠ (Item.debug .short).kind := by simp [Item.kind]
  have hmove := rearranged_move [] _ [] hothers
  exact ⟨((understood_parse _).anywhere _ _ rfl hmove).symm, by decide⟩

end Twilight.CommandLine
