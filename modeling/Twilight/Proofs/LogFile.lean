import Twilight.Daemon.LogFile
import Twilight.Proofs.Daemon.Act
import Twilight.Proofs.Files.Numbers
import Twilight.Proofs.Log.Colors
import Twilight.Proofs.Text.Numeral

namespace Twilight

/-!
# What a log file holds

* `Line.plainDecoration`, `Line.recorded` — what stands in front of a message in a log file, and the
  whole line there.
* `Entry`, `Journal.run` — what happens to a journal: lines are logged, switches are set.
* `output` — the lines that come through, in either form; `Takes.run` puts them where the journal's
  output goes, to the console (`takes_console`) or to a file (`takes_file`).
* `uncolored_join_output` — what comes to a file is what would come to the console, without color
  codes.
* `Daemon.uncolored_of_logsTo` — so it is for a log file from its start to its end.
-/

open Text

namespace Log

/-! ### Texts -/

/-- A text without its color codes. -/
def uncolored (s : String) : String := String.ofList (stripColors s.toList)

/-- A text whose color codes are all complete. -/
def IsComplete (s : String) : Prop := ∃ ps, Separate ps ∧ s.toList = textOf ps

variable {s t color word : String}

/-- A text without escape characters `IsComplete`: it has no color codes. -/
theorem isComplete_of_plain (hs : '\x1b' ∉ s.toList) : IsComplete s := by
  obtain ⟨ps, rest, hps, hrest, htext⟩ := exists_pieces s.toList
  cases hrest with
  | nothing => exact ⟨ps, hps, htext.trans (List.append_nil _)⟩
  | code =>
    rw [htext] at hs
    exact absurd (List.mem_append_right _ List.mem_cons_self) hs

/-- `uncolored` leaves a text without escape characters as it is, whatever comes behind it. -/
theorem uncolored_append_of_plain (hs : '\x1b' ∉ s.toList) (t : String) :
    uncolored (s ++ t) = s ++ uncolored t := by
  unfold uncolored
  rw [String.toList_append, stripColors_append_of_plain hs, String.ofList_append,
    String.ofList_toList]

/-- Two texts may be `uncolored` one after the other where the first one `IsComplete`, and the
    second one does not start with a bracket. -/
theorem uncolored_append_of_complete (hs : IsComplete s) (ht : t.toList.head? ≠ some '[') :
    uncolored (s ++ t) = uncolored s ++ uncolored t := by
  obtain ⟨ps, hps, htext⟩ := hs
  unfold uncolored
  rw [String.toList_append, htext, stripColors_textOf_append hps _ fun _ => ht,
    stripColors_textOf hps,
    String.ofList_append]

/-- `uncolored` drops a color code in front of a text. -/
theorem uncolored_code_append (hcolor : 'm' ∉ color.toList) (t : String) :
    uncolored ("\x1b[" ++ color ++ "m" ++ t) = uncolored t := by
  have htext : ("\x1b[" ++ color ++ "m" ++ t).toList =
      '\x1b' :: '[' :: (color.toList ++ 'm' :: t.toList) := by
    simp [String.toList_append]
  unfold uncolored
  rw [htext, stripColors_code hcolor]

/-- `uncolored` leaves the word of `colored` without the two codes around it. -/
theorem uncolored_colored_append (hcolor : 'm' ∉ color.toList) (hword : '\x1b' ∉ word.toList)
    (t : String) : uncolored (colored color word ++ t) = word ++ uncolored t := by
  have htext : colored color word ++ t =
      "\x1b[" ++ color ++ "m" ++ (word ++ ("\x1b[" ++ "0" ++ "m" ++ t)) := by
    simp [colored, String.append_assoc]
  rw [htext, uncolored_code_append hcolor, uncolored_append_of_plain hword,
    uncolored_code_append (by decide)]

/-! ### Lines -/

namespace Line

/-- What stands in front of the message in a log file. -/
def plainDecoration : Line → String
  | .version _ => "┏ "
  | .finish => "╹"
  | .pipe => "┃"
  | .decorated _ => "┣ "
  | .indented _ => "┃   "
  | .info _ => "┣[INFO] "
  | .warning _ => "┣[WARNING] "
  | .error _ => "┣[ERROR] "
  | .critical _ => "┣[CRITICAL] "
  | .debug _ => "┣[DEBUG] "
  | .failure _ => "┗[ERROR] "

/-- The line in a log file. -/
def recorded (l : Line) : String := l.plainDecoration ++ uncolored (l.message ++ "\n")

/-- Of a message without escape characters every character is `recorded`. -/
theorem recorded_of_plain {l : Line} (hl : '\x1b' ∉ l.message.toList) :
    l.recorded = l.plainDecoration ++ l.message ++ "\n" := by
  unfold recorded
  rw [uncolored_append_of_plain hl, String.append_assoc]
  rfl

/-- In front of any text, `uncolored` turns a line's `decoration` into its `plainDecoration`. -/
theorem uncolored_decoration_append (l : Line) (t : String) :
    uncolored (l.decoration ++ t) = l.plainDecoration ++ uncolored t := by
  -- a word in color, between what begins the line and a bracket
  have hlabel : ∀ corner color word : String, '\x1b' ∉ corner.toList → 'm' ∉ color.toList →
      '\x1b' ∉ word.toList →
      uncolored (corner ++ colored color word ++ "] " ++ t) =
        corner ++ word ++ "] " ++ uncolored t := by
    intro corner color word hcorner hcolor hword
    rw [String.append_assoc, String.append_assoc, uncolored_append_of_plain hcorner,
      uncolored_colored_append hcolor hword, uncolored_append_of_plain (by decide),
      ← String.append_assoc, ← String.append_assoc]
  cases l with
  | version => exact uncolored_append_of_plain (show '\x1b' ∉ "┏ ".toList by decide) t
  | finish => exact uncolored_append_of_plain (show '\x1b' ∉ "╹".toList by decide) t
  | pipe => exact uncolored_append_of_plain (show '\x1b' ∉ "┃".toList by decide) t
  | decorated => exact uncolored_append_of_plain (show '\x1b' ∉ "┣ ".toList by decide) t
  | indented => exact uncolored_append_of_plain (show '\x1b' ∉ "┃   ".toList by decide) t
  | info => exact hlabel "┣[" "32" "INFO" (by decide) (by decide) (by decide)
  | warning => exact hlabel "┣[" "33" "WARNING" (by decide) (by decide) (by decide)
  | error => exact hlabel "┣[" "31" "ERROR" (by decide) (by decide) (by decide)
  | critical => exact hlabel "┣[" "31" "CRITICAL" (by decide) (by decide) (by decide)
  | debug => exact hlabel "┣[" "32" "DEBUG" (by decide) (by decide) (by decide)
  | failure => exact hlabel "┗[" "31" "ERROR" (by decide) (by decide) (by decide)

/-- `uncolored` turns a line's `decoration` into its `plainDecoration`. -/
theorem uncolored_decoration (l : Line) : uncolored l.decoration = l.plainDecoration := by
  have hnone := uncolored_decoration_append l ""
  rw [String.append_empty] at hnone
  exact hnone.trans String.append_empty

/-- A line that is rendered and `uncolored` is the line as `recorded`. -/
theorem uncolored_render (l : Line) : uncolored l.render = l.recorded := by
  unfold render recorded
  rw [String.append_assoc, uncolored_decoration_append]

/-- A line whose message `IsComplete` is `uncolored` by itself, and does not reach into what
    follows. -/
theorem uncolored_render_append {l : Line} (hl : IsComplete l.message) (t : String) :
    uncolored (l.render ++ t) = l.recorded ++ uncolored t := by
  -- the line feed behind the message is no bracket, so the message may end in an escape character
  have hfeed : uncolored (l.message ++ "\n") = uncolored l.message ++ "\n" :=
    uncolored_append_of_complete hl (by decide)
  have hhead : ("\n" ++ t).toList.head? ≠ some '[' := by
    rw [String.toList_append]
    exact fun h => absurd (Option.some.inj h) (by decide)
  have hmessage : uncolored (l.message ++ ("\n" ++ t)) =
      uncolored (l.message ++ "\n") ++ uncolored t := by
    rw [uncolored_append_of_complete hl hhead, uncolored_append_of_plain (by decide), hfeed,
      String.append_assoc]
  unfold render recorded
  rw [String.append_assoc, String.append_assoc, uncolored_decoration_append, hmessage,
    String.append_assoc]

end Line

/-! ### Journals -/

/-- The switches of a journal. -/
structure Switches where
  enabled : Bool
  debug : Bool
  stamped : Bool

/-- What happens to a journal: switches are set, or lines are logged together. -/
inductive Entry where
  | switched (switches : Switches)
  | logged (now : Time.Moment) (lines : List Line)

namespace Switches

variable (s : Switches)

/-- Whether a line comes through. -/
def shows (line : Line) : Bool := s.enabled && (s.debug || !line.isDebug)

/-- What stands in front of a line. -/
def stamp (now : Time.Moment) : String := if s.stamped then "[" ++ now.clockText ++ "] " else ""

/-- The lines that come through, in one of their forms. -/
def output (form : Line → String) (now : Time.Moment) (lines : List Line) : List String :=
  (lines.filter s.shows).map fun line => s.stamp now ++ form line

end Switches

/-- All lines that come through. -/
def output (form : Line → String) : Switches → List Entry → List String
  | _, [] => []
  | _, .switched s :: rest => output form s rest
  | s, .logged now lines :: rest => s.output form now lines ++ output form s rest

namespace Journal

def switches (j : Journal) : Switches := ⟨j.enabled, j.debug, j.stamped⟩

def enter (j : Journal) : Entry → Journal
  | .switched s => { j with enabled := s.enabled, debug := s.debug, stamped := s.stamped }
  | .logged now lines => j.emitAll now lines

def run (j : Journal) (entries : List Entry) : Journal := entries.foldl enter j

variable {j : Journal} {now : Time.Moment} {line : Line} {lines : List Line}

/-- Writing a text sets no switch. -/
@[simp] theorem switches_put (j : Journal) (text : String) :
    (j.put text).switches = j.switches := by
  unfold put
  split <;> rfl

theorem emit_eq (j : Journal) (now : Time.Moment) (line : Line) : j.emit now line =
    if j.switches.shows line then j.put (j.switches.stamp now ++ line.render) else j := rfl

/-- Logging a line sets no switch. -/
@[simp] theorem switches_emit (j : Journal) (now : Time.Moment) (line : Line) :
    (j.emit now line).switches = j.switches := by
  rw [emit_eq]
  split_ifs
  · exact switches_put j _
  · rfl

/-- Logging lines sets no switch. -/
@[simp] theorem switches_emitAll (j : Journal) (now : Time.Moment) (lines : List Line) :
    (j.emitAll now lines).switches = j.switches := by
  induction lines generalizing j with
  | nil => rfl
  | cons line lines ih => exact (ih (j.emit now line)).trans (switches_emit j now line)

end Journal

/-- If `Holds j texts` says that `texts` are what came out of a journal so far, then a line comes
    out of it in the form `form`, and setting switches changes nothing. -/
structure Takes (form : Line → String) (Holds : Journal → List String → Prop) : Prop where
  line {j : Journal} {texts : List String} (s : Switches) (now : Time.Moment) (line : Line) :
    Holds j texts → Holds (j.put (s.stamp now ++ line.render)) (texts ++ [s.stamp now ++ form line])
  switched {j : Journal} {texts : List String} (s : Switches) :
    Holds j texts → Holds (j.enter (.switched s)) texts

namespace Takes

variable {form : Line → String} {Holds : Journal → List String → Prop} {j : Journal}
  {texts : List String}

/-- Where a line comes out as `form` gives it, lines come out together as `Switches.output` lists
    them. -/
theorem emitAll (ht : Takes form Holds) (now : Time.Moment) (lines : List Line)
    (hj : Holds j texts) :
    Holds (j.emitAll now lines) (texts ++ j.switches.output form now lines) := by
  induction lines generalizing j texts with
  | nil =>
    show Holds j (texts ++ [])
    rwa [List.append_nil]
  | cons line lines ih =>
    show Holds ((j.emit now line).emitAll now lines) _
    unfold Switches.output at ih ⊢
    by_cases hshows : j.switches.shows line = true
    · -- the line comes through, and is the next one on the list
      have hline : Holds (j.emit now line) (texts ++ [j.switches.stamp now ++ form line]) := by
        rw [Journal.emit_eq, if_pos hshows]
        exact ht.line _ now line hj
      have hrest := ih hline
      rw [Journal.switches_emit, List.append_assoc] at hrest
      rwa [List.filter_cons_of_pos hshows]
    · -- nothing comes out, neither of the journal nor on the list
      have hsame : j.emit now line = j := by
        rw [Journal.emit_eq, if_neg hshows]
      rw [hsame, List.filter_cons_of_neg hshows]
      exact ih hj

/-- Whatever `Takes` lines one by one takes what comes through of any entries, in order. By
    induction on the entries. -/
theorem run (ht : Takes form Holds) (entries : List Entry) (hj : Holds j texts) :
    Holds (j.run entries) (texts ++ output form j.switches entries) := by
  induction entries generalizing j texts with
  | nil =>
    show Holds j (texts ++ [])
    rwa [List.append_nil]
  | cons e entries ih =>
    cases e with
    | switched s => exact ih (ht.switched s hj)
    | logged now lines =>
      have hrest := ih (ht.emitAll now lines hj)
      rw [Journal.switches_emitAll, List.append_assoc] at hrest
      exact hrest

end Takes

/-- The console `Takes` lines as `render` gives them, the last one first. -/
theorem takes_console : Takes Line.render fun j texts =>
    j.sink = .console ∧ j.printed = texts.reverse where
  line := by
    rintro j texts s now line ⟨hsink, hprinted⟩
    unfold Journal.put
    rw [hsink, hprinted, List.reverse_append]
    exact ⟨rfl, rfl⟩
  switched _ h := h

/-- There is no escape character in a `stamp`, as the time of day is digits and colons. -/
theorem escape_not_mem_stamp (s : Switches) (now : Time.Moment) :
    '\x1b' ∉ (s.stamp now).toList := by
  have hpadded : ∀ n, '\x1b' ∉ (Numeral.padded 2 n).toList := by
    intro n hmem
    exact absurd (Numeral.isDigit_of_mem_padded hmem) (by decide)
  unfold Switches.stamp
  split_ifs
  · unfold Time.Moment.clockText
    simp [String.toList_append, hpadded]
  · nofun

/-- A file `Takes` lines as they are `recorded`, without color codes. -/
theorem takes_file (id : Option Nat) : Takes Line.recorded fun j texts =>
    j.sink = .file id texts.reverse where
  line := by
    intro j texts s now line hsink
    unfold Journal.put
    rw [hsink, List.reverse_append]
    show Sink.file id (uncolored (s.stamp now ++ line.render) :: texts.reverse) = _
    rw [uncolored_append_of_plain (escape_not_mem_stamp s now), Line.uncolored_render]
    rfl
  switched _ h := h

/-! ### Console and file -/

/-- Nothing is logged but messages with complete color codes. -/
def Entry.IsComplete : Entry → Prop
  | .switched _ => True
  | .logged _ lines => ∀ line ∈ lines, Log.IsComplete line.message

/-- Lines that come through together are `uncolored` one by one, if the color codes in their
    messages are complete. -/
theorem uncolored_join_lines {lines : List Line} (hlines : ∀ line ∈ lines, IsComplete line.message)
    (s : Switches) (now : Time.Moment) (t : String) :
    uncolored (String.join (s.output Line.render now lines) ++ t) =
      String.join (s.output Line.recorded now lines) ++ uncolored t := by
  induction lines with
  | nil => rfl
  | cons line lines ih =>
    obtain ⟨hline, hlines⟩ := List.forall_mem_cons.1 hlines
    unfold Switches.output at ih ⊢
    by_cases hshows : s.shows line = true
    · rw [List.filter_cons_of_pos hshows, List.map_cons, List.map_cons, String.join_cons,
        String.join_cons, String.append_assoc, String.append_assoc, String.append_assoc,
        uncolored_append_of_plain (escape_not_mem_stamp s now), Line.uncolored_render_append hline,
        ih hlines, String.append_assoc]
    · rw [List.filter_cons_of_neg hshows]
      exact ih hlines

/-- What comes to a file is what comes to the console, without the color codes. -/
theorem uncolored_join_output {entries : List Entry} (he : ∀ e ∈ entries, e.IsComplete)
    (s : Switches) : uncolored (String.join (output Line.render s entries)) =
      String.join (output Line.recorded s entries) := by
  induction entries generalizing s with
  | nil => rfl
  | cons e entries ih =>
    obtain ⟨he, hentries⟩ := List.forall_mem_cons.1 he
    cases e with
    | switched s => exact ih hentries s
    | logged now lines =>
      unfold output
      rw [String.join_append, String.join_append, uncolored_join_lines he, ih hentries]

end Log

/-! ### From the start of a log file to its end -/

namespace Daemon

open Log

variable {d d' : Daemon} {path : String} {id : Nat} {entries : List Entry}

/-- `d` sent its log to the file at a path, and with `entries` logged, and whatever else done,
    became `d'`, for which this file is still there. -/
structure LogsTo (d d' : Daemon) (path : String) (entries : List Entry) : Prop where
  console : d.journal.sink = .console
  file : ∃ id old, (d.files.openFile path).1 = .ok id ∧
    d'.files.lookup? path = some (.file id old)
  journal : d'.journal.sink = (((openLog path).on d).2.journal.run entries).sink

/-- `openLog` turns a journal from the console to the file, in which nothing is written yet. -/
theorem journal_openLog (hconsole : d.journal.sink = .console)
    (hopen : (d.files.openFile path).1 = .ok id) :
    ((openLog path).on d).2.journal = { d.journal with sink := .file (some id) [] } := by
  unfold openLog
  rw [Act.on_modifyGet, hconsole]
  rcases h : d.files.openFile path with ⟨problem | id', files⟩
  · rw [h] at hopen
    cases hopen
  · rw [h] at hopen
    obtain rfl := Except.ok.inj hopen
    rfl

/-- `closeLog` puts everything that was written into the file of the log. -/
theorem files_closeLog {written : List String} (hsink : d.journal.sink = .file (some id) written) :
    (closeLog.on d).2.files = d.files.setContents id (.text (String.join written.reverse)) := by
  unfold closeLog
  rw [Act.on_modify, hsink]

/-- After `closeLog` the file holds the lines that came through, as `recorded`, and nothing else. -/
theorem LogsTo.text? (h : LogsTo d d' path entries) : (closeLog.on d').2.files.text? path =
    some (String.join (output Line.recorded d.journal.switches entries)) := by
  obtain ⟨id, old, hopen, hfile⟩ := h.file
  -- the journal gathers the lines, the latest first, and closing it puts them into the file
  have hsink : d'.journal.sink =
      .file (some id) (output Line.recorded d.journal.switches entries).reverse := by
    have hnone : ({ d.journal with sink := .file (some id) [] } : Journal).sink =
        .file (some id) ([] : List String).reverse := rfl
    rw [h.journal, journal_openLog h.console hopen]
    exact (takes_file (some id)).run entries hnone
  unfold FileSystem.text? FileSystem.readText
  rw [files_closeLog hsink, List.reverse_reverse, FileSystem.lookup?_setContents hfile]
  rfl

/-- On the console the same entries come out as `render` gives their lines. -/
theorem text_run_clear (hconsole : d.journal.sink = .console) (entries : List Entry) :
    (d.journal.clear.run entries).text =
      String.join (output Line.render d.journal.switches entries) := by
  have hnone : d.journal.clear.sink = .console ∧
      d.journal.clear.printed = ([] : List String).reverse :=
    ⟨hconsole, rfl⟩
  obtain ⟨-, hprinted⟩ := takes_console.run entries hnone
  unfold Journal.text
  rw [hprinted, List.reverse_reverse]
  rfl

/-- **Log files without color codes.** Of a text the color codes are dropped and nothing else. A
    line whose message has no escape character stands in a log file as its decoration without color
    codes, the message and a line feed, whatever the lines around it are, and nothing but the lines
    that come through is in the file. If the color codes in all messages are complete, then the file
    is what the console would have shown, without the color codes. -/
theorem uncolored_of_logsTo :
    DropsCodes stripColors ∧
    (∀ line : Line, uncolored line.decoration = line.plainDecoration ∧
      ('\x1b' ∉ line.message.toList →
        line.recorded = line.plainDecoration ++ line.message ++ "\n")) ∧
    ∀ d d' path entries, LogsTo d d' path entries →
      (closeLog.on d').2.files.text? path =
        some (String.join (output Line.recorded d.journal.switches entries)) ∧
      ((∀ e ∈ entries, e.IsComplete) →
        String.join (output Line.recorded d.journal.switches entries) =
          uncolored (d.journal.clear.run entries).text) := by
  refine ⟨dropsCodes_stripColors,
    fun line => ⟨Line.uncolored_decoration line, fun hline => Line.recorded_of_plain hline⟩,
    fun d d' path entries h => ⟨h.text?, fun he => ?_⟩⟩
  rw [text_run_clear h.console, uncolored_join_output he]

/-- Two color codes side by side, and an escape character in front of another one and at the end. -/
def adjacentCodes : List Piece :=
  [.plain 'a' (by decide), .code ['3', '1'] (by decide), .code [] (by decide),
    .plain '[' (by decide),
    .escape, .escape, .plain 'm' (by decide), .escape]

/-- A block, a line that does not come through, a message with a color code, and an error that takes
    two lines. -/
def someEntries : List Entry :=
  [.logged default (blockStart "Loaded"),
    .logged default [.debug "unseen", .warning (colored "1" "late")],
    .switched ⟨true, true, true⟩, .logged default (failureLines "[m")]

/-- A daemon that logged to a new file. -/
def loggedDaemon : Daemon :=
  { ((openLog "/log").on default).2 with
    journal := ((openLog "/log").on default).2.journal.run someEntries }

/-- The entries of `someEntries` come to stand in the log file without their colors, and so do the
    pieces of `adjacentCodes`. -/
theorem uncolored_of_someEntries :
    (Separate adjacentCodes ∧
      stripColors (textOf adjacentCodes) = ['a', '[', '\x1b', '\x1b', 'm', '\x1b']) ∧
    (LogsTo default loggedDaemon "/log" someEntries ∧ ∀ e ∈ someEntries, e.IsComplete) ∧
    (closeLog.on loggedDaemon).2.files.text? "/log" =
      some "┃\n┣ Loaded\n┣[WARNING] late\n[00:00:00] ┃\n[00:00:00] ┗[ERROR] [m\n" ∧
    (closeLog.on loggedDaemon).2.files.text? "/log" =
      some (uncolored ((default : Daemon).journal.clear.run someEntries).text) := by
  have hpieces : Separate adjacentCodes := ⟨by decide, by decide, by decide, trivial⟩
  have hlogs : LogsTo default loggedDaemon "/log" someEntries := ⟨rfl, ⟨0, _, rfl, rfl⟩, rfl⟩
  have hcolored : Log.IsComplete (colored "1" "late") :=
    ⟨[.code ['1'] (by decide), .plain 'l' (by decide), .plain 'a' (by decide),
      .plain 't' (by decide),
      .plain 'e' (by decide), .code ['0'] (by decide)], trivial, rfl⟩
  have hentries : ∀ e ∈ someEntries, e.IsComplete := by
    simp only [someEntries, List.forall_mem_cons, Entry.IsComplete, blockStart, failureLines,
      Line.message]
    have hplain : ∀ s : String, '\x1b' ∉ s.toList → Log.IsComplete s := fun _ => isComplete_of_plain
    exact ⟨⟨hplain _ (by decide), hplain _ (by decide), nofun⟩,
      ⟨hplain _ (by decide), hcolored, nofun⟩, trivial,
      ⟨hplain _ (by decide), hplain _ (by decide), nofun⟩, nofun⟩
  obtain ⟨hdrops, -, hfile⟩ := uncolored_of_logsTo
  obtain ⟨hcontents, hconsole⟩ := hfile _ _ _ _ hlogs
  rw [hconsole hentries] at hcontents
  exact ⟨⟨hpieces, (hdrops.pieces _ hpieces).trans rfl⟩, ⟨hlogs, hentries⟩, hcontents.trans rfl,
    hcontents⟩

end Daemon

end Twilight
