import LexSpan.Proofs.FileRuns
import LexSpan.Proofs.LogLines
import LexSpan.Proofs.Malformed

/-!
# Runs that write their log as they go

The program can also be run by loops that write down everything when it happens: `splitNoting` splits a
text, notes each lexeme when it is found and only then decides whether to keep it, and `visit` takes the
files one by one. An event is written where it occurs, if the filter chooses it (`note`). What such a
run has written is a `Report` whose remarks are all written.

Main statement (`run_logged`): the program leaves behind what these loops write; without the events of
the log that is the same for every filter and for none; the log that admits everything has, in front
of what is said about a file, the events that `Logged` gives; and every other filter leaves those of
its events that it chooses. The same holds of the lines that are written, as a line tells whether it is
one of the log, if no path holds a line feed. By induction over the lexemes (`splitNoting_of_reads`) and
over the files (`foldl_visit_eq`), the loops say what a report says when the filter is applied at the
end.
-/

namespace LexSpan

namespace Report

/-- Writes a remark. -/
def say (r : Report) (remark : Remark) : Report := { r with remarks := r.remarks ++ [remark] }

/-- Writes an event into the log, if it is chosen. -/
def note (filter : Option Filter) (r : Report) (e : Event) : Report :=
  if (Remark.event e).isWritten filter then r.say (.event e) else r

/-- Writes why a file failed. -/
def fail (r : Report) (path reason : String) : Report :=
  { r.say (.message (path ++ ": " ++ reason)) with failed := true }

/-- One report after another. -/
def andThen (r r' : Report) : Report := ⟨r.remarks ++ r'.remarks, r.failed || r'.failed⟩

/-- What is written of a report, and whether a file has failed. -/
def chosen (filter : Option Filter) (r : Report) : Report := ⟨r.written filter, r.failed⟩

end Report

/-- Splits what follows a cursor, behind the lexemes in `kept`. A lexeme is noted when it is found, and
then kept if it is asked for. -/
def splitNoting (filter : Option Filter) (options : Options) (kept : List Lexeme) (r : Report)
    (c : Cursor) : Except Stop (List Lexeme) × Report :=
  match h : c.next Kind.order with
  | .error stop => (.error stop, r)
  | .ok none => (.ok kept, r.note filter (.tokenized kept.length c.text.utf8ByteSize))
  | .ok (some (lexeme, later)) =>
    have : later.rest.length < c.rest.length := Cursor.length_rest_of_next h
    splitNoting filter options (if options.keeps lexeme then kept ++ [lexeme] else kept)
      (r.note filter (.token lexeme)) later
termination_by c.rest.length

namespace Report

/-- The work on one file, on top of what was written before. -/
def visit (read : String → Except ReadError String) (filter : Option Filter) (command : Command)
    (r : Report) (path : String) : Report :=
  match read path with
  | .error e => r.fail path e.message
  | .ok text =>
    let r := r.note filter (.scanning path text.utf8ByteSize)
    match splitNoting filter command.options [] r (.start text), command with
    | (.error stop, r), _ => r.fail path stop.message
    | (.ok lexemes, r), .tokens _ => lexemes.foldl (fun r lexeme => r.say (.output lexeme.render)) r
    | (.ok lexemes, r), .check =>
      r.say (.message (path ++ ": ok (" ++ toString lexemes.length ++ " tokens)"))

/-- What is written about files, one after the other. -/
def ofVisits (read : String → Except ReadError String) (filter : Option Filter) (command : Command)
    (paths : List String) : Report :=
  paths.foldl (visit read filter command) ⟨[], false⟩

end Report

/-- What is left behind by a report that is all written. -/
def Outcome.ofWritten (r : Report) : Outcome :=
  ⟨if r.failed then 1 else 0, joinLines r.output, joinLines (r.remarks.filterMap Remark.message?)⟩

namespace Filter

/-- Whether events of a level and a target are written. -/
def admits (filter : Filter) (level : Level) (target : String) : Bool :=
  match (filter.directives.filter (·.appliesTo target)).foldl moreSpecific none with
  | none => false
  | some d => level.rank ≤ d.rank

/-- The filters in use, each with the levels and targets of the events that it chooses. -/
def inUse : List (String × (Level → String → Bool)) :=
  [("trace", fun _ _ => true),
    ("debug", fun level _ => level = .debug),
    ("info", fun _ _ => false),
    ("off", fun _ _ => false),
    ("textscan_rs=trace", fun _ target => target = "textscan_rs::lexer"),
    ("warn,textscan_rs::lexer=trace", fun _ target => target = "textscan_rs::lexer"),
    ("textscan_rs=debug", fun level target => level = .debug && target = "textscan_rs::lexer")]

end Filter

/-- The events of a file with a text, in the log that admits everything. Where the text cannot be split,
they are the lexemes in front of the quote that opens no literal. -/
inductive Logged (options : Options) (path text : String) : List Event → Prop
  | split {all kept : List Lexeme} (hall : tokenize text = .ok all)
    (hkept : tokenize text options = .ok kept) :
    Logged options path text (.scanning path text.utf8ByteSize ::
      (all.map .token ++ [.tokenized kept.length text.utf8ByteSize]))
  | stuck {before : List Lexeme} {last : Cursor} {q : Quote} {body : List Char} {e : LexError}
    (herror : tokenize text options = .error (.malformed e))
    (hreads : Reads (.start text) before last)
    (hlast : last.next Kind.order = .error (.malformed e))
    (hstuck : StuckAt text (charsOf before) q body) :
    Logged options path text (.scanning path text.utf8ByteSize :: before.map .token)

/-- The events of splitting a text: the lexemes that are found, and that the end is reached. -/
def splitEvents (options : Options) (text : String) : List Event :=
  (Lexing.ofText text).lexemes.map .token ++
    match tokenize text options with
    | .ok kept => [.tokenized kept.length text.utf8ByteSize]
    | .error _ => []

/-- The events of a file. -/
def fileEvents (read : String → Except ReadError String) (options : Options) (path : String) :
    List Event :=
  match read path with
  | .error _ => []
  | .ok text => .scanning path text.utf8ByteSize :: splitEvents options text

/-- What is said about a file without the events. -/
def ownReport (read : String → Except ReadError String) (command : Command) (path : String) : Report :=
  match read path with
  | .error e => ⟨[.message (path ++ ": " ++ e.message)], true⟩
  | .ok text =>
    match tokenize text command.options with
    | .error stop => ⟨[.message (path ++ ": " ++ stop.message)], true⟩
    | .ok lexemes => ⟨command.remarks path lexemes, false⟩

variable {filter : Option Filter} {options : Options} {command : Command}
  {read : String → Except ReadError String} {path text : String} {paths words : List String}
  {r : Report} {kept lexemes : List Lexeme} {c d : Cursor}

/-! ## Reports -/

namespace Report

theorem andThen_assoc (r r' r'' : Report) :
    (r.andThen r').andThen r'' = r.andThen (r'.andThen r'') := by
  simp only [andThen, List.append_assoc, Bool.or_assoc]

theorem empty_andThen (r : Report) : andThen ⟨[], false⟩ r = r := rfl

theorem andThen_empty (r : Report) : r.andThen ⟨[], false⟩ = r := by
  simp only [andThen, List.append_nil, Bool.or_false]

theorem say_eq_andThen (r : Report) (remark : Remark) :
    r.say remark = r.andThen ⟨[remark], false⟩ := by
  simp only [say, andThen, Bool.or_false]

theorem fail_eq_andThen (r : Report) (path reason : String) :
    r.fail path reason = r.andThen ⟨[.message (path ++ ": " ++ reason)], true⟩ := by
  simp only [fail, say, andThen, Bool.or_true]

theorem note_eq_andThen (r : Report) (e : Event) :
    r.note filter e = r.andThen (chosen filter ⟨[.event e], false⟩) := by
  unfold note
  split
  · next h => simp [chosen, written, h, say_eq_andThen]
  · next h => simp [chosen, written, h, andThen_empty]

theorem chosen_andThen (r r' : Report) :
    chosen filter (r.andThen r') = (chosen filter r).andThen (chosen filter r') := by
  simp only [chosen, written, List.filter_append, andThen]

/-- Events that are noted one by one. -/
theorem foldl_note (filter : Option Filter) (events : List Event) (r : Report) :
    events.foldl (note filter) r = r.andThen (chosen filter ⟨events.map .event, false⟩) := by
  induction events generalizing r with
  | nil => exact (andThen_empty r).symm
  | cons e events ih =>
    rw [List.foldl_cons, ih, note_eq_andThen, andThen_assoc, ← chosen_andThen]
    rfl

theorem foldl_say (remarks : List Remark) (r : Report) :
    remarks.foldl say r = r.andThen ⟨remarks, false⟩ := by
  induction remarks generalizing r with
  | nil => exact (andThen_empty r).symm
  | cons remark remarks ih =>
    rw [List.foldl_cons, ih, say_eq_andThen, andThen_assoc]
    rfl

end Report

/-! ## Splitting -/

theorem splitNoting_of_some {lexeme : Lexeme} (h : c.next Kind.order = .ok (some (lexeme, d))) :
    splitNoting filter options kept r c =
      splitNoting filter options (if options.keeps lexeme then kept ++ [lexeme] else kept)
        (r.note filter (.token lexeme)) d := by
  rw [splitNoting]
  split
  · simp_all
  · simp_all
  · next h' =>
    rw [h] at h'
    cases h'
    rfl

/-- Along a run the lexemes are noted, and those asked for are kept. -/
theorem splitNoting_of_reads (h : Reads c lexemes d) :
    splitNoting filter options kept r c =
      splitNoting filter options (kept ++ lexemes.filter options.keeps)
        ((lexemes.map .token).foldl (Report.note filter) r) d := by
  induction h generalizing kept r with
  | refl => rw [List.filter_nil, List.append_nil, List.map_nil, List.foldl_nil]
  | @step _ _ _ lexeme _ h _ ih =>
    rw [splitNoting_of_some h, ih, List.map_cons, List.foldl_cons, List.filter_cons]
    split
    · rw [List.append_assoc, List.singleton_append]
    · rfl

theorem splitNoting_of_none (h : c.next Kind.order = .ok none) :
    splitNoting filter options kept r c =
      (.ok kept, r.note filter (.tokenized kept.length c.text.utf8ByteSize)) := by
  rw [splitNoting]
  split <;> simp_all

theorem splitNoting_of_error {stop : Stop} (h : c.next Kind.order = .error stop) :
    splitNoting filter options kept r c = (.error stop, r) := by
  rw [splitNoting]
  split <;> simp_all

/-- A text is split as it is without a log, and its events are noted in order. -/
theorem splitNoting_start (filter : Option Filter) (options : Options) (r : Report) (text : String) :
    splitNoting filter options [] r (.start text) =
      (tokenize text options, (splitEvents options text).foldl (Report.note filter) r) := by
  obtain ⟨last, hreads, hend | ⟨q, body, e, -, -, -, herror⟩⟩ := exists_reads_ofText text
  · rw [splitNoting_of_reads hreads, splitNoting_of_none (Cursor.next_of_atEnd hend), hreads.text_eq,
      splitEvents, tokenize_of_atEnd hreads hend, List.foldl_append]
    rfl
  · rw [splitNoting_of_reads hreads, splitNoting_of_error herror, splitEvents,
      tokenize_of_error hreads herror, List.append_nil]

/-! ## Files -/

namespace Report

theorem ofFile_eq : ofFile read command path =
    andThen ⟨(fileEvents read command.options path).map .event, false⟩
      (ownReport read command path) := by
  rw [ofFile, fileEvents, ownReport]
  cases read path with
  | error e => rfl
  | ok text =>
    simp only [ofText, splitEvents, tokenize]
    cases (Lexing.ofText text).outcome command.options with
    | error stop => simp [andThen]
    | ok lexemes => simp [andThen]

/-- What is said about a file without the events: lines of output, and the path with a phrase. -/
theorem exists_of_mem_ownReport {remark : Remark}
    (h : remark ∈ (ownReport read command path).remarks) : (∃ line, remark = .output line) ∨
      ∃ reason, remark = .message (path ++ ": " ++ reason) ∧
        ((∀ reason, read path = .error (.other reason) → IsPhrase reason) → IsPhrase reason) := by
  unfold ownReport at h
  cases hread : read path with
  | error e =>
    simp only [hread, List.mem_singleton] at h
    exact .inr ⟨e.message, h, fun hown => ReadError.isPhrase_message fun reason he =>
      hown reason (congrArg _ he)⟩
  | ok text =>
    simp only [hread] at h
    cases htokens : tokenize text command.options with
    | error stop =>
      obtain ⟨e, rfl⟩ := exists_malformed htokens
      simp only [htokens, List.mem_singleton] at h
      exact .inr ⟨e.message, h, fun _ => e.isPhrase_message⟩
    | ok lexemes =>
      simp only [htokens] at h
      cases command with
      | tokens options =>
        obtain ⟨lexeme, -, rfl⟩ := List.mem_map.1 h
        exact .inl ⟨_, rfl⟩
      | check =>
        have hcount : ": ok (" = ": " ++ "ok (" := rfl
        simp only [Command.remarks, List.mem_singleton] at h
        refine .inr ⟨_, ?_, fun _ => isPhrase_count lexemes.length⟩
        simp only [h, hcount, String.append_assoc]

/-- What is said without the events is written under every filter. -/
theorem chosen_ownReport : chosen filter (ownReport read command path) =
    ownReport read command path := by
  have hall : ∀ remark ∈ (ownReport read command path).remarks, remark.isWritten filter := by
    intro remark hmem
    obtain ⟨line, rfl⟩ | ⟨reason, rfl, -⟩ := exists_of_mem_ownReport hmem <;> rfl
  rw [chosen, written, List.filter_eq_self.2 hall]

/-- What is written about a file is what is written of the report on it. -/
theorem visit_eq (r : Report) : r.visit read filter command path =
    r.andThen (chosen filter (.ofFile read command path)) := by
  rw [visit, ofFile_eq, chosen_andThen, chosen_ownReport, fileEvents, ownReport]
  cases read path with
  | error e => exact fail_eq_andThen r path e.message
  | ok text =>
    have hnoted := foldl_note filter
      (.scanning path text.utf8ByteSize :: splitEvents command.options text) r
    rw [List.foldl_cons] at hnoted
    simp only [splitNoting_start, hnoted]
    rw [← andThen_assoc]
    cases tokenize text command.options with
    | error stop => exact fail_eq_andThen _ path stop.message
    | ok lexemes =>
      cases command with
      | tokens _ =>
        simp only [Command.remarks, ← foldl_say, List.foldl_map]
      | check => exact say_eq_andThen _ _

theorem foldl_visit_eq (paths : List String) (r : Report) :
    paths.foldl (visit read filter command) r =
      r.andThen (chosen filter (.ofFiles read command paths)) := by
  induction paths generalizing r with
  | nil => exact (andThen_empty r).symm
  | cons path paths ih =>
    rw [List.foldl_cons, ih, visit_eq, andThen_assoc, ← chosen_andThen]
    rfl

/-- What is written as the files are visited is what is written of the report on them. -/
theorem ofVisits_eq : ofVisits read filter command paths =
    chosen filter (.ofFiles read command paths) := by
  rw [ofVisits, foldl_visit_eq, empty_andThen]

/-- Without a log only a file's own report is written. -/
theorem ofVisits_none (path : String) : ofVisits read none command [path] =
    ownReport read command path := by
  have hevents : chosen none ⟨(fileEvents read command.options path).map .event, false⟩ =
      ⟨[], false⟩ := by
    simp [chosen, written, Remark.isWritten]
  rw [ofVisits, List.foldl_cons, List.foldl_nil, visit_eq, empty_andThen, ofFile_eq, chosen_andThen,
    chosen_ownReport, hevents, empty_andThen]

end Report

/-! ## Filters -/

theorem Filter.enables_eq (filter : Filter) (e : Event) :
    filter.enables e = filter.admits e.level e.target := rfl

/-- The filters in use choose by level and target as they are meant to. -/
theorem enables_of_mem_inUse {entry : String × (Level → String → Bool)}
    (hentry : entry ∈ Filter.inUse) (e : Event) :
    (Filter.ofText entry.1).enables e = entry.2 e.level e.target := by
  have hall : Filter.inUse.all (fun entry => Event.origins.all fun origin =>
      (Filter.ofText entry.1).admits origin.1 origin.2 == entry.2 origin.1 origin.2) = true := by
    decide +kernel
  have horigin := List.all_eq_true.1 (List.all_eq_true.1 hall entry hentry) _ e.mem_origins
  rw [Filter.enables_eq]
  exact eq_of_beq horigin

theorem isWritten_trace (remark : Remark) :
    remark.isWritten (some (.ofText "trace")) = true := by
  have hentry : ("trace", fun _ _ => true) ∈ Filter.inUse := List.mem_cons_self
  cases remark with
  | event e => exact enables_of_mem_inUse hentry e
  | _ => rfl

/-- What is written without a log is what every filter leaves but the events. -/
theorem filter_isWritten (filter : Option Filter) (remarks : List Remark) :
    (remarks.filter (·.isWritten filter)).filter (!·.isEvent) = remarks.filter (·.isWritten none) := by
  rw [List.filter_filter]
  refine List.filter_congr fun remark _ => ?_
  cases remark <;> rfl

/-! ## Lines of the log -/

theorem path_eq_of_mem_fileEvents {scanned : String} {bytes : Nat}
    (h : .scanning scanned bytes ∈ fileEvents read options path) : scanned = path := by
  unfold fileEvents at h
  cases hread : read path with
  | error e => simp [hread] at h
  | ok text =>
    simp only [hread, splitEvents] at h
    cases htokens : tokenize text options <;> simp [htokens] at h <;> exact h.1

/-- The remarks about a file can be told apart by their lines, if its path is on one line. -/
theorem recognizable_of_mem_ofFile (hpath : '\n' ∉ path.toList)
    (hown : ∀ reason, read path = .error (.other reason) → IsPhrase reason) {remark : Remark}
    (h : remark ∈ (Report.ofFile read command path).remarks) : remark.Recognizable := by
  rw [Report.ofFile_eq] at h
  rcases List.mem_append.1 h with hevent | hsaid
  · obtain ⟨e, he, rfl⟩ := List.mem_map.1 hevent
    refine Remark.recognizable_event ?_
    rintro scanned bytes rfl
    rwa [path_eq_of_mem_fileEvents he]
  · obtain ⟨line, rfl⟩ | ⟨reason, rfl, hreason⟩ := Report.exists_of_mem_ownReport hsaid
    · exact Remark.recognizable_output line
    · exact Remark.recognizable_message hpath (hreason hown)

theorem recognizable_of_mem_ofFiles (hpaths : ∀ path ∈ paths, '\n' ∉ path.toList)
    (hown : ∀ path ∈ paths, ∀ reason, read path = .error (.other reason) → IsPhrase reason) :
    ∀ remark ∈ (Report.ofFiles read command paths).remarks, remark.Recognizable := by
  intro remark hmem
  obtain ⟨report, hreport, hremark⟩ := List.mem_flatMap.1 hmem
  obtain ⟨path, hpath, rfl⟩ := List.mem_map.1 hreport
  exact recognizable_of_mem_ofFile (hpaths path hpath) (hown path hpath) hremark

/-- The events in a report on files are those of the files. -/
theorem filter_isEvent_ofFiles (read : String → Except ReadError String) (command : Command)
    (paths : List String) :
    (Report.ofFiles read command paths).remarks.filter (·.isEvent) =
      (paths.flatMap (fileEvents read command.options)).map .event := by
  have hfile : ∀ path, (Report.ofFile read command path).remarks.filter (·.isEvent) =
      (fileEvents read command.options path).map .event := fun path => by
    have hown : (ownReport read command path).remarks.filter (·.isEvent) = [] := by
      refine List.filter_eq_nil_iff.2 fun remark hmem => ?_
      obtain ⟨line, rfl⟩ | ⟨reason, rfl, -⟩ := Report.exists_of_mem_ownReport hmem <;>
        simp [Remark.isEvent]
    rw [Report.ofFile_eq, Report.andThen, List.filter_append, hown, List.append_nil]
    exact List.filter_eq_self.2 fun remark hmem => by
      obtain ⟨e, -, rfl⟩ := List.mem_map.1 hmem
      rfl
  simp only [Report.ofFiles, List.flatMap_map, List.filter_flatMap, hfile, List.map_flatMap]

/-- Of the lines that a run with a log writes next to the output, those that are not of the log are
the lines of the run without one, and the others are the chosen events. -/
theorem exists_lines (h : Invocation.ofWords words = .run command paths)
    (hpaths : ∀ path ∈ paths, '\n' ∉ path.toList)
    (hown : ∀ path ∈ paths, ∀ reason, read path = .error (.other reason) → IsPhrase reason)
    (filter : Option Filter) :
    ∃ lines, lines? (Program.run read filter words).messages = some lines ∧
      lines? (Program.run read none words).messages =
        some (lines.filter fun line => !isLogLine line) ∧
      lines.filter isLogLine = ((paths.flatMap (fileEvents read command.options)).filter
        fun e => filter.any (·.enables e)).map Event.render := by
  have hall : ∀ remark ∈ (Report.ofFiles read command paths).remarks, remark.Recognizable :=
    recognizable_of_mem_ofFiles hpaths hown
  have hevents := filter_isEvent_ofFiles read command paths
  have hmessages : ∀ filter, (Program.run read filter words).messages = joinLines
      (((Report.ofFiles read command paths).remarks.filter (·.isWritten filter)).filterMap
        Remark.message?) := fun filter => by
    rw [Program.run, h]
    rfl
  generalize (Report.ofFiles read command paths).remarks = remarks at hall hevents hmessages
  have hwritten : ∀ filter, ∀ remark ∈ remarks.filter (·.isWritten filter), remark.Recognizable :=
    fun filter remark hmem => hall remark (List.mem_of_mem_filter hmem)
  have hlines := fun filter => (congrArg lines? (hmessages filter)).trans
    (lines?_messages (hwritten filter))
  refine ⟨_, hlines filter, ?_, ?_⟩
  · rw [hlines none, filter_lines (hwritten filter) not, filter_isWritten]
  · calc ((remarks.filter (·.isWritten filter)).filterMap Remark.message?).filter isLogLine
        = ((remarks.filter (·.isWritten filter)).filter (·.isEvent)).filterMap Remark.message? :=
          filter_lines (hwritten filter) id
      _ = ((remarks.filter (·.isEvent)).filter (·.isWritten filter)).filterMap Remark.message? := by
          rw [List.filter_comm]
      _ = (((paths.flatMap (fileEvents read command.options)).filter
            fun e => filter.any (·.enables e)).map .event).filterMap Remark.message? := by
          rw [hevents, List.filter_map]
          rfl
      _ = _ := by
          rw [List.filterMap_map]
          exact congrFun List.filterMap_eq_map' _

/-! ## The log -/

/-- The events of a file are those of splitting its text. -/
theorem logged_fileEvents (h : read path = .ok text) :
    Logged options path text (fileEvents read options path) := by
  simp only [fileEvents, h, splitEvents]
  obtain ⟨last, hreads, hend | ⟨q, body, e, hrest, -, -, herror⟩⟩ := exists_reads_ofText text
  · have hkept : tokenize text options = .ok _ := tokenize_of_atEnd hreads hend
    rw [hkept]
    exact .split (tokenize_eq_ok_iff.2 ⟨last, hreads, hend⟩) hkept
  · have hstop : tokenize text options = .error _ := tokenize_of_error hreads herror
    have htext := hreads.rest_eq (Cursor.valid_start text)
    rw [hrest] at htext
    rw [hstop, List.append_nil]
    exact .stuck hstop hreads herror (.of_error hstop rfl htext)

theorem Program.run_eq_ofWritten (h : Invocation.ofWords words = .run command paths) :
    Program.run read filter words = .ofWritten (.ofVisits read filter command paths) := by
  have houtput : ∀ remarks : List Remark, (remarks.filter (·.isWritten filter)).filterMap
      Remark.output? = remarks.filterMap Remark.output? := fun remarks => by
    induction remarks with
    | nil => rfl
    | cons remark remarks ih =>
      rw [List.filter_cons]
      split
      · rw [List.filterMap_cons, List.filterMap_cons, ih]
      · cases remark with
        | event e => exact ih
        | _ => simp [Remark.isWritten] at *
  rw [run, h, Report.ofVisits_eq]
  simp only [Outcome.ofReport, Outcome.ofWritten, Report.chosen, Report.output, Report.messages,
    Report.written, houtput]
  rfl

theorem run_logged (read : String → Except ReadError String) (words : List String) :
    ((∀ command files, Invocation.ofWords words ≠ .run command files) →
      ∀ filter, Program.run read filter words = Program.run read none words) ∧
    (∀ command files, Invocation.ofWords words = .run command files →
      (∀ filter, Program.run read filter words =
          .ofWritten (.ofVisits read filter command files)) ∧
      (∀ filter,
        (Program.run read filter words).code = (Program.run read none words).code ∧
        (Program.run read filter words).output = (Program.run read none words).output ∧
        (Report.ofVisits read filter command files).remarks.filter (!·.isEvent) =
          (Report.ofVisits read none command files).remarks) ∧
      (∃ log : String → List Event,
        (Report.ofVisits read (some (.ofText "trace")) command files).remarks =
          files.flatMap (fun file => (log file).map .event ++
            (Report.ofVisits read none command [file]).remarks) ∧
        (∀ file, (∀ e, read file = .error e → log file = []) ∧
          ∀ text, read file = .ok text → Logged command.options file text (log file)) ∧
        -- told by its lines, if no path and no reason of the system's own would tear or blur them
        ((∀ file ∈ files, '\n' ∉ file.toList) →
          (∀ file ∈ files, ∀ reason, read file = .error (.other reason) → IsPhrase reason) →
          ∀ filter, ∃ lines, lines? (Program.run read filter words).messages = some lines ∧
            lines? (Program.run read none words).messages =
              some (lines.filter fun line => !isLogLine line) ∧
            lines.filter isLogLine =
              ((files.flatMap log).filter fun e => filter.any (·.enables e)).map Event.render)) ∧
      (∀ filter, (Report.ofVisits read filter command files).remarks =
        (Report.ofVisits read (some (.ofText "trace")) command files).remarks.filter
          (·.isWritten filter)) ∧
      ∀ entry ∈ Filter.inUse, ∀ e : Event,
        (Filter.ofText entry.1).enables e = entry.2 e.level e.target) ∧
    ∀ (tree : FileTree) file, (∀ text, tree.read file = .ok text ↔ tree.Holds file text) ∧
      ∀ reason, tree.read file ≠ .error (.other reason) := by
  have htrace : ∀ remarks : List Remark,
      remarks.filter (·.isWritten (some (.ofText "trace"))) = remarks := fun remarks =>
    List.filter_eq_self.2 fun remark _ => isWritten_trace remark
  refine ⟨fun h filter => ?_, fun command files h => ⟨fun filter => Program.run_eq_ofWritten h,
    fun filter => ⟨?_, ?_, ?_⟩, ⟨fileEvents read command.options, ?_, fun file => ⟨?_, ?_⟩,
      exists_lines h⟩, fun filter => ?_, fun entry hentry => enables_of_mem_inUse hentry⟩,
    fun tree file => ⟨fun text => FileTree.read_eq_ok_iff, fun reason => FileTree.read_ne_other⟩⟩
  · unfold Program.run
    cases hwords : Invocation.ofWords words with
    | run command files => exact absurd hwords (h command files)
    | _ => rfl
  · exact (Program.run_filter read filter none words).1
  · exact (Program.run_filter read filter none words).2
  · rw [Report.ofVisits_eq, Report.ofVisits_eq]
    exact filter_isWritten filter _
  · have hfile : ∀ file, (Report.ofFile read command file).remarks =
        (fileEvents read command.options file).map .event ++
          (ownReport read command file).remarks := fun file => by
      rw [Report.ofFile_eq]
      rfl
    rw [Report.ofVisits_eq, Report.chosen, Report.written, htrace]
    simp only [Report.ofVisits_none, Report.ofFiles, List.flatMap_map, hfile]
  · intro e he
    simp only [fileEvents, he]
  · exact fun text => logged_fileEvents
  · rw [Report.ofVisits_eq, Report.ofVisits_eq]
    simp only [Report.chosen, Report.written, htrace]

/-- A file that fails behind a lexeme, one with trivia that are left out, and a missing one, with all of
the log and with the end of each splitting alone; and a command line without files. -/
theorem run_logged_failing_first :
    (Invocation.ofWords ["tokens", "--no-trivia", "b", "a", "c"] =
        .run (.tokens ⟨false⟩) ["b", "a", "c"] ∧
      Program.run mixedTree.read (some (.ofText "trace")) ["tokens", "--no-trivia", "b", "a", "c"] =
        ⟨1, "1:1\tidentifier\t\"x\"\n1:3\tnumber\t\"1\"\n",
          "DEBUG textscan: scanning path=b bytes=2\n" ++
          "TRACE textscan_rs::lexer: token kind=identifier at=1:1 text=\"x\"\n" ++
          "b: unterminated quoted string at line 1, column 2\n" ++
          "DEBUG textscan: scanning path=a bytes=3\n" ++
          "TRACE textscan_rs::lexer: token kind=identifier at=1:1 text=\"x\"\n" ++
          "TRACE textscan_rs::lexer: token kind=whitespace at=1:2 text=\" \"\n" ++
          "TRACE textscan_rs::lexer: token kind=number at=1:3 text=\"1\"\n" ++
          "DEBUG textscan_rs::lexer: tokenized input count=2 bytes=3\n" ++
          "c: No such file or directory (os error 2)\n"⟩ ∧
      (Report.ofVisits mixedTree.read (some (.ofText "textscan_rs=debug")) (.tokens ⟨false⟩)
          ["b", "a", "c"]).remarks.filter (·.isEvent) = [.event (.tokenized 2 3)] ∧
      ∃ lines, lines? (Program.run mixedTree.read (some (.ofText "debug"))
            ["tokens", "--no-trivia", "b", "a", "c"]).messages = some lines ∧
        lines.filter (fun line => !isLogLine line) =
          ["b: unterminated quoted string at line 1, column 2",
            "c: No such file or directory (os error 2)"]) ∧
    Program.run mixedTree.read (some (.ofText "trace")) ["--version"] =
      Program.run mixedTree.read none ["--version"] := by
  constructor
  · obtain ⟨-, hrun, htree⟩ := run_logged mixedTree.read ["tokens", "--no-trivia", "b", "a", "c"]
    have hwords : Invocation.ofWords ["tokens", "--no-trivia", "b", "a", "c"] =
        .run (.tokens ⟨false⟩) ["b", "a", "c"] := by decide +kernel
    obtain ⟨hloops, -, ⟨log, -, -, hlog⟩, hchosen, -⟩ := hrun _ _ hwords
    refine ⟨hwords, ?_, ?_, ?_⟩
    · rw [hloops]
      decide +kernel
    · rw [hchosen]
      decide +kernel
    · obtain ⟨lines, hlines, hsaid, -⟩ := hlog (by decide)
        (fun file _ reason hother => absurd hother ((htree mixedTree file).2 reason))
        (some (.ofText "debug"))
      refine ⟨lines, hlines, Option.some.inj (hsaid.symm.trans ?_)⟩
      decide +kernel
  · obtain ⟨hother, -⟩ := run_logged mixedTree.read ["--version"]
    have hwords : Invocation.ofWords ["--version"] = .version := by decide +kernel
    refine hother (fun command files h => ?_) _
    rw [hwords] at h
    cases h

end LexSpan
