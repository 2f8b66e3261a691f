import LexSpan.Program
import LexSpan.Proofs.LexingRun
import Mathlib.Data.List.Basic

/-!
# Runs of the program over files

The program takes its files one by one, writes what it has to say about each, and remembers whether
one of them failed: `Progress` is how far it has come, and `Progress.visit` the work on a file. What
a visit writes does not depend on what was written before (`visit_eq_andThen`), and so, by induction
over the files, a run from any progress on adds the report on all files to it (`foldl_visit`).

Main statement (`run_files`): however files are read, a run over two lists of files is a run over the
first and then one over the second, and comes to the runs over the single files, one after the other.
The run over one file succeeds exactly if a text can be read from it and split; if it fails, it writes
one message and nothing else. In a tree of files a text can be read where one in UTF-8 stands.
-/

namespace LexSpan

/-- What the program has written so far, and whether a file has failed. -/
structure Progress where
  output : String := ""
  messages : String := ""
  failed : Bool := false

namespace Progress

/-- Writes a line of output. -/
def print (p : Progress) (line : String) : Progress := { p with output := p.output ++ line ++ "\n" }

/-- Writes a message. -/
def say (p : Progress) (line : String) : Progress := { p with messages := p.messages ++ line ++ "\n" }

/-- Writes why a file failed. -/
def fail (p : Progress) (path reason : String) : Progress :=
  { p.say (path ++ ": " ++ reason) with failed := true }

/-- The work on one file, on top of what was done before. -/
def visit (read : String → Except ReadError String) (command : Command) (p : Progress)
    (path : String) : Progress :=
  match read path with
  | .error e => p.fail path e.message
  | .ok text =>
    match tokenize text command.options, command with
    | .error stop, _ => p.fail path stop.message
    | .ok lexemes, .tokens _ => lexemes.foldl (fun p lexeme => p.print lexeme.render) p
    | .ok lexemes, .check => p.say (path ++ ": ok (" ++ toString lexemes.length ++ " tokens)")

/-- What is left behind at the end. -/
def outcome (p : Progress) : Outcome := ⟨if p.failed then 1 else 0, p.output, p.messages⟩

/-- Some work, and then more work. -/
def andThen (p q : Progress) : Progress :=
  ⟨p.output ++ q.output, p.messages ++ q.messages, p.failed || q.failed⟩

/-- What a report comes to when nothing is logged. -/
def ofReport (report : Report) : Progress :=
  ⟨joinLines report.output, joinLines (report.messages none), report.failed⟩

end Progress

/-- What two runs leave behind, one after the other. -/
def Outcome.andThen (o o' : Outcome) : Outcome :=
  ⟨if o.code = 1 ∨ o'.code = 1 then 1 else 0, o.output ++ o'.output, o.messages ++ o'.messages⟩

/-- Whether a path leads to a file that holds a text, in UTF-8. -/
def FileTree.Holds (tree : FileTree) (path text : String) : Prop :=
  tree.follow (if path.startsWith "/" then none else some []) (pieces '/' path) = .ok text.toUTF8

/-- The words that ask for a command. -/
def Command.words : Command → List String
  | tokens options => if options.keepTrivia then ["tokens"] else ["tokens", "--no-trivia"]
  | check => ["check"]

variable {read : String → Except ReadError String} {command : Command} {path text : String}
  {paths words : List String}

/-! ## Reading the command line and the files -/

theorem ofWords_words (hne : paths ≠ []) (hempty : "" ∉ paths) :
    Invocation.ofWords (command.words ++ "--" :: paths) = .run command paths := by
  rcases command with ⟨_ | _⟩ | _ <;>
    simp [Command.words, Invocation.ofWords, Invocation.readArguments_noTrivia {},
      Invocation.readArguments_dashes _ _ hempty, Invocation.ofArguments, hne]

theorem decodeText_eq_ok_iff {bytes : ByteArray} :
    decodeText bytes = .ok text ↔ bytes = text.toUTF8 := by
  rw [decodeText, String.fromUTF8?]
  by_cases h : bytes.IsValidUTF8
  · simp only [dif_pos h, Except.ok.injEq, ← String.toByteArray_inj]
    exact Iff.rfl
  · simp only [dif_neg h, reduceCtorEq, false_iff]
    rintro rfl
    exact h text.isValidUTF8

namespace FileTree

variable {tree : FileTree}

theorem read_eq_ok_iff : tree.read path = .ok text ↔ tree.Holds path text := by
  rw [FileTree.read, Holds]
  split
  · next h => simp only [h, reduceCtorEq]
  · next h => rw [h, decodeText_eq_ok_iff, Except.ok.injEq]

theorem follow_ne_other {place : Option (List String)} {names : List String} {reason : String} :
    tree.follow place names ≠ .error (.other reason) := by
  fun_induction tree.follow place names with
  | case1 => exact fun h => by cases h
  | case2 _ _ _ _ ih => exact ih
  | case3 _ _ _ ih => exact ih
  | case4 => exact fun h => by cases h
  | case5 _ _ _ _ _ _ ih => exact ih
  | case6 => exact fun h => by cases h
  | case7 => exact fun h => by cases h

/-- A tree gives no reasons of the system's own. -/
theorem read_ne_other {reason : String} : tree.read path ≠ .error (.other reason) := by
  rw [read]
  split
  · next e h => exact fun he => follow_ne_other (h.trans (by rw [Except.error.inj he]))
  · rw [decodeText]
    split <;> exact fun h => by cases h

end FileTree

/-! ## Reports without their events -/

/-- Events are no lines of output. -/
theorem Report.output_events (events : List Event) (remarks : List Remark) (failed : Bool) :
    (Report.mk (events.map .event ++ remarks) failed).output =
      (Report.mk remarks failed).output := by
  simp [output, Remark.output?]

/-- Events do not show when nothing is logged. -/
theorem Report.messages_events (events : List Event) (remarks : List Remark) (failed : Bool) :
    (Report.mk (events.map .event ++ remarks) failed).messages none =
      (Report.mk remarks failed).messages none := by
  simp [messages, written, Remark.isWritten]

/-! ## Progress -/

namespace Progress

theorem andThen_assoc (p q r : Progress) : (p.andThen q).andThen r = p.andThen (q.andThen r) := by
  simp only [andThen, String.append_assoc, Bool.or_assoc]

theorem empty_andThen (p : Progress) : andThen {} p = p := by
  simp only [andThen, String.empty_append, Bool.false_or]

theorem andThen_empty (p : Progress) : p.andThen {} = p := by
  simp only [andThen, String.append_empty, Bool.or_false]

theorem outcome_andThen (p q : Progress) : (p.andThen q).outcome = p.outcome.andThen q.outcome := by
  rcases p with ⟨_, _, _ | _⟩ <;> rcases q with ⟨_, _, _ | _⟩ <;> rfl

theorem ofReport_append (report report' : Report) :
    ofReport ⟨report.remarks ++ report'.remarks, report.failed || report'.failed⟩ =
      (ofReport report).andThen (ofReport report') := by
  simp only [ofReport, Report.output, Report.messages, Report.written, joinLines,
    List.filterMap_append, List.filter_append, List.map_append, String.join_append, andThen]

theorem ofReport_events (events : List Event) (remarks : List Remark) (failed : Bool) :
    ofReport ⟨events.map .event ++ remarks, failed⟩ = ofReport ⟨remarks, failed⟩ := by
  rw [ofReport, ofReport, Report.output_events, Report.messages_events]

theorem ofReport_message (line : String) (failed : Bool) :
    ofReport ⟨[.message line], failed⟩ = ⟨"", line ++ "\n", failed⟩ := by
  simp [ofReport, Report.output, Report.messages, Report.written, joinLines, Remark.isWritten,
    List.filterMap_cons, Remark.output?, Remark.message?]

theorem ofReport_output (line : String) :
    ofReport ⟨[.output line], false⟩ = ⟨line ++ "\n", "", false⟩ := by
  simp [ofReport, Report.output, Report.messages, Report.written, joinLines, Remark.isWritten,
    List.filterMap_cons, Remark.output?, Remark.message?]

theorem say_eq_andThen (p : Progress) (line : String) :
    p.say line = p.andThen (ofReport ⟨[.message line], false⟩) := by
  simp only [say, ofReport_message, andThen, String.append_assoc, String.append_empty,
    Bool.or_false]

theorem fail_eq_andThen (p : Progress) (path reason : String) :
    p.fail path reason = p.andThen (ofReport ⟨[.message (path ++ ": " ++ reason)], true⟩) := by
  simp only [fail, say, ofReport_message, andThen, String.append_assoc, String.append_empty,
    Bool.or_true]

theorem foldl_print (lexemes : List Lexeme) (p : Progress) :
    lexemes.foldl (fun p lexeme => p.print lexeme.render) p =
      p.andThen (ofReport ⟨lexemes.map fun lexeme => .output lexeme.render, false⟩) := by
  induction lexemes generalizing p with
  | nil => exact (andThen_empty p).symm
  | cons lexeme lexemes ih =>
    have hline : p.print lexeme.render =
        p.andThen (ofReport ⟨[.output lexeme.render], false⟩) := by
      simp only [print, ofReport_output, andThen, String.append_assoc, String.append_empty,
        Bool.or_false]
    rw [List.foldl_cons, ih, hline, andThen_assoc, ← ofReport_append]
    rfl

/-- What is written about a file does not depend on what was written before. -/
theorem visit_eq_andThen (p : Progress) :
    p.visit read command path = p.andThen (ofReport (.ofFile read command path)) := by
  rw [visit, Report.ofFile]
  cases read path with
  | error e => exact fail_eq_andThen p path e.message
  | ok text =>
    simp only [tokenize, Report.ofText]
    cases (Lexing.ofText text).outcome command.options with
    | error stop =>
      simp only
      rw [ofReport_events]
      exact fail_eq_andThen p path stop.message
    | ok lexemes =>
      simp only
      rw [ofReport_events]
      cases command with
      | tokens _ => exact foldl_print lexemes p
      | check => exact say_eq_andThen p _

theorem ofReport_ofFiles_cons (path : String) (paths : List String) :
    ofReport (.ofFiles read command (path :: paths)) =
      (ofReport (.ofFile read command path)).andThen (ofReport (.ofFiles read command paths)) := by
  rw [← ofReport_append]
  rfl

/-- A run adds the report on its files to what was written before. -/
theorem foldl_visit (paths : List String) (p : Progress) :
    paths.foldl (visit read command) p =
      p.andThen (ofReport (.ofFiles read command paths)) := by
  induction paths generalizing p with
  | nil => exact (andThen_empty p).symm
  | cons path paths ih =>
    rw [List.foldl_cons, ih, visit_eq_andThen, andThen_assoc, ofReport_ofFiles_cons]

/-- What is written about files is what is written about each of them. -/
theorem ofReport_ofFiles (paths : List String) :
    ofReport (.ofFiles read command paths) =
      ⟨String.join (paths.map fun path => (ofReport (.ofFile read command path)).output),
        String.join (paths.map fun path => (ofReport (.ofFile read command path)).messages),
        paths.any fun path => (ofReport (.ofFile read command path)).failed⟩ := by
  induction paths with
  | nil => rfl
  | cons path paths ih =>
    rw [ofReport_ofFiles_cons, ih, andThen, List.map_cons, List.map_cons, String.join_cons,
      String.join_cons, List.any_cons]

/-! ## A single file -/

theorem visit_of_unreadable {e : ReadError} (h : read path = .error e) (p : Progress) :
    p.visit read command path = p.fail path e.message := by
  rw [visit, h]

theorem visit_of_malformed {options : Options} {stop : Stop} (h : read path = .ok text)
    (herror : tokenize text options = .error stop) (p : Progress) :
    p.visit read command path = p.fail path stop.message := by
  have herror : tokenize text command.options = .error stop :=
    tokenize_eq_error_iff.2 (tokenize_eq_error_iff.1 herror)
  rw [visit, h]
  simp only [herror]

theorem failed_visit_of_ok {options : Options} {lexemes : List Lexeme} (h : read path = .ok text)
    (hok : tokenize text options = .ok lexemes) (p : Progress) :
    (p.visit read command path).failed = p.failed := by
  have hstop := exists_tokenize_ok_iff.1 ⟨lexemes, hok⟩
  have hreport : (Report.ofFile read command path).failed = false := by
    simp only [Report.ofFile, h, Report.ofText, Lexing.outcome, hstop]
  rw [visit_eq_andThen, andThen, ofReport, hreport, Bool.or_false]

/-- A file fails unless it can be read and split. -/
theorem failed_visit_eq_false_iff :
    (visit read command {} path).failed = false ↔
      ∃ text lexemes, read path = .ok text ∧ tokenize text = .ok lexemes := by
  constructor
  · intro hfailed
    cases h : read path with
    | error e =>
      rw [visit_of_unreadable h] at hfailed
      cases hfailed
    | ok text =>
      cases htokens : tokenize text with
      | error stop =>
        rw [visit_of_malformed h htokens] at hfailed
        cases hfailed
      | ok lexemes => exact ⟨text, lexemes, rfl, htokens⟩
  · rintro ⟨text, lexemes, h, hok⟩
    exact failed_visit_of_ok h hok {}

/-- A file that fails leaves one message and nothing else. -/
theorem outcome_fail (path reason : String) :
    (fail {} path reason).outcome = ⟨1, "", path ++ ": " ++ reason ++ "\n"⟩ := by
  rw [outcome, fail, say, String.empty_append]
  rfl

theorem outcome_code_eq_zero_iff (p : Progress) : p.outcome.code = 0 ↔ p.failed = false := by
  cases h : p.failed <;> simp [outcome, h]

theorem outcome_code_eq_one_iff (p : Progress) : p.outcome.code = 1 ↔ p.failed = true := by
  cases h : p.failed <;> simp [outcome, h]

end Progress

/-! ## Runs of the program -/

theorem run_eq_outcome (h : Invocation.ofWords words = .run command paths) :
    Program.run read none words = (paths.foldl (Progress.visit read command) {}).outcome := by
  rw [Program.run, h, Progress.foldl_visit, Progress.empty_andThen]
  rfl

theorem run_of_unreadable (h : Invocation.ofWords words = .run command [path]) {e : ReadError}
    (hread : read path = .error e) :
    Program.run read none words = ⟨1, "", path ++ ": " ++ e.message ++ "\n"⟩ := by
  rw [run_eq_outcome h, List.foldl_cons, List.foldl_nil, Progress.visit_of_unreadable hread,
    Progress.outcome_fail]

theorem run_of_malformed (h : Invocation.ofWords words = .run command [path]) {options : Options}
    {e : LexError} (hread : read path = .ok text)
    (herror : tokenize text options = .error (.malformed e)) :
    Program.run read none words = ⟨1, "", path ++ ": " ++ e.message ++ "\n"⟩ := by
  rw [run_eq_outcome h, List.foldl_cons, List.foldl_nil, Progress.visit_of_malformed hread herror,
    Progress.outcome_fail]
  rfl

theorem run_append {words₁ words₂ paths₁ paths₂ : List String}
    (h : Invocation.ofWords words = .run command (paths₁ ++ paths₂))
    (h₁ : Invocation.ofWords words₁ = .run command paths₁)
    (h₂ : Invocation.ofWords words₂ = .run command paths₂) :
    Program.run read none words =
      (Program.run read none words₁).andThen (Program.run read none words₂) := by
  rw [run_eq_outcome h, run_eq_outcome h₁, run_eq_outcome h₂, ← Progress.outcome_andThen,
    List.foldl_append, Progress.foldl_visit, Progress.foldl_visit paths₂ {}, Progress.empty_andThen]

theorem run_eq_join (h : Invocation.ofWords words = .run command paths)
    {alone : String → List String}
    (halone : ∀ path ∈ paths, Invocation.ofWords (alone path) = .run command [path]) :
    Program.run read none words =
      ⟨if ∃ path ∈ paths, (Program.run read none (alone path)).code = 1 then 1 else 0,
        String.join (paths.map fun path => (Program.run read none (alone path)).output),
        String.join (paths.map fun path => (Program.run read none (alone path)).messages)⟩ := by
  have hone : ∀ path ∈ paths, Program.run read none (alone path) =
      (Progress.ofReport (.ofFile read command path)).outcome := fun path hpath => by
    rw [run_eq_outcome (halone path hpath), List.foldl_cons, List.foldl_nil,
      Progress.visit_eq_andThen, Progress.empty_andThen]
  have hfailed : (∃ path ∈ paths, (Program.run read none (alone path)).code = 1) ↔
      (paths.any fun path => (Progress.ofReport (.ofFile read command path)).failed) = true := by
    rw [List.any_eq_true]
    refine exists_congr fun path => and_congr_right fun hpath => ?_
    rw [hone path hpath, Progress.outcome_code_eq_one_iff]
  rw [run_eq_outcome h, Progress.foldl_visit, Progress.empty_andThen, Progress.ofReport_ofFiles,
    Progress.outcome]
  simp only [hfailed]
  congr 2 <;> exact List.map_congr_left fun path hpath => by rw [hone path hpath]; rfl

theorem run_files (read : String → Except ReadError String) (command : Command) :
    (∀ files, files ≠ [] → "" ∉ files →
      Invocation.ofWords (command.words ++ "--" :: files) = .run command files) ∧
    (∀ words files, Invocation.ofWords words = .run command files →
      Program.run read none words = (files.foldl (Progress.visit read command) {}).outcome) ∧
    (∀ words words₁ words₂ files₁ files₂,
      Invocation.ofWords words = .run command (files₁ ++ files₂) →
      Invocation.ofWords words₁ = .run command files₁ →
      Invocation.ofWords words₂ = .run command files₂ →
      Program.run read none words =
        (Program.run read none words₁).andThen (Program.run read none words₂)) ∧
    (∀ words files, Invocation.ofWords words = .run command files → ∀ alone : String → List String,
      (∀ file ∈ files, Invocation.ofWords (alone file) = .run command [file]) →
      Program.run read none words =
        ⟨if ∃ file ∈ files, (Program.run read none (alone file)).code = 1 then 1 else 0,
          String.join (files.map fun file => (Program.run read none (alone file)).output),
          String.join (files.map fun file => (Program.run read none (alone file)).messages)⟩) ∧
    (∀ words file, Invocation.ofWords words = .run command [file] →
      ((Program.run read none words).code = 0 ↔
        ∃ text lexemes, read file = .ok text ∧ tokenize text = .ok lexemes) ∧
      (∀ e, read file = .error e →
        Program.run read none words = ⟨1, "", file ++ ": " ++ e.message ++ "\n"⟩) ∧
      ∀ text stop, read file = .ok text → tokenize text = .error stop →
        ∃ e, stop = .malformed e ∧
          Program.run read none words = ⟨1, "", file ++ ": " ++ e.message ++ "\n"⟩) ∧
    -- the files of a tree can be read where they hold a text in UTF-8
    ∀ (tree : FileTree) file text, tree.read file = .ok text ↔ tree.Holds file text := by
  refine ⟨fun files => ofWords_words, fun words files => run_eq_outcome,
    fun words words₁ words₂ files₁ files₂ => run_append, fun words files h alone => run_eq_join h,
    fun words file h => ⟨?_, fun e => run_of_unreadable h, fun text stop hread herror => ?_⟩,
    fun tree file text => FileTree.read_eq_ok_iff⟩
  · rw [run_eq_outcome h, Progress.outcome_code_eq_zero_iff]
    exact Progress.failed_visit_eq_false_iff
  · obtain ⟨e, rfl⟩ := exists_malformed herror
    exact ⟨e, rfl, run_of_malformed h hread herror⟩

/-- A file that can be split, and one that fails behind its first lexeme. -/
def mixedTree : FileTree := .ofPaths [("a", .file "x 1".toUTF8), ("b", .file "x'".toUTF8)]

/-- A failing file before and behind a good one and a missing one, and each of them alone. -/
theorem run_files_failing_twice :
    (Invocation.ofWords ["tokens", "--no-trivia", "--", "b", "a", "c", "b"] =
        .run (.tokens ⟨false⟩) ["b", "a", "c", "b"] ∧
      Program.run mixedTree.read none ["tokens", "--no-trivia", "--", "b", "a", "c", "b"] =
        (Program.run mixedTree.read none ["tokens", "--no-trivia", "--", "b", "a"]).andThen
          (Program.run mixedTree.read none ["tokens", "--no-trivia", "--", "c", "b"]) ∧
      Program.run mixedTree.read none ["tokens", "--no-trivia", "--", "b", "a", "c", "b"] =
        ⟨1, "1:1\tidentifier\t\"x\"\n1:3\tnumber\t\"1\"\n",
          "b: unterminated quoted string at line 1, column 2\n" ++
          "c: No such file or directory (os error 2)\n" ++
          "b: unterminated quoted string at line 1, column 2\n"⟩) ∧
    ((Program.run mixedTree.read none ["check", "--", "a"]).code = 0 ∧
      ∃ text lexemes, mixedTree.Holds "a" text ∧ tokenize text = .ok lexemes) ∧
    Program.run mixedTree.read none ["check", "--", "c"] =
      ⟨1, "", "c: No such file or directory (os error 2)\n"⟩ ∧
    ∃ e, tokenize "x'" = .error (.malformed e) ∧
      Program.run mixedTree.read none ["check", "--", "b"] =
        ⟨1, "", "b: " ++ e.message ++ "\n"⟩ := by
  obtain ⟨hwords, hloop, happend, -⟩ := run_files mixedTree.read (.tokens ⟨false⟩)
  obtain ⟨hwords', hloop', -, -, hone, htree⟩ := run_files mixedTree.read .check
  have hall := hwords ["b", "a", "c", "b"] (by decide) (by decide)
  refine ⟨⟨hall, ?_, ?_⟩, ?_, ?_, ?_⟩
  · exact happend _ _ _ ["b", "a"] ["c", "b"] hall (hwords _ (by decide) (by decide))
      (hwords _ (by decide) (by decide))
  · exact (hloop _ _ hall).trans (by decide +kernel)
  · have ha := hwords' ["a"] (by decide) (by decide)
    have hcode : (Program.run mixedTree.read none ["check", "--", "a"]).code = 0 :=
      (congrArg Outcome.code (hloop' _ _ ha)).trans (by decide +kernel)
    obtain ⟨text, lexemes, hread, hok⟩ := (hone _ _ ha).1.1 hcode
    exact ⟨hcode, text, lexemes, (htree mixedTree _ _).1 hread, hok⟩
  · exact (hone _ _ (hwords' ["c"] (by decide) (by decide))).2.1 .missing (by decide +kernel)
  · have hread : mixedTree.read "b" = .ok "x'" := by decide +kernel
    have herror : tokenize "x'" = .error (.malformed ⟨.unterminatedString, ⟨1, 1, 2⟩⟩) := by
      decide +kernel
    obtain ⟨e, he, hrun⟩ := (hone _ _ (hwords' ["b"] (by decide) (by decide))).2.2 _ _ hread herror
    exact ⟨e, he ▸ herror, hrun⟩

end LexSpan
