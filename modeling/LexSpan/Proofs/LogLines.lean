import LexSpan.Proofs.Lines
import Mathlib.Data.List.Basic

/-!
# Lines of the log

What is said about a file and the events of the log are written on one channel, a line each. A line
of the log begins with the level and the target of an event and ends with a number behind an equals
sign or with a quoted text (`Event.isLogLine_render`). What is said about a file is its path, a colon
and a phrase (`IsPhrase`), and so it never ends like that (`isLogLine_message`). So `isLogLine` tells
the two apart by their form, whatever the path is (`filter_lines`); only a line feed in a path would
tear its line into two.
-/

namespace LexSpan

namespace Remark

/-- Whether a remark is for the log. -/
def isEvent : Remark → Bool
  | event _ => true
  | _ => false

end Remark

/-- The levels and targets of events. -/
def Event.origins : List (Level × String) :=
  [(.debug, "textscan"), (.trace, "textscan_rs::lexer"), (.debug, "textscan_rs::lexer")]

/-- What stands behind the last equals sign of a line, from the end on. -/
def fieldAtEnd (line : String) : List Char := line.toList.reverse.takeWhile (· ≠ '=')

/-- Whether a line has the form of an event: a level and a target at its head, and at its end
nothing but digits behind an equals sign, or a double quote. -/
def isLogLine (line : String) : Bool :=
  (Event.origins.any fun (level, target) =>
    (level.name ++ " " ++ target ++ ": ").toList.isPrefixOf line.toList) &&
  ((fieldAtEnd line).all isDecimalDigit || line.toList.getLast? = some '"')

/-- Whether a text holds no line feed, no equals sign and no double quote. -/
def IsPhrase (text : String) : Prop := ∀ c ∈ text.toList, c ≠ '\n' ∧ c ≠ '=' ∧ c ≠ '"'

instance (text : String) : Decidable (IsPhrase text) :=
  List.decidableBAll (fun c : Char => c ≠ '\n' ∧ c ≠ '=' ∧ c ≠ '"') text.toList

/-- Whether the line of a remark, if it has one, is a single one, and of the log exactly if the
remark is an event. -/
def Remark.Recognizable (remark : Remark) : Prop :=
  ∀ line, remark.message? = some line → '\n' ∉ line.toList ∧ isLogLine line = remark.isEvent

variable {path reason : String} {remarks : List Remark}

/-! ## Phrases -/

theorem IsPhrase.append {s t : String} (hs : IsPhrase s) (ht : IsPhrase t) : IsPhrase (s ++ t) := by
  rw [IsPhrase, String.toList_append]
  exact List.forall_mem_append.2 ⟨hs, ht⟩

theorem IsPhrase.newline_not_mem (h : IsPhrase reason) : '\n' ∉ reason.toList :=
  fun hmem => (h _ hmem).1 rfl

theorem isPhrase_toString (n : Nat) : IsPhrase (toString n) := by
  intro c hc
  have hdigit := isDecimalDigit_of_mem_toString hc
  refine ⟨?_, ?_, ?_⟩ <;> (rintro rfl; exact absurd hdigit (by decide))

/-- The count of a text that can be split. -/
theorem isPhrase_count (n : Nat) : IsPhrase ("ok (" ++ toString n ++ " tokens)") :=
  ((show IsPhrase "ok (" by decide).append (isPhrase_toString n)).append (by decide)

theorem LexError.isPhrase_message (e : LexError) : IsPhrase e.message := by
  have hkind : IsPhrase e.kind.message := by cases e.kind <;> decide
  exact (((hkind.append (by decide)).append (isPhrase_toString _)).append (by decide)).append
    (isPhrase_toString _)

/-- Why a file cannot be read is a phrase, unless the system has a reason of its own that is none. -/
theorem ReadError.isPhrase_message {e : ReadError}
    (h : ∀ reason, e = .other reason → IsPhrase reason) : IsPhrase e.message := by
  cases e with
  | other reason => exact h reason rfl
  | _ => decide

/-! ## Events -/

theorem fieldAtEnd_of_append {line : String} {front field : List Char}
    (hline : line.toList = front ++ '=' :: field) (h : '=' ∉ field) :
    fieldAtEnd line = field.reverse := by
  have hfield : ∀ c ∈ field.reverse, decide (c ≠ '=') = true := fun c hc =>
    decide_eq_true fun heq => h (heq ▸ List.mem_reverse.1 hc)
  rw [fieldAtEnd, hline, List.reverse_append, List.reverse_cons, List.append_assoc,
    List.takeWhile_append_of_pos hfield, List.singleton_append,
    List.takeWhile_cons_of_neg (by decide), List.append_nil]

/-- A number behind an equals sign ends a line as an event ends. -/
theorem all_fieldAtEnd (front : String) (n : Nat) :
    (fieldAtEnd (front ++ "=" ++ toString n)).all isDecimalDigit = true := by
  have hline :
      (front ++ "=" ++ toString n).toList = front.toList ++ '=' :: (toString n).toList := by
    rw [String.toList_append, String.toList_append, List.append_assoc]
    rfl
  rw [fieldAtEnd_of_append hline fun hmem => (isPhrase_toString n _ hmem).2.1 rfl, List.all_reverse]
  exact List.all_eq_true.2 fun c => isDecimalDigit_of_mem_toString

namespace Event

theorem mem_origins (e : Event) : (e.level, e.target) ∈ origins := by
  cases e <;> simp [Event.level, Event.target, origins]

theorem render_scanning (path : String) (bytes : Nat) : (scanning path bytes).render =
    "DEBUG textscan: " ++ ("scanning path=" ++ path ++ " bytes=" ++ toString bytes) := rfl

theorem render_token (lexeme : Lexeme) : (token lexeme).render =
    "TRACE textscan_rs::lexer: " ++ ("token kind=" ++ lexeme.kind.name ++ " at=" ++
      lexeme.start.render ++ " text=" ++ quote lexeme.text) := rfl

theorem render_tokenized (count bytes : Nat) : (tokenized count bytes).render =
    "DEBUG textscan_rs::lexer: " ++
      ("tokenized input count=" ++ toString count ++ " bytes=" ++ toString bytes) := rfl

/-- Every event is written as a line of the log. -/
theorem isLogLine_render (e : Event) : isLogLine e.render = true := by
  have hhead : (origins.any fun (level, target) =>
      (level.name ++ " " ++ target ++ ": ").toList.isPrefixOf e.render.toList) = true := by
    refine List.any_eq_true.2 ⟨_, e.mem_origins, List.isPrefixOf_iff_prefix.2 ?_⟩
    exact ⟨e.message.toList, String.toList_append.symm⟩
  have hbytes : " bytes=" = " bytes" ++ "=" := rfl
  rw [isLogLine, hhead, Bool.true_and, Bool.or_eq_true]
  cases e with
  | scanning path bytes =>
    refine .inl ?_
    rw [render_scanning, hbytes, ← String.append_assoc, ← String.append_assoc,
      ← String.append_assoc]
    exact all_fieldAtEnd _ bytes
  | token lexeme =>
    refine .inr (decide_eq_true ?_)
    rw [render_token, ← String.append_assoc, String.toList_append, toList_quote, ← List.cons_append,
      ← List.append_assoc, List.getLast?_concat]
  | tokenized count bytes =>
    refine .inl ?_
    rw [render_tokenized, hbytes, ← String.append_assoc, ← String.append_assoc,
      ← String.append_assoc]
    exact all_fieldAtEnd _ bytes

/-- The line of an event is a single one, if the path in it is. -/
theorem newline_not_mem_render {e : Event}
    (hpath : ∀ path bytes, e = scanning path bytes → '\n' ∉ path.toList) :
    '\n' ∉ e.render.toList := by
  have hfeed : '\n'.toNat < 0x20 := by decide
  cases e with
  | scanning path bytes =>
    have hbytes := (plain_toString bytes).not_mem hfeed
    rw [render_scanning]
    simp only [String.toList_append, List.mem_append, not_or]
    exact ⟨by decide, ⟨⟨by decide, hpath path bytes rfl⟩, by decide⟩, hbytes⟩
  | token lexeme =>
    have hname := (plain_name lexeme.kind).not_mem hfeed
    have hplace := (plain_render lexeme.start).not_mem hfeed
    have hquote := (plain_quote lexeme.text).not_mem hfeed
    rw [render_token]
    simp only [String.toList_append, List.mem_append, not_or]
    exact ⟨by decide, ⟨⟨⟨⟨by decide, hname⟩, by decide⟩, hplace⟩, by decide⟩, hquote⟩
  | tokenized count bytes =>
    have hcount := (plain_toString count).not_mem hfeed
    have hbytes := (plain_toString bytes).not_mem hfeed
    rw [render_tokenized]
    simp only [String.toList_append, List.mem_append, not_or]
    exact ⟨by decide, ⟨⟨by decide, hcount⟩, by decide⟩, hbytes⟩

end Event

/-! ## Messages -/

/-- What is said about a file is no line of the log. -/
theorem isLogLine_message (path : String) (h : IsPhrase reason) :
    isLogLine (path ++ ": " ++ reason) = false := by
  have hline : (path ++ ": " ++ reason).toList = path.toList ++ ':' :: (' ' :: reason.toList) := by
    rw [String.toList_append, String.toList_append, List.append_assoc]
    rfl
  -- the blank behind the colon stands behind the last equals sign too
  have hblank : ' ' ∈ fieldAtEnd (path ++ ": " ++ reason) := by
    have hreason : ∀ c ∈ reason.toList.reverse, decide (c ≠ '=') = true := fun c hc =>
      decide_eq_true (h c (List.mem_reverse.1 hc)).2.1
    rw [fieldAtEnd, hline, List.reverse_append, List.reverse_cons, List.reverse_cons,
      List.append_assoc, List.append_assoc, List.takeWhile_append_of_pos hreason]
    exact List.mem_append_right _ (.head _)
  have hdigits : (fieldAtEnd (path ++ ": " ++ reason)).all isDecimalDigit = false := by
    rw [List.all_eq_false]
    exact ⟨' ', hblank, by decide⟩
  have hquote : (path ++ ": " ++ reason).toList.getLast? ≠ some '"' := by
    rw [hline, List.getLast?_append_cons, List.getLast?_cons_cons]
    intro hlast
    rcases List.mem_cons.1 (List.mem_of_getLast? hlast) with hspace | hmem
    · cases hspace
    · exact (h _ hmem).2.2 rfl
  rw [isLogLine, hdigits, decide_eq_false hquote, Bool.or_false, Bool.and_false]

/-! ## Remarks -/

namespace Remark

theorem recognizable_output (line : String) : (output line).Recognizable := by
  rintro _ ⟨⟩

theorem recognizable_event {e : Event}
    (hpath : ∀ path bytes, e = .scanning path bytes → '\n' ∉ path.toList) :
    (event e).Recognizable := by
  rintro _ ⟨⟩
  exact ⟨Event.newline_not_mem_render hpath, e.isLogLine_render⟩

theorem recognizable_message (hpath : '\n' ∉ path.toList) (h : IsPhrase reason) :
    (message (path ++ ": " ++ reason)).Recognizable := by
  rintro _ ⟨⟩
  refine ⟨?_, isLogLine_message path h⟩
  have hreason := h.newline_not_mem
  simp [hpath, hreason]

end Remark

/-- Where every remark can be recognized, the lines of the log are those of the events. -/
theorem filter_lines (h : ∀ remark ∈ remarks, remark.Recognizable) (keep : Bool → Bool) :
    (remarks.filterMap Remark.message?).filter (fun line => keep (isLogLine line)) =
      (remarks.filter fun remark => keep remark.isEvent).filterMap Remark.message? := by
  rw [List.filter_filterMap, List.filterMap_filter]
  refine List.filterMap_congr fun remark hmem => ?_
  cases hline : remark.message? with
  | none => simp
  | some line => simp [Option.filter, (h remark hmem line hline).2]

theorem lines?_messages (h : ∀ remark ∈ remarks, remark.Recognizable) :
    lines? (joinLines (remarks.filterMap Remark.message?)) =
      some (remarks.filterMap Remark.message?) := by
  refine lines?_joinLines fun line hline => ?_
  obtain ⟨remark, hmem, hremark⟩ := List.mem_filterMap.1 hline
  exact (h remark hmem line hremark).1

end LexSpan
