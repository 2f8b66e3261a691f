import LexSpan.Proofs.Consumption

/-!
# Reading literals

A literal is read as it is written or up to the case of ASCII letters (`Spelling`). Either way it is
read exactly where its characters stand at the head of what is left, one by one (`Spelling.Heads`),
though one of the two compares bytes (`matchesAt_iff`). The token has the characters of the text, and
as many of them, and bytes, as the literal.

Main statement (`literals_read_by_characters`): this, and that reading a literal in two parts is
reading it at once, wherever it is cut (`Cursor.read_literal_append_iff`): the parts of what is read
go with the parts of the literal, and passing one after the other is passing both. A session refuses
such a read only where its counters have no room.
-/

namespace LexSpan

/-- How a literal has to be spelled in a text. -/
inductive Spelling where
  /-- As it is written. -/
  | exact
  /-- Up to the case of ASCII letters. -/
  | anyCase
deriving DecidableEq

namespace Spelling

/-- What of a character has to be the same. -/
def fold : Spelling → Char → Char
  | exact => id
  | anyCase => Char.toLower

/-- The shape of a literal. -/
def shape : Spelling → String → Shape
  | exact => .literal
  | anyCase => .literalIgnoringCase

/-- Whether the rest of a cursor starts with a literal. -/
def matchesAt : Spelling → Cursor → String → Bool
  | exact => Cursor.matchesText
  | anyCase => Cursor.matchesTextIgnoringCase

/-- Whether the characters of a literal stand at the head of a text, one by one. -/
def Heads (spelling : Spelling) (literal cs : List Char) : Prop :=
  ∃ as, as <+: cs ∧ literal.map spelling.fold = as.map spelling.fold

variable {spelling : Spelling} {literal : String} {c : Cursor} {as bs cs : List Char}

theorem heads_exact_iff : exact.Heads as cs ↔ as <+: cs := by
  constructor
  · rintro ⟨bs, hbs, heq⟩
    rw [fold, List.map_id, List.map_id] at heq
    exact heq ▸ hbs
  · exact fun h => ⟨as, h, rfl⟩

theorem matchesAt_iff : spelling.matchesAt c literal = true ↔
    spelling.Heads literal.toList c.rest := by
  cases spelling with
  | exact => exact List.isPrefixOf_iff_prefix.trans heads_exact_iff.symm
  | anyCase => exact startsWithIgnoringCase_iff

/-- Only ASCII letters have another spelling. -/
theorem eq_of_fold_eq {a b : Char} (ha : 128 ≤ a.toNat) (h : spelling.fold a = spelling.fold b) :
    a = b := by
  cases spelling with
  | exact => exact h
  | anyCase => exact eq_of_toLower_eq ha h

theorem length_eq_of_map_fold_eq (h : as.map spelling.fold = bs.map spelling.fold) :
    Utf8.length as = Utf8.length bs := by
  cases spelling with
  | exact =>
    rw [fold, List.map_id, List.map_id] at h
    rw [h]
  | anyCase => exact length_eq_of_map_loweredBytes_eq (map_loweredBytes_eq_iff.2 h)

theorem extent?_shape : (spelling.shape literal).extent? c.rest =
    if literal ≠ "" ∧ spelling.matchesAt c literal = true then some literal.utf8ByteSize else none := by
  cases spelling <;> rfl

end Spelling

namespace Cursor

variable {c d : Cursor} {spelling : Spelling} {literal : String} {token : Token}

theorem read_literal_none (h : ¬ (literal ≠ "" ∧ spelling.Heads literal.toList c.rest)) :
    c.read (spelling.shape literal) = .ok (none, c) := by
  refine read_eq_none ?_
  rw [Spelling.extent?_shape, if_neg fun hread => h ⟨hread.1, Spelling.matchesAt_iff.1 hread.2⟩]

/-- A literal is read where characters stand that go with its own, and takes these. -/
theorem read_literal_eq_some_iff (hv : c.Valid) :
    c.read (spelling.shape literal) = .ok (some token, d) ↔
      literal ≠ "" ∧ ∃ as bs, c.rest = as ++ bs ∧
        literal.toList.map spelling.fold = as.map spelling.fold ∧
        token = ⟨String.ofList as, c.position, (advanceBy as.length c).position⟩ ∧
        d = advanceBy as.length c := by
  have hread : ∀ {as bs}, literal ≠ "" → c.rest = as ++ bs →
      literal.toList.map spelling.fold = as.map spelling.fold →
      c.read (spelling.shape literal) =
        .ok (some ⟨String.ofList as, c.position, (advanceBy as.length c).position⟩,
          advanceBy as.length c) := fun hne hc has => by
    refine read_eq_some hv hc ?_
    rw [Spelling.extent?_shape, if_pos ⟨hne, Spelling.matchesAt_iff.2 ⟨_, ⟨_, hc.symm⟩, has⟩⟩,
      Utf8.utf8ByteSize_eq, Spelling.length_eq_of_map_fold_eq has]
  constructor
  · intro h
    by_cases hstands : literal ≠ "" ∧ spelling.Heads literal.toList c.rest
    · obtain ⟨hne, as, ⟨bs, hc⟩, has⟩ := hstands
      rw [hread hne hc.symm has] at h
      cases h
      exact ⟨hne, as, bs, hc.symm, has, rfl, rfl⟩
    · rw [read_literal_none hstands] at h
      cases h
  · rintro ⟨hne, as, bs, hc, has, rfl, rfl⟩
    exact hread hne hc has

theorem exists_read_literal_iff (hv : c.Valid) :
    (∃ token later, c.read (spelling.shape literal) = .ok (some token, later)) ↔
      literal ≠ "" ∧ spelling.Heads literal.toList c.rest := by
  constructor
  · rintro ⟨token, later, h⟩
    obtain ⟨hne, as, bs, hc, has, -⟩ := (read_literal_eq_some_iff hv).1 h
    exact ⟨hne, as, ⟨bs, hc.symm⟩, has⟩
  · rintro ⟨hne, as, ⟨bs, hc⟩, has⟩
    exact ⟨_, _, (read_literal_eq_some_iff hv).2 ⟨hne, as, bs, hc.symm, has, rfl, rfl⟩⟩

/-- What the token of a literal has of the literal, and what of the text. -/
theorem takes_of_read_literal (hv : c.Valid)
    (h : c.read (spelling.shape literal) = .ok (some token, d)) :
    c.Takes token d ∧ token.length = literal.utf8ByteSize ∧ token.text.length = literal.length ∧
      token.text.toList <+: c.rest ∧
      literal.toList.map spelling.fold = token.text.toList.map spelling.fold := by
  obtain ⟨hne, as, bs, hc, has, rfl, rfl⟩ := (read_literal_eq_some_iff hv).1 h
  have hcount : literal.toList.length = as.length := by
    rw [← List.length_map spelling.fold, has, List.length_map]
  have hnil : as ≠ [] := by
    rintro rfl
    exact hne (String.toList_eq_nil_iff.1 (List.length_eq_zero_iff.1 hcount))
  refine ⟨?_, ?_, ?_, ⟨bs, ?_⟩, ?_⟩
  · rw [← tokenTo_advanceBy hc]
    exact .of_append hv hc hnil
  · show (advanceBy as.length c).offset - c.offset = _
    rw [offset_advanceBy hc, Nat.add_sub_cancel_left, Utf8.utf8ByteSize_eq,
      Spelling.length_eq_of_map_fold_eq has]
  · rw [String.length_ofList, ← String.length_toList, hcount]
  · rw [String.toList_ofList, hc]
  · rw [String.toList_ofList, has]

/-- Reading two literals one behind the other is reading both at once. -/
theorem read_literal_append_iff (hv : c.Valid) {a b : String} (ha : a ≠ "") (hb : b ≠ "") :
    c.read (spelling.shape (a ++ b)) = .ok (some token, d) ↔
      ∃ first middle second, c.read (spelling.shape a) = .ok (some first, middle) ∧
        middle.read (spelling.shape b) = .ok (some second, d) ∧
        token = ⟨first.text ++ second.text, first.start, second.stop⟩ := by
  constructor
  · intro h
    obtain ⟨-, whole, bs, hc, hwhole, rfl, rfl⟩ := (read_literal_eq_some_iff hv).1 h
    rw [String.toList_append, List.map_append] at hwhole
    obtain ⟨as, as', rfl, has, has'⟩ := List.map_eq_append_iff.1 hwhole.symm
    rw [List.append_assoc] at hc
    refine ⟨_, _, _, (read_literal_eq_some_iff hv).2 ⟨ha, as, _, hc, has.symm, rfl, rfl⟩,
      (read_literal_eq_some_iff (hv.advanceBy _)).2
        ⟨hb, as', bs, rest_advanceBy hc, has'.symm, rfl, ?_⟩, ?_⟩
    · rw [List.length_append, advanceBy_add]
    · rw [String.ofList_append, List.length_append, advanceBy_add]
  · rintro ⟨first, middle, second, hfirst, hsecond, rfl⟩
    obtain ⟨-, as, bs, hc, has, rfl, rfl⟩ := (read_literal_eq_some_iff hv).1 hfirst
    obtain ⟨-, as', bs', hc', has', rfl, rfl⟩ :=
      (read_literal_eq_some_iff (hv.advanceBy _)).1 hsecond
    have hne : a ++ b ≠ "" := fun h => ha (String.append_eq_empty_iff.1 h).1
    refine (read_literal_eq_some_iff hv).2 ⟨hne, as ++ as', bs', ?_, ?_, ?_, ?_⟩
    · rw [hc, ← rest_advanceBy hc, hc', List.append_assoc]
    · rw [String.toList_append, List.map_append, List.map_append, has, has']
    · rw [String.ofList_append, List.length_append, advanceBy_add]
    · rw [List.length_append, advanceBy_add]

end Cursor

theorem literals_read_by_characters {text : String} {c : Cursor} (h : Reachable text c)
    (spelling : Spelling) :
    (∀ literal : String,
      c.readStepwise (spelling.shape literal) = c.read (spelling.shape literal) ∧
      (spelling.matchesAt c literal = true ↔ spelling.Heads literal.toList c.rest) ∧
      ((∃ token later, c.read (spelling.shape literal) = .ok (some token, later)) ↔
        literal ≠ "" ∧ spelling.Heads literal.toList c.rest) ∧
      (¬ (literal ≠ "" ∧ spelling.Heads literal.toList c.rest) →
        c.read (spelling.shape literal) = .ok (none, c)) ∧
      ∀ token later, c.read (spelling.shape literal) = .ok (some token, later) →
        c.Takes token later ∧ token.length = literal.utf8ByteSize ∧
          token.text.length = literal.length ∧ token.text.toList <+: c.rest ∧
          literal.toList.map spelling.fold = token.text.toList.map spelling.fold) ∧
    (∀ s : Session, s.cursor = c → ∀ literal found later,
      c.read (spelling.shape literal) = .ok (found, later) →
        (s.operate (.read (spelling.shape literal)) = .error .countersExhausted ∧ ¬ c.HasRoom) ∨
          s.operate (.read (spelling.shape literal)) =
            .ok (.token found, { s with cursor := later })) ∧
    (∀ a b : Char, 128 ≤ a.toNat → spelling.fold a = spelling.fold b → a = b) ∧
    ∀ a b : String, a ≠ "" → b ≠ "" → ∀ token last,
      c.read (spelling.shape (a ++ b)) = .ok (some token, last) ↔
        ∃ first middle second, c.read (spelling.shape a) = .ok (some first, middle) ∧
          middle.read (spelling.shape b) = .ok (some second, last) ∧
          token = ⟨first.text ++ second.text, first.start, second.stop⟩ := by
  have hv := h.valid
  refine ⟨fun literal => ⟨Cursor.readStepwise_eq_read hv _, Spelling.matchesAt_iff,
    Cursor.exists_read_literal_iff hv, Cursor.read_literal_none, fun token later =>
      Cursor.takes_of_read_literal hv⟩, ?_, fun a b => Spelling.eq_of_fold_eq,
    fun a b ha hb token last => Cursor.read_literal_append_iff hv ha hb⟩
  rintro s rfl literal found later hread
  exact Session.operate_read hread

/-- A literal that is cut between a carriage return and its line feed, behind a letter in the other case
and a letter of two bytes. The Kelvin sign is no spelling of a letter. -/
theorem literals_read_by_characters_across_pair :
    (∃ token last first middle second,
      (Cursor.start "Ké\r\n!").read (Spelling.anyCase.shape ("ké\r" ++ "\n")) =
        .ok (some token, last) ∧
      (Cursor.start "Ké\r\n!").read (Spelling.anyCase.shape "ké\r") = .ok (some first, middle) ∧
      middle.read (Spelling.anyCase.shape "\n") = .ok (some second, last) ∧
      token.text = "Ké\r\n" ∧ token.length = 5 ∧ middle.position = ⟨4, 1, 4⟩ ∧
      last.position = ⟨5, 2, 1⟩) ∧
    (Cursor.start "\u212a").read (Spelling.anyCase.shape "k") = .ok (none, .start "\u212a") := by
  constructor
  · have hstart : Reachable "Ké\r\n!" (.start "Ké\r\n!") := .start
    obtain ⟨hread, -, -, happend⟩ := literals_read_by_characters hstart .anyCase
    obtain ⟨-, -, hiff, -, htakes⟩ := hread ("ké\r" ++ "\n")
    obtain ⟨token, last, hwhole⟩ := hiff.2
      ⟨by decide, ['K', 'é', '\r', '\n'], ⟨['!'], rfl⟩, by decide⟩
    obtain ⟨first, middle, second, hfirst, hsecond, -⟩ :=
      (happend "ké\r" "\n" (by decide) (by decide) token last).1 hwhole
    have hvalid := Cursor.valid_start "Ké\r\n!"
    have hall := Cursor.read_eq_some hvalid (show _ = ['K', 'é', '\r', '\n'] ++ ['!'] from rfl)
      (show (Spelling.anyCase.shape ("ké\r" ++ "\n")).extent? _ = _ by decide)
    have hpart := Cursor.read_eq_some hvalid (show _ = ['K', 'é', '\r'] ++ ['\n', '!'] from rfl)
      (show (Spelling.anyCase.shape "ké\r").extent? _ = _ by decide)
    cases hall.symm.trans hwhole
    cases hpart.symm.trans hfirst
    exact ⟨_, _, _, _, second, hwhole, hfirst, hsecond, rfl, (htakes _ _ hwhole).2.1, rfl, rfl⟩
  · have hstart : Reachable "\u212a" (.start "\u212a") := .start
    obtain ⟨hread, -, hfold, -⟩ := literals_read_by_characters hstart .anyCase
    refine (hread "k").2.2.2.1 ?_
    rintro ⟨-, as, has, hmap⟩
    obtain ⟨a, rfl, ha⟩ := List.map_eq_singleton_iff.1 (show as.map _ = [_] from hmap.symm)
    obtain ⟨rfl, -⟩ := List.cons_prefix_cons.1 (show [a] <+: ['\u212a'] from has)
    exact absurd (hfold _ 'k' (by decide) ha) (by decide)

end LexSpan
