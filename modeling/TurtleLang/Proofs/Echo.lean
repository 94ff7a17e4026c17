import TurtleLang.Proofs.Spacing
import TurtleLang.Proofs.Walk

/-!
Where a line of the output comes from, and which blanks of a source can show in it.
A row belongs to the program itself, to a definition or to a source line, and among
these only a line that is not understood shows more than words and spaces. A
carriage return in the output, which ends the comment for a reader that takes it as
a line end, therefore shows that such a line has one inside; and a source whose
carriage returns all stand at line ends has none in its output.
-/
namespace TurtleLang

set_option autoImplicit false

open Text (Spaced)

namespace Command

theorem row_of_flat_map {registry : Registry} {policy : SplitPolicy} {lines : List String}
    {depth : Nat} {row : Nat × Phrase}
    (member : row ∈ Outline.rowsOf depth
      (outlinesOf (lines.flatMap (readLine registry policy)))) :
    ∃ earlier line later, lines = earlier ++ line :: later ∧
      row ∈ Outline.rowsOf depth (outlinesOf (readLine registry policy line)) := by
  induction lines with
  | nil => cases member
  | cons line lines ih =>
      rw [List.flatMap_cons, outlines_of_append, Outline.rows_of_append, List.mem_append] at member
      rcases member with here | later
      · exact ⟨[], line, lines, rfl, here⟩
      · obtain ⟨earlier, found, rest, rfl, inside⟩ := ih later
        exact ⟨line :: earlier, found, rest, rfl, inside⟩

end Command

inductive RowFrom (policy : SplitPolicy) (items : List Item) : Nat × Phrase → Prop
  | prologue : RowFrom policy items (0, .prologue)
  | epilogue : RowFrom policy items (0, .epilogue)
  | gap : RowFrom policy items (0, .gap)
  | definition {header : Line} {procedure : Procedure} : .definition header procedure ∈ items →
      RowFrom policy items (0, .definition (Registry.entry procedure).name procedure.parameters)
  | pass : RowFrom policy items (1, .pass)
  | line {visible : List Item} {emitted : List (Nat × Phrase)} {depth : Nat} {text : String}
      {row : Nat × Phrase} : LineAt policy items visible emitted depth text →
      row ∈ Outline.rowsOf depth
        (Command.outlinesOf (Command.readLine (knownAfter visible) policy text)) →
        RowFrom policy items row

theorem known_after_concat (before : List Item) (item : Item) :
    knownAfter (before ++ [item]) = item.enter (knownAfter before) := by
  rw [knownAfter, List.foldl_append]
  rfl

theorem row_from_item {policy : SplitPolicy} {before after : List Item} {item : Item}
    {row : Nat × Phrase}
    (member : row ∈ Outline.rowsOf 0 (item.forest policy (knownAfter before))) :
    RowFrom policy (before ++ item :: after) row := by
  cases item with
  | command line => exact .line (.outside rfl) member
  | definition header procedure =>
      rw [Item.definition_rows] at member
      rcases List.mem_cons.mp member with rfl | member
      · exact .gap
      · rcases List.mem_cons.mp member with rfl | member
        · have listed : .definition header procedure ∈
              before ++ .definition header procedure :: after := by
            simp
          exact .definition listed
        · rcases Command.row_of_fill_block member with inside | rfl
          · obtain ⟨earlier, line, later, body, within⟩ := Command.row_of_flat_map inside
            apply RowFrom.line (.inside rfl body)
            rw [known_after_concat]
            exact within
          · exact .pass

theorem row_from_item_forest {policy : SplitPolicy} {before items : List Item} {row : Nat × Phrase}
    (member : row ∈ Outline.rowsOf 0 (itemForest policy (knownAfter before) items)) :
    RowFrom policy (before ++ items) row := by
  induction items generalizing before with
  | nil => cases member
  | cons item items ih =>
      rw [itemForest, Outline.rows_of_append, List.mem_append] at member
      rcases member with here | later
      · exact row_from_item here
      · rw [← known_after_concat] at later
        have found := ih later
        rwa [List.append_assoc, List.singleton_append] at found

/-- Every row is one of the program's own or belongs to a source line. -/
theorem row_from_forest {policy : SplitPolicy} {items : List Item} {row : Nat × Phrase}
    (member : row ∈ Outline.rowsOf 0 (Script.forest policy items)) :
    RowFrom policy items row := by
  rw [Script.forest, List.cons_append, Outline.rowsOf, Outline.rows_of_append] at member
  simp only [List.mem_append, Outline.rows, Outline.rowsOf, List.mem_cons, List.append_nil,
    List.not_mem_nil, or_false] at member
  rcases member with rfl | here | rfl
  · exact .prologue
  · have whole : row ∈ Outline.rowsOf 0 (itemForest policy (knownAfter []) items) := here
    exact row_from_item_forest whole
  · exact .epilogue

theorem body_executable {items : List Item} {lines : List Line} (spans : Spans items lines)
    {header : Line} {procedure : Procedure} (member : .definition header procedure ∈ items)
    {text : String} (inside : text ∈ procedure.body) : ∃ line ∈ lines, line.text = text := by
  induction spans with
  | nil => cases member
  | command _ _ ih =>
      rcases List.mem_cons.mp member with here | later
      · cases here
      · obtain ⟨line, listed, same⟩ := ih later
        exact ⟨line, List.mem_cons_of_mem _ listed, same⟩
  | definition _ _ texts _ _ _ ih =>
      rcases List.mem_cons.mp member with here | later
      · cases here
        rw [texts] at inside
        obtain ⟨line, listed, same⟩ := List.mem_map.mp inside
        exact ⟨line, by simp [listed], same⟩
      · obtain ⟨line, listed, same⟩ := ih later
        exact ⟨line, by simp [listed], same⟩

theorem line_at_executable {policy : SplitPolicy} {items visible : List Item} {lines : List Line}
    (spans : Spans items lines) {emitted : List (Nat × Phrase)} {depth : Nat} {text : String}
    (stands : LineAt policy items visible emitted depth text) :
    ∃ line ∈ lines, line.text = text := by
  cases stands with
  | @outside _ _ line whole =>
      have member : .command line ∈ items := by simp [whole]
      exact ⟨line, command_executable spans member, rfl⟩
  | @inside _ _ header procedure _ _ _ whole body =>
      have member : .definition header procedure ∈ items := by simp [whole]
      exact body_executable spans member (by simp [body])

/-- A carriage return that is left in an executable line is followed by a character
of the line. -/
theorem executable_return {source : String} {line : Line} (member : line ∈ executableLines source)
    (holds : '\r' ∈ line.text.toList) :
    ∃ front next back, source.toList = front ++ '\r' :: next :: back ∧ next ≠ '\n' := by
  obtain ⟨index, raw, found, _, trimmed⟩ := executable_lines_physical member
  obtain ⟨noFeed, before, after, stretch⟩ := Text.lines_stretch (List.mem_of_getElem? found)
  obtain ⟨front, back, split, _, _⟩ := Text.trim_blanks_split raw.toList
  have last := Text.trim_blanks_last raw.toList
  rw [trimmed, Text.trim, String.toList_ofList] at holds
  obtain ⟨early, late, around⟩ := List.append_of_mem holds
  rw [around] at split last
  cases late with
  | nil =>
      have blank := last '\r' (by simp)
      cases blank
  | cons next late =>
      refine ⟨before ++ front ++ early, next, late ++ back ++ after, ?_, ?_⟩
      · rw [← stretch, split]
        simp
      · rintro rfl
        exact noFeed (by simp [split])

/-- A source line at a depth whose first word is neither built in nor the name of a
`to` block around it or in front of it. -/
def Unrecognised (policy : SplitPolicy) (items : List Item) (depth : Nat) (text : String) : Prop :=
  ∃ visible emitted first rest, LineAt policy items visible emitted depth text ∧
    Text.words text = first :: rest ∧ Text.lower first ≠ Command.loopWord ∧
    Primitive.ofName? (Text.lower first) = none ∧
    ¬∃ item ∈ visible, item.Defines (Text.lower first)

section Echoes

variable {policy : SplitPolicy} {source : String} {items : List Item}
  (spans : Spans items (executableLines source))

include spans

theorem spaced_definition {header : Line} {procedure : Procedure}
    (member : .definition header procedure ∈ items) :
    Spaced (Phrase.definition (Registry.entry procedure).name procedure.parameters).text := by
  obtain ⟨keyword, word, words, cut, named, listed, _⟩ := definition_declares spans member
  have unbroken : ∀ other ∈ keyword :: word :: words, Text.Unbroken other := by
    intro other inside
    rw [← cut] at inside
    exact (Text.words_solid inside).2
  have name : Text.Unbroken (Registry.entry procedure).name := by
    rw [Registry.entry, named]
    exact Text.unbroken_lower (Text.unbroken_lower (unbroken word (by simp)))
  have parameters : ∀ parameter ∈ procedure.parameters, Spaced parameter := by
    intro parameter inside
    rw [listed] at inside
    obtain ⟨other, inWords, rfl⟩ := List.mem_map.mp inside
    exact Text.spaced_of_unbroken (Text.unbroken_parameter_of (unbroken other (by simp [inWords])))
  have front : Spaced ("def " ++ (Registry.entry procedure).name ++ "(") :=
    Text.spaced_enclosed (by decide) (Text.spaced_of_unbroken name) (by decide)
  exact Text.spaced_enclosed front
    (Text.spaced_intercalate (show Spaced ", " by decide) parameters) (by decide)

theorem trim_line_at {visible : List Item} {emitted : List (Nat × Phrase)} {depth : Nat}
    {text : String} (stands : LineAt policy items visible emitted depth text) :
    Text.trim text = text := by
  obtain ⟨line, listed, rfl⟩ := line_at_executable spans stands
  exact executable_trim listed

/-- A row shows no blanks but spaces, or it is the echo of a line. -/
theorem row_spaced_or_echo {row : Nat × Phrase}
    (member : row ∈ Outline.rowsOf 0 (Script.forest policy items)) :
    Spaced row.2.text ∨
      ∃ text, Unrecognised policy items row.1 text ∧ row.2 = .unknown text := by
  cases row_from_forest member with
  | prologue => exact .inl (show Spaced "import turtle" by decide)
  | epilogue => exact .inl (show Spaced "turtle.done()" by decide)
  | gap => exact .inl (show Spaced "" by decide)
  | pass => exact .inl (show Spaced "pass" by decide)
  | definition listed => exact .inl (spaced_definition spans listed)
  | @line visible emitted depth text _ stands inside =>
      rcases Command.read_line_spaced (knownAfter visible) policy text with spaced | echoed
      · exact .inl (Command.rows_of_spaced spaced depth row inside)
      · right
        obtain ⟨first, rest, cut, noLoop, noPrimitive, unknown⟩ := echoed
        have undefined : ¬∃ item ∈ visible, item.Defines (Text.lower first) := by
          rw [← contains_visible spans (visible_subset stands) first, unknown]
          exact Bool.false_ne_true
        rw [rows_of_unlisted cut noLoop noPrimitive, unknown, trim_line_at spans stands,
          List.mem_singleton] at inside
        rw [inside]
        exact ⟨text, ⟨visible, emitted, first, rest, stands, cut, noLoop, noPrimitive, undefined⟩,
          rfl⟩

theorem echo_row {depth : Nat} {text : String} (echoed : Unrecognised policy items depth text) :
    (depth, .unknown text) ∈ Outline.rowsOf 0 (Script.forest policy items) := by
  obtain ⟨visible, emitted, first, rest, stands, cut, noLoop, noPrimitive, undefined⟩ := echoed
  obtain ⟨phrase, later, split, resolved⟩ := line_at_resolved spans stands cut noLoop noPrimitive
  rcases resolved with ⟨defined, _⟩ | ⟨_, rfl⟩
  · exact absurd defined undefined
  · rw [split, trim_line_at spans stands]
    simp

end Echoes

structure EchoesConfined (options : Options) (source : String) (items : List Item)
    (lines : List String) : Prop where
  /-- A line with a blank other than a space is the echo of an unrecognised line. -/
  echoes_only : ∀ line ∈ lines, ¬Spaced line → ∃ depth text,
    Unrecognised options.split items depth text ∧
      line = options.margin depth ++ ("# Unknown: " ++ text)
  echoes_all : ∀ depth text, Unrecognised options.split items depth text →
    options.margin depth ++ ("# Unknown: " ++ text) ∈ lines
  return_iff : (∃ line ∈ lines, '\r' ∈ line.toList) ↔
    ∃ depth text, Unrecognised options.split items depth text ∧ '\r' ∈ text.toList
  /-- Carriage returns at line ends and at the end of the source do not come out. -/
  returns_at_ends : (∀ front back, source.toList = front ++ '\r' :: back →
      back = [] ∨ ∃ rest, back = '\n' :: rest) → ∀ line ∈ lines, '\r' ∉ line.toList

theorem spaced_margin (options : Options) (depth : Nat) : Spaced (options.margin depth) := by
  intro character member _
  rw [Options.margin, String.toList_ofList] at member
  exact List.eq_of_mem_replicate member

theorem not_spaced_of_return {text : String} (holds : '\r' ∈ text.toList) : ¬Spaced text := by
  intro spaced
  have space := spaced '\r' holds (by decide)
  exact absurd space (by decide)

namespace Script

theorem echoes_of_line {options : Options} {source : String} {items : List Item}
    (spans : Spans items (executableLines source)) {line : String}
    (member : line ∈ (ofItems options items).lines) (broken : ¬Spaced line) :
    ∃ depth text, Unrecognised options.split items depth text ∧
      line = options.margin depth ++ ("# Unknown: " ++ text) := by
  rw [lines_of_items] at member
  obtain ⟨⟨depth, phrase⟩, shown, rfl⟩ := List.mem_map.mp member
  rcases row_spaced_or_echo spans shown with spaced | ⟨text, echoed, rfl⟩
  · exact absurd (Text.spaced_append (spaced_margin options depth) spaced) broken
  · exact ⟨depth, text, echoed, rfl⟩

theorem line_of_echo {options : Options} {source : String} {items : List Item}
    (spans : Spans items (executableLines source)) {depth : Nat} {text : String}
    (echoed : Unrecognised options.split items depth text) :
    options.margin depth ++ ("# Unknown: " ++ text) ∈ (ofItems options items).lines := by
  rw [lines_of_items, List.mem_map]
  exact ⟨(depth, .unknown text), echo_row spans echoed, rfl⟩

theorem return_of_line {options : Options} {source : String} {items : List Item}
    (spans : Spans items (executableLines source)) {line : String}
    (member : line ∈ (ofItems options items).lines) (holds : '\r' ∈ line.toList) :
    ∃ depth text, Unrecognised options.split items depth text ∧ '\r' ∈ text.toList := by
  obtain ⟨depth, text, echoed, rfl⟩ := echoes_of_line spans member (not_spaced_of_return holds)
  refine ⟨depth, text, echoed, ?_⟩
  rw [String.toList_append, String.toList_append, List.mem_append, List.mem_append] at holds
  rcases holds with inMargin | inMark | inText
  · exact absurd (spaced_margin options depth) (not_spaced_of_return inMargin)
  · exact absurd inMark (by decide)
  · exact inText

/-- A carriage return comes out only inside the echo of a line that is not
understood and has it inside. -/
theorem compile_echoes_confined (options : Options) (source : String) (script : Script)
    (compiled : compile options source = .ok script) :
    ∃ items, readItems (executableLines source) = (items, none) ∧
      Spans items (executableLines source) ∧
      EchoesConfined options source items script.lines := by
  obtain ⟨items, found, rfl⟩ := items_of_compile compiled
  have spanned := read_items_spans (executableLines source)
  rw [found] at spanned
  have spans := spanned rfl
  refine ⟨items, found, spans, ?_⟩
  constructor
  · exact fun line member broken => echoes_of_line spans member broken
  · exact fun depth text echoed => line_of_echo spans echoed
  · constructor
    · rintro ⟨line, member, holds⟩
      exact return_of_line spans member holds
    · rintro ⟨depth, text, echoed, holds⟩
      exact ⟨_, line_of_echo spans echoed, by simp [String.toList_append, holds]⟩
  · intro atEnds line member holds
    obtain ⟨depth, text, echoed, inText⟩ := return_of_line spans member holds
    obtain ⟨_, _, _, _, stands, _⟩ := echoed
    obtain ⟨original, listed, rfl⟩ := line_at_executable spans stands
    obtain ⟨front, next, back, split, noFeed⟩ := executable_return listed inText
    rcases atEnds front (next :: back) split with none | ⟨rest, feed⟩
    · cases none
    · exact noFeed (List.cons.inj feed).1

/-- Line ends are dropped, a block gets a space, and the echo of a line keeps what
stands inside it. -/
theorem compile_echoes_confined_inside :
    ∃ items,
      readItems (executableLines "go\r\nfoo\rbar\r\nrepeat 2 [a\rb]") = (items, none) ∧
      Spans items (executableLines "go\r\nfoo\rbar\r\nrepeat 2 [a\rb]") ∧
      EchoesConfined {} "go\r\nfoo\rbar\r\nrepeat 2 [a\rb]" items
        ["import turtle",
          "# Unknown: go",
          "# Unknown: foo\rbar",
          "for _ in range(int(2)):",
          "    # Unknown: a b",
          "    pass",
          "turtle.done()"] :=
  compile_echoes_confined {} "go\r\nfoo\rbar\r\nrepeat 2 [a\rb]" ⟨_, []⟩ (by decide +kernel)

/-- The text behind the mark is not always one comment: here it is cut in two, and
the second part is a statement. -/
theorem compile_echo_breaks :
    compile {} "foo\rimport os" =
        .ok ⟨["import turtle", "# Unknown: foo\rimport os", "turtle.done()"], []⟩ ∧
      '\r' ∈ "# Unknown: foo\rimport os".toList :=
  ⟨by decide +kernel, by decide⟩

end Script

end TurtleLang
