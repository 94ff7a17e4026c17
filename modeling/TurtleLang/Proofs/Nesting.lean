import TurtleLang.Proofs.Forest

/-!
Indentation of compiled programs. A line is read by the spaces it starts with and
by nothing else, and that is enough: the lines of a compiled program stand
under each other as the forest of the program says, every heading has a block one
unit deeper with a statement directly in it, and the margins alone give the
forest back.

A call starts with the name of a procedure, which comes from the source. It is
the lower case of a word, so no blank can stand at its start and widen a margin.
-/
namespace TurtleLang

set_option autoImplicit false

def marginOf (line : String) : Nat :=
  (line.toList.takeWhile (· == ' ')).length

def contentOf (line : String) : String :=
  String.ofList (line.toList.dropWhile (· == ' '))

def IsFlush (text : String) : Prop :=
  ∀ first ∈ text.toList.head?, Text.isBlank first = false

theorem is_flush_of_head {text : String} {first : Char} (starts : text.toList.head? = some first)
    (solid : Text.isBlank first = false) : IsFlush text := by
  intro other there
  rw [starts] at there
  cases there
  exact solid

theorem take_while_flush {text : String} (flush : IsFlush text) :
    text.toList.takeWhile (· == ' ') = [] ∧ text.toList.dropWhile (· == ' ') = text.toList := by
  unfold IsFlush at flush
  cases whole : text.toList with
  | nil => exact ⟨rfl, rfl⟩
  | cons first rest =>
      rw [whole] at flush
      have solid := flush first rfl
      have other : (first == ' ') = false := by
        apply beq_false_of_ne
        intro space
        rw [space] at solid
        cases solid
      simp [other]

theorem spaces_of_replicate (width : Nat) :
    ∀ character ∈ List.replicate width ' ', (character == ' ') = true := by
  intro character member
  rw [List.eq_of_mem_replicate member]
  rfl

theorem margin_of_layout (options : Options) {statement : Statement}
    (flush : IsFlush statement.text) :
    marginOf (statement.layout options) = options.indent * statement.depth := by
  rw [marginOf, Statement.layout, Options.margin, String.toList_append, String.toList_ofList,
    List.takeWhile_append_of_pos (spaces_of_replicate _), (take_while_flush flush).1,
    List.append_nil, List.length_replicate]

theorem content_of_layout (options : Options) {statement : Statement}
    (flush : IsFlush statement.text) : contentOf (statement.layout options) = statement.text := by
  rw [contentOf, Statement.layout, Options.margin, String.toList_append, String.toList_ofList,
    List.dropWhile_append_of_pos (spaces_of_replicate _), (take_while_flush flush).2,
    String.ofList_toList]

namespace Phrase

theorem primitive_text_head (operation : Primitive) (inputs : List String) :
    (operation.render inputs).toList.head? = some 't' ∨
      (operation.render inputs).toList.head? = some 'p' := by
  cases operation with
  | forward => exact .inl (head_append (head_append rfl _) _)
  | back => exact .inl (head_append (head_append rfl _) _)
  | right => exact .inl (head_append (head_append rfl _) _)
  | left => exact .inl (head_append (head_append rfl _) _)
  | setHeading => exact .inl (head_append (head_append rfl _) _)
  | print => exact .inr (head_append (head_append rfl _) _)
  | penUp => exact .inl (show "turtle.penup()".toList.head? = some 't' from rfl)
  | penDown => exact .inl (show "turtle.pendown()".toList.head? = some 't' from rfl)
  | clearScreen => exact .inl (show "turtle.clearscreen()".toList.head? = some 't' from rfl)
  | home => exact .inl (show "turtle.home()".toList.head? = some 't' from rfl)
  | hideTurtle => exact .inl (show "turtle.hideturtle()".toList.head? = some 't' from rfl)
  | showTurtle => exact .inl (show "turtle.showturtle()".toList.head? = some 't' from rfl)

theorem call_flush {name : String} (solid : Text.IsSolid name) (inputs : List String) :
    IsFlush (Phrase.call name inputs).text := by
  cases whole : name.toList with
  | nil => exact absurd (String.toList_eq_nil_iff.mp whole) solid.1
  | cons first rest =>
      have starts : name.toList.head? = some first := by rw [whole]; rfl
      apply is_flush_of_head (head_append (head_append (head_append starts _) _) _)
      exact solid.2 first (by simp [whole])

theorem text_flush (phrase : Phrase)
    (called : ∀ name inputs, phrase = .call name inputs → Text.IsSolid name) :
    IsFlush phrase.text := by
  cases phrase with
  | prologue =>
      have starts : prologue.text.toList.head? = some 'i' := rfl
      exact is_flush_of_head starts rfl
  | gap =>
      intro first there
      cases there
  | definition name parameters =>
      rcases text_head_of_opens (.definition name parameters) rfl with starts | starts
      · exact is_flush_of_head starts rfl
      · exact is_flush_of_head starts rfl
  | loop count =>
      rcases text_head_of_opens (.loop count) rfl with starts | starts
      · exact is_flush_of_head starts rfl
      · exact is_flush_of_head starts rfl
  | primitive operation inputs =>
      rcases primitive_text_head operation inputs with starts | starts
      · exact is_flush_of_head starts rfl
      · exact is_flush_of_head starts rfl
  | call name inputs => exact call_flush (called name inputs rfl) inputs
  | unknown text =>
      have starts : (Phrase.unknown text).text.toList.head? = some '#' := head_append rfl _
      exact is_flush_of_head starts rfl
  | pass =>
      have starts : pass.text.toList.head? = some 'p' := rfl
      exact is_flush_of_head starts rfl
  | epilogue =>
      have starts : epilogue.text.toList.head? = some 't' := rfl
      exact is_flush_of_head starts rfl

theorem effective_head {phrase : Phrase} (flush : IsFlush phrase.text)
    (effective : phrase.isEffective = true) :
    ∃ first, phrase.text.toList.head? = some first ∧ Text.isBlank first = false ∧
      first ≠ '#' := by
  unfold IsFlush at flush
  unfold isEffective Statement.isEffective Text.dropBlanks at effective
  cases whole : phrase.text.toList with
  | nil => simp [whole] at effective
  | cons first rest =>
      rw [whole] at flush effective
      have solid := flush first rfl
      rw [List.dropWhile_cons_of_neg (by simp [solid])] at effective
      exact ⟨first, rfl, solid, by simpa using effective⟩

end Phrase

/-- How the lines behind a row's line show the block that the row may open. -/
structure BlockShown (options : Options) (row : Nat × Phrase) (after : List (Nat × Phrase)) :
    Prop where
  /-- A more indented line follows a heading and no other line. -/
  deeper_iff : (∃ next ∈ (after.map (Phrase.line options)).head?,
    marginOf (Phrase.line options row) < marginOf next) ↔ row.2.opens = true
  /-- The line that follows a heading is one unit deeper. -/
  one_unit : row.2.opens = true → ∃ next ∈ (after.map (Phrase.line options)).head?,
    marginOf next = marginOf (Phrase.line options row) + options.indent
  /-- One unit below a heading stands a line that is neither blank nor a comment. -/
  has_statement : row.2.opens = true →
    ∃ inner ∈ (after.map (Phrase.line options)).takeWhile
        (fun other => marginOf (Phrase.line options row) < marginOf other),
      marginOf inner = marginOf (Phrase.line options row) + options.indent ∧
        ∃ first, (contentOf inner).toList.head? = some first ∧ Text.isBlank first = false ∧
          first ≠ '#'

/-- Lines whose margins show a forest. -/
structure WellNested (options : Options) (forest : List (Outline Phrase)) (lines : List String) :
    Prop where
  rows : lines = (Outline.rowsOf 0 forest).map (Phrase.line options)
  /-- A line starts with one unit of spaces for each block around it. -/
  margins : ∀ row ∈ Outline.rowsOf 0 forest,
    marginOf (Phrase.line options row) = options.indent * row.1
  /-- No other blank stands behind these spaces. -/
  flush : ∀ line ∈ lines, IsFlush (contentOf line)
  blocks : ∀ before row after, Outline.rowsOf 0 forest = before ++ row :: after →
    BlockShown options row after
  /-- Margins and contents give the forest back. -/
  rebuilt : Outline.read (lines.map fun line => (marginOf line, contentOf line)) =
    Outline.mapOf Phrase.text forest

section Rows

variable {options : Options} {row : Nat × Phrase} {after : List (Nat × Phrase)}

theorem margin_of_line (flush : IsFlush row.2.text) :
    marginOf (Phrase.line options row) = options.indent * row.1 :=
  margin_of_layout options flush

theorem content_of_line (flush : IsFlush row.2.text) :
    contentOf (Phrase.line options row) = row.2.text :=
  content_of_layout options flush

theorem take_while_lines (positive : 0 < options.indent) (flush : IsFlush row.2.text)
    (below : ∀ other ∈ after, IsFlush other.2.text) :
    (after.map (Phrase.line options)).takeWhile
        (fun other => marginOf (Phrase.line options row) < marginOf other) =
      (after.takeWhile fun other => row.1 < other.1).map (Phrase.line options) := by
  induction after with
  | nil => rfl
  | cons next rest ih =>
      have restSame := ih fun other member => below other (List.mem_cons_of_mem next member)
      have same : marginOf (Phrase.line options row) < marginOf (Phrase.line options next) ↔
          row.1 < next.1 := by
        rw [margin_of_line flush, margin_of_line (below next (by simp))]
        exact Nat.mul_lt_mul_left positive
      rw [List.map_cons, List.takeWhile_cons, List.takeWhile_cons, restSame]
      by_cases deeper : row.1 < next.1
      · simp [deeper, same.mpr deeper]
      · simp [deeper, same]

theorem block_shown_of_placed (positive : 0 < options.indent) (flush : IsFlush row.2.text)
    (below : ∀ other ∈ after, IsFlush other.2.text)
    (placed : Outline.Placed Phrase.opens Phrase.isEffective row after) :
    BlockShown options row after := by
  have one_unit : row.2.opens = true → ∃ next ∈ (after.map (Phrase.line options)).head?,
      marginOf next = marginOf (Phrase.line options row) + options.indent := by
    intro opened
    obtain ⟨next, first, depth⟩ := placed.block opened
    refine ⟨Phrase.line options next, by simp [Option.mem_def.mp first], ?_⟩
    rw [margin_of_line flush, margin_of_line (below next (List.mem_of_head? first)), depth,
      Nat.mul_succ]
  refine ⟨⟨?_, ?_⟩, one_unit, ?_⟩
  · rintro ⟨shown, there, deeper⟩
    rw [List.head?_map, Option.mem_def, Option.map_eq_some_iff] at there
    obtain ⟨next, first, rfl⟩ := there
    rw [margin_of_line flush, margin_of_line (below next (List.mem_of_head? first)),
      Nat.mul_lt_mul_left positive] at deeper
    cases opened : row.2.opens with
    | true => rfl
    | false =>
        have shallow := placed.leaf opened next first
        omega
  · intro opened
    obtain ⟨next, first, margin⟩ := one_unit opened
    exact ⟨next, first, by omega⟩
  · intro opened
    obtain ⟨inner, within, depth, effective⟩ := placed.filled opened
    have innerFlush := below inner ((List.takeWhile_sublist _).subset within)
    rw [take_while_lines positive flush below]
    refine ⟨Phrase.line options inner, List.mem_map_of_mem within, ?_, ?_⟩
    · rw [margin_of_line flush, margin_of_line innerFlush, depth, Nat.mul_succ]
    · rw [content_of_line innerFlush]
      exact Phrase.effective_head innerFlush effective

end Rows

theorem well_nested_of_tidy {options : Options} (positive : 0 < options.indent)
    {forest : List (Outline Phrase)} (tidy : ∀ child ∈ forest, TidyOutline child)
    (flush : ∀ row ∈ Outline.rowsOf 0 forest, IsFlush row.2.text) :
    WellNested options forest ((Outline.rowsOf 0 forest).map (Phrase.line options)) where
  rows := rfl
  margins row member := margin_of_line (flush row member)
  flush line member := by
    obtain ⟨row, there, rfl⟩ := List.mem_map.mp member
    rw [content_of_line (flush row there)]
    exact flush row there
  blocks before row after split := by
    have placed := Outline.rows_of_placed tidy 0
    rw [split] at placed flush
    apply block_shown_of_placed positive (flush row (by simp)) ?_ (Outline.placed_of_split placed)
    intro other member
    exact flush other (by simp [member])
  rebuilt := by
    have shown : ((Outline.rowsOf 0 forest).map (Phrase.line options)).map
        (fun line => (marginOf line, contentOf line)) =
          (Outline.rowsOf 0 forest).map fun row => (options.indent * row.1, row.2.text) := by
      rw [List.map_map]
      apply List.map_congr_left
      intro row member
      simp only [Function.comp, margin_of_line (flush row member),
        content_of_line (flush row member)]
    rw [shown, Outline.read_map positive, Outline.read_rows_of]

namespace Script

theorem forest_flush (policy : SplitPolicy) (items : List Item) :
    ∀ row ∈ Outline.rowsOf 0 (forest policy items), IsFlush row.2.text := by
  rintro ⟨level, phrase⟩ member
  apply Phrase.text_flush phrase
  rintro name inputs rfl
  rw [forest, Outline.rows_of_append, Outline.rowsOf, List.mem_append, List.mem_append] at member
  rcases member with (opening | inside) | ending
  · simp [Outline.rows, Outline.rowsOf] at opening
  · obtain ⟨_, resolved⟩ := item_forest_calls inside
    exact Command.resolved_solid resolved
  · simp [Outline.rows, Outline.rowsOf] at ending

/-- Whatever the source and the settings, the lines of a compiled program show the
forest of its items by their margins. -/
theorem compile_well_nested (options : Options) (source : String) (script : Script)
    (indented : 1 ≤ options.indent) (compiled : compile options source = .ok script) :
    ∃ items, readItems (executableLines source) = (items, none) ∧
      WellNested options (forest options.split items) script.lines := by
  obtain ⟨items, found, rfl⟩ := items_of_compile compiled
  refine ⟨items, found, ?_⟩
  rw [lines_of_items]
  exact well_nested_of_tidy indented (forest_tidy options.split items)
    (forest_flush options.split items)

/-- A procedure whose calls look like comments, empty loops and loops of comments. -/
theorem compile_well_nested_hash_procedure :
    ∃ items,
      readItems (executableLines "to #p\nrepeat 2 [ ]\nEND\nrepeat 3 [ #P repeat 4 [ what ] ]") =
        (items, none) ∧
      WellNested { indent := 3 } (forest .command items)
        ["import turtle",
          "",
          "def #p():",
          "   for _ in range(int(2)):",
          "      pass",
          "for _ in range(int(3)):",
          "   #p()",
          "   for _ in range(int(4)):",
          "      # Unknown: what",
          "      pass",
          "turtle.done()"] :=
  compile_well_nested { indent := 3 }
    "to #p\nrepeat 2 [ ]\nEND\nrepeat 3 [ #P repeat 4 [ what ] ]"
    ⟨_, ["#p"]⟩ (by decide) (by decide +kernel)

end Script

end TurtleLang
