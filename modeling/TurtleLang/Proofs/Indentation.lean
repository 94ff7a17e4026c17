import TurtleLang.Proofs.Walk

/-!
The indent of the settings is spaces in front of lines and nothing else. A compiler
could as well put the margin on each line when it makes the line, and then look for
an effective line among those with their margins when a block may need `pass`. The
definitions `written` here do so. They give the same lines as laying out statements
at the end, because a margin is blank and the test passes over blanks. So the rows of
a program, each a depth and a text, do not depend on the indent, and neither does the
place of any `pass`.
-/
namespace TurtleLang

set_option autoImplicit false

def isEffectiveLine (line : String) : Bool :=
  match Text.dropBlanks line.toList with
  | [] => false
  | first :: _ => first != '#'

/-- Completes the lines of a block that have their margins already. -/
def closeLines (options : Options) (depth : Nat) (lines : List String) : List String :=
  if lines.any isEffectiveLine then lines else lines ++ [options.margin depth ++ "pass"]

namespace Command

mutual

/-- The lines of a command, each with its margin from the start. -/
def written (options : Options) (depth : Nat) : Command → List String
  | .primitive operation inputs => [options.margin depth ++ operation.render inputs]
  | .call name inputs =>
      [options.margin depth ++ (name ++ "(" ++ ", ".intercalate inputs ++ ")")]
  | .unknown text => [options.margin depth ++ ("# Unknown: " ++ text)]
  | .loop count body =>
      (options.margin depth ++ ("for _ in range(int(" ++ count ++ ")):")) ::
        closeLines options (depth + 1) (writtenOf options (depth + 1) body)

def writtenOf (options : Options) (depth : Nat) : List Command → List String
  | [] => []
  | command :: rest => written options depth command ++ writtenOf options depth rest

end

end Command

namespace Item

def written (options : Options) (registry : Registry) : Item → List String
  | .command line =>
      Command.writtenOf options 0 (Command.readLine registry options.split line.text)
  | .definition _ procedure =>
      let stored := Registry.entry procedure
      "" :: ("def " ++ stored.name ++ "(" ++ ", ".intercalate stored.parameters ++ "):") ::
        closeLines options 1 (Command.writtenOf options 1
          (stored.body.flatMap (Command.readLine (registry.define procedure) options.split)))

end Item

def itemsWritten (options : Options) (registry : Registry) : List Item → List String
  | [] => []
  | item :: rest => item.written options registry ++ itemsWritten options (item.enter registry) rest

theorem margin_add (options : Options) (depth further : Nat) :
    options.margin (depth + further) = options.margin further ++ options.margin depth := by
  rw [Options.margin, Options.margin, Options.margin, ← String.ofList_append,
    List.replicate_append_replicate, Nat.mul_add, Nat.add_comm]

theorem is_effective_line_margin (options : Options) (depth : Nat) (text : String) :
    isEffectiveLine (options.margin depth ++ text) = isEffectiveLine text := by
  have blank : ∀ character ∈ List.replicate (options.indent * depth) ' ',
      Text.isBlank character = true := by
    intro character member
    rw [List.eq_of_mem_replicate member]
    rfl
  unfold isEffectiveLine Text.dropBlanks
  rw [String.toList_append, Options.margin, String.toList_ofList,
    List.dropWhile_append_of_pos blank]

namespace Statement

def deeper (further : Nat) (statement : Statement) : Statement :=
  { statement with depth := statement.depth + further }

theorem is_effective_layout (options : Options) (statement : Statement) :
    isEffectiveLine (layout options statement) = statement.isEffective := by
  rw [layout, is_effective_line_margin]
  rfl

theorem close_block_layout (options : Options) (depth : Nat) (statements : List Statement) :
    (closeBlock depth statements).map (layout options) =
      closeLines options depth (statements.map (layout options)) := by
  have tests : isEffectiveLine ∘ layout options = isEffective :=
    funext (is_effective_layout options)
  have found : (statements.map (layout options)).any isEffectiveLine =
      statements.any isEffective := by
    rw [List.any_map, tests]
  unfold closeBlock closeLines
  rw [found]
  split
  · rfl
  · rw [List.map_append]
    rfl

theorem close_block_deeper (further depth : Nat) (statements : List Statement) :
    closeBlock (depth + further) (statements.map (deeper further)) =
      (closeBlock depth statements).map (deeper further) := by
  have found : (statements.map (deeper further)).any isEffective =
      statements.any isEffective := by
    rw [List.any_map]
    rfl
  unfold closeBlock
  rw [found]
  split
  · rfl
  · rw [List.map_append]
    rfl

theorem layout_deeper (options : Options) (further : Nat) (statement : Statement) :
    layout options (statement.deeper further) =
      options.margin further ++ layout options statement := by
  rw [layout, layout, deeper, margin_add, String.append_assoc]

end Statement

namespace Command

theorem statements_of_deeper_of_members {commands : List Command} {further : Nat}
    (members : ∀ command ∈ commands, ∀ depth, statements (depth + further) command =
      (statements depth command).map (Statement.deeper further)) (depth : Nat) :
    statementsOf (depth + further) commands =
      (statementsOf depth commands).map (Statement.deeper further) := by
  induction commands with
  | nil => rfl
  | cons first rest ih =>
      rw [statementsOf, statementsOf, List.map_append, members first (by simp),
        ih fun command present => members command (List.mem_cons_of_mem first present)]

theorem statements_deeper (command : Command) (further : Nat) : ∀ depth,
    statements (depth + further) command =
      (statements depth command).map (Statement.deeper further) := by
  induction command using command_induction with
  | primitive operation inputs => exact fun depth => rfl
  | call name inputs => exact fun depth => rfl
  | unknown text => exact fun depth => rfl
  | loop count body ih =>
      intro depth
      have inside := statements_of_deeper_of_members ih (depth + 1)
      rw [statements, statements, List.map_cons, ← Statement.close_block_deeper, ← inside,
        Nat.add_right_comm]
      rfl

theorem written_of_each_member {options : Options} {commands : List Command}
    (members : ∀ command ∈ commands, ∀ depth,
      (statements depth command).map (Statement.layout options) = written options depth command)
    (depth : Nat) :
    (statementsOf depth commands).map (Statement.layout options) =
      writtenOf options depth commands := by
  induction commands with
  | nil => rfl
  | cons first rest ih =>
      rw [statementsOf, writtenOf, List.map_append, members first (by simp),
        ih fun command present => members command (List.mem_cons_of_mem first present)]

/-- Laying out the statements of a command gives the lines written with their margins. -/
theorem layout_statements (options : Options) (command : Command) : ∀ depth,
    (statements depth command).map (Statement.layout options) = written options depth command := by
  induction command using command_induction with
  | primitive operation inputs => exact fun depth => rfl
  | call name inputs => exact fun depth => rfl
  | unknown text => exact fun depth => rfl
  | loop count body ih =>
      intro depth
      rw [statements, written, List.map_cons, Statement.close_block_layout,
        written_of_each_member ih]
      rfl

theorem layout_statements_of (options : Options) (commands : List Command) (depth : Nat) :
    (statementsOf depth commands).map (Statement.layout options) =
      writtenOf options depth commands :=
  written_of_each_member (fun command _ => layout_statements options command) depth

end Command

theorem Item.layout_statements (options : Options) (registry : Registry) (item : Item) :
    (item.statements options.split registry).map (Statement.layout options) =
      item.written options registry := by
  cases item with
  | command line => exact Command.layout_statements_of options _ 0
  | definition header procedure =>
      simp only [Item.statements, Item.written, List.map_cons, layout_top, Command.bodyStatements,
        Statement.close_block_layout, Command.layout_statements_of]

theorem layout_item_statements (options : Options) (registry : Registry) (items : List Item) :
    (itemStatements options.split registry items).map (Statement.layout options) =
      itemsWritten options registry items := by
  induction items generalizing registry with
  | nil => rfl
  | cons item rest ih =>
      rw [itemStatements, itemsWritten, List.map_append, item.layout_statements, ih]

namespace Script

def written (options : Options) (items : List Item) : List String :=
  "import turtle" :: itemsWritten options Registry.empty items ++ ["turtle.done()"]

theorem of_items_written (options : Options) (items : List Item) :
    (ofItems options items).lines = written options items := by
  rw [ofItems, statements, written, List.map_append, List.map_cons, List.map_singleton, layout_top,
    layout_top, layout_item_statements]

structure IndentCosmetic : Prop where
  /-- A command further in has the same lines behind a common margin. -/
  command_margin : ∀ (options : Options) (command : Command) (depth : Nat),
    (command.statements depth).map (Statement.layout options) =
      ((command.statements 0).map (Statement.layout options)).map fun line =>
        String.ofList (List.replicate (options.indent * depth) ' ') ++ line
  /-- Whether a block needs `pass` may be decided by its lines with their margins. -/
  command_written : ∀ (options : Options) (command : Command) (depth : Nat),
    (command.statements depth).map (Statement.layout options) = command.written options depth
  program_written : ∀ options source script, compile options source = .ok script →
    ∃ items, readItems (executableLines source) = (items, none) ∧
      script.lines = written options items
  /-- One list of rows serves every indent. -/
  program_rows : ∀ policy source, (∃ indent script, compile ⟨indent, policy⟩ source = .ok script) →
    ∃ (rows : List (Nat × String)) (procedures : List String), ∀ indent,
      compile ⟨indent, policy⟩ source = .ok
        { lines := rows.map fun row =>
            String.ofList (List.replicate (indent * row.1) ' ') ++ row.2
          procedures := procedures }

theorem compile_rows {source : String} {items : List Item}
    (found : readItems (executableLines source) = (items, none)) (policy : SplitPolicy)
    (indent : Nat) :
    compile ⟨indent, policy⟩ source = .ok
      { lines := ((statements policy items).map fun row => (row.depth, row.text)).map fun row =>
          String.ofList (List.replicate (indent * row.1) ' ') ++ row.2
        procedures := items.filterMap Item.definedName? } := by
  rw [compile, found, List.map_map]
  rfl

/-- Changing the indent changes margins only. -/
theorem compile_indent_cosmetic : IndentCosmetic where
  command_margin options command depth := by
    have moved := command.statements_deeper depth 0
    rw [Nat.zero_add] at moved
    rw [moved, List.map_map, List.map_map]
    exact List.map_congr_left fun statement _ => Statement.layout_deeper options depth statement
  command_written options command depth := command.layout_statements options depth
  program_written options source script compiled := by
    obtain ⟨items, found, rfl⟩ := items_of_compile compiled
    exact ⟨items, found, of_items_written options items⟩
  program_rows policy source := by
    rintro ⟨indent, script, compiled⟩
    obtain ⟨items, found, _⟩ := items_of_compile compiled
    exact ⟨_, _, compile_rows found policy⟩

/-- Blocks that hold comments, or calls that look like comments, with no indent at all. -/
theorem compile_indent_cosmetic_comments :
    compile { indent := 0 } "to #p\nrepeat 2 [ what ]\nend\nrepeat 3 [ #p ]" =
        .ok ⟨["import turtle", "", "def #p():", "for _ in range(int(2)):", "# Unknown: what",
          "pass", "for _ in range(int(3)):", "#p()", "pass", "turtle.done()"], ["#p"]⟩ ∧
      ∃ (rows : List (Nat × String)) (procedures : List String), ∀ indent,
        compile ⟨indent, .command⟩ "to #p\nrepeat 2 [ what ]\nend\nrepeat 3 [ #p ]" = .ok
          { lines := rows.map fun row =>
              String.ofList (List.replicate (indent * row.1) ' ') ++ row.2
            procedures := procedures } := by
  have flat : compile { indent := 0 } "to #p\nrepeat 2 [ what ]\nend\nrepeat 3 [ #p ]" =
      .ok ⟨["import turtle", "", "def #p():", "for _ in range(int(2)):", "# Unknown: what",
        "pass", "for _ in range(int(3)):", "#p()", "pass", "turtle.done()"], ["#p"]⟩ := by
    decide +kernel
  exact ⟨flat, compile_indent_cosmetic.program_rows .command _ ⟨0, _, flat⟩⟩

end Script

end TurtleLang
