import TurtleLang.Program
import TurtleLang.Proofs.Calls
import TurtleLang.Proofs.Outline

/-!
The forest of a program: its definitions, loops and single commands as the reader
found them, each with what stands inside it. A block whose direct members are
all comments has `pass` as one more member. The statements of a program are the
rows of this forest, so the rule that looks for an effective statement anywhere
below a block agrees with the one that looks at its direct members.
-/
namespace TurtleLang

set_option autoImplicit false

inductive Phrase where
  | prologue
  | gap
  | definition (name : String) (parameters : List String)
  | loop (count : String)
  | primitive (operation : Primitive) (inputs : List String)
  | call (name : String) (inputs : List String)
  | unknown (text : String)
  | pass
  | epilogue

namespace Phrase

def text : Phrase → String
  | .prologue => "import turtle"
  | .gap => ""
  | .definition name parameters => "def " ++ name ++ "(" ++ ", ".intercalate parameters ++ "):"
  | .loop count => "for _ in range(int(" ++ count ++ ")):"
  | .primitive operation inputs => operation.render inputs
  | .call name inputs => name ++ "(" ++ ", ".intercalate inputs ++ ")"
  | .unknown text => "# Unknown: " ++ text
  | .pass => "pass"
  | .epilogue => "turtle.done()"

def opens : Phrase → Bool
  | .definition _ _ | .loop _ => true
  | _ => false

def isStep : Phrase → Bool
  | .loop _ | .primitive _ _ | .call _ _ | .unknown _ | .pass => true
  | _ => false

def isEffective (phrase : Phrase) : Bool :=
  Statement.isEffective ⟨0, phrase.text⟩

def statement (row : Nat × Phrase) : Statement := ⟨row.1, row.2.text⟩

def line (options : Options) (row : Nat × Phrase) : String :=
  Statement.layout options (statement row)

theorem head_append {front : String} {first : Char} (starts : front.toList.head? = some first)
    (rest : String) : (front ++ rest).toList.head? = some first := by
  rw [String.toList_append, List.head?_append, starts]
  rfl

theorem text_head_of_opens (phrase : Phrase) (opened : phrase.opens = true) :
    phrase.text.toList.head? = some 'd' ∨ phrase.text.toList.head? = some 'f' := by
  cases phrase with
  | definition name parameters =>
      left
      exact head_append (head_append (head_append (head_append rfl _) _) _) _
  | loop count =>
      right
      exact head_append (head_append rfl _) _
  | _ => cases opened

theorem is_effective_of_head {phrase : Phrase} {first : Char}
    (starts : phrase.text.toList.head? = some first) (solid : Text.isBlank first = false)
    (plain : first ≠ '#') : phrase.isEffective = true := by
  obtain ⟨rest, whole⟩ := List.head?_eq_some_iff.mp starts
  rw [isEffective, Statement.isEffective, Text.dropBlanks, whole,
    List.dropWhile_cons_of_neg (by simp [solid])]
  simpa using plain

theorem is_effective_of_opens (phrase : Phrase) (opened : phrase.opens = true) :
    phrase.isEffective = true := by
  rcases text_head_of_opens phrase opened with starts | starts
  · exact is_effective_of_head starts rfl (by decide)
  · exact is_effective_of_head starts rfl (by decide)

end Phrase

/-- The forest with `pass` as one more member where no member is effective. -/
def fillBlock (forest : List (Outline Phrase)) : List (Outline Phrase) :=
  if forest.any (fun child => child.label.isEffective) then forest
  else forest ++ [.node .pass []]

namespace Command

mutual

def outline : Command → Outline Phrase
  | .primitive operation inputs => .node (.primitive operation inputs) []
  | .call name inputs => .node (.call name inputs) []
  | .unknown text => .node (.unknown text) []
  | .loop count body => .node (.loop count) (fillBlock (outlinesOf body))

def outlinesOf : List Command → List (Outline Phrase)
  | [] => []
  | command :: rest => outline command :: outlinesOf rest

end

theorem command_induction {motive : Command → Prop}
    (primitive : ∀ operation inputs, motive (.primitive operation inputs))
    (loop : ∀ count body, (∀ command ∈ body, motive command) → motive (.loop count body))
    (call : ∀ name inputs, motive (.call name inputs))
    (unknown : ∀ text, motive (.unknown text)) (command : Command) : motive command := by
  apply @Command.rec motive fun body => ∀ command ∈ body, motive command
  · exact primitive
  · exact loop
  · exact call
  · exact unknown
  · intro command none
    cases none
  · intro first rest firstHolds restHolds command member
    rcases List.mem_cons.mp member with rfl | later
    · exact firstHolds
    · exact restHolds command later

theorem outlines_of_append (left right : List Command) :
    outlinesOf (left ++ right) = outlinesOf left ++ outlinesOf right := by
  induction left with
  | nil => rfl
  | cons first rest ih => rw [List.cons_append, outlinesOf, outlinesOf, ih, List.cons_append]

theorem mem_outlines_of {child : Outline Phrase} {commands : List Command}
    (member : child ∈ outlinesOf commands) : ∃ command ∈ commands, child = outline command := by
  induction commands with
  | nil => cases member
  | cons first rest ih =>
      rcases List.mem_cons.mp member with here | later
      · exact ⟨first, by simp, here⟩
      · obtain ⟨command, present, same⟩ := ih later
        exact ⟨command, List.mem_cons_of_mem first present, same⟩

theorem row_of_outlines_of {commands : List Command} {depth : Nat} {row : Nat × Phrase}
    (member : row ∈ Outline.rowsOf depth (outlinesOf commands)) :
    ∃ command ∈ commands, row ∈ Outline.rows depth (outline command) := by
  obtain ⟨child, listed, shown⟩ := Outline.mem_rows_of.mp member
  obtain ⟨command, present, same⟩ := mem_outlines_of listed
  rw [same] at shown
  exact ⟨command, present, shown⟩

end Command

/-- The outlines of a well-formed program: blocks with an effective member, and
everything else without a block. -/
abbrev TidyOutline (outline : Outline Phrase) : Prop :=
  outline.Tidy Phrase.opens Phrase.isEffective

theorem fill_block_tidy {forest : List (Outline Phrase)}
    (tidy : ∀ child ∈ forest, TidyOutline child) :
    ∀ child ∈ fillBlock forest, TidyOutline child := by
  unfold fillBlock
  split
  · exact tidy
  · intro child member
    rcases List.mem_append.mp member with here | added
    · exact tidy child here
    · rw [List.mem_singleton] at added
      subst added
      exact .leaf rfl

theorem fill_block_effective (forest : List (Outline Phrase)) :
    ∃ child ∈ fillBlock forest, child.label.isEffective = true := by
  unfold fillBlock
  split
  · next found => exact List.any_eq_true.mp found
  · exact ⟨.node .pass [], by simp, rfl⟩

theorem block_tidy {phrase : Phrase} (opened : phrase.opens = true)
    {forest : List (Outline Phrase)} (tidy : ∀ child ∈ forest, TidyOutline child) :
    TidyOutline (.node phrase (fillBlock forest)) :=
  .block opened (fill_block_tidy tidy) (fill_block_effective forest)

/-- Completing a block by its direct members and by all its statements is the same. -/
theorem close_block_rows {forest : List (Outline Phrase)}
    (tidy : ∀ child ∈ forest, TidyOutline child) (depth : Nat) :
    Statement.closeBlock depth ((Outline.rowsOf depth forest).map Phrase.statement) =
      (Outline.rowsOf depth (fillBlock forest)).map Phrase.statement := by
  -- An effective row below a member makes the member a heading, which is effective itself.
  have found : ((Outline.rowsOf depth forest).map Phrase.statement).any Statement.isEffective =
      forest.any fun child => child.label.isEffective := by
    rw [List.any_map, ← Outline.any_effective_rows_of tidy Phrase.is_effective_of_opens depth]
    rfl
  unfold Statement.closeBlock fillBlock
  rw [found]
  split
  · rfl
  · rw [Outline.rows_of_append, List.map_append]
    rfl

namespace Command

theorem outline_tidy (command : Command) : TidyOutline (outline command) := by
  induction command using command_induction with
  | primitive operation inputs => exact .leaf rfl
  | call name inputs => exact .leaf rfl
  | unknown text => exact .leaf rfl
  | loop count body ih =>
      apply block_tidy rfl
      intro child member
      obtain ⟨command, present, rfl⟩ := mem_outlines_of member
      exact ih command present

theorem outlines_of_tidy (commands : List Command) :
    ∀ child ∈ outlinesOf commands, TidyOutline child := by
  intro child member
  obtain ⟨command, _, rfl⟩ := mem_outlines_of member
  exact outline_tidy command

theorem statements_of_rows_of_members {commands : List Command}
    (members : ∀ command ∈ commands, ∀ depth,
      statements depth command = (Outline.rows depth (outline command)).map Phrase.statement)
    (depth : Nat) :
    statementsOf depth commands =
      (Outline.rowsOf depth (outlinesOf commands)).map Phrase.statement := by
  induction commands with
  | nil => rfl
  | cons first rest ih =>
      rw [statementsOf, outlinesOf, Outline.rowsOf, List.map_append,
        members first (by simp) depth,
        ih fun command present => members command (List.mem_cons_of_mem first present)]

theorem statements_rows (command : Command) : ∀ depth,
    statements depth command = (Outline.rows depth (outline command)).map Phrase.statement := by
  induction command using command_induction with
  | primitive operation inputs => exact fun depth => rfl
  | call name inputs => exact fun depth => rfl
  | unknown text => exact fun depth => rfl
  | loop count body ih =>
      intro depth
      rw [statements, statements_of_rows_of_members ih, close_block_rows (outlines_of_tidy body)]
      rfl

theorem statements_of_rows (commands : List Command) (depth : Nat) :
    statementsOf depth commands =
      (Outline.rowsOf depth (outlinesOf commands)).map Phrase.statement :=
  statements_of_rows_of_members (fun command _ => statements_rows command) depth

theorem row_of_fill_block {forest : List (Outline Phrase)} {depth : Nat} {row : Nat × Phrase}
    (member : row ∈ Outline.rowsOf depth (fillBlock forest)) :
    row ∈ Outline.rowsOf depth forest ∨ row = (depth, .pass) := by
  unfold fillBlock at member
  split at member
  · exact .inl member
  · rw [Outline.rows_of_append, List.mem_append] at member
    rcases member with here | added
    · exact .inl here
    · right
      simpa [Outline.rowsOf, Outline.rows] using added

theorem rows_steps (command : Command) :
    ∀ depth, ∀ row ∈ Outline.rows depth (outline command), row.2.isStep = true := by
  induction command using command_induction with
  | primitive operation inputs => simp [outline, Outline.rows, Outline.rowsOf, Phrase.isStep]
  | call name inputs => simp [outline, Outline.rows, Outline.rowsOf, Phrase.isStep]
  | unknown text => simp [outline, Outline.rows, Outline.rowsOf, Phrase.isStep]
  | loop count body ih =>
      intro depth row member
      rw [outline, Outline.rows] at member
      rcases List.mem_cons.mp member with heading | inside
      · rw [heading]
        rfl
      · rcases row_of_fill_block inside with within | added
        · obtain ⟨command, present, shown⟩ := row_of_outlines_of within
          exact ih command present (depth + 1) row shown
        · rw [added]
          rfl

theorem rows_of_steps {commands : List Command} {depth : Nat} {row : Nat × Phrase}
    (member : row ∈ Outline.rowsOf depth (outlinesOf commands)) : row.2.isStep = true := by
  obtain ⟨command, _, shown⟩ := row_of_outlines_of member
  exact rows_steps command depth row shown

theorem block_steps {commands : List Command} {depth : Nat} {row : Nat × Phrase}
    (member : row ∈ Outline.rowsOf depth (fillBlock (outlinesOf commands))) :
    row.2.isStep = true := by
  rcases row_of_fill_block member with inside | added
  · exact rows_of_steps inside
  · rw [added]
    rfl

theorem call_row_of_fill_block {forest : List (Outline Phrase)} {depth level : Nat}
    {name : String} {inputs : List String}
    (row : (level, Phrase.call name inputs) ∈ Outline.rowsOf depth (fillBlock forest)) :
    (level, Phrase.call name inputs) ∈ Outline.rowsOf depth forest := by
  rcases row_of_fill_block row with here | added
  · exact here
  · cases added

theorem rows_calls (command : Command) (name : String) (inputs : List String) :
    ∀ depth level, (level, Phrase.call name inputs) ∈ Outline.rows depth (outline command) →
      name ∈ calls command := by
  induction command using command_induction with
  | primitive operation others => simp [outline, Outline.rows, Outline.rowsOf]
  | call other others =>
      intro depth level row
      simp only [outline, Outline.rows, Outline.rowsOf, List.mem_singleton, Prod.mk.injEq,
        Phrase.call.injEq] at row
      rw [calls, List.mem_singleton]
      exact row.2.1
  | unknown text => simp [outline, Outline.rows, Outline.rowsOf]
  | loop count body ih =>
      intro depth level row
      rw [outline, Outline.rows] at row
      rcases List.mem_cons.mp row with heading | inside
      · cases heading
      · obtain ⟨command, listed, shown⟩ := row_of_outlines_of (call_row_of_fill_block inside)
        exact mem_calls_of.mpr ⟨command, listed, ih command listed (depth + 1) level shown⟩

theorem rows_of_calls {commands : List Command} {depth level : Nat} {name : String}
    {inputs : List String}
    (row : (level, Phrase.call name inputs) ∈ Outline.rowsOf depth (outlinesOf commands)) :
    name ∈ callsOf commands := by
  obtain ⟨command, listed, shown⟩ := row_of_outlines_of row
  exact mem_calls_of.mpr ⟨command, listed, rows_calls command name inputs depth level shown⟩

end Command

namespace Item

def forest (policy : SplitPolicy) (registry : Registry) : Item → List (Outline Phrase)
  | .command line => Command.outlinesOf (Command.readLine registry policy line.text)
  | .definition _ procedure =>
      let stored := Registry.entry procedure
      [.node .gap [], .node (.definition stored.name stored.parameters)
        (fillBlock (Command.outlinesOf
          (stored.body.flatMap (Command.readLine (registry.define procedure) policy))))]

theorem forest_tidy (policy : SplitPolicy) (registry : Registry) (item : Item) :
    ∀ child ∈ item.forest policy registry, TidyOutline child := by
  cases item with
  | command line => exact Command.outlines_of_tidy _
  | definition header procedure =>
      intro child member
      rcases List.mem_cons.mp member with rfl | rest
      · exact .leaf rfl
      · rw [List.mem_singleton] at rest
        subst rest
        exact block_tidy rfl (Command.outlines_of_tidy _)

theorem definition_rows (policy : SplitPolicy) (registry : Registry) (header : Line)
    (procedure : Procedure) :
    Outline.rowsOf 0 ((definition header procedure).forest policy registry) =
      (0, .gap) :: (0, .definition (Registry.entry procedure).name procedure.parameters) ::
        Outline.rowsOf 1 (fillBlock (Command.outlinesOf
          (procedure.body.flatMap (Command.readLine (registry.define procedure) policy)))) := by
  simp only [forest, Outline.rowsOf, Outline.rows, List.append_nil, List.nil_append,
    List.cons_append]
  rfl

theorem statements_forest (policy : SplitPolicy) (registry : Registry) (item : Item) :
    item.statements policy registry =
      (Outline.rowsOf 0 (item.forest policy registry)).map Phrase.statement := by
  cases item with
  | command line => exact Command.statements_of_rows _ 0
  | definition header procedure =>
      rw [definition_rows, List.map_cons, List.map_cons,
        ← close_block_rows (Command.outlines_of_tidy _), ← Command.statements_of_rows]
      rfl

theorem forest_calls {policy : SplitPolicy} {registry : Registry} {item : Item} {level : Nat}
    {name : String} {inputs : List String}
    (row : (level, Phrase.call name inputs) ∈ Outline.rowsOf 0 (item.forest policy registry)) :
    Command.Resolved (item.enter registry) name := by
  cases item with
  | command line =>
      exact Command.read_line_calls registry policy line.text name (Command.rows_of_calls row)
  | definition header procedure =>
      rw [definition_rows] at row
      simp only [List.mem_cons, Prod.mk.injEq, reduceCtorEq, and_false, false_or] at row
      exact Command.read_lines_calls (registry.define procedure) policy _ name
        (Command.rows_of_calls (Command.call_row_of_fill_block row))

end Item

def itemForest (policy : SplitPolicy) (registry : Registry) : List Item → List (Outline Phrase)
  | [] => []
  | item :: rest =>
      item.forest policy registry ++ itemForest policy (item.enter registry) rest

theorem item_forest_tidy (policy : SplitPolicy) (registry : Registry) (items : List Item) :
    ∀ child ∈ itemForest policy registry items, TidyOutline child := by
  induction items generalizing registry with
  | nil => simp [itemForest]
  | cons item rest ih =>
      intro child member
      rcases List.mem_append.mp member with here | later
      · exact item.forest_tidy policy registry child here
      · exact ih (item.enter registry) child later

theorem item_statements_forest (policy : SplitPolicy) (registry : Registry) (items : List Item) :
    itemStatements policy registry items =
      (Outline.rowsOf 0 (itemForest policy registry items)).map Phrase.statement := by
  induction items generalizing registry with
  | nil => rfl
  | cons item rest ih =>
      rw [itemStatements, itemForest, Outline.rows_of_append, List.map_append, ih,
        item.statements_forest]

theorem item_forest_calls {policy : SplitPolicy} {registry : Registry} {items : List Item}
    {level : Nat} {name : String} {inputs : List String}
    (row : (level, Phrase.call name inputs) ∈
      Outline.rowsOf 0 (itemForest policy registry items)) :
    ∃ known, Command.Resolved known name := by
  induction items generalizing registry with
  | nil => cases row
  | cons item rest ih =>
      rw [itemForest, Outline.rows_of_append, List.mem_append] at row
      rcases row with here | later
      · exact ⟨item.enter registry, Item.forest_calls here⟩
      · exact ih later

namespace Script

def forest (policy : SplitPolicy) (items : List Item) : List (Outline Phrase) :=
  .node .prologue [] :: itemForest policy Registry.empty items ++ [.node .epilogue []]

theorem forest_tidy (policy : SplitPolicy) (items : List Item) :
    ∀ child ∈ forest policy items, TidyOutline child := by
  intro child member
  simp only [forest, List.cons_append, List.mem_cons, List.mem_append, List.not_mem_nil,
    or_false] at member
  rcases member with rfl | here | rfl
  · exact .leaf rfl
  · exact item_forest_tidy policy Registry.empty items child here
  · exact .leaf rfl

/-- The statements of a program are the rows of its forest. -/
theorem statements_forest (policy : SplitPolicy) (items : List Item) :
    statements policy items = (Outline.rowsOf 0 (forest policy items)).map Phrase.statement := by
  rw [statements, forest, Outline.rows_of_append, List.map_append, Outline.rowsOf, List.map_append,
    item_statements_forest]
  rfl

theorem lines_of_items (options : Options) (items : List Item) :
    (ofItems options items).lines =
      (Outline.rowsOf 0 (forest options.split items)).map (Phrase.line options) := by
  rw [ofItems, statements_forest, List.map_map]
  rfl

theorem items_of_compile {options : Options} {source : String} {script : Script}
    (compiled : compile options source = .ok script) :
    ∃ items, readItems (executableLines source) = (items, none) ∧
      script = ofItems options items := by
  unfold compile at compiled
  split at compiled
  · cases compiled
  · next items found =>
      cases compiled
      exact ⟨items, found, rfl⟩

instance (options : Options) (source : String) (script : Script) :
    Decidable (compile options source = .ok script) :=
  match compile options source with
  | .error _ => .isFalse (by simp)
  | .ok other => decidable_of_iff (other = script) (by simp)

end Script

end TurtleLang
