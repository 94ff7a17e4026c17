import Mathlib.Data.List.Basic
import TurtleLang.Proofs.Nesting
import TurtleLang.Proofs.Walk

/-!
The names of the procedures, as far as the output shows them. A definition is the only line that
starts with `def` and a space: other lines start with a text of the compiler, or with the name of
a called procedure, which has no space in it. What stands behind, up to the first parenthesis, is
the name of the procedure, unless the name has a parenthesis itself. Then the line does not say
where the name ends and the first parameter begins.
-/
namespace TurtleLang

set_option autoImplicit false

def shownName? (line : String) : Option String :=
  ("def ".toList.isPrefixOf? line.toList).map fun rest =>
    String.ofList (rest.takeWhile (· != '('))

theorem shown_name_of_foreign {line : String} (foreign : ¬"def ".toList <+: line.toList) :
    shownName? line = none := by
  unfold shownName?
  cases behind : "def ".toList.isPrefixOf? line.toList with
  | none => rfl
  | some rest => exact absurd ⟨rest, List.isPrefixOf?_eq_some_iff_append_eq.mp behind⟩ foreign

theorem foreign_of_head {text : String} {first : Char} (starts : text.toList.head? = some first)
    (other : first ≠ 'd') : ¬"def ".toList <+: text.toList := by
  intro defines
  obtain ⟨rest, whole⟩ := List.head?_eq_some_iff.mp starts
  rw [whole] at defines
  have same : 'd' :: "ef ".toList <+: first :: rest := defines
  exact other (List.cons_prefix_cons.mp same).1.symm

theorem prefix_before_mark {front left right : List Char} {mark : Char} (foreign : mark ∉ front)
    (starts : front <+: left ++ mark :: right) : front <+: left := by
  rcases List.prefix_or_prefix_of_prefix starts (List.prefix_append left (mark :: right)) with
    inside | ⟨rest, rfl⟩
  · exact inside
  · rw [List.prefix_append_right_inj] at starts
    cases rest with
    | nil => exact ⟨[], by simp⟩
    | cons next rest =>
        rw [(List.cons_prefix_cons.mp starts).1] at foreign
        simp at foreign

theorem bne_of_foreign {mark : Char} {characters : List Char} (foreign : mark ∉ characters) :
    ∀ character ∈ characters, (character != mark) = true := by
  intro character member
  rw [bne_iff_ne]
  intro same
  rw [same] at member
  exact foreign member

namespace Phrase

theorem shown_name_of_definition {name : String} (plain : '(' ∉ name.toList)
    (parameters : List String) :
    shownName? (Phrase.definition name parameters).text = some name := by
  have whole : (Phrase.definition name parameters).text.toList =
      "def ".toList ++
        (name.toList ++ '(' :: ((", ".intercalate parameters).toList ++ "):".toList)) := by
    change ("def " ++ name ++ "(" ++ ", ".intercalate parameters ++ "):").toList = _
    simp only [String.toList_append, List.append_assoc]
    rfl
  have behind := List.isPrefixOf?_eq_some_iff_append_eq.mpr whole.symm
  rw [shownName?, behind, Option.map_some, List.takeWhile_append_of_pos (bne_of_foreign plain)]
  simp

theorem call_foreign {name : String} (solid : Text.IsSolid name) (inputs : List String) :
    ¬"def ".toList <+: (Phrase.call name inputs).text.toList := by
  intro defines
  have whole : (Phrase.call name inputs).text.toList =
      name.toList ++ '(' :: ((", ".intercalate inputs).toList ++ ")".toList) := by
    change (name ++ "(" ++ ", ".intercalate inputs ++ ")").toList = _
    simp only [String.toList_append, List.append_assoc]
    rfl
  rw [whole] at defines
  have named := prefix_before_mark (by decide) defines
  have blank : ' ' ∈ name.toList := named.subset (by decide)
  exact absurd (solid.2 ' ' blank) (by decide)

theorem text_foreign {phrase : Phrase}
    (other : ∀ name parameters, phrase ≠ .definition name parameters)
    (called : ∀ name inputs, phrase = .call name inputs → Text.IsSolid name) :
    ¬"def ".toList <+: phrase.text.toList := by
  cases phrase with
  | definition name parameters => exact absurd rfl (other name parameters)
  | call name inputs => exact call_foreign (called name inputs rfl) inputs
  | prologue => exact (by decide : ¬"def ".toList <+: "import turtle".toList)
  | gap => exact (by decide : ¬"def ".toList <+: "".toList)
  | pass => exact (by decide : ¬"def ".toList <+: "pass".toList)
  | epilogue => exact (by decide : ¬"def ".toList <+: "turtle.done()".toList)
  | loop count =>
      have starts : (Phrase.loop count).text.toList.head? = some 'f' :=
        head_append (head_append rfl _) _
      exact foreign_of_head starts (by decide)
  | primitive operation inputs =>
      rcases primitive_text_head operation inputs with starts | starts
      · exact foreign_of_head starts (by decide)
      · exact foreign_of_head starts (by decide)
  | unknown text =>
      have starts : (Phrase.unknown text).text.toList.head? = some '#' := head_append rfl _
      exact foreign_of_head starts (by decide)

/-- Only a definition shows a name; a line with a margin starts with a space in any case. -/
theorem shown_name_of_other {options : Options} {row : Nat × Phrase}
    (other : ∀ name parameters, row.2 ≠ .definition name parameters)
    (called : ∀ name inputs, row.2 = .call name inputs → Text.IsSolid name) :
    shownName? (line options row) = none := by
  have laid : line options row = options.margin row.1 ++ row.2.text := rfl
  apply shown_name_of_foreign
  rw [laid]
  cases width : options.indent * row.1 with
  | zero =>
      rw [Options.margin, width, List.replicate_zero, String.ofList_nil, String.empty_append]
      exact text_foreign other called
  | succ further =>
      have starts : (options.margin row.1).toList.head? = some ' ' := by
        rw [Options.margin, width, String.toList_ofList]
        rfl
      exact foreign_of_head (head_append starts _) (by decide)

theorem step_ne_definition {phrase : Phrase} (step : phrase.isStep = true) (name : String)
    (parameters : List String) : phrase ≠ .definition name parameters := by
  intro same
  rw [same] at step
  cases step

end Phrase

theorem Item.names_shown (options : Options) {registry : Registry} {item : Item}
    (plain : ∀ name, item.definedName? = some name → '(' ∉ name.toList) :
    (Outline.rowsOf 0 (item.forest options.split registry)).filterMap
        (shownName? ∘ Phrase.line options) = item.definedName?.toList := by
  have called : ∀ row ∈ Outline.rowsOf 0 (item.forest options.split registry),
      ∀ name inputs, row.2 = .call name inputs → Text.IsSolid name := by
    intro (level, phrase) member name inputs same
    cases same
    exact Command.resolved_solid (Item.forest_calls member)
  cases item with
  | command line =>
      rw [Item.definedName?, Option.toList_none, List.filterMap_eq_nil_iff]
      intro row member
      exact Phrase.shown_name_of_other
        (Phrase.step_ne_definition (Command.rows_of_steps member)) (called row member)
  | definition header procedure =>
      rw [Item.definition_rows] at called ⊢
      have gap : (shownName? ∘ Phrase.line options) (0, .gap) = none :=
        Phrase.shown_name_of_other (by simp) (by simp)
      have heading : (shownName? ∘ Phrase.line options)
          (0, .definition (Registry.entry procedure).name procedure.parameters) =
            some (Registry.entry procedure).name := by
        have top := layout_top options
          (Phrase.definition (Registry.entry procedure).name procedure.parameters).text
        rw [Function.comp_apply, Phrase.line, Phrase.statement, top]
        exact Phrase.shown_name_of_definition (plain _ rfl) procedure.parameters
      have body : (Outline.rowsOf 1 (fillBlock (Command.outlinesOf (procedure.body.flatMap
          (Command.readLine (registry.define procedure) options.split))))).filterMap
            (shownName? ∘ Phrase.line options) = [] := by
        rw [List.filterMap_eq_nil_iff]
        intro row member
        refine Phrase.shown_name_of_other
          (Phrase.step_ne_definition (Command.block_steps member)) (called row ?_)
        exact List.mem_cons_of_mem _ (List.mem_cons_of_mem _ member)
      rw [List.filterMap_cons_none gap, List.filterMap_cons_some heading, body]
      rfl

theorem item_names_shown (options : Options) {registry : Registry} {items : List Item}
    (plain : ∀ name ∈ items.filterMap Item.definedName?, '(' ∉ name.toList) :
    (Outline.rowsOf 0 (itemForest options.split registry items)).filterMap
        (shownName? ∘ Phrase.line options) =
      items.filterMap Item.definedName? := by
  induction items generalizing registry with
  | nil => rfl
  | cons item items ih =>
      have here : ∀ name, item.definedName? = some name → '(' ∉ name.toList := by
        intro name defined
        exact plain name (List.mem_filterMap.mpr ⟨item, List.mem_cons_self, defined⟩)
      have later : ∀ name ∈ items.filterMap Item.definedName?, '(' ∉ name.toList := by
        intro name member
        obtain ⟨other, listed, defined⟩ := List.mem_filterMap.mp member
        exact plain name (List.mem_filterMap.mpr ⟨other, List.mem_cons_of_mem _ listed, defined⟩)
      rw [itemForest, Outline.rows_of_append, List.filterMap_append, Item.names_shown options here,
        ih later]
      cases defined : item.definedName? with
      | none =>
          rw [List.filterMap_cons_none defined]
          rfl
      | some name =>
          rw [List.filterMap_cons_some defined]
          rfl

/-- The names of the procedures can be read off the lines, if none of them has a parenthesis. -/
theorem Script.names_shown {options : Options} {source : String} {script : Script}
    (compiled : compile options source = .ok script)
    (plain : ∀ name ∈ script.procedures, '(' ∉ name.toList) :
    script.lines.filterMap shownName? = script.procedures := by
  obtain ⟨items, _, rfl⟩ := items_of_compile compiled
  have prologue : (shownName? ∘ Phrase.line options) (0, .prologue) = none :=
    Phrase.shown_name_of_other (by simp) (by simp)
  have epilogue : (shownName? ∘ Phrase.line options) (0, .epilogue) = none :=
    Phrase.shown_name_of_other (by simp) (by simp)
  have rows : Outline.rowsOf 0 (forest options.split items) =
      (0, .prologue) :: Outline.rowsOf 0 (itemForest options.split Registry.empty items) ++
        [(0, .epilogue)] := by
    rw [forest, Outline.rows_of_append]
    rfl
  rw [lines_of_items, List.filterMap_map, rows, List.filterMap_append,
    List.filterMap_cons_none prologue, List.filterMap_cons_none epilogue, List.filterMap_nil,
    List.append_nil]
  exact item_names_shown options plain

end TurtleLang
