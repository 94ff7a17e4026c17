import Mathlib.Data.List.Basic
import TurtleLang.Proofs.Continuation
import TurtleLang.Proofs.Echo

/-!
Where a program enters the event loop. The import comes first and the call of the event loop
last, and no other line that the compiler makes up reads like that call. A procedure can have any
word as its name, though, and one with the name `turtle.done` is called by the very same text. So
the line stands once in the output of every program that defines no procedure of that name, and
with one it stands again for each call of it without inputs that is not indented.
-/
namespace TurtleLang

set_option autoImplicit false

theorem front_of_append {front rest whole : String} (same : front ++ rest = whole) :
    front.toList <+: whole.toList :=
  ⟨rest.toList, by rw [← String.toList_append, same]⟩

theorem intercalate_eq_empty {separator : String} (filled : separator ≠ "") (texts : List String) :
    separator.intercalate texts = "" ↔ texts = [] ∨ texts = [""] := by
  cases texts with
  | nil => simp
  | cons first rest =>
      cases rest with
      | nil => simp
      | cons second rest =>
          rw [String.intercalate_cons_cons]
          simp [filled]

namespace Phrase

theorem call_text_eq_epilogue {name : String} {inputs : List String} :
    (Phrase.call name inputs).text = "turtle.done()" ↔
      name = "turtle.done" ∧ (inputs = [] ∨ inputs = [""]) := by
  rw [← intercalate_eq_empty (show ", " ≠ "" by decide)]
  constructor
  · intro same
    have spelled :
        (name ++ "(" ++ ", ".intercalate inputs ++ ")").toList = "turtle.done()".toList :=
      congrArg String.toList same
    have parts : "turtle.done".toList ++ '(' :: [')'] =
        name.toList ++ '(' :: ((", ".intercalate inputs).toList ++ [')']) := by
      rw [String.toList_append, String.toList_append, String.toList_append, List.append_assoc,
        List.append_assoc] at spelled
      exact spelled.symm
    -- The bracket that opens the inputs is the only one, so the two spellings part at it.
    rw [List.append_cons_inj_of_notMem (by decide) (by decide)] at parts
    obtain ⟨names, _, inside⟩ := parts
    have blank : (", ".intercalate inputs).toList = [] := List.self_eq_append_left.mp inside
    exact ⟨(String.toList_inj.mp names).symm, String.toList_eq_nil_iff.mp blank⟩
  · rintro ⟨named, blank⟩
    have called : (Phrase.call name inputs).text = name ++ "(" ++ ", ".intercalate inputs ++ ")" :=
      rfl
    rw [called, named, blank]
    decide

theorem enclosed_ne_epilogue {front : String}
    (foreign : ¬front.toList <+: "turtle.done()".toList) (middle back : String) :
    front ++ middle ++ back ≠ "turtle.done()" := by
  intro same
  rw [String.append_assoc] at same
  exact foreign (front_of_append same)

theorem primitive_ne_epilogue (operation : Primitive) (inputs : List String) :
    operation.render inputs ≠ "turtle.done()" := by
  cases operation with
  | forward => exact enclosed_ne_epilogue (by decide) _ _
  | back => exact enclosed_ne_epilogue (by decide) _ _
  | right => exact enclosed_ne_epilogue (by decide) _ _
  | left => exact enclosed_ne_epilogue (by decide) _ _
  | setHeading => exact enclosed_ne_epilogue (by decide) _ _
  | print => exact enclosed_ne_epilogue (by decide) _ _
  | _ =>
      dsimp only [Primitive.render]
      decide

theorem opens_ne_epilogue {phrase : Phrase} (opened : phrase.opens = true) :
    phrase.text ≠ "turtle.done()" := by
  intro same
  rcases text_head_of_opens phrase opened with starts | starts
  · rw [same] at starts
    exact absurd starts (by decide)
  · rw [same] at starts
    exact absurd starts (by decide)

/-- Besides the call of the event loop, only the call of a procedure reads like it. -/
theorem text_eq_epilogue {phrase : Phrase} (other : phrase ≠ .epilogue) :
    phrase.text = "turtle.done()" ↔
      ∃ inputs, phrase = .call "turtle.done" inputs ∧ (inputs = [] ∨ inputs = [""]) := by
  constructor
  · intro same
    cases phrase with
    | epilogue => exact absurd rfl other
    | call name inputs =>
        obtain ⟨named, blank⟩ := call_text_eq_epilogue.mp same
        exact ⟨inputs, by rw [named], blank⟩
    | prologue => exact absurd same (show "import turtle" ≠ "turtle.done()" by decide)
    | gap => exact absurd same (show "" ≠ "turtle.done()" by decide)
    | pass => exact absurd same (show "pass" ≠ "turtle.done()" by decide)
    | unknown echoed => exact absurd (front_of_append same) (by decide)
    | primitive operation inputs => exact absurd same (primitive_ne_epilogue operation inputs)
    | definition name parameters => exact absurd same (opens_ne_epilogue rfl)
    | loop count => exact absurd same (opens_ne_epilogue rfl)
  · rintro ⟨inputs, same, blank⟩
    rw [same]
    exact call_text_eq_epilogue.mpr ⟨rfl, blank⟩

theorem step_ne_epilogue {phrase : Phrase} (step : phrase.isStep = true) :
    phrase ≠ .epilogue := by
  intro same
  rw [same] at step
  cases step

/-- The line of a row reads like the call of the event loop only where it has no margin. -/
theorem line_eq_epilogue {options : Options} {row : Nat × Phrase} :
    line options row = "turtle.done()" ↔
      options.indent * row.1 = 0 ∧ row.2.text = "turtle.done()" := by
  have laid : line options row = options.margin row.1 ++ row.2.text := rfl
  rw [laid]
  constructor
  · intro same
    have margin := front_of_append same
    cases width : options.indent * row.1 with
    | zero =>
        rw [Options.margin, width, List.replicate_zero, String.ofList_nil,
          String.empty_append] at same
        exact ⟨rfl, same⟩
    | succ further =>
        rw [Options.margin, width, String.toList_ofList, List.replicate_succ] at margin
        have spaced : ' ' :: List.replicate further ' ' <+: 't' :: "urtle.done()".toList := margin
        exact absurd (List.cons_prefix_cons.mp spaced).1 (by decide)
  · rintro ⟨width, same⟩
    rw [Options.margin, width, List.replicate_zero, String.ofList_nil, String.empty_append]
    exact same

end Phrase

theorem Item.forest_ne_epilogue {policy : SplitPolicy} {registry : Registry} {item : Item}
    {row : Nat × Phrase} (member : row ∈ Outline.rowsOf 0 (item.forest policy registry)) :
    row.2 ≠ .epilogue := by
  cases item with
  | command line => exact Phrase.step_ne_epilogue (Command.rows_of_steps member)
  | definition header procedure =>
      rw [Item.definition_rows] at member
      rcases List.mem_cons.mp member with gap | member
      · simp [gap]
      · rcases List.mem_cons.mp member with heading | member
        · simp [heading]
        · exact Phrase.step_ne_epilogue (Command.block_steps member)

theorem item_forest_ne_epilogue {policy : SplitPolicy} {registry : Registry} {items : List Item}
    {row : Nat × Phrase} (member : row ∈ Outline.rowsOf 0 (itemForest policy registry items)) :
    row.2 ≠ .epilogue := by
  induction items generalizing registry with
  | nil => cases member
  | cons item items ih =>
      rw [itemForest, Outline.rows_of_append, List.mem_append] at member
      rcases member with here | later
      · exact Item.forest_ne_epilogue here
      · exact ih later

theorem rows_up_to_ne_epilogue {policy : SplitPolicy} {items : List Item} {row : Nat × Phrase}
    (member : row ∈ rowsUpTo policy items) : row.2 ≠ .epilogue := by
  rw [rowsUpTo, Outline.rowsOf, List.mem_append, Outline.rows, Outline.rowsOf,
    List.mem_singleton] at member
  rcases member with opening | later
  · simp [opening]
  · exact item_forest_ne_epilogue later

theorem call_row_defined {policy : SplitPolicy} {items : List Item} {level : Nat} {name : String}
    {inputs : List String}
    (row : (level, .call name inputs) ∈ Outline.rowsOf 0 (Script.forest policy items)) :
    name ∈ items.filterMap Item.definedName? := by
  cases row_from_forest row with
  | @line visible emitted depth text _ stands inside =>
      have resolved := Command.read_line_calls (knownAfter visible) policy text name
        (Command.rows_of_calls inside)
      obtain ⟨item, seen, defined⟩ := (contains_known_after visible name).mp resolved.2
      rw [Command.resolved_lower resolved] at defined
      exact List.mem_filterMap.mpr ⟨item, visible_subset stands item seen, defined⟩

structure EntersLoop (options : Options) (items : List Item) (script : Script) : Prop where
  first : script.lines.head? = some "import turtle"
  last : script.lines.getLast? = some "turtle.done()"
  /-- An earlier line reads like the last one exactly for a call of a procedure of that name
  that has no inputs, or an empty one, and stands at the margin. -/
  again_iff : "turtle.done()" ∈ script.lines.dropLast ↔
    ∃ depth inputs, (depth, .call "turtle.done" inputs) ∈
        Outline.rowsOf 0 (Script.forest options.split items) ∧
      options.indent * depth = 0 ∧ (inputs = [] ∨ inputs = [""])
  /-- Without a definition of that name the event loop is entered once, after everything else. -/
  once : "turtle.done" ∉ script.procedures → script.lines.count "turtle.done()" = 1

namespace Script

theorem drop_last_of_items (options : Options) (items : List Item) :
    (ofItems options items).lines.dropLast =
      (rowsUpTo options.split items).map (Phrase.line options) := by
  rw [lines_of_items_rows_up_to, List.dropLast_concat]

theorem rows_of_forest_rows_up_to (policy : SplitPolicy) (items : List Item) :
    Outline.rowsOf 0 (forest policy items) = rowsUpTo policy items ++ [(0, .epilogue)] := by
  rw [forest, Outline.rows_of_append, rowsUpTo]
  rfl

theorem epilogue_again_iff (options : Options) (items : List Item) :
    "turtle.done()" ∈ (ofItems options items).lines.dropLast ↔
      ∃ depth inputs, (depth, .call "turtle.done" inputs) ∈
          Outline.rowsOf 0 (forest options.split items) ∧
        options.indent * depth = 0 ∧ (inputs = [] ∨ inputs = [""]) := by
  rw [drop_last_of_items, List.mem_map, rows_of_forest_rows_up_to]
  constructor
  · rintro ⟨⟨depth, phrase⟩, shown, reads⟩
    obtain ⟨width, text⟩ := Phrase.line_eq_epilogue.mp reads
    obtain ⟨inputs, called, blank⟩ :=
      (Phrase.text_eq_epilogue (rows_up_to_ne_epilogue shown)).mp text
    have same : phrase = .call "turtle.done" inputs := called
    rw [same] at shown
    exact ⟨depth, inputs, List.mem_append_left _ shown, width, blank⟩
  · rintro ⟨depth, inputs, shown, width, blank⟩
    rcases List.mem_append.mp shown with here | ending
    · refine ⟨_, here, Phrase.line_eq_epilogue.mpr ⟨width, ?_⟩⟩
      exact Phrase.call_text_eq_epilogue.mpr ⟨rfl, blank⟩
    · rw [List.mem_singleton] at ending
      cases ending

/-- A compiled program starts with its import and ends by entering the event loop, and a line
before the end does so only by calling a procedure that has the name of that call. -/
theorem compile_enters_loop (options : Options) (source : String) (script : Script)
    (compiled : compile options source = .ok script) :
    ∃ items, readItems (executableLines source) = (items, none) ∧
      EntersLoop options items script := by
  obtain ⟨items, found, same⟩ := items_of_compile compiled
  have again := epilogue_again_iff options items
  have lines := lines_of_items_rows_up_to options items
  rw [same]
  refine ⟨items, found, ?_, ?_, again, ?_⟩
  · rw [lines, rowsUpTo, Outline.rowsOf, List.map_append]
    exact congrArg some (layout_top options "import turtle")
  · rw [lines, List.getLast?_concat]
  · intro undefined
    have never : "turtle.done()" ∉ (ofItems options items).lines.dropLast := by
      intro earlier
      obtain ⟨depth, inputs, shown, _⟩ := again.mp earlier
      exact undefined (call_row_defined shown)
    rw [drop_last_of_items] at never
    rw [lines, List.count_append, List.count_eq_zero.mpr never]
    decide

/-- A call in the body of another procedure, and one with an empty variable as its only input. -/
theorem compile_enters_loop_clash :
    ∃ items,
      readItems (executableLines
        "to turtle.done\nend\nto f\nturtle.done\nend\nturtle.done :") = (items, none) ∧
      EntersLoop {} items
        ⟨["import turtle",
            "",
            "def turtle.done():",
            "    pass",
            "",
            "def f():",
            "    turtle.done()",
            "turtle.done()",
            "turtle.done()"],
          ["turtle.done", "f"]⟩ :=
  compile_enters_loop {} "to turtle.done\nend\nto f\nturtle.done\nend\nturtle.done :" _
    (by decide +kernel)

/-- The event loop is entered before the program is done. -/
theorem compile_epilogue_twice :
    compile {} "to turtle.done\nend\nturtle.done\nfd 10" =
        .ok ⟨["import turtle",
            "",
            "def turtle.done():",
            "    pass",
            "turtle.done()",
            "turtle.forward(10)",
            "turtle.done()"],
          ["turtle.done"]⟩ ∧
      "turtle.done()" ∈ ["import turtle", "", "def turtle.done():", "    pass", "turtle.done()",
        "turtle.forward(10)", "turtle.done()"].dropLast :=
  ⟨by decide +kernel, by decide⟩

end Script

end TurtleLang
