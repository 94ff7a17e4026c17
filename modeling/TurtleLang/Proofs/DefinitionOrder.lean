import TurtleLang.Proofs.Forest

/-!
Which names a program may call, and where. A definition counts for the lines of
its own body and for everything behind it, and for nothing in front of it.

The name of a definition is put into lower case when its header is read and again
when it is stored; the name of a call when its line is read and again when it is
looked up. Lower case stays as it is when it is put into lower case once more, so
both sides meet at the same text, and that text is what the output shows.
-/
namespace TurtleLang

set_option autoImplicit false

namespace Registry

theorem any_place (procedure : Procedure) (known : List Procedure) (key : String) :
    (place procedure known).any (fun other => other.name == key) =
      (procedure.name == key || known.any fun other => other.name == key) := by
  induction known with
  | nil => rfl
  | cons first rest ih =>
      unfold place
      split
      · next same => simp [same]
      · rw [List.any_cons, List.any_cons, ih]
        cases first.name == key <;> cases procedure.name == key <;> rfl

theorem contains_eq_any (registry : Registry) (name : String) :
    registry.contains name =
      registry.procedures.any fun procedure => procedure.name == Text.lower name := by
  rw [contains, lookup, List.isSome_find?]

theorem contains_define (registry : Registry) (procedure : Procedure) (name : String) :
    (registry.define procedure).contains name = true ↔
      (entry procedure).name = Text.lower name ∨ registry.contains name = true := by
  rw [contains_eq_any, contains_eq_any, define, any_place, Bool.or_eq_true, beq_iff_eq]

end Registry

namespace Item

theorem contains_enter (registry : Registry) (item : Item) (name : String) :
    (item.enter registry).contains name = true ↔
      item.definedName? = some (Text.lower name) ∨ registry.contains name = true := by
  cases item with
  | command line => simp [enter, definedName?]
  | definition header procedure =>
      rw [enter, definedName?, Registry.contains_define, Option.some.injEq]

/-- A `to` block whose name is the given one in lower case. -/
def Defines (name : String) : Item → Prop
  | .command _ => False
  | .definition header _ => ∃ keyword word words,
      Text.words header.text = keyword :: word :: words ∧ Text.lower word = name

end Item

def knownAfter (items : List Item) : Registry :=
  items.foldl Item.enter Registry.empty

theorem contains_foldl (registry : Registry) (items : List Item) (name : String) :
    (items.foldl Item.enter registry).contains name = true ↔
      registry.contains name = true ∨
        ∃ item ∈ items, item.definedName? = some (Text.lower name) := by
  induction items generalizing registry with
  | nil => simp
  | cons item rest ih =>
      rw [List.foldl_cons, ih, Item.contains_enter]
      simp only [List.mem_cons, exists_eq_or_imp]
      rw [or_left_comm, or_assoc]

theorem contains_known_after (items : List Item) (name : String) :
    (knownAfter items).contains name = true ↔
      ∃ item ∈ items, item.definedName? = some (Text.lower name) := by
  have none : Registry.empty.contains name = false := rfl
  rw [knownAfter, contains_foldl, none]
  simp

/-- Lines cut into items: single lines that open no definition, and `to` blocks
from their header to the first terminator behind it. -/
inductive Spans : List Item → List Line → Prop
  | nil : Spans [] []
  | command {line : Line} {items : List Item} {rest : List Line} :
      isHeader line.text = false → Spans items rest →
        Spans (.command line :: items) (line :: rest)
  | definition {header terminator : Line} {procedure : Procedure} {body rest : List Line}
      {items : List Item} : isHeader header.text = true →
      Procedure.readHeader header = .ok (procedure.name, procedure.parameters) →
      procedure.body = body.map Line.text → (∀ line ∈ body, isTerminator line.text = false) →
      isTerminator terminator.text = true → Spans items rest →
        Spans (.definition header procedure :: items) (header :: (body ++ terminator :: rest))

theorem take_body_spans {lines after : List Line} {texts : List String}
    (taken : Procedure.takeBody lines = some (texts, after)) :
    ∃ body terminator, lines = body ++ terminator :: after ∧ texts = body.map Line.text ∧
      (∀ line ∈ body, isTerminator line.text = false) ∧ isTerminator terminator.text = true := by
  induction lines generalizing texts with
  | nil => cases taken
  | cons line rest ih =>
      unfold Procedure.takeBody at taken
      split at taken
      · next closing =>
          cases taken
          exact ⟨[], line, rfl, rfl, by simp, closing⟩
      · next inner =>
          split at taken
          · cases taken
          · next found =>
              cases taken
              obtain ⟨body, terminator, rfl, rfl, before, closing⟩ := ih found
              refine ⟨line :: body, terminator, rfl, rfl, ?_, closing⟩
              intro other member
              rcases List.mem_cons.mp member with rfl | later
              · simpa using inner
              · exact before other later

/-- A scanned definition is a block of lines that any consumed lines may follow. -/
theorem scan_block {header : Line} {rest after : List Line} {procedure : Procedure}
    (opening : isHeader header.text = true)
    (scanned : Procedure.scan header rest = .ok (procedure, after)) :
    ∃ block, rest = block ++ after ∧ ∀ items consumed, Spans items consumed →
      Spans (.definition header procedure :: items) (header :: (block ++ consumed)) := by
  unfold Procedure.scan at scanned
  split at scanned
  · cases scanned
  · next declared =>
      split at scanned
      · cases scanned
      · next taken =>
          cases scanned
          obtain ⟨body, terminator, rfl, rfl, inner, closing⟩ := take_body_spans taken
          refine ⟨body ++ [terminator], by simp, fun items consumed spans => ?_⟩
          rw [List.append_assoc, List.singleton_append]
          exact .definition opening declared rfl inner closing spans

theorem scan_spans {header : Line} {rest after : List Line} {procedure : Procedure}
    {items : List Item} (opening : isHeader header.text = true)
    (scanned : Procedure.scan header rest = .ok (procedure, after)) (spans : Spans items after) :
    Spans (.definition header procedure :: items) (header :: rest) := by
  obtain ⟨block, rfl, extend⟩ := scan_block opening scanned
  exact extend items after spans

theorem read_items_spans (lines : List Line) :
    (readItems lines).2 = none → Spans (readItems lines).1 lines := by
  fun_induction readItems lines with
  | case1 => exact fun _ => .nil
  | case2 line rest opening fault failed =>
      intro none
      cases none
  | case3 line rest opening procedure after scanned shorter items fault found ih =>
      intro none
      rw [found] at ih
      exact scan_spans opening scanned (ih none)
  | case4 line rest plain items fault found ih =>
      intro none
      rw [found] at ih
      exact .command (by simpa using plain) (ih none)

theorem read_header_words {header : Line} {name : String} {parameters : List String}
    (declared : Procedure.readHeader header = .ok (name, parameters)) :
    ∃ keyword word words, Text.words header.text = keyword :: word :: words ∧
      name = Text.lower word := by
  unfold Procedure.readHeader at declared
  split at declared
  · cases declared
  · next word words cut =>
      dsimp only at declared
      split at declared
      · cases declared
      · cases declared
        cases whole : Text.words header.text with
        | nil => simp [whole] at cut
        | cons keyword rest =>
            rw [whole, List.drop_succ_cons, List.drop_zero] at cut
            exact ⟨keyword, word, words, by rw [cut], rfl⟩

theorem defines_iff {items : List Item} {lines : List Line} (spans : Spans items lines)
    (name : String) : ∀ item ∈ items, item.Defines name ↔ item.definedName? = some name := by
  induction spans with
  | nil => simp
  | @command line _ _ _ _ ih =>
      intro item member
      rcases List.mem_cons.mp member with rfl | later
      · simp [Item.Defines, Item.definedName?]
      · exact ih item later
  | @definition header _ procedure _ _ _ _ declared _ _ _ _ ih =>
      intro item member
      rcases List.mem_cons.mp member with rfl | later
      · obtain ⟨keyword, word, words, cut, named⟩ := read_header_words declared
        rw [Item.definedName?, Option.some.injEq, Registry.entry, named, Text.lower_lower,
          Item.Defines, cut]
        constructor
        · rintro ⟨_, _, _, same, lowered⟩
          cases same
          exact lowered
        · intro lowered
          exact ⟨keyword, word, words, rfl, lowered⟩
      · exact ih item later

theorem item_forest_append (policy : SplitPolicy) (registry : Registry) (before after : List Item) :
    itemForest policy registry (before ++ after) =
      itemForest policy registry before ++
        itemForest policy (before.foldl Item.enter registry) after := by
  induction before generalizing registry with
  | nil => rfl
  | cons item rest ih =>
      rw [List.cons_append, itemForest, itemForest, ih, List.append_assoc, List.foldl_cons]

/-- The rows of a program in front of what stands behind the given items. -/
def rowsUpTo (policy : SplitPolicy) (items : List Item) : List (Nat × Phrase) :=
  Outline.rowsOf 0 (.node .prologue [] :: itemForest policy Registry.empty items)

theorem rows_of_forest_split (policy : SplitPolicy) (before after : List Item) (item : Item) :
    ∃ later, Outline.rowsOf 0 (Script.forest policy (before ++ item :: after)) =
      rowsUpTo policy before ++ Outline.rowsOf 0 (item.forest policy (knownAfter before)) ++
        later := by
  refine ⟨Outline.rowsOf 0 (itemForest policy (item.enter (knownAfter before)) after ++
    [.node .epilogue []]), ?_⟩
  rw [Script.forest, item_forest_append, itemForest, rowsUpTo, ← Outline.rows_of_append,
    ← Outline.rows_of_append, knownAfter]
  simp only [List.cons_append, List.append_assoc]

/-- Where a source line stands that is compiled by itself: the items whose
definitions count for it, the rows in front of its own, its depth and its text. -/
inductive LineAt (policy : SplitPolicy) (items : List Item) :
    List Item → List (Nat × Phrase) → Nat → String → Prop
  | outside {before after : List Item} {line : Line} : items = before ++ .command line :: after →
      LineAt policy items before (rowsUpTo policy before) 0 line.text
  | inside {before after : List Item} {header : Line} {procedure : Procedure}
      {earlier later : List String} {line : String} :
      items = before ++ .definition header procedure :: after →
      procedure.body = earlier ++ line :: later →
      LineAt policy items (before ++ [.definition header procedure])
        (rowsUpTo policy before ++ (0, .gap) ::
          (0, .definition (Registry.entry procedure).name procedure.parameters) ::
            Outline.rowsOf 1 (Command.outlinesOf (earlier.flatMap
              (Command.readLine (knownAfter (before ++ [.definition header procedure])) policy))))
        1 line

theorem fill_block_append (forest : List (Outline Phrase)) :
    ∃ added, fillBlock forest = forest ++ added := by
  unfold fillBlock
  split
  · exact ⟨[], (List.append_nil forest).symm⟩
  · exact ⟨_, rfl⟩

/-- The rows of a source line stand in the output where the line does. -/
theorem rows_of_line_at {policy : SplitPolicy} {items visible : List Item}
    {emitted : List (Nat × Phrase)} {depth : Nat} {line : String}
    (stands : LineAt policy items visible emitted depth line) :
    ∃ later, Outline.rowsOf 0 (Script.forest policy items) =
      emitted ++ Outline.rowsOf depth
        (Command.outlinesOf (Command.readLine (knownAfter visible) policy line)) ++ later := by
  cases stands with
  | @outside _ after line whole =>
      obtain ⟨later, split⟩ := rows_of_forest_split policy visible after (.command line)
      rw [whole]
      exact ⟨later, split⟩
  | @inside before after header procedure earlier rest _ whole body =>
      obtain ⟨later, split⟩ :=
        rows_of_forest_split policy before after (.definition header procedure)
      have known : knownAfter (before ++ [.definition header procedure]) =
          (knownAfter before).define procedure := by
        rw [knownAfter, List.foldl_append]
        rfl
      obtain ⟨added, filled⟩ := fill_block_append (Command.outlinesOf (procedure.body.flatMap
        (Command.readLine ((knownAfter before).define procedure) policy)))
      rw [whole, split, known, Item.definition_rows, filled, body, List.flatMap_append,
        List.flatMap_cons, Command.outlines_of_append, Command.outlines_of_append,
        Outline.rows_of_append, Outline.rows_of_append, Outline.rows_of_append]
      simp only [List.append_assoc, List.cons_append]
      exact ⟨_, rfl⟩

theorem rows_of_unlisted {registry : Registry} {policy : SplitPolicy} {line first : String}
    {rest : List String} (cut : Text.words line = first :: rest)
    (noLoop : Text.lower first ≠ Command.loopWord)
    (noPrimitive : Primitive.ofName? (Text.lower first) = none) (depth : Nat) :
    Outline.rowsOf depth (Command.outlinesOf (Command.readLine registry policy line)) =
      [(depth, if registry.contains (Text.lower first) then
          .call (Text.lower first) (rest.map inputOf)
        else .unknown (Text.trim line))] := by
  unfold Command.readLine Command.readPlain
  rw [cut]
  simp only [noLoop, if_false, noPrimitive]
  split
  · rfl
  · rfl

theorem contains_visible {items visible : List Item} {lines : List Line}
    (spans : Spans items lines) (subset : ∀ item ∈ visible, item ∈ items) (word : String) :
    (knownAfter visible).contains (Text.lower word) = true ↔
      ∃ item ∈ visible, item.Defines (Text.lower word) := by
  rw [contains_known_after, Text.lower_lower]
  constructor
  · rintro ⟨item, member, defined⟩
    exact ⟨item, member, (defines_iff spans _ item (subset item member)).mpr defined⟩
  · rintro ⟨item, member, defined⟩
    exact ⟨item, member, (defines_iff spans _ item (subset item member)).mp defined⟩

theorem visible_subset {policy : SplitPolicy} {items visible : List Item}
    {emitted : List (Nat × Phrase)} {depth : Nat} {line : String}
    (stands : LineAt policy items visible emitted depth line) :
    ∀ item ∈ visible, item ∈ items := by
  intro item member
  cases stands with
  | outside whole =>
      rw [whole]
      exact List.mem_append_left _ member
  | inside whole _ =>
      rw [whole]
      rcases List.mem_append.mp member with before | enclosing
      · exact List.mem_append_left _ before
      · rw [List.mem_singleton] at enclosing
        simp [enclosing]

/-- A definition shows its own name in front of every row of its body. -/
theorem definition_row {policy : SplitPolicy} {registry : Registry} {item : Item} {name : String}
    (defined : item.definedName? = some name) :
    ∃ parameters body, Outline.rowsOf 0 (item.forest policy registry) =
      (0, .gap) :: (0, .definition name parameters) :: body := by
  cases item with
  | command line => cases defined
  | definition header procedure =>
      cases defined
      exact ⟨_, _, Item.definition_rows policy registry header procedure⟩

theorem append_split {α : Type} {left right before after : List α} {row : α}
    (split : left ++ right = before ++ row :: after) :
    (∃ tail, left = before ++ row :: tail) ∨
      ∃ between, before = left ++ between ∧ right = between ++ row :: after := by
  rcases List.append_eq_append_iff.mp split with ⟨between, early, late⟩ | ⟨tail, early, late⟩
  · exact .inr ⟨between, early, late⟩
  · cases tail with
    | nil => exact .inr ⟨[], by simpa using early.symm, late.symm⟩
    | cons first tail =>
        cases late
        exact .inl ⟨tail, early⟩

/-- What an item calls is known in front of it, or the item itself defines it. -/
theorem forest_call_defined {policy : SplitPolicy} {registry : Registry} {item : Item}
    {before after : List (Nat × Phrase)} {level : Nat} {name : String} {inputs : List String}
    (split : Outline.rowsOf 0 (item.forest policy registry) =
      before ++ (level, .call name inputs) :: after) :
    registry.contains name = true ∨ ∃ parameters, (0, .definition name parameters) ∈ before := by
  have listed : (level, .call name inputs) ∈ Outline.rowsOf 0 (item.forest policy registry) := by
    rw [split]
    simp
  have resolved := Item.forest_calls listed
  rcases (item.contains_enter registry name).mp resolved.2 with defined | known
  · right
    rw [Command.resolved_lower resolved] at defined
    obtain ⟨parameters, body, shown⟩ := definition_row defined
    rw [shown] at split
    -- The first two rows of a definition are no calls, so both are in front of this one.
    cases before with
    | nil => cases split
    | cons first before =>
        cases before with
        | nil => cases split
        | cons second before =>
            cases split
            exact ⟨parameters, by simp⟩
  · exact .inl known

theorem item_forest_call_defined {policy : SplitPolicy} {registry : Registry} {items : List Item}
    {before after : List (Nat × Phrase)} {level : Nat} {name : String} {inputs : List String}
    (lowered : Text.lower name = name)
    (split : Outline.rowsOf 0 (itemForest policy registry items) =
      before ++ (level, .call name inputs) :: after) :
    registry.contains name = true ∨ ∃ parameters, (0, .definition name parameters) ∈ before := by
  induction items generalizing registry before with
  | nil => simp [itemForest, Outline.rowsOf] at split
  | cons item rest ih =>
      rw [itemForest, Outline.rows_of_append] at split
      rcases append_split split with ⟨tail, here⟩ | ⟨between, early, later⟩
      · exact forest_call_defined here
      · -- The call stands behind the item, so all rows of the item are in front of it.
        rw [early]
        rcases ih later with known | ⟨parameters, shown⟩
        · rcases (item.contains_enter registry name).mp known with defined | earlier
          · right
            rw [lowered] at defined
            obtain ⟨parameters, body, whole⟩ := definition_row defined
            rw [whole]
            exact ⟨parameters, by simp⟩
          · exact .inl earlier
        · exact .inr ⟨parameters, List.mem_append_right _ shown⟩

theorem forest_call_defined_before {policy : SplitPolicy} {items : List Item}
    {before after : List (Nat × Phrase)} {level : Nat} {name : String} {inputs : List String}
    (split : Outline.rowsOf 0 (Script.forest policy items) =
      before ++ (level, .call name inputs) :: after) :
    ∃ parameters, (0, .definition name parameters) ∈ before := by
  rw [Script.forest, List.cons_append, Outline.rowsOf, Outline.rows_of_append] at split
  rcases append_split split with ⟨tail, opening⟩ | ⟨between, early, later⟩
  · simp [Outline.rows, Outline.rowsOf, List.singleton_eq_append_iff] at opening
  · rcases append_split later with ⟨tail, inside⟩ | ⟨behind, _, ending⟩
    · have listed : (level, .call name inputs) ∈
          Outline.rowsOf 0 (itemForest policy Registry.empty items) := by
        rw [inside]
        simp
      obtain ⟨_, resolved⟩ := item_forest_calls listed
      rcases item_forest_call_defined (Command.resolved_lower resolved) inside with none | shown
      · cases none
      · obtain ⟨parameters, row⟩ := shown
        exact ⟨parameters, by simp [early, row]⟩
    · simp [Outline.rows, Outline.rowsOf, List.singleton_eq_append_iff] at ending

structure DefinedBeforeUse (options : Options) (items : List Item) (lines : List String) :
    Prop where
  rows : lines =
    (Outline.rowsOf 0 (Script.forest options.split items)).map (Phrase.line options)
  /-- In front of a call at any depth stands a `def` line for the very same name. -/
  call_defined : ∀ before level name inputs after,
    Outline.rowsOf 0 (Script.forest options.split items) =
      before ++ (level, .call name inputs) :: after →
    ∃ parameters, (0, .definition name parameters) ∈ before ∧
      Phrase.line options (0, .definition name parameters) =
        "def " ++ name ++ "(" ++ ", ".intercalate parameters ++ "):"
  /-- A line whose first word is not built in is a call exactly when a `to` block
  around it or in front of it has that name, and a comment otherwise. -/
  line_resolved : ∀ visible emitted depth line first rest,
    LineAt options.split items visible emitted depth line →
    Text.words line = first :: rest → Text.lower first ≠ Command.loopWord →
    Primitive.ofName? (Text.lower first) = none →
    ∃ phrase later,
      Outline.rowsOf 0 (Script.forest options.split items) =
        emitted ++ (depth, phrase) :: later ∧
      (((∃ item ∈ visible, item.Defines (Text.lower first)) ∧
          phrase = .call (Text.lower first) (rest.map inputOf)) ∨
        ((¬∃ item ∈ visible, item.Defines (Text.lower first)) ∧
          phrase = .unknown (Text.trim line)))

theorem line_of_definition (options : Options) (name : String) (parameters : List String) :
    Phrase.line options (0, .definition name parameters) =
      "def " ++ name ++ "(" ++ ", ".intercalate parameters ++ "):" := by
  have margin : options.margin 0 = "" := by
    rw [Options.margin, Nat.mul_zero, List.replicate_zero, String.ofList_nil]
  rw [Phrase.line, Statement.layout, Phrase.statement, margin, String.empty_append]
  rfl

theorem line_at_resolved {policy : SplitPolicy} {items visible : List Item} {lines : List Line}
    (spans : Spans items lines) {emitted : List (Nat × Phrase)} {depth : Nat}
    {line first : String} {rest : List String}
    (stands : LineAt policy items visible emitted depth line)
    (cut : Text.words line = first :: rest) (noLoop : Text.lower first ≠ Command.loopWord)
    (noPrimitive : Primitive.ofName? (Text.lower first) = none) :
    ∃ phrase later,
      Outline.rowsOf 0 (Script.forest policy items) = emitted ++ (depth, phrase) :: later ∧
      (((∃ item ∈ visible, item.Defines (Text.lower first)) ∧
          phrase = .call (Text.lower first) (rest.map inputOf)) ∨
        ((¬∃ item ∈ visible, item.Defines (Text.lower first)) ∧
          phrase = .unknown (Text.trim line))) := by
  obtain ⟨later, split⟩ := rows_of_line_at stands
  rw [rows_of_unlisted cut noLoop noPrimitive, List.append_assoc, List.singleton_append] at split
  refine ⟨_, later, split, ?_⟩
  rw [← contains_visible spans (visible_subset stands) first]
  by_cases known : (knownAfter visible).contains (Text.lower first) = true
  · exact .inl ⟨known, if_pos known⟩
  · exact .inr ⟨known, if_neg known⟩

namespace Script

/-- In every compiled program definitions come before their uses, and names are
resolved by the definitions that stand before them or around them. -/
theorem compile_defined_before_use (options : Options) (source : String) (script : Script)
    (compiled : compile options source = .ok script) :
    ∃ items, readItems (executableLines source) = (items, none) ∧
      Spans items (executableLines source) ∧ DefinedBeforeUse options items script.lines := by
  obtain ⟨items, found, rfl⟩ := items_of_compile compiled
  have spans := read_items_spans (executableLines source)
  rw [found] at spans
  refine ⟨items, found, spans rfl, lines_of_items options items, ?_, ?_⟩
  · intro before level name inputs after split
    obtain ⟨parameters, shown⟩ := forest_call_defined_before split
    exact ⟨parameters, shown, line_of_definition options name parameters⟩
  · intro visible emitted depth line first rest stands cut noLoop noPrimitive
    exact line_at_resolved (spans rfl) stands cut noLoop noPrimitive

/-- A call in front of its definition, one in its own body and one behind it. -/
theorem compile_defined_before_use_spin :
    ∃ items,
      readItems (executableLines "Spin 1\nto SPIN\nspin\nend\nrepeat 3 [spin go]") =
        (items, none) ∧
      Spans items (executableLines "Spin 1\nto SPIN\nspin\nend\nrepeat 3 [spin go]") ∧
      DefinedBeforeUse {} items
        ["import turtle",
          "# Unknown: Spin 1",
          "",
          "def spin():",
          "    spin()",
          "for _ in range(int(3)):",
          "    spin()",
          "    # Unknown: go",
          "turtle.done()"] :=
  compile_defined_before_use {} "Spin 1\nto SPIN\nspin\nend\nrepeat 3 [spin go]"
    ⟨_, ["spin"]⟩ (by decide +kernel)

end Script

end TurtleLang
