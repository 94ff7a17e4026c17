import TurtleLang.Proofs.DefinitionOrder
import TurtleLang.Proofs.Lines

/-!
The walk over a program, accounted for in full. The executable lines are consumed
in order as items, and what was consumed never changes what the rest is read as.
The walk ends in one of two ways: every line is consumed, or a header that it
reaches has a defect. Which of the two, and with which fault, follows from the
lines alone, so no setting has a say in it. In the first case the output is one
segment for each item between the import and the call of the event loop.
-/
namespace TurtleLang

set_option autoImplicit false

inductive Defect where
  | unnamed
  | repeated (name parameter : String)
  | unclosed (name : String)
  deriving DecidableEq, Repr

def Defect.fault (number : Nat) : Defect → SourceFault
  | .unnamed => .missingName number
  | .repeated name parameter => .duplicateParameter name parameter number
  | .unclosed name => .missingTerminator name number

/-- The defect of a header in front of the lines `rest`. Each one counts only when
those named before it are absent. -/
inductive HasDefect (header : String) (rest : List Line) : Defect → Prop
  | unnamed {keyword : String} : Text.words header = [keyword] → HasDefect header rest .unnamed
  | repeated {keyword word parameter : String} {words before after : List String} :
      Text.words header = keyword :: word :: words →
      words.map Procedure.parameterOf = before ++ parameter :: after →
      before.Nodup → parameter ∈ before →
        HasDefect header rest (.repeated (Text.lower word) parameter)
  | unclosed {keyword word : String} {words : List String} :
      Text.words header = keyword :: word :: words →
      (words.map Procedure.parameterOf).Nodup →
      (∀ line ∈ rest, isTerminator line.text = false) →
        HasDefect header rest (.unclosed (Text.lower word))

def IsDefective (header : String) (rest : List Line) : Prop :=
  (Text.words header).length = 1 ∨
    ¬(((Text.words header).drop 2).map Procedure.parameterOf).Nodup ∨
    ∀ line ∈ rest, isTerminator line.text = false

namespace Procedure

theorem first_repeated_eq_none (seen parameters : List String) :
    firstRepeated seen parameters = none ↔
      parameters.Nodup ∧ ∀ parameter ∈ parameters, parameter ∉ seen := by
  induction parameters generalizing seen with
  | nil => simp [firstRepeated]
  | cons parameter parameters ih =>
      rw [firstRepeated]
      by_cases known : parameter ∈ seen
      · simp [known]
      · rw [if_neg known, ih, List.nodup_cons]
        simp only [List.mem_cons, not_or]
        constructor
        · rintro ⟨distinct, fresh⟩
          refine ⟨⟨fun again => (fresh parameter again).1 rfl, distinct⟩, ?_⟩
          rintro other (rfl | later)
          · exact known
          · exact (fresh other later).2
        · rintro ⟨⟨once, distinct⟩, fresh⟩
          refine ⟨distinct, fun other later => ⟨?_, fresh other (.inr later)⟩⟩
          rintro rfl
          exact once later

theorem first_repeated_eq_some {seen parameters : List String} {parameter : String}
    (found : firstRepeated seen parameters = some parameter) :
    ∃ before after, parameters = before ++ parameter :: after ∧ before.Nodup ∧
      (∀ earlier ∈ before, earlier ∉ seen) ∧ (parameter ∈ before ∨ parameter ∈ seen) := by
  induction parameters generalizing seen with
  | nil => cases found
  | cons first parameters ih =>
      rw [firstRepeated] at found
      split at found
      · next known =>
          cases found
          exact ⟨[], parameters, rfl, List.nodup_nil, by simp, .inr known⟩
      · next fresh =>
          obtain ⟨before, after, rfl, distinct, unseen, again⟩ := ih found
          refine ⟨first :: before, after, rfl, ?_, ?_, ?_⟩
          · rw [List.nodup_cons]
            exact ⟨fun again => unseen first again (by simp), distinct⟩
          · intro earlier member
            rcases List.mem_cons.mp member with rfl | later
            · exact fresh
            · exact fun known => unseen earlier later (by simp [known])
          · rcases again with earlier | known
            · exact .inl (by simp [earlier])
            · rcases List.mem_cons.mp known with rfl | known
              · exact .inl (by simp)
              · exact .inr known

theorem first_repeated_of_split {seen before after : List String} {parameter : String}
    (distinct : before.Nodup) (unseen : ∀ earlier ∈ before, earlier ∉ seen)
    (again : parameter ∈ before ∨ parameter ∈ seen) :
    firstRepeated seen (before ++ parameter :: after) = some parameter := by
  induction before generalizing seen with
  | nil =>
      have known : parameter ∈ seen := by simpa using again
      rw [List.nil_append, firstRepeated, if_pos known]
  | cons first before ih =>
      rw [List.nodup_cons] at distinct
      rw [List.cons_append, firstRepeated, if_neg (unseen first (by simp))]
      apply ih distinct.2
      · intro earlier member known
        rcases List.mem_cons.mp known with rfl | known
        · exact distinct.1 member
        · exact unseen earlier (by simp [member]) known
      · rcases again with member | known
        · rcases List.mem_cons.mp member with rfl | later
          · exact .inr (by simp)
          · exact .inl later
        · exact .inr (by simp [known])

theorem take_body_eq_none (lines : List Line) :
    takeBody lines = none ↔ ∀ line ∈ lines, isTerminator line.text = false := by
  induction lines with
  | nil => simp [takeBody]
  | cons line lines ih =>
      rw [takeBody]
      by_cases closing : isTerminator line.text = true
      · simp [closing]
      · rw [if_neg closing]
        cases taken : takeBody lines with
        | none => simpa [closing] using ih.mp taken
        | some block =>
            have ended : ¬∀ line ∈ lines, isTerminator line.text = false := by
              rw [← ih, taken]
              simp
            simpa [closing] using ended

theorem take_body_of_split {body : List Line} {terminator : Line}
    (inner : ∀ line ∈ body, isTerminator line.text = false)
    (closing : isTerminator terminator.text = true) (rest : List Line) :
    takeBody (body ++ terminator :: rest) = some (body.map Line.text, rest) := by
  induction body with
  | nil => rw [List.nil_append, takeBody, if_pos closing]; rfl
  | cons line body ih =>
      have passed : isTerminator line.text = false := inner line (by simp)
      rw [List.cons_append, takeBody, if_neg (by simp [passed]),
        ih fun other member => inner other (List.mem_cons_of_mem line member)]
      rfl

theorem read_header_unnamed {header : Line} {keyword : String}
    (cut : Text.words header.text = [keyword]) :
    readHeader header = .error (.missingName header.number) := by
  rw [readHeader, cut]
  rfl

theorem read_header_named {header : Line} {keyword word : String} {words : List String}
    (cut : Text.words header.text = keyword :: word :: words) :
    readHeader header =
      match firstRepeated [] (words.map parameterOf) with
      | some parameter => .error (.duplicateParameter (Text.lower word) parameter header.number)
      | none => .ok (Text.lower word, words.map parameterOf) := by
  rw [readHeader, cut]
  rfl

theorem scan_of_defect {header : Line} {rest : List Line} {defect : Defect}
    (wrong : HasDefect header.text rest defect) :
    scan header rest = .error (defect.fault header.number) := by
  cases wrong with
  | unnamed cut => rw [scan, read_header_unnamed cut]; rfl
  | @repeated keyword word parameter words before after cut parameters distinct again =>
      have found : firstRepeated [] (before ++ parameter :: after) = some parameter :=
        first_repeated_of_split distinct (by simp) (.inl again)
      rw [scan, read_header_named cut, parameters, found]
      rfl
  | @unclosed keyword word words cut distinct endless =>
      have none : firstRepeated [] (words.map parameterOf) = none :=
        (first_repeated_eq_none [] _).mpr ⟨distinct, by simp⟩
      rw [scan, read_header_named cut, none]
      dsimp only
      rw [(take_body_eq_none rest).mpr endless]
      rfl

theorem scan_of_sound {header : Line} {rest : List Line} (opening : isHeader header.text = true)
    (sound : ¬IsDefective header.text rest) :
    ∃ procedure after, scan header rest = .ok (procedure, after) := by
  unfold IsDefective at sound
  cases cut : Text.words header.text with
  | nil => simp [isHeader, cut] at opening
  | cons keyword others =>
      cases others with
      | nil => simp [cut] at sound
      | cons word words =>
          rw [cut, List.drop_succ_cons, List.drop_succ_cons, List.drop_zero, not_or, not_or,
            Decidable.not_not, ← take_body_eq_none] at sound
          obtain ⟨_, distinct, closed⟩ := sound
          have fresh : firstRepeated [] (words.map parameterOf) = none :=
            (first_repeated_eq_none [] _).mpr ⟨distinct, by simp⟩
          obtain ⟨block, taken⟩ := Option.ne_none_iff_exists'.mp closed
          rw [scan, read_header_named cut, fresh]
          dsimp only
          rw [taken]
          exact ⟨_, _, rfl⟩

theorem has_defect_of_is_defective {header : String} {rest : List Line}
    (opening : isHeader header = true) (wrong : IsDefective header rest) :
    ∃ defect, HasDefect header rest defect := by
  unfold IsDefective at wrong
  cases cut : Text.words header with
  | nil => simp [isHeader, cut] at opening
  | cons keyword others =>
      cases others with
      | nil => exact ⟨_, .unnamed cut⟩
      | cons word words =>
          rw [cut, List.drop_succ_cons, List.drop_succ_cons, List.drop_zero] at wrong
          cases repeats : firstRepeated [] (words.map parameterOf) with
          | some parameter =>
              obtain ⟨before, after, split, distinct, _, again⟩ := first_repeated_eq_some repeats
              exact ⟨_, .repeated cut split distinct (by simpa using again)⟩
          | none =>
              have distinct := ((first_repeated_eq_none [] _).mp repeats).1
              rcases wrong with single | twice | endless
              · simp at single
              · exact absurd distinct twice
              · exact ⟨_, .unclosed cut distinct endless⟩

end Procedure

theorem read_items_command {line : Line} (plain : isHeader line.text = false) (rest : List Line) :
    readItems (line :: rest) = (.command line :: (readItems rest).1, (readItems rest).2) := by
  rw [readItems, if_neg (by simp [plain])]

theorem read_items_definition {header : Line} {rest after : List Line} {procedure : Procedure}
    (opening : isHeader header.text = true)
    (scanned : Procedure.scan header rest = .ok (procedure, after)) :
    readItems (header :: rest) =
      (.definition header procedure :: (readItems after).1, (readItems after).2) := by
  rw [readItems, if_pos opening]
  split
  · next failed =>
      rw [scanned] at failed
      cases failed
  · next found =>
      rw [scanned] at found
      cases found
      rfl

theorem read_items_defect {header : Line} {rest : List Line} {defect : Defect}
    (opening : isHeader header.text = true) (wrong : HasDefect header.text rest defect) :
    readItems (header :: rest) = ([], some (defect.fault header.number)) := by
  have failing := Procedure.scan_of_defect wrong
  rw [readItems, if_pos opening]
  split
  · next failed =>
      rw [failing] at failed
      cases failed
      rfl
  · next found =>
      rw [failing] at found
      cases found

/-- What has been consumed as items does not change how the rest is read. -/
theorem read_items_append {items : List Item} {consumed : List Line} (spans : Spans items consumed)
    (rest : List Line) :
    readItems (consumed ++ rest) = (items ++ (readItems rest).1, (readItems rest).2) := by
  induction spans with
  | nil => rfl
  | command plain _ ih => rw [List.cons_append, read_items_command plain, ih]; rfl
  | @definition header terminator procedure body after items opening declared texts inner closing
      _ ih =>
      have scanned : Procedure.scan header (body ++ terminator :: (after ++ rest)) =
          .ok (procedure, after ++ rest) := by
        rw [Procedure.scan, declared]
        dsimp only
        rw [Procedure.take_body_of_split inner closing]
        dsimp only
        rw [← texts]
      rw [List.cons_append, List.append_assoc, List.cons_append,
        read_items_definition opening scanned, ih]
      rfl

/-- The walk over the lines comes to the header, with `rest` behind it, after it
has consumed the lines in front as items. -/
def Reaches (lines : List Line) (header : Line) (rest : List Line) : Prop :=
  isHeader header.text = true ∧ ∃ items consumed, Spans items consumed ∧
    lines = consumed ++ header :: rest

theorem read_items_of_reaches {lines rest : List Line} {header : Line} {defect : Defect}
    (reached : Reaches lines header rest) (wrong : HasDefect header.text rest defect) :
    (readItems lines).2 = some (defect.fault header.number) := by
  obtain ⟨opening, items, consumed, spans, rfl⟩ := reached
  rw [read_items_append spans, read_items_defect opening wrong]

/-- The walk consumes every line, or it stops at a header with a defect. -/
theorem read_items_outcome (lines : List Line) :
    ((readItems lines).2 = none ∧ Spans (readItems lines).1 lines) ∨
      ∃ header rest defect, Reaches lines header rest ∧ HasDefect header.text rest defect := by
  fun_induction readItems lines with
  | case1 => exact .inl ⟨rfl, .nil⟩
  | case2 line rest opening fault failed =>
      right
      have wrong : IsDefective line.text rest := by
        apply Classical.byContradiction
        intro sound
        obtain ⟨procedure, after, scanned⟩ := Procedure.scan_of_sound opening sound
        rw [scanned] at failed
        cases failed
      obtain ⟨defect, found⟩ := Procedure.has_defect_of_is_defective opening wrong
      exact ⟨line, rest, defect, ⟨opening, [], [], .nil, rfl⟩, found⟩
  | case3 line rest opening procedure after scanned shorter items fault found ih =>
      obtain ⟨block, rfl, extend⟩ := scan_block opening scanned
      rw [found] at ih
      rcases ih with ⟨none, spans⟩ | ⟨header, behind, defect, reached, wrong⟩
      · exact .inl ⟨none, extend items after spans⟩
      · obtain ⟨opens, earlier, consumed, spans, rfl⟩ := reached
        refine .inr
          ⟨header, behind, defect, ⟨opens, _, _, extend earlier consumed spans, ?_⟩, wrong⟩
        simp
  | case4 line rest plain items fault found ih =>
      have ordinary : isHeader line.text = false := by simpa using plain
      rw [found] at ih
      rcases ih with ⟨none, spans⟩ | ⟨header, behind, defect, reached, wrong⟩
      · exact .inl ⟨none, .command ordinary spans⟩
      · obtain ⟨opens, earlier, consumed, spans, rfl⟩ := reached
        exact .inr ⟨header, behind, defect,
          ⟨opens, _, _, .command ordinary spans, rfl⟩, wrong⟩

theorem read_items_of_spans {items : List Item} {lines : List Line} (spans : Spans items lines) :
    readItems lines = (items, none) := by
  have whole := read_items_append spans []
  rw [List.append_nil, readItems, List.append_nil] at whole
  exact whole

theorem read_header_ok {header : Line} {name : String} {parameters : List String}
    (declared : Procedure.readHeader header = .ok (name, parameters)) :
    ∃ keyword word words, Text.words header.text = keyword :: word :: words ∧
      name = Text.lower word ∧ parameters = words.map Procedure.parameterOf ∧
      parameters.Nodup := by
  obtain ⟨keyword, word, words, cut, named⟩ := read_header_words declared
  rw [Procedure.read_header_named cut] at declared
  split at declared
  · cases declared
  · next fresh =>
      cases declared
      exact ⟨keyword, word, words, cut, rfl, rfl,
        ((Procedure.first_repeated_eq_none [] _).mp fresh).1⟩

theorem definition_declares {items : List Item} {lines : List Line} (spans : Spans items lines)
    {header : Line} {procedure : Procedure} (member : .definition header procedure ∈ items) :
    ∃ keyword word words, Text.words header.text = keyword :: word :: words ∧
      procedure.name = Text.lower word ∧
      procedure.parameters = words.map Procedure.parameterOf ∧ procedure.parameters.Nodup := by
  induction spans with
  | nil => cases member
  | command _ _ ih =>
      rcases List.mem_cons.mp member with here | later
      · cases here
      · exact ih later
  | definition _ declared _ _ _ _ ih =>
      rcases List.mem_cons.mp member with here | later
      · cases here
        exact read_header_ok declared
      · exact ih later

theorem command_executable {items : List Item} {lines : List Line} (spans : Spans items lines)
    {line : Line} (member : .command line ∈ items) : line ∈ lines := by
  induction spans with
  | nil => cases member
  | command _ _ ih =>
      rcases List.mem_cons.mp member with here | later
      · cases here
        simp
      · exact List.mem_cons_of_mem _ (ih later)
  | definition _ _ _ _ _ _ ih =>
      rcases List.mem_cons.mp member with here | later
      · cases here
      · simp [ih later]

namespace Command

end Command

namespace Item

def segment (options : Options) (registry : Registry) : Item → List String
  | .command line =>
      (Command.lineStatements registry options.split 0 line.text).map (Statement.layout options)
  | .definition _ procedure =>
      "" ::
        ("def " ++ procedure.name ++ "(" ++ ", ".intercalate procedure.parameters ++ "):") ::
          (Command.bodyStatements (registry.define procedure) options.split 1
            procedure.body).map (Statement.layout options)

def blockName? : Item → Option String
  | .command _ => none
  | .definition _ procedure => some procedure.name

end Item

def segments (options : Options) (registry : Registry) : List Item → List (List String)
  | [] => []
  | item :: rest => item.segment options registry :: segments options (item.enter registry) rest

theorem layout_top (options : Options) (text : String) :
    Statement.layout options ⟨0, text⟩ = text := by
  rw [Statement.layout, Options.margin, Nat.mul_zero, List.replicate_zero, String.ofList_nil,
    String.empty_append]

def Item.IsLowered (item : Item) : Prop :=
  ∀ header procedure, item = .definition header procedure →
    (Registry.entry procedure) = procedure

theorem spans_lowered {items : List Item} {lines : List Line} (spans : Spans items lines) :
    ∀ item ∈ items, item.IsLowered := by
  rintro item member header procedure rfl
  obtain ⟨_, word, _, _, named, _⟩ := definition_declares spans member
  rw [Registry.entry, named, Text.lower_lower, ← named]

theorem segment_layout (options : Options) (registry : Registry) {item : Item}
    (lowered : item.IsLowered) :
    (item.statements options.split registry).map (Statement.layout options) =
      item.segment options registry := by
  cases item with
  | command line => rfl
  | definition header procedure =>
      rw [Item.statements, lowered header procedure rfl, List.map_cons, List.map_cons, layout_top,
        layout_top]
      rfl

theorem item_statements_layout (options : Options) (registry : Registry) {items : List Item}
    (lowered : ∀ item ∈ items, item.IsLowered) :
    (itemStatements options.split registry items).map (Statement.layout options) =
      (segments options registry items).flatten := by
  induction items generalizing registry with
  | nil => rfl
  | cons item items ih =>
      rw [itemStatements, List.map_append, segment_layout options registry (lowered item (by simp)),
        ih _ fun other member => lowered other (List.mem_cons_of_mem item member)]
      rfl

theorem defined_names_eq {items : List Item} (lowered : ∀ item ∈ items, item.IsLowered) :
    items.filterMap Item.definedName? = items.filterMap Item.blockName? := by
  induction items with
  | nil => rfl
  | cons item items ih =>
      have rest := ih fun other member => lowered other (List.mem_cons_of_mem item member)
      have same : item.definedName? = item.blockName? := by
        cases item with
        | command line => rfl
        | definition header procedure =>
            rw [Item.definedName?, lowered _ (by simp) header procedure rfl]
            rfl
      rw [List.filterMap_cons, List.filterMap_cons, same, rest]

namespace Script

def assembled (options : Options) (items : List Item) : Script where
  lines := "import turtle" :: (segments options Registry.empty items).flatten ++ ["turtle.done()"]
  procedures := items.filterMap Item.blockName?

theorem of_items_assembled (options : Options) {items : List Item}
    (lowered : ∀ item ∈ items, item.IsLowered) :
    ofItems options items = assembled options items := by
  have output : (statements options.split items).map (Statement.layout options) =
      "import turtle" :: (segments options Registry.empty items).flatten ++ ["turtle.done()"] := by
    rw [statements, List.map_append, List.map_cons, item_statements_layout options _ lowered,
      List.map_singleton, layout_top, layout_top]
  rw [ofItems, assembled, output, defined_names_eq lowered]

theorem compile_of_items {source : String} {items : List Item}
    (spans : Spans items (executableLines source)) (options : Options) :
    compile options source = .ok (ofItems options items) := by
  rw [compile, read_items_of_spans spans]

theorem compile_of_spans {source : String} {items : List Item}
    (spans : Spans items (executableLines source)) (options : Options) :
    compile options source = .ok (assembled options items) := by
  rw [compile_of_items spans, of_items_assembled options (spans_lowered spans)]

theorem compile_of_reaches {source : String} {header : Line} {rest : List Line} {defect : Defect}
    (reached : Reaches (executableLines source) header rest)
    (wrong : HasDefect header.text rest defect) (options : Options) :
    compile options source = .error (defect.fault header.number) := by
  have fault := read_items_of_reaches reached wrong
  unfold compile
  split
  · next found =>
      rw [found] at fault
      cases fault
      rfl
  · next found =>
      rw [found] at fault
      cases fault

end Script

namespace Script

theorem compile_outcome (source : String) :
    (∃ items, Spans items (executableLines source) ∧
      ∀ options, compile options source = .ok (assembled options items)) ∨
    ∃ header rest defect, Reaches (executableLines source) header rest ∧
      HasDefect header.text rest defect ∧
      ∀ options, compile options source = .error (defect.fault header.number) := by
  rcases read_items_outcome (executableLines source) with ⟨_, spans⟩ | stopped
  · exact .inl ⟨_, spans, compile_of_spans spans⟩
  · obtain ⟨header, rest, defect, reached, wrong⟩ := stopped
    exact .inr ⟨header, rest, defect, reached, wrong, compile_of_reaches reached wrong⟩

end Script

end TurtleLang
