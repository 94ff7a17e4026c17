import TurtleLang.Proofs.Walk

/-!
Two runs over sources that are alike line by line. A likeness says when two source
texts count as the same and what of an output line is then the same. It owes that
texts that count as the same open and close definitions alike, declare the same,
and are read as commands of the same form, whatever is known. From that the two
walks go through the lines in step: they cut the same blocks, know the same names,
produce lines of the same form, or stop at the same header for the same reason.

What a line is read as depends on the names and parameters that are known and not
on the bodies that go with them; the bodies of two sources that are alike differ.
-/
namespace TurtleLang

set_option autoImplicit false

/-- The procedure as far as a call can tell: without its body. -/
def Procedure.bare (procedure : Procedure) : Procedure :=
  { procedure with body := [] }

namespace Registry

def bare (registry : Registry) : Registry :=
  ⟨registry.procedures.map Procedure.bare⟩

theorem lookup_bare (registry : Registry) (name : String) :
    registry.bare.lookup name = (registry.lookup name).map Procedure.bare := by
  rw [lookup, lookup, bare, List.find?_map]
  rfl

theorem contains_bare (registry : Registry) (name : String) :
    registry.bare.contains name = registry.contains name := by
  rw [contains, contains, lookup_bare, Option.isSome_map]

theorem place_bare (procedure : Procedure) (known : List Procedure) :
    (place procedure known).map Procedure.bare =
      place procedure.bare (known.map Procedure.bare) := by
  induction known with
  | nil => rfl
  | cons first known ih =>
      have names : first.bare.name = procedure.bare.name ↔ first.name = procedure.name := Iff.rfl
      rw [place, List.map_cons, place]
      by_cases same : first.name = procedure.name
      · rw [if_pos same, if_pos (names.mpr same), List.map_cons]
      · rw [if_neg same, if_neg fun bareSame => same (names.mp bareSame), List.map_cons, ih]

theorem bare_define (registry : Registry) (procedure : Procedure) :
    (registry.define procedure).bare = registry.bare.define procedure.bare := by
  rw [define, define, bare, bare, place_bare]
  rfl

end Registry

namespace Command

theorem starts_command_bare (registry : Registry) (word : String) :
    startsCommand registry.bare word = startsCommand registry word := by
  rw [startsCommand, startsCommand, Registry.contains_bare]

theorem take_unknown_bare (registry : Registry) (tokens : List Token) :
    takeUnknown registry.bare tokens = takeUnknown registry tokens := by
  fun_induction takeUnknown registry tokens with
  | case1 word rest claimed =>
      rw [takeUnknown, starts_command_bare, if_pos claimed]
  | case2 word rest unclaimed texts after taken ih =>
      rw [takeUnknown, starts_command_bare, if_neg unclaimed, ih, taken]
  | case3 rest texts after taken ih => rw [takeUnknown, ih, taken]
  | case4 tokens noWord noGroup => rw [takeUnknown.eq_3 _ _ noWord noGroup]

/-- A block is read alike with and without the bodies. -/
theorem reads_bare {registry : Registry} {nested : Bool} {tokens left : List Token}
    {commands : List Command} (reads : Reads registry nested tokens commands left) :
    Reads registry.bare nested tokens commands left := by
  induction reads with
  | done nested => exact .done nested
  | close rest => exact .close rest
  | stray _ ih => exact .stray ih
  | group grouped _ ih => exact .group grouped ih
  | loopBlock opens _ _ bodyIh ih => exact .loopBlock opens bodyIh ih
  | loopBare opens bare _ ih => exact .loopBare opens bare ih
  | loopAlone opens alone _ ih => exact .loopAlone opens alone ih
  | primitive plain named taken _ ih => exact .primitive plain named taken ih
  | @call nested word rest after left procedure inputs more plain unnamed known taken _ ih =>
      have knownBare : registry.bare.lookup (Text.lower word) = some procedure.bare := by
        rw [Registry.lookup_bare, known, Option.map_some]
      exact .call plain unnamed knownBare taken ih
  | unknown plain unnamed unknown taken _ ih =>
      rw [← take_unknown_bare] at taken
      exact .unknown plain unnamed (by rw [Registry.lookup_bare, unknown, Option.map_none]) taken ih

theorem read_all_bare (registry : Registry) (tokens : List Token) :
    readAll registry.bare tokens = readAll registry tokens := by
  have reads := reads_read_commands registry false tokens
  rw [readAll, read_commands_of_reads (reads_bare reads)]
  rfl

theorem read_plain_bare (registry : Registry) (line first : String) (rest : List String) :
    readPlain registry.bare line first rest = readPlain registry line first rest := by
  unfold readPlain
  dsimp only
  rw [Registry.contains_bare]

theorem read_word_bare (registry : Registry) (word : String) :
    readWord registry.bare word = readWord registry word := by
  rw [readWord, readWord, read_plain_bare]

theorem read_by_word_bare (registry : Registry) (line : String) (words : List String) :
    readByWord registry.bare line words = readByWord registry line words := by
  have same : readWord registry.bare = readWord registry := funext (read_word_bare registry)
  cases words with
  | nil => rfl
  | cons count block => rw [readByWord, readByWord, same]

theorem read_line_bare (registry : Registry) (policy : SplitPolicy) (line : String) :
    readLine registry.bare policy line = readLine registry policy line := by
  unfold readLine
  simp only [read_all_bare, read_by_word_bare, read_plain_bare]

end Command

namespace Procedure

def heading (header : String) : Option (String × List String) :=
  match (Text.words header).drop 1 with
  | [] => none
  | name :: words => some (Text.lower name, words.map parameterOf)

theorem heading_eq_some {header name : String} {parameters : List String} :
    heading header = some (name, parameters) ↔
      ∃ keyword word words, Text.words header = keyword :: word :: words ∧
        name = Text.lower word ∧ parameters = words.map parameterOf := by
  unfold heading
  rcases Text.words header with _ | ⟨keyword, _ | ⟨word, words⟩⟩
  · simp
  · simp
  · constructor
    · intro given
      cases given
      exact ⟨keyword, word, words, rfl, rfl, rfl⟩
    · rintro ⟨_, _, _, cut, rfl, rfl⟩
      cases cut
      rfl

theorem heading_eq_none {header : String} (opening : isHeader header = true) :
    heading header = none ↔ ∃ keyword, Text.words header = [keyword] := by
  unfold isHeader at opening
  unfold heading
  rcases cut : Text.words header with _ | ⟨keyword, _ | ⟨word, words⟩⟩
  · rw [cut] at opening
    cases opening
  · simp
  · simp

theorem read_header_eq_ok {header : Line} {name : String} {parameters : List String} :
    readHeader header = .ok (name, parameters) ↔
      heading header.text = some (name, parameters) ∧ parameters.Nodup := by
  rw [heading_eq_some]
  constructor
  · intro declared
    obtain ⟨keyword, word, words, cut, named, listed, distinct⟩ := read_header_ok declared
    exact ⟨⟨keyword, word, words, cut, named, listed⟩, distinct⟩
  · rintro ⟨⟨keyword, word, words, cut, rfl, rfl⟩, distinct⟩
    have fresh : firstRepeated [] (words.map parameterOf) = none :=
      (first_repeated_eq_none [] _).mpr ⟨distinct, by simp⟩
    rw [read_header_named cut, fresh]

end Procedure

/-- When two source texts count as the same, and what of a phrase is then the same. -/
structure Likeness (Key Form : Type) where
  key : String → Key
  form : Phrase → Form
  effective : ∀ phrase other, form phrase = form other → phrase.isEffective = other.isEffective
  header : ∀ text other, key text = key other → isHeader text = isHeader other
  terminator : ∀ text other, key text = key other → isTerminator text = isTerminator other
  heading : ∀ text other, key text = key other → Procedure.heading text = Procedure.heading other
  reading : ∀ registry policy text other, key text = key other →
    Outline.mapOf form (Command.outlinesOf (Command.readLine registry policy text)) =
      Outline.mapOf form (Command.outlinesOf (Command.readLine registry policy other))

namespace Likeness

variable {Key Form : Type} (likeness : Likeness Key Form)

def lineKey (line : Line) : Key :=
  likeness.key line.text

/-- What of an item counts: the key of a command line, or what a block declares
with the keys of its body. -/
def outlook : Item → Key ⊕ (String × List String × List Key)
  | .command line => .inl (likeness.lineKey line)
  | .definition _ procedure =>
      .inr (procedure.name, procedure.parameters, procedure.body.map likeness.key)

theorem endless {rest others : List Line}
    (same : rest.map likeness.lineKey = others.map likeness.lineKey)
    (endless : ∀ line ∈ rest, isTerminator line.text = false) :
    ∀ line ∈ others, isTerminator line.text = false := by
  intro line member
  have listed : likeness.lineKey line ∈ rest.map likeness.lineKey := by
    rw [same]
    exact List.mem_map_of_mem member
  obtain ⟨original, present, keyed⟩ := List.mem_map.mp listed
  rw [← likeness.terminator _ _ keyed]
  exact endless original present

/-- Two headers that are alike, in front of lines that are alike, have the same defect. -/
theorem has_defect {header other : String} {rest others : List Line} {defect : Defect}
    (opening : isHeader header = true) (sameHeader : likeness.key header = likeness.key other)
    (sameRest : rest.map likeness.lineKey = others.map likeness.lineKey)
    (wrong : HasDefect header rest defect) : HasDefect other others defect := by
  have headings := likeness.heading _ _ sameHeader
  have otherOpening := (likeness.header _ _ sameHeader).symm.trans opening
  cases wrong with
  | @unnamed keyword cut =>
      rw [(Procedure.heading_eq_none opening).mpr ⟨keyword, cut⟩] at headings
      obtain ⟨otherKeyword, otherCut⟩ := (Procedure.heading_eq_none otherOpening).mp headings.symm
      exact .unnamed otherCut
  | @repeated keyword word parameter words before after cut split distinct again =>
      rw [Procedure.heading_eq_some.mpr ⟨keyword, word, words, cut, rfl, rfl⟩] at headings
      obtain ⟨_, _, _, otherCut, named, listed⟩ := Procedure.heading_eq_some.mp headings.symm
      rw [named]
      exact .repeated otherCut (listed ▸ split) distinct again
  | @unclosed keyword word words cut distinct endless =>
      rw [Procedure.heading_eq_some.mpr ⟨keyword, word, words, cut, rfl, rfl⟩] at headings
      obtain ⟨_, _, _, otherCut, named, listed⟩ := Procedure.heading_eq_some.mp headings.symm
      rw [named]
      exact .unclosed otherCut (listed ▸ distinct) (likeness.endless sameRest endless)

/-- Lines that are alike are cut into items that are alike. -/
theorem spans {items : List Item} {lines others : List Line} (spans : Spans items lines)
    (same : lines.map likeness.lineKey = others.map likeness.lineKey) :
    ∃ otherItems, Spans otherItems others ∧
      items.map likeness.outlook = otherItems.map likeness.outlook := by
  induction spans generalizing others with
  | nil =>
      rw [List.map_nil, eq_comm, List.map_eq_nil_iff] at same
      subst same
      exact ⟨[], .nil, rfl⟩
  | @command line items rest plain _ ih =>
      rw [List.map_cons, eq_comm, List.map_eq_cons_iff] at same
      obtain ⟨other, otherRest, rfl, keyed, restSame⟩ := same
      obtain ⟨otherItems, otherSpans, looks⟩ := ih restSame.symm
      have otherPlain : isHeader other.text = false := by
        rw [likeness.header _ _ keyed]
        exact plain
      refine ⟨.command other :: otherItems, .command otherPlain otherSpans, ?_⟩
      rw [List.map_cons, List.map_cons, looks, outlook, outlook, keyed]
  | @definition header terminator procedure body rest items opening declared texts inner closing
      _ ih =>
      rw [List.map_cons, List.map_append, List.map_cons, eq_comm, List.map_eq_cons_iff] at same
      obtain ⟨otherHeader, behind, rfl, headerKeyed, behindSame⟩ := same
      obtain ⟨otherBody, tail, rfl, bodySame, tailSame⟩ := List.map_eq_append_iff.mp behindSame
      obtain ⟨otherTerminator, otherRest, rfl, terminatorKeyed, restSame⟩ :=
        List.map_eq_cons_iff.mp tailSame
      obtain ⟨otherItems, otherSpans, looks⟩ := ih restSame.symm
      obtain ⟨given, distinct⟩ := Procedure.read_header_eq_ok.mp declared
      rw [← likeness.heading _ _ headerKeyed] at given
      refine ⟨.definition otherHeader ⟨procedure.name, procedure.parameters,
        otherBody.map Line.text⟩ :: otherItems, .definition ?_ ?_ rfl ?_ ?_ otherSpans, ?_⟩
      · rw [likeness.header _ _ headerKeyed]
        exact opening
      · exact Procedure.read_header_eq_ok.mpr ⟨given, distinct⟩
      · exact likeness.endless bodySame.symm inner
      · rw [likeness.terminator _ _ terminatorKeyed]
        exact closing
      · have bodies : procedure.body.map likeness.key =
            (otherBody.map Line.text).map likeness.key := by
          rw [texts, List.map_map, List.map_map]
          exact bodySame.symm
        rw [List.map_cons, List.map_cons, looks, outlook, outlook, bodies]

theorem reaches {lines others rest : List Line} {header : Line}
    (same : lines.map likeness.lineKey = others.map likeness.lineKey)
    (reached : Reaches lines header rest) :
    ∃ (index : Nat) (otherHeader : Line) (otherRest : List Line),
      Reaches others otherHeader otherRest ∧
      lines[index]? = some header ∧ others[index]? = some otherHeader ∧
      likeness.lineKey header = likeness.lineKey otherHeader ∧
      rest.map likeness.lineKey = otherRest.map likeness.lineKey := by
  obtain ⟨opening, items, consumed, consumedSpans, rfl⟩ := reached
  rw [List.map_append, List.map_cons, eq_comm] at same
  obtain ⟨otherConsumed, tail, rfl, consumedSame, tailSame⟩ := List.map_eq_append_iff.mp same
  obtain ⟨otherHeader, otherRest, rfl, headerKeyed, restSame⟩ := List.map_eq_cons_iff.mp tailSame
  obtain ⟨otherItems, otherSpans, _⟩ := likeness.spans consumedSpans consumedSame.symm
  have otherOpening : isHeader otherHeader.text = true := by
    rw [likeness.header _ _ headerKeyed]
    exact opening
  have sameLength : otherConsumed.length = consumed.length := by
    simpa using congrArg List.length consumedSame
  refine ⟨consumed.length, otherHeader, otherRest,
    ⟨otherOpening, otherItems, otherConsumed, otherSpans, rfl⟩, ?_, ?_, headerKeyed.symm,
    restSame.symm⟩
  · simp
  · simp [← sameLength]

end Likeness

namespace Outline

variable {Label Other : Type}

theorem map_of_eq_map (change : Label → Other) (forest : List (Outline Label)) :
    mapOf change forest = forest.map (map change) := by
  induction forest with
  | nil => rfl
  | cons first rest ih => rw [mapOf, List.map_cons, ih]

theorem map_of_append (change : Label → Other) (left right : List (Outline Label)) :
    mapOf change (left ++ right) = mapOf change left ++ mapOf change right := by
  rw [map_of_eq_map, map_of_eq_map, map_of_eq_map, List.map_append]

theorem label_map (change : Label → Other) (outline : Outline Label) :
    (map change outline).label = change outline.label := by
  cases outline
  rfl

theorem rows_of_map_of_members {change : Label → Other} {forest : List (Outline Label)}
    (members : ∀ child ∈ forest, ∀ depth, rows depth (map change child) =
      (rows depth child).map fun row => (row.1, change row.2)) (depth : Nat) :
    rowsOf depth (mapOf change forest) =
      (rowsOf depth forest).map fun row => (row.1, change row.2) := by
  induction forest with
  | nil => rfl
  | cons first rest ih =>
      rw [mapOf, rowsOf, rowsOf, List.map_append, members first (by simp) depth,
        ih fun child present => members child (List.mem_cons_of_mem first present)]

theorem rows_map (change : Label → Other) (outline : Outline Label) :
    ∀ depth, rows depth (map change outline) =
      (rows depth outline).map fun row => (row.1, change row.2) := by
  induction outline using outline_induction with
  | node label inside ih =>
      intro depth
      rw [map, rows, rows, List.map_cons, rows_of_map_of_members ih]

theorem rows_of_map (change : Label → Other) (forest : List (Outline Label)) (depth : Nat) :
    rowsOf depth (mapOf change forest) =
      (rowsOf depth forest).map fun row => (row.1, change row.2) :=
  rows_of_map_of_members (fun child _ => rows_map change child) depth

end Outline

namespace Likeness

variable {Key Form : Type} (likeness : Likeness Key Form)

theorem any_effective {forest others : List (Outline Phrase)}
    (same : Outline.mapOf likeness.form forest = Outline.mapOf likeness.form others) :
    forest.any (fun child => child.label.isEffective) =
      others.any fun child => child.label.isEffective := by
  rw [Outline.map_of_eq_map, Outline.map_of_eq_map] at same
  induction forest generalizing others with
  | nil =>
      rw [List.map_nil, eq_comm, List.map_eq_nil_iff] at same
      rw [same]
  | cons first rest ih =>
      rw [List.map_cons, eq_comm, List.map_eq_cons_iff] at same
      obtain ⟨other, otherRest, rfl, firstSame, restSame⟩ := same
      have labels := congrArg Outline.label firstSame
      rw [Outline.label_map, Outline.label_map] at labels
      rw [List.any_cons, List.any_cons, ih restSame.symm, likeness.effective _ _ labels]

theorem fill_block_form {forest others : List (Outline Phrase)}
    (same : Outline.mapOf likeness.form forest = Outline.mapOf likeness.form others) :
    Outline.mapOf likeness.form (fillBlock forest) =
      Outline.mapOf likeness.form (fillBlock others) := by
  unfold fillBlock
  rw [likeness.any_effective same]
  split
  · exact same
  · rw [Outline.map_of_append, Outline.map_of_append, same]

theorem line_form {registry other : Registry} (known : registry.bare = other.bare)
    (policy : SplitPolicy) {text otherText : String}
    (keyed : likeness.key text = likeness.key otherText) :
    Outline.mapOf likeness.form (Command.outlinesOf (Command.readLine registry policy text)) =
      Outline.mapOf likeness.form
        (Command.outlinesOf (Command.readLine other policy otherText)) := by
  rw [← Command.read_line_bare registry, ← Command.read_line_bare other, known]
  exact likeness.reading _ policy _ _ keyed

theorem body_form {registry other : Registry} (known : registry.bare = other.bare)
    (policy : SplitPolicy) {body otherBody : List String}
    (keyed : body.map likeness.key = otherBody.map likeness.key) :
    Outline.mapOf likeness.form
        (Command.outlinesOf (body.flatMap (Command.readLine registry policy))) =
      Outline.mapOf likeness.form
        (Command.outlinesOf (otherBody.flatMap (Command.readLine other policy))) := by
  induction body generalizing otherBody with
  | nil =>
      rw [List.map_nil, eq_comm, List.map_eq_nil_iff] at keyed
      rw [keyed, List.flatMap_nil, List.flatMap_nil]
  | cons text body ih =>
      rw [List.map_cons, eq_comm, List.map_eq_cons_iff] at keyed
      obtain ⟨otherText, otherRest, rfl, textKeyed, restKeyed⟩ := keyed
      rw [List.flatMap_cons, List.flatMap_cons, Command.outlines_of_append,
        Command.outlines_of_append, Outline.map_of_append, Outline.map_of_append,
        likeness.line_form known policy textKeyed.symm, ih restKeyed.symm]

/-- Items that are alike, met with the same names known, leave the same names known
and have outlines of the same form. -/
theorem item_form {registry other : Registry} (known : registry.bare = other.bare)
    (policy : SplitPolicy) {item otherItem : Item}
    (looks : likeness.outlook item = likeness.outlook otherItem) :
    (item.enter registry).bare = (otherItem.enter other).bare ∧
      Outline.mapOf likeness.form (item.forest policy registry) =
        Outline.mapOf likeness.form (otherItem.forest policy other) := by
  cases item with
  | command line =>
      cases otherItem with
      | command otherLine =>
          exact ⟨known, likeness.line_form known policy (Sum.inl.inj looks)⟩
      | definition _ _ => cases looks
  | definition header procedure =>
      cases otherItem with
      | command _ => cases looks
      | definition otherHeader otherProcedure =>
          have declared := Sum.inr.inj looks
          simp only [Prod.mk.injEq] at declared
          obtain ⟨names, parameters, bodies⟩ := declared
          have entered : (registry.define procedure).bare = (other.define otherProcedure).bare := by
            rw [Registry.bare_define, Registry.bare_define, known, Procedure.bare, Procedure.bare,
              names, parameters]
          have inside := likeness.fill_block_form (likeness.body_form entered policy bodies)
          refine ⟨entered, ?_⟩
          simp only [Item.forest, Registry.entry, Outline.mapOf, Outline.map, names, parameters,
            inside]

theorem items_form {registry other : Registry} (known : registry.bare = other.bare)
    (policy : SplitPolicy) {items others : List Item}
    (looks : items.map likeness.outlook = others.map likeness.outlook) :
    Outline.mapOf likeness.form (itemForest policy registry items) =
      Outline.mapOf likeness.form (itemForest policy other others) := by
  induction items generalizing registry other others with
  | nil =>
      rw [List.map_nil, eq_comm, List.map_eq_nil_iff] at looks
      rw [looks, itemForest, itemForest]
  | cons item items ih =>
      rw [List.map_cons, eq_comm, List.map_eq_cons_iff] at looks
      obtain ⟨otherItem, otherItems, rfl, itemLooks, restLooks⟩ := looks
      obtain ⟨entered, form⟩ := likeness.item_form known policy itemLooks.symm
      rw [itemForest, itemForest, Outline.map_of_append, Outline.map_of_append, form,
        ih entered restLooks.symm]

theorem defined_names {items others : List Item}
    (looks : items.map likeness.outlook = others.map likeness.outlook) :
    items.filterMap Item.definedName? = others.filterMap Item.definedName? := by
  have shown : Item.definedName? = (fun look => look.getRight?.map fun declared =>
      Text.lower declared.1) ∘ likeness.outlook := by
    funext item
    cases item <;> rfl
  rw [shown, ← List.filterMap_map, ← List.filterMap_map, looks]

theorem program_form (policy : SplitPolicy) {items others : List Item}
    (looks : items.map likeness.outlook = others.map likeness.outlook) :
    (Outline.rowsOf 0 (Script.forest policy items)).map (fun row => (row.1, likeness.form row.2)) =
      (Outline.rowsOf 0 (Script.forest policy others)).map
        fun row => (row.1, likeness.form row.2) := by
  have known : Registry.empty.bare = Registry.empty.bare := rfl
  have forms := likeness.items_form known policy looks
  rw [← Outline.rows_of_map, ← Outline.rows_of_map]
  simp only [Script.forest, Outline.map_of_append, Outline.mapOf, forms]

inductive Together (source other : String) : Prop
  /-- Both succeed, with the same procedures and lines of the same form. -/
  | compiled {items others : List Item} :
      (∀ options, Script.compile options source = .ok (Script.ofItems options items)) →
      (∀ options, Script.compile options other = .ok (Script.ofItems options others)) →
      items.filterMap Item.definedName? = others.filterMap Item.definedName? →
      (∀ policy, (Outline.rowsOf 0 (Script.forest policy items)).map
          (fun row => (row.1, likeness.form row.2)) =
        (Outline.rowsOf 0 (Script.forest policy others)).map
          fun row => (row.1, likeness.form row.2)) →
        Together source other
  /-- Both stop at the header with the same place among the executable lines, for
  the same reason. -/
  | stopped {index : Nat} {header otherHeader : Line} {defect : Defect} :
      (executableLines source)[index]? = some header →
      (executableLines other)[index]? = some otherHeader →
      isHeader header.text = true → isHeader otherHeader.text = true →
      (∀ options, Script.compile options source = .error (defect.fault header.number)) →
      (∀ options, Script.compile options other = .error (defect.fault otherHeader.number)) →
        Together source other

theorem compile_together {source other : String}
    (same : (executableLines source).map likeness.lineKey =
      (executableLines other).map likeness.lineKey) : likeness.Together source other := by
  rcases Script.compile_outcome source with ⟨items, spans, _⟩ | stopped
  · obtain ⟨others, otherSpans, looks⟩ := likeness.spans spans same
    exact .compiled (Script.compile_of_items spans) (Script.compile_of_items otherSpans)
      (likeness.defined_names looks) (likeness.program_form · looks)
  · obtain ⟨header, rest, defect, reached, wrong, failed⟩ := stopped
    obtain ⟨index, otherHeader, otherRest, otherReached, found, otherFound, keyed, restSame⟩ :=
      likeness.reaches same reached
    have otherWrong := likeness.has_defect reached.1 keyed restSame wrong
    exact .stopped found otherFound reached.1 otherReached.1 failed
      (Script.compile_of_reaches otherReached otherWrong)

end Likeness

end TurtleLang
