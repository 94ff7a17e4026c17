import TurtleLang.Proofs.Echo
import TurtleLang.Proofs.Sequence

/-!
Where the two split policies agree. They cut a loop line in different ways: one joins
the words of the line, takes a bracket off at each end and cuts again, the other reads
the tokens command by command. When the block holds nothing but commands without
inputs, both find the same words in it and read each of them alone, however the words
and brackets are spaced. On a line that opens no loop the policy is not looked at. So a
program whose loop lines are all of that kind, with the procedures known where each of
them stands, has one translation under both policies, or one fault.
-/
namespace TurtleLang.Text

set_option autoImplicit false

theorem words_gap {gap : String} (blank : AllBlank gap.toList) (filled : gap ≠ "")
    (left right : String) : words (left ++ gap ++ right) = words left ++ words right := by
  have ends : ∀ character ∈ (gap.toList ++ right.toList).head?, isBlank character = true := by
    intro character first
    cases spelled : gap.toList with
    | nil => exact absurd (by simpa using spelled) filled
    | cons other others =>
        rw [spelled] at first
        cases first
        exact blank character (by simp [spelled])
  rw [words, words, words, String.toList_append, String.toList_append, List.append_assoc,
    words_from_append _ _ ends, words_from_blank_front blank, List.map_append]

theorem words_margins {front back : String} (frontBlank : AllBlank front.toList)
    (backBlank : AllBlank back.toList) (text : String) :
    words (front ++ text ++ back) = words text := by
  rw [words, words, String.toList_append, String.toList_append, words_from_blank_back backBlank,
    words_from_blank_front frontBlank]

theorem words_intercalate {parts : List String} (solid : ∀ part ∈ parts, IsSolid part) :
    words (" ".intercalate parts) = parts := by
  induction parts with
  | nil => rfl
  | cons first rest ih =>
      have firstCut := words_of_solid (solid first (by simp))
      have restCut := ih fun part member => solid part (List.mem_cons_of_mem first member)
      cases rest with
      | nil => simpa using firstCut
      | cons second rest =>
          have space : AllBlank " ".toList := by decide
          rw [String.intercalate_cons_cons, words_gap space (by decide), firstCut, restCut]
          rfl

/-- What a begun word takes off the characters is the word they would start with, if
they would start with one. -/
theorem words_from_front (characters : List Char) :
    ∃ front rest, wordsFrom [] characters = finishWord front.reverse ++ rest ∧
      ∀ pending ≠ [], wordsFrom pending characters = (pending.reverse ++ front) :: rest := by
  induction characters with
  | nil =>
      refine ⟨[], [], rfl, fun pending begun => ?_⟩
      simp [wordsFrom, finishWord, begun]
  | cons character characters ih =>
      by_cases blank : isBlank character = true
      · refine ⟨[], wordsFrom [] characters, words_from_blank blank [] characters, ?_⟩
        intro pending begun
        rw [words_from_blank blank]
        simp [finishWord, begun]
      · obtain ⟨front, rest, _, later⟩ := ih
        refine ⟨character :: front, rest, ?_, fun pending _ => ?_⟩
        · rw [wordsFrom, if_neg blank, later [character] (by simp)]
          simp [finishWord]
        · rw [wordsFrom, if_neg blank, later (character :: pending) (by simp)]
          simp

/-- A solid character at the end belongs to the word before it, if one ends there. -/
theorem words_from_back {last : Char} (solid : isBlank last = false)
    (characters pending : List Char) :
    ∃ others back, wordsFrom pending characters = others ++ finishWord back.reverse ∧
      wordsFrom pending (characters ++ [last]) = others ++ [back ++ [last]] := by
  induction characters generalizing pending with
  | nil =>
      refine ⟨[], pending.reverse, ?_, ?_⟩
      · rw [List.reverse_reverse]
        rfl
      · rw [List.nil_append, wordsFrom, if_neg (by simp [solid])]
        simp [wordsFrom, finishWord]
  | cons character characters ih =>
      rw [List.cons_append, wordsFrom, wordsFrom]
      by_cases blank : isBlank character = true
      · obtain ⟨others, back, shorter, longer⟩ := ih []
        refine ⟨finishWord pending ++ others, back, ?_, ?_⟩
        · rw [if_pos blank, shorter, List.append_assoc]
        · rw [if_pos blank, longer, List.append_assoc]
      · rw [if_neg blank, if_neg blank]
        exact ih (character :: pending)

theorem words_from_cancel_front {first : Char} (solid : isBlank first = false)
    {characters others : List Char}
    (same : wordsFrom [] (first :: characters) = wordsFrom [] (first :: others)) :
    wordsFrom [] characters = wordsFrom [] others := by
  obtain ⟨front, rest, cut, begun⟩ := words_from_front characters
  obtain ⟨otherFront, otherRest, otherCut, otherBegun⟩ := words_from_front others
  rw [wordsFrom, if_neg (by simp [solid]), begun [first] (by simp), wordsFrom,
    if_neg (by simp [solid]), otherBegun [first] (by simp)] at same
  obtain ⟨fronts, rests⟩ := List.cons.inj same
  rw [cut, otherCut, List.append_cancel_left fronts, rests]

theorem words_from_cancel_back {last : Char} (solid : isBlank last = false)
    {characters others : List Char}
    (same : wordsFrom [] (characters ++ [last]) = wordsFrom [] (others ++ [last])) :
    wordsFrom [] characters = wordsFrom [] others := by
  obtain ⟨front, back, cut, closed⟩ := words_from_back solid characters []
  obtain ⟨otherFront, otherBack, otherCut, otherClosed⟩ := words_from_back solid others []
  rw [closed, otherClosed] at same
  obtain ⟨fronts, backs⟩ := List.append_inj' same rfl
  rw [cut, otherCut, fronts, List.append_cancel_right (List.singleton_inj.mp backs)]

theorem intercalate_front (separator first : String) (rest : List String) :
    ∃ tail, separator.intercalate (first :: rest) = first ++ tail := by
  by_cases none : rest = []
  · exact ⟨"", by simp [none]⟩
  · exact ⟨separator ++ separator.intercalate rest,
      by rw [String.intercalate_cons_of_ne_nil none, String.append_assoc]⟩

theorem intercalate_back (separator last : String) (others : List String) :
    ∃ front, separator.intercalate (others ++ [last]) = front ++ last := by
  by_cases none : others = []
  · exact ⟨"", by simp [none]⟩
  · exact ⟨separator.intercalate others ++ separator,
      by rw [String.intercalate_append_of_ne_nil none (by simp), String.intercalate_singleton]⟩

theorem joined_enclosed (inside : List Char) :
    ∃ middle, (" ".intercalate ((wordsFrom [] ('[' :: (inside ++ [']']))).map
      String.ofList)).toList = '[' :: (middle ++ [']']) := by
  have closing : isBlank ']' = false := rfl
  have opened : wordsFrom [] ('[' :: (inside ++ [']'])) = wordsFrom ['['] (inside ++ [']']) := rfl
  obtain ⟨front, rest, _, begun⟩ := words_from_front (inside ++ [']'])
  obtain ⟨others, back, _, closed⟩ := words_from_back closing ('[' :: inside) []
  rw [List.cons_append] at closed
  have starts : ∃ tail, (" ".intercalate ((wordsFrom [] ('[' :: (inside ++ [']']))).map
      String.ofList)).toList = '[' :: tail := by
    rw [opened, begun ['['] (by simp), List.map_cons]
    obtain ⟨tail, joined⟩ :=
      intercalate_front " " (String.ofList (['['].reverse ++ front)) (rest.map String.ofList)
    rw [joined]
    exact ⟨front ++ tail.toList, by simp⟩
  have ends : ∃ lead, (" ".intercalate ((wordsFrom [] ('[' :: (inside ++ [']']))).map
      String.ofList)).toList = lead ++ [']'] := by
    rw [closed, List.map_append, List.map_singleton]
    obtain ⟨lead, joined⟩ :=
      intercalate_back " " (String.ofList (back ++ [']'])) (others.map String.ofList)
    rw [joined]
    exact ⟨lead.toList ++ back, by simp⟩
  obtain ⟨tail, starts⟩ := starts
  obtain ⟨lead, ends⟩ := ends
  rw [starts] at ends ⊢
  cases lead with
  | nil => cases ends
  | cons first middle =>
      rw [List.cons_append] at ends
      exact ⟨middle, by rw [(List.cons.inj ends).2]⟩

end TurtleLang.Text

namespace TurtleLang.Command

set_option autoImplicit false

open Text (AllBlank BracketFree)

theorem drop_closing_append (characters : List Char) :
    dropClosing (characters ++ [']']) = characters := by
  simp [dropClosing]

/-- The words of a block are those between its brackets, whether the brackets stand
apart from the words or not. -/
theorem block_words_enclosed (inside : String) :
    blockWords (Text.words ("[" ++ inside ++ "]")) = Text.words inside := by
  have spelled : ("[" ++ inside ++ "]").toList = '[' :: (inside.toList ++ [']']) := by simp
  have solid : ∀ part ∈ Text.words ("[" ++ inside ++ "]"), Text.IsSolid part :=
    fun part member => Text.words_solid member
  have again := Text.words_intercalate solid
  obtain ⟨middle, joined⟩ := Text.joined_enclosed inside.toList
  rw [← spelled, ← Text.words] at joined
  have same : Text.wordsFrom [] ('[' :: (middle ++ [']'])) =
      Text.wordsFrom [] ('[' :: (inside.toList ++ [']'])) := by
    rw [Text.words, joined, Text.words, spelled] at again
    exact (List.map_inj_right fun _ _ => String.ofList_injective).mp again
  have inner : Text.wordsFrom [] middle = Text.wordsFrom [] inside.toList :=
    Text.words_from_cancel_back rfl (Text.words_from_cancel_front rfl same)
  rw [blockWords, joined, dropOpening, drop_closing_append, Text.words, String.toList_ofList, inner,
    Text.words]

/-- A word that names a built-in operation without inputs or, where no operation has
that name, a procedure without parameters. -/
inductive Inputless (registry : Registry) (word : String) : Prop
  | primitive {operation : Primitive} : Text.lower word ≠ loopWord →
      Primitive.ofName? (Text.lower word) = some operation → operation.arity = 0 →
        Inputless registry word
  | call {procedure : Procedure} : Text.lower word ≠ loopWord →
      Primitive.ofName? (Text.lower word) = none →
      registry.lookup (Text.lower word) = some procedure → procedure.parameters = [] →
        Inputless registry word

/-- A loop line whose block stands apart from the count and holds only words that are
commands without inputs, with any blanks between them and inside the brackets. -/
inductive InputlessLoop (registry : Registry) : String → Prop
  | intro {before keyword gap count space inside after : String} :
      AllBlank before.toList → Token.IsWord keyword → Text.lower keyword = loopWord →
      AllBlank gap.toList → gap ≠ "" → Token.IsWord count →
      AllBlank space.toList → space ≠ "" → BracketFree inside →
      (∀ word ∈ Text.words inside, Inputless registry word) → AllBlank after.toList →
        InputlessLoop registry
          (before ++ (keyword ++ gap ++ (count ++ space ++ ("[" ++ inside ++ "]"))) ++ after)

def OpensLoop (line : String) : Prop :=
  ∃ first rest, Text.words line = first :: rest ∧ Text.lower first = loopWord

variable {registry : Registry}

theorem arity_exact_of_inputless {word : String} (solid : Token.IsWord word)
    (alone : Inputless registry word) : ArityExact registry word := by
  have cut : Text.words word = [word] := Text.words_of_solid (Token.solid_of_word solid)
  have free : BracketFree word := by
    intro character member
    have plain := solid.2 character member
    simp only [Token.isPlain, Bool.and_eq_true, bne_iff_ne] at plain
    exact ⟨plain.1.2, plain.2⟩
  cases alone with
  | primitive noLoop named none => exact .primitive free cut noLoop named none.symm
  | call noLoop unnamed known none =>
      exact .call free cut noLoop unnamed known (by rw [none])

theorem reads_as_inputless {word : String} (solid : Token.IsWord word)
    (alone : Inputless registry word) :
    ReadsAs registry [.word word] [readWord registry word] := by
  have noLoop : Text.lower word ≠ loopWord := by
    cases alone with
    | primitive noLoop _ _ => exact noLoop
    | call noLoop _ _ _ => exact noLoop
  have read : readLine registry .command word = [readWord registry word] := by
    rw [readLine, Text.words_of_solid (Token.solid_of_word solid)]
    dsimp only
    rw [if_neg noLoop, readWord, if_neg noLoop]
  have reads := reads_as_of_arity_exact (arity_exact_of_inputless solid alone)
  rwa [Token.scan_word solid, read] at reads

/-- Both policies read the loop as one over the words of its block, each read alone. -/
theorem read_line_inputless_loop {line : String} (alone : InputlessLoop registry line) :
    ∃ (count : String) (words : List String), ∀ policy, readLine registry policy line =
      [.loop (inputOf count) (words.map (readWord registry))] := by
  cases alone with
  | @intro before keyword gap count space inside after beforeBlank keywordWord opens gapBlank
      gapFilled countWord spaceBlank spaceFilled free inputless afterBlank =>
      have cut : Text.words
          (before ++ (keyword ++ gap ++ (count ++ space ++ ("[" ++ inside ++ "]"))) ++ after) =
            keyword :: count :: Text.words ("[" ++ inside ++ "]") := by
        rw [Text.words_margins beforeBlank afterBlank, Text.words_gap gapBlank gapFilled,
          Text.words_gap spaceBlank spaceFilled,
          Text.words_of_solid (Token.solid_of_word keywordWord),
          Text.words_of_solid (Token.solid_of_word countWord)]
        rfl
      have tokens : Token.scan
          (before ++ (keyword ++ gap ++ (count ++ space ++ ("[" ++ inside ++ "]"))) ++ after) =
            .word keyword :: .word count :: .opening ::
              ((Text.words inside).map .word ++ [.closing]) := by
        rw [Token.scan_eq_flat_map_words, cut, List.flatMap_cons, List.flatMap_cons,
          ← Token.scan_eq_flat_map_words, Token.scan_word keywordWord, Token.scan_word countWord,
          String.append_assoc, Token.scan_opening, Token.scan_append _ _ (by simp [Token.isPlain]),
          Token.scan_of_bracket_free free]
        rfl
      have body : ReadsAs registry ((Text.words inside).map .word)
          ((Text.words inside).map (readWord registry)) := by
        rw [List.map_eq_flatMap, List.map_eq_flatMap]
        exact reads_as_flat_map fun word member =>
          reads_as_inputless (Token.is_word_of_words free member) (inputless word member)
      refine ⟨count, Text.words inside, fun policy => ?_⟩
      rw [readLine, cut]
      dsimp only
      rw [if_pos opens]
      cases policy with
      | command =>
          rw [tokens]
          exact read_all_of_reads_as (reads_as_loop count opens body)
      | token => rw [readByWord, block_words_enclosed]

theorem read_line_not_loop {line : String} (plain : ¬OpensLoop line) (policy other : SplitPolicy) :
    readLine registry policy line = readLine registry other line := by
  unfold readLine
  split
  · rfl
  · next first rest cut =>
      have noLoop : Text.lower first ≠ loopWord := fun opens => plain ⟨first, rest, cut, opens⟩
      rw [if_neg noLoop, if_neg noLoop]

def ReadAlike (registry : Registry) (line : String) : Prop :=
  readLine registry .token line = readLine registry .command line

theorem read_alike_inputless_loop {line : String} (alone : InputlessLoop registry line) :
    ReadAlike registry line := by
  obtain ⟨count, words, read⟩ := read_line_inputless_loop alone
  rw [ReadAlike, read, read]

theorem layout_read_alike {line : String} (alike : ReadAlike registry line) (indent depth : Nat) :
    (lineStatements registry .token depth line).map (Statement.layout ⟨indent, .token⟩) =
      (lineStatements registry .command depth line).map (Statement.layout ⟨indent, .command⟩) := by
  rw [lineStatements, alike]
  rfl

end TurtleLang.Command

namespace TurtleLang

set_option autoImplicit false

open Command (ReadAlike)

def AllReadAlike (items : List Item) : Prop :=
  ∀ visible emitted depth line, LineAt .command items visible emitted depth line →
    ReadAlike (knownAfter visible) line

theorem Item.statements_alike {before after : List Item} {item : Item}
    (alike : AllReadAlike (before ++ item :: after)) :
    item.statements .token (knownAfter before) = item.statements .command (knownAfter before) := by
  cases item with
  | command line =>
      have read := alike _ _ _ _ (.outside rfl)
      rw [Item.statements, Item.statements, Command.lineStatements, read]
      rfl
  | definition header procedure =>
      have inside : ∀ text ∈ procedure.body,
          Command.readLine ((knownAfter before).define procedure) .token text =
            Command.readLine ((knownAfter before).define procedure) .command text := by
        intro text member
        obtain ⟨earlier, later, body⟩ := List.append_of_mem member
        have read := alike _ _ _ _ (.inside rfl body)
        rwa [known_after_concat] at read
      have bodies : procedure.body.flatMap
            (Command.readLine ((knownAfter before).define procedure) .token) =
          procedure.body.flatMap
            (Command.readLine ((knownAfter before).define procedure) .command) := by
        rw [List.flatMap_def, List.flatMap_def, List.map_congr_left inside]
      simp only [Item.statements, Registry.entry, Command.bodyStatements, bodies]

theorem item_statements_alike {before items : List Item} (alike : AllReadAlike (before ++ items)) :
    itemStatements .token (knownAfter before) items =
      itemStatements .command (knownAfter before) items := by
  induction items generalizing before with
  | nil => rfl
  | cons item items ih =>
      have rest : AllReadAlike (before ++ [item] ++ items) := by
        rwa [List.append_assoc, List.singleton_append]
      have later := ih rest
      rw [known_after_concat] at later
      rw [itemStatements, itemStatements, Item.statements_alike alike, later]

namespace Script

theorem of_items_alike {items : List Item} (alike : AllReadAlike items) (indent : Nat) :
    ofItems ⟨indent, .token⟩ items = ofItems ⟨indent, .command⟩ items := by
  have same : itemStatements .token Registry.empty items =
      itemStatements .command Registry.empty items := by
    have whole : AllReadAlike ([] ++ items) := alike
    exact item_statements_alike whole
  rw [ofItems, ofItems, statements, statements, same]
  rfl

structure PoliciesAgree : Prop where
  inputless_loop : ∀ registry indent depth line, Command.InputlessLoop registry line →
    (Command.lineStatements registry .token depth line).map (Statement.layout ⟨indent, .token⟩) =
      (Command.lineStatements registry .command depth line).map
        (Statement.layout ⟨indent, .command⟩)
  not_loop : ∀ registry indent depth line, ¬Command.OpensLoop line →
    (Command.lineStatements registry .token depth line).map (Statement.layout ⟨indent, .token⟩) =
      (Command.lineStatements registry .command depth line).map
        (Statement.layout ⟨indent, .command⟩)
  /-- A program whose loop lines hold only commands without inputs, each line taken with
  the procedures that count for it. A program with a fault has the same one. -/
  program : ∀ indent source,
    (∀ items, readItems (executableLines source) = (items, none) →
      ∀ visible emitted depth line, LineAt .command items visible emitted depth line →
        Command.OpensLoop line → Command.InputlessLoop (knownAfter visible) line) →
    compile ⟨indent, .token⟩ source = compile ⟨indent, .command⟩ source

theorem compile_policies_agree : PoliciesAgree where
  inputless_loop registry indent depth line alone :=
    Command.layout_read_alike (Command.read_alike_inputless_loop alone) indent depth
  not_loop registry indent depth line plain :=
    Command.layout_read_alike (Command.read_line_not_loop plain .token .command) indent depth
  program indent source inputless := by
    unfold compile
    split
    · rfl
    · next items found =>
        have alike : AllReadAlike items := by
          intro visible emitted depth line stands
          by_cases opens : Command.OpensLoop line
          · exact Command.read_alike_inputless_loop
              (inputless items found visible emitted depth line stands opens)
          · exact Command.read_line_not_loop opens .token .command
        rw [of_items_alike alike]

/-- A loop line with uneven blanks and capitals over a procedure that an earlier line
defines, then a line whose first word only begins like the loop word. -/
theorem compile_policies_agree_spin :
    (Command.lineStatements ⟨[⟨"spin", [], []⟩]⟩ .token 1 "REPEAT 3\t[ pu  SPIN]").map
        (Statement.layout ⟨2, .token⟩) =
      (Command.lineStatements ⟨[⟨"spin", [], []⟩]⟩ .command 1 "REPEAT 3\t[ pu  SPIN]").map
        (Statement.layout ⟨2, .command⟩) ∧
    (Command.lineStatements Registry.empty .token 0 "repeats 3 [ fd 1 ]").map
        (Statement.layout ⟨2, .token⟩) =
      (Command.lineStatements Registry.empty .command 0 "repeats 3 [ fd 1 ]").map
        (Statement.layout ⟨2, .command⟩) ∧
    compile ⟨2, .token⟩ "to Spin\nend\nREPEAT 3\t[ pu  SPIN]\nrepeats 3 [ fd 1 ]" =
      compile ⟨2, .command⟩ "to Spin\nend\nREPEAT 3\t[ pu  SPIN]\nrepeats 3 [ fd 1 ]" := by
  have loop : Command.InputlessLoop ⟨[⟨"spin", [], []⟩]⟩ "REPEAT 3\t[ pu  SPIN]" := by
    have spelled : "REPEAT 3\t[ pu  SPIN]" =
        "" ++ ("REPEAT" ++ " " ++ ("3" ++ "\t" ++ ("[" ++ " pu  SPIN" ++ "]"))) ++ "" := by decide
    have inputless : ∀ word ∈ Text.words " pu  SPIN",
        Command.Inputless ⟨[⟨"spin", [], []⟩]⟩ word := by
      have cut : Text.words " pu  SPIN" = ["pu", "SPIN"] := by decide
      have penUp : Command.Inputless ⟨[⟨"spin", [], []⟩]⟩ "pu" :=
        .primitive (by decide) (show _ = some .penUp by decide) rfl
      have spin : Command.Inputless ⟨[⟨"spin", [], []⟩]⟩ "SPIN" :=
        .call (by decide) (by decide) (show _ = some ⟨"spin", [], []⟩ by decide) rfl
      simpa [cut] using ⟨penUp, spin⟩
    rw [spelled]
    exact .intro (by decide) (by decide) (by decide) (by decide) (by decide) (by decide)
      (by decide) (by decide) (by decide) inputless (by decide)
  have plain : ¬Command.OpensLoop "repeats 3 [ fd 1 ]" := by
    rintro ⟨first, rest, cut, opens⟩
    have spelled : Text.words "repeats 3 [ fd 1 ]" = ["repeats", "3", "[", "fd", "1", "]"] := by
      decide
    rw [spelled] at cut
    cases cut
    exact absurd opens (by decide)
  refine ⟨compile_policies_agree.inputless_loop _ 2 1 _ loop,
    compile_policies_agree.not_loop _ 2 0 _ plain, compile_policies_agree.program 2 _ ?_⟩
  intro items found visible emitted depth line stands opens
  have read : readItems (executableLines
      "to Spin\nend\nREPEAT 3\t[ pu  SPIN]\nrepeats 3 [ fd 1 ]") =
        ([.definition ⟨1, "to Spin"⟩ ⟨"spin", [], []⟩, .command ⟨3, "REPEAT 3\t[ pu  SPIN]"⟩,
          .command ⟨4, "repeats 3 [ fd 1 ]"⟩], none) := by decide +kernel
  rw [read] at found
  cases found
  cases stands with
  | @outside before after line whole =>
      rcases visible with _ | ⟨_, _ | ⟨_, _ | ⟨_, rest⟩⟩⟩
      · cases whole
      · cases whole
        exact loop
      · cases whole
        exact absurd opens plain
      · simp at whole
  | @inside before after header procedure earlier later line whole body =>
      rcases before with _ | ⟨_, _ | ⟨_, _ | ⟨_, rest⟩⟩⟩
      · cases whole
        simp at body
      · cases whole
      · cases whole
      · simp at whole

end Script

end TurtleLang
