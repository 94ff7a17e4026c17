import TurtleLang.Proofs.Likeness

/-!
The case of ASCII letters does not matter. Putting the letters A to Z of a source
into lower case changes no cut and no comparison: every reader gives, for the
lowered text, what it gives for the text itself with the echoed words lowered. The
commands, the names and the block structure of a program are therefore the same in
every mixture of cases; what differs is the case of words and literals that the
output repeats.
-/
namespace TurtleLang.Text

set_option autoImplicit false

theorem is_blank_comp_to_lower : isBlank ∘ Char.toLower = isBlank :=
  funext is_blank_to_lower

theorem lower_ascii_comp_lower_ascii : lowerAscii ∘ lowerAscii = lowerAscii :=
  funext lower_ascii_lower_ascii

theorem drop_blanks_to_lower (characters : List Char) :
    dropBlanks (characters.map Char.toLower) = (dropBlanks characters).map Char.toLower := by
  rw [dropBlanks, dropBlanks, List.dropWhile_map, is_blank_comp_to_lower]

theorem trim_blanks_to_lower (characters : List Char) :
    trimBlanks (characters.map Char.toLower) = (trimBlanks characters).map Char.toLower := by
  rw [trimBlanks, trimBlanks, drop_blanks_to_lower, ← List.map_reverse, drop_blanks_to_lower,
    List.map_reverse]

theorem trim_lower_ascii (text : String) : trim (lowerAscii text) = lowerAscii (trim text) := by
  rw [trim, trim, to_list_lower_ascii, trim_blanks_to_lower, lower_ascii_of_list]

theorem finish_word_to_lower (pending : List Char) :
    finishWord (pending.map Char.toLower) = (finishWord pending).map (List.map Char.toLower) := by
  cases pending with
  | nil => rfl
  | cons last pending => simp [finishWord]

theorem words_from_to_lower (pending characters : List Char) :
    wordsFrom (pending.map Char.toLower) (characters.map Char.toLower) =
      (wordsFrom pending characters).map (List.map Char.toLower) := by
  induction characters generalizing pending with
  | nil => exact finish_word_to_lower pending
  | cons character characters ih =>
      rw [List.map_cons, wordsFrom, wordsFrom, is_blank_to_lower]
      split
      · have rest := ih []
        rw [List.map_nil] at rest
        rw [finish_word_to_lower, rest, List.map_append]
      · exact ih (character :: pending)

theorem of_list_to_lower :
    String.ofList ∘ List.map Char.toLower = lowerAscii ∘ String.ofList := by
  funext characters
  exact (lower_ascii_of_list characters).symm

theorem words_lower_ascii (text : String) :
    words (lowerAscii text) = (words text).map lowerAscii := by
  have cut := words_from_to_lower [] text.toList
  rw [List.map_nil] at cut
  rw [words, words, to_list_lower_ascii, cut, List.map_map, List.map_map, of_list_to_lower]

theorem finish_line_to_lower (pending : List Char) :
    finishLine (pending.map Char.toLower) = (finishLine pending).map Char.toLower := by
  cases pending with
  | nil => rfl
  | cons last pending =>
      by_cases ended : last = '\r'
      · subst ended
        simp [finishLine]
      · have stays : last.toLower ≠ '\r' := to_lower_ne (by decide) ended
        simp [finishLine, ended, stays]

theorem lines_from_to_lower (pending characters : List Char) :
    linesFrom (pending.map Char.toLower) (characters.map Char.toLower) =
      (linesFrom pending characters).map (List.map Char.toLower) := by
  induction characters generalizing pending with
  | nil => cases pending <;> simp [linesFrom]
  | cons character characters ih =>
      rw [List.map_cons, linesFrom, linesFrom]
      by_cases ended : character = '\n'
      · have feed : character.toLower = '\n' := by
          rw [ended]
          rfl
        have rest := ih []
        rw [List.map_nil] at rest
        rw [if_pos ended, if_pos feed, finish_line_to_lower, rest, List.map_cons]
      · have stays : character.toLower ≠ '\n' := to_lower_ne (by decide) ended
        rw [if_neg ended, if_neg stays]
        exact ih (character :: pending)

theorem lines_lower_ascii (text : String) :
    lines (lowerAscii text) = (lines text).map lowerAscii := by
  have cut := lines_from_to_lower [] text.toList
  rw [List.map_nil] at cut
  rw [lines, lines, to_list_lower_ascii, cut, List.map_map, List.map_map, of_list_to_lower]

end TurtleLang.Text

namespace TurtleLang

set_option autoImplicit false

def Line.folded (line : Line) : Line :=
  { line with text := Text.lowerAscii line.text }

theorem is_skipped_lower_ascii (text : String) :
    isSkipped (Text.lowerAscii text) = isSkipped text := by
  rw [isSkipped, isSkipped, Text.to_list_lower_ascii, Text.drop_blanks_to_lower]
  cases Text.dropBlanks text.toList with
  | nil => rfl
  | cons first rest =>
      apply Bool.eq_iff_iff.mpr
      simp only [List.map_cons, beq_iff_eq]
      exact Text.to_lower_eq_iff (by decide) first

theorem number_lines_lower_ascii (first : Nat) (texts : List String) :
    numberLines first (texts.map Text.lowerAscii) = (numberLines first texts).map Line.folded := by
  induction texts generalizing first with
  | nil => rfl
  | cons text texts ih =>
      rw [List.map_cons, numberLines, numberLines, List.map_cons, ih, Text.trim_lower_ascii]
      rfl

theorem executable_lines_lower_ascii (source : String) :
    executableLines (Text.lowerAscii source) = (executableLines source).map Line.folded := by
  have kept : (fun line : Line => !isSkipped line.text) ∘ Line.folded =
      fun line => !isSkipped line.text := by
    funext line
    rw [Function.comp_apply, Line.folded, is_skipped_lower_ascii]
  rw [executableLines, executableLines, Text.lines_lower_ascii, number_lines_lower_ascii,
    List.filter_map, kept]

theorem is_header_lower_ascii (text : String) :
    isHeader (Text.lowerAscii text) = isHeader text := by
  rw [isHeader, isHeader, Text.words_lower_ascii]
  cases Text.words text with
  | nil => rfl
  | cons first rest => simp

theorem is_terminator_lower_ascii (text : String) :
    isTerminator (Text.lowerAscii text) = isTerminator text := by
  rw [isTerminator, isTerminator, Text.trim_lower_ascii, Text.lower_ascii_lower_ascii]

theorem parameter_of_lower_ascii (word : String) :
    Procedure.parameterOf (Text.lowerAscii word) = Procedure.parameterOf word := by
  unfold Procedure.parameterOf
  rw [Text.to_list_lower_ascii]
  cases spelled : word.toList with
  | nil => simp
  | cons first rest =>
      by_cases colon : first = ':'
      · subst colon
        simp [← Text.lower_ascii_of_list]
      · have stays : first.toLower ≠ ':' := Text.to_lower_ne (by decide) colon
        simp [colon, stays]

theorem heading_lower_ascii (text : String) :
    Procedure.heading (Text.lowerAscii text) = Procedure.heading text := by
  have parameters : Procedure.parameterOf ∘ Text.lowerAscii = Procedure.parameterOf := by
    funext word
    rw [Function.comp_apply, parameter_of_lower_ascii]
  rw [Procedure.heading, Procedure.heading, Text.words_lower_ascii, ← List.map_drop]
  cases (Text.words text).drop 1 with
  | nil => rfl
  | cons name words =>
      simp only [List.map_cons, List.map_map, parameters, Text.lower_lower_ascii]

theorem input_of_lower_ascii (word : String) :
    inputOf (Text.lowerAscii word) = Text.lowerAscii (inputOf word) := by
  unfold inputOf
  rw [Text.to_list_lower_ascii]
  cases spelled : word.toList with
  | nil => simp
  | cons first rest =>
      by_cases colon : first = ':'
      · subst colon
        simp [← Text.lower_ascii_of_list]
      · by_cases quote : first = '"'
        · subst quote
          simp [← Text.lower_ascii_of_list, Text.literal_lower_ascii]
        · have noColon : first.toLower ≠ ':' := Text.to_lower_ne (by decide) colon
          have noQuote : first.toLower ≠ '"' := Text.to_lower_ne (by decide) quote
          simp [colon, quote, noColon, noQuote]

theorem map_input_of_lower_ascii (words : List String) :
    (words.map Text.lowerAscii).map inputOf = (words.map inputOf).map Text.lowerAscii := by
  rw [List.map_map, List.map_map]
  apply List.map_congr_left
  intro word _
  rw [Function.comp_apply, Function.comp_apply, input_of_lower_ascii]

namespace Token

def folded : Token → Token
  | .word text => .word (Text.lowerAscii text)
  | .opening => .opening
  | .closing => .closing

theorem finish_to_lower (pending : List Char) :
    finish (pending.map Char.toLower) = (finish pending).map folded := by
  cases pending with
  | nil => rfl
  | cons last pending =>
      rw [List.map_cons, finish_begun, finish_begun, List.map_singleton, folded,
        Text.lower_ascii_of_list, List.map_reverse, List.map_cons]

theorem is_plain_to_lower (character : Char) : isPlain character.toLower = isPlain character :=
  Text.to_lower_invariant isPlain (by decide) character

theorem scan_from_to_lower (pending characters : List Char) :
    scanFrom (pending.map Char.toLower) (characters.map Char.toLower) =
      (scanFrom pending characters).map folded := by
  induction characters generalizing pending with
  | nil => exact finish_to_lower pending
  | cons character characters ih =>
      have rest := ih []
      rw [List.map_nil] at rest
      rw [List.map_cons]
      rcases character_cases character with plain | blank | rfl | rfl
      · rw [scan_from_plain plain, scan_from_plain ((is_plain_to_lower character).trans plain)]
        exact ih (character :: pending)
      · rw [scan_from_blank blank, scan_from_blank ((Text.is_blank_to_lower character).trans blank),
          finish_to_lower, rest, List.map_append]
      · rw [scan_from_opening, List.map_append, List.map_cons, ← rest, ← finish_to_lower]
        exact scan_from_opening _ _
      · rw [scan_from_closing, List.map_append, List.map_cons, ← rest, ← finish_to_lower]
        exact scan_from_closing _ _

theorem scan_lower_ascii (text : String) :
    scan (Text.lowerAscii text) = (scan text).map folded := by
  rw [scan, scan, Text.to_list_lower_ascii]
  exact scan_from_to_lower [] text.toList

theorem take_group_folded (depth : Nat) (tokens : List Token) :
    takeGroup depth (tokens.map folded) =
      ((takeGroup depth tokens).1.map folded, (takeGroup depth tokens).2.map folded) := by
  induction tokens generalizing depth with
  | nil => simp [takeGroup, folded]
  | cons token tokens ih =>
      cases token with
      | word text => simp [folded, takeGroup, ih]
      | opening => simp [folded, takeGroup, ih]
      | closing => cases depth <;> simp [folded, takeGroup, ih]

theorem text_folded (token : Token) : token.folded.text = Text.lowerAscii token.text := by
  cases token <;> rfl

theorem spaced_folded (left right : Token) :
    spaced left.folded right.folded = spaced left right := by
  cases left <;> cases right <;> rfl

theorem spell_folded (tokens : List Token) :
    spell (tokens.map folded) = Text.lowerAscii (spell tokens) := by
  fun_induction spell tokens with
  | case1 => rfl
  | case2 last => exact text_folded last
  | case3 left right rest ih =>
      rw [List.map_cons] at ih
      rw [List.map_cons, List.map_cons, spell, ih, text_folded, spaced_folded,
        Text.lower_ascii_append, Text.lower_ascii_append]
      split <;> rfl

theorem group_text_folded (tokens : List Token) :
    groupText (tokens.map folded) = Text.lowerAscii (groupText tokens) := by
  rw [groupText, groupText, spell_folded, Text.lower_ascii_append, Text.lower_ascii_append]
  rfl

theorem folded_eq_opening {token : Token} (opening : token.folded = .opening) :
    token = .opening := by
  cases token with
  | opening => rfl
  | _ => cases opening

theorem folded_eq_word {token : Token} {text : String} (word : token.folded = .word text) :
    ∃ original, token = .word original := by
  cases token with
  | word original => exact ⟨original, rfl⟩
  | _ => cases word

end Token

namespace Command

mutual

def folded : Command → Command
  | .primitive operation inputs => .primitive operation (inputs.map Text.lowerAscii)
  | .loop count body => .loop (Text.lowerAscii count) (foldedOf body)
  | .call name inputs => .call name (inputs.map Text.lowerAscii)
  | .unknown text => .unknown (Text.lowerAscii text)

def foldedOf : List Command → List Command
  | [] => []
  | command :: rest => folded command :: foldedOf rest

end

theorem folded_of_eq_map (commands : List Command) : foldedOf commands = commands.map folded := by
  induction commands with
  | nil => rfl
  | cons command commands ih => rw [foldedOf, List.map_cons, ih]

theorem take_inputs_folded (count : Nat) (tokens : List Token) :
    takeInputs count (tokens.map Token.folded) =
      ((takeInputs count tokens).1.map Text.lowerAscii,
        (takeInputs count tokens).2.map Token.folded) := by
  fun_induction takeInputs count tokens with
  | case1 tokens => rfl
  | case2 count word rest inputs after taken ih =>
      rw [taken] at ih
      simp [Token.folded, takeInputs, ih, input_of_lower_ascii]
  | case3 count rest inner left grouped inputs after taken ih =>
      rw [taken] at ih
      simp [Token.folded, takeInputs, Token.take_group_folded, grouped, ih, Token.group_text_folded]
  | case4 count tokens noWord noGroup =>
      cases tokens with
      | nil => rfl
      | cons token rest =>
          cases token with
          | word text => exact absurd rfl (noWord text rest)
          | opening => exact absurd rfl (noGroup rest)
          | closing => rfl

theorem starts_command_lower_ascii (registry : Registry) (word : String) :
    startsCommand registry (Text.lowerAscii word) = startsCommand registry word := by
  simp only [startsCommand, Primitive.ofName?, Registry.contains, Registry.lookup,
    Text.lower_ascii_lower_ascii, Text.lower_lower_ascii]

theorem take_unknown_folded (registry : Registry) (tokens : List Token) :
    takeUnknown registry (tokens.map Token.folded) =
      ((takeUnknown registry tokens).1.map Text.lowerAscii,
        (takeUnknown registry tokens).2.map Token.folded) := by
  fun_induction takeUnknown registry tokens with
  | case1 word rest claimed =>
      rw [List.map_cons, Token.folded, takeUnknown, starts_command_lower_ascii, if_pos claimed]
      rfl
  | case2 word rest unclaimed texts after taken ih =>
      rw [taken] at ih
      rw [List.map_cons, Token.folded, takeUnknown, starts_command_lower_ascii, if_neg unclaimed,
        ih]
      rfl
  | case3 rest texts after taken ih =>
      rw [taken] at ih
      rw [List.map_cons, Token.folded, takeUnknown, Token.take_group_folded, ih,
        Token.group_text_folded]
      rfl
  | case4 tokens noWord noGroup =>
      cases tokens with
      | nil => simp [takeUnknown]
      | cons token rest =>
          cases token with
          | word text => exact absurd rfl (noWord text rest)
          | opening => exact absurd rfl (noGroup rest)
          | closing => simp [Token.folded, takeUnknown]

/-- Every rule of the reader applies to the lowered tokens too. -/
theorem reads_folded {registry : Registry} {nested : Bool} {tokens left : List Token}
    {commands : List Command} (reads : Reads registry nested tokens commands left) :
    Reads registry nested (tokens.map Token.folded) (foldedOf commands)
      (left.map Token.folded) := by
  induction reads with
  | done nested => exact .done nested
  | close rest => exact .close _
  | stray _ ih => exact .stray ih
  | @group nested rest inner after left more grouped _ ih =>
      have lowered := Token.take_group_folded 0 rest
      rw [grouped] at lowered
      rw [foldedOf, folded, ← Token.group_text_folded]
      exact .group lowered ih
  | @loopBlock nested word count inside after left body more opens _ _ bodyIh ih =>
      rw [foldedOf, folded, ← input_of_lower_ascii]
      exact .loopBlock (by rw [Text.lower_lower_ascii, opens]) bodyIh ih
  | @loopBare nested word count after left more opens bare _ ih =>
      rw [foldedOf, folded, ← input_of_lower_ascii]
      refine .loopBare (by rw [Text.lower_lower_ascii, opens]) (fun inside found => ?_) ih
      obtain ⟨first, rest, rfl, opening, _⟩ := List.map_eq_cons_iff.mp found
      exact bare rest (by rw [Token.folded_eq_opening opening])
  | @loopAlone nested word after left more opens alone _ ih =>
      refine .loopAlone (by rw [Text.lower_lower_ascii, opens]) (fun count rest found => ?_) ih
      obtain ⟨first, others, rfl, counted, _⟩ := List.map_eq_cons_iff.mp found
      obtain ⟨original, rfl⟩ := Token.folded_eq_word counted
      exact alone original others rfl
  | @primitive nested word rest after left operation inputs more plain named taken _ ih =>
      have same := Text.lower_lower_ascii word
      have lowered := take_inputs_folded operation.arity rest
      rw [taken] at lowered
      rw [← same] at plain named
      exact .primitive plain named lowered ih
  | @call nested word rest after left procedure inputs more plain unnamed known taken _ ih =>
      have same := Text.lower_lower_ascii word
      have lowered := take_inputs_folded procedure.parameters.length rest
      rw [taken] at lowered
      rw [← same] at plain unnamed known
      rw [foldedOf, folded, ← same]
      exact .call plain unnamed known lowered ih
  | @unknown nested word rest after left texts more plain unnamed unknown taken _ ih =>
      have same := Text.lower_lower_ascii word
      have lowered := take_unknown_folded registry rest
      rw [taken] at lowered
      rw [← same] at plain unnamed unknown
      rw [foldedOf, folded, Text.lower_ascii_intercalate]
      exact .unknown plain unnamed unknown lowered ih

theorem read_all_folded (registry : Registry) (tokens : List Token) :
    readAll registry (tokens.map Token.folded) = foldedOf (readAll registry tokens) := by
  have reads := reads_folded (reads_read_commands registry false tokens)
  rw [readAll, read_commands_of_reads reads]
  rfl

theorem read_plain_folded (registry : Registry) (line first : String) (rest : List String) :
    readPlain registry (Text.lowerAscii line) (Text.lowerAscii first)
        (rest.map Text.lowerAscii) =
      (readPlain registry line first rest).folded := by
  unfold readPlain
  dsimp only
  rw [Text.lower_lower_ascii, map_input_of_lower_ascii, Text.trim_lower_ascii]
  split
  · next operation _ =>
      rw [folded, keptInputs, keptInputs]
      split <;> rfl
  · split <;> rfl

theorem read_word_folded (registry : Registry) (word : String) :
    readWord registry (Text.lowerAscii word) = (readWord registry word).folded := by
  rw [readWord, readWord, Text.lower_lower_ascii]
  split
  · rfl
  · exact read_plain_folded registry word word []

theorem drop_opening_to_lower (characters : List Char) :
    dropOpening (characters.map Char.toLower) = (dropOpening characters).map Char.toLower := by
  cases characters with
  | nil => rfl
  | cons first rest =>
      by_cases bracket : first = '['
      · subst bracket
        rfl
      · have stays : first.toLower ≠ '[' := Text.to_lower_ne (by decide) bracket
        simp [dropOpening, bracket, stays]

theorem drop_closing_to_lower (characters : List Char) :
    dropClosing (characters.map Char.toLower) = (dropClosing characters).map Char.toLower := by
  unfold dropClosing
  rw [← List.map_reverse]
  cases characters.reverse with
  | nil => rfl
  | cons last rest =>
      by_cases bracket : last = ']'
      · subst bracket
        simp
      · have stays : last.toLower ≠ ']' := Text.to_lower_ne (by decide) bracket
        simp [bracket, stays]

theorem block_words_lower_ascii (block : List String) :
    blockWords (block.map Text.lowerAscii) = (blockWords block).map Text.lowerAscii := by
  have joined : (" ".intercalate (block.map Text.lowerAscii)).toList =
      (" ".intercalate block).toList.map Char.toLower := by
    rw [← Text.to_list_lower_ascii, Text.lower_ascii_intercalate]
    rfl
  rw [blockWords, blockWords, joined, drop_opening_to_lower, drop_closing_to_lower,
    ← Text.lower_ascii_of_list, Text.words_lower_ascii]

theorem read_by_word_folded (registry : Registry) (line : String) (words : List String) :
    readByWord registry (Text.lowerAscii line) (words.map Text.lowerAscii) =
      (readByWord registry line words).folded := by
  cases words with
  | nil => rw [List.map_nil, readByWord, readByWord, folded, Text.trim_lower_ascii]
  | cons count block =>
      have members : readWord registry ∘ Text.lowerAscii = folded ∘ readWord registry := by
        funext word
        rw [Function.comp_apply, Function.comp_apply, read_word_folded]
      rw [List.map_cons, readByWord, readByWord, folded, folded_of_eq_map, input_of_lower_ascii,
        block_words_lower_ascii, List.map_map, List.map_map, members]

/-- A lowered line is read as the same commands, with what they echo lowered. -/
theorem read_line_folded (registry : Registry) (policy : SplitPolicy) (line : String) :
    readLine registry policy (Text.lowerAscii line) = foldedOf (readLine registry policy line) := by
  rw [readLine, readLine, Text.words_lower_ascii]
  cases Text.words line with
  | nil => rfl
  | cons first rest =>
      simp only [List.map_cons, Text.lower_lower_ascii]
      split
      · cases policy with
        | command =>
            dsimp only
            rw [Token.scan_lower_ascii, read_all_folded]
        | token =>
            dsimp only
            rw [read_by_word_folded, foldedOf, foldedOf]
      · rw [read_plain_folded, foldedOf, foldedOf]

end Command

namespace Phrase

def folded : Phrase → Phrase
  | .loop count => .loop (Text.lowerAscii count)
  | .primitive operation inputs => .primitive operation (inputs.map Text.lowerAscii)
  | .call name inputs => .call name (inputs.map Text.lowerAscii)
  | .unknown text => .unknown (Text.lowerAscii text)
  | phrase => phrase

theorem render_lower_ascii (operation : Primitive) (inputs : List String) :
    operation.render (inputs.map Text.lowerAscii) = Text.lowerAscii (operation.render inputs) := by
  have joined : " ".intercalate (inputs.map Text.lowerAscii) =
      Text.lowerAscii (" ".intercalate inputs) := (Text.lower_ascii_intercalate " " inputs).symm
  unfold Primitive.render
  rw [joined]
  cases operation <;> simp only [Text.lower_ascii_append] <;> rfl

theorem lower_ascii_enclosed (front text back : String) :
    Text.lowerAscii (front ++ Text.lowerAscii text ++ back) =
      Text.lowerAscii (front ++ text ++ back) := by
  simp only [Text.lower_ascii_append, Text.lower_ascii_lower_ascii]

theorem lower_ascii_listed (front separator back : String) (texts : List String) :
    Text.lowerAscii (front ++ separator.intercalate (texts.map Text.lowerAscii) ++ back) =
      Text.lowerAscii (front ++ separator.intercalate texts ++ back) := by
  simp only [Text.lower_ascii_append, Text.lower_ascii_intercalate, List.map_map,
    Text.lower_ascii_comp_lower_ascii]

theorem lower_ascii_text_folded (phrase : Phrase) :
    Text.lowerAscii phrase.folded.text = Text.lowerAscii phrase.text := by
  cases phrase with
  | loop count => exact lower_ascii_enclosed _ count _
  | primitive operation inputs =>
      exact (congrArg Text.lowerAscii (render_lower_ascii operation inputs)).trans
        (Text.lower_ascii_lower_ascii _)
  | call name inputs => exact lower_ascii_listed _ _ _ inputs
  | unknown text =>
      have echoed := lower_ascii_enclosed "# Unknown: " text ""
      rwa [String.append_empty, String.append_empty] at echoed
  | _ => rfl

theorem is_effective_lower_ascii (depth : Nat) (text : String) :
    Statement.isEffective ⟨depth, Text.lowerAscii text⟩ = Statement.isEffective ⟨depth, text⟩ := by
  rw [Statement.isEffective, Statement.isEffective, Text.to_list_lower_ascii,
    Text.drop_blanks_to_lower]
  cases Text.dropBlanks text.toList with
  | nil => rfl
  | cons first rest =>
      apply Bool.eq_iff_iff.mpr
      simp only [List.map_cons, bne_iff_ne, ne_eq]
      exact not_congr (Text.to_lower_eq_iff (by decide) first)

theorem is_effective_folded (phrase : Phrase) : phrase.folded.isEffective = phrase.isEffective := by
  rw [isEffective, isEffective, ← is_effective_lower_ascii, lower_ascii_text_folded,
    is_effective_lower_ascii]

end Phrase

theorem fill_block_folded (forest : List (Outline Phrase)) :
    fillBlock (Outline.mapOf Phrase.folded forest) =
      Outline.mapOf Phrase.folded (fillBlock forest) := by
  have found : (Outline.mapOf Phrase.folded forest).any (fun child => child.label.isEffective) =
      forest.any fun child => child.label.isEffective := by
    rw [Outline.map_of_eq_map, List.any_map]
    apply congrArg forest.any
    funext child
    exact (congrArg _ (Outline.label_map _ child)).trans (Phrase.is_effective_folded _)
  unfold fillBlock
  rw [found]
  split
  · rfl
  · rw [Outline.map_of_append]
    rfl

namespace Command

theorem outlines_of_folded_of_members {commands : List Command}
    (members : ∀ command ∈ commands,
      outline command.folded = Outline.map Phrase.folded (outline command)) :
    outlinesOf (foldedOf commands) = Outline.mapOf Phrase.folded (outlinesOf commands) := by
  induction commands with
  | nil => rfl
  | cons command commands ih =>
      rw [foldedOf, outlinesOf, outlinesOf, Outline.mapOf, members command (by simp),
        ih fun other present => members other (List.mem_cons_of_mem command present)]

theorem outline_folded (command : Command) :
    outline command.folded = Outline.map Phrase.folded (outline command) := by
  induction command using command_induction with
  | primitive operation inputs => rfl
  | call name inputs => rfl
  | unknown text => rfl
  | loop count body ih =>
      rw [folded, outline, outline, Outline.map, outlines_of_folded_of_members ih,
        fill_block_folded]
      rfl

theorem outlines_of_folded (commands : List Command) :
    outlinesOf (foldedOf commands) = Outline.mapOf Phrase.folded (outlinesOf commands) :=
  outlines_of_folded_of_members fun command _ => outline_folded command

end Command

/-- Texts that differ in the case of ASCII letters alone count as the same. -/
def letterLikeness : Likeness String Phrase where
  key := Text.lowerAscii
  form := Phrase.folded
  effective phrase other same := by
    rw [← phrase.is_effective_folded, ← other.is_effective_folded, same]
  header text other same := by
    rw [← is_header_lower_ascii text, ← is_header_lower_ascii other, same]
  terminator text other same := by
    rw [← is_terminator_lower_ascii text, ← is_terminator_lower_ascii other, same]
  heading text other same := by
    rw [← heading_lower_ascii text, ← heading_lower_ascii other, same]
  reading registry policy text other same := by
    rw [← Command.outlines_of_folded, ← Command.outlines_of_folded, ← Command.read_line_folded,
      ← Command.read_line_folded, same]

inductive SameButCase (options : Options) (source other : String) : Prop
  | rejected {fault : SourceFault} :
      Script.compile options source = .error fault → Script.compile options other = .error fault →
        SameButCase options source other
  /-- The rows show that commands, names and depths are the same. -/
  | translated {script otherScript : Script} {rows otherRows : List (Nat × Phrase)} :
      Script.compile options source = .ok script →
      Script.compile options other = .ok otherScript →
      script.procedures = otherScript.procedures →
      script.lines.map Text.lowerAscii = otherScript.lines.map Text.lowerAscii →
      script.lines = rows.map (Phrase.line options) →
      otherScript.lines = otherRows.map (Phrase.line options) →
      rows.map (fun row => (row.1, row.2.folded)) =
        otherRows.map (fun row => (row.1, row.2.folded)) →
        SameButCase options source other

theorem lower_ascii_line (options : Options) (row : Nat × Phrase) :
    Text.lowerAscii (Phrase.line options row) =
      Text.lowerAscii (Phrase.line options (row.1, row.2.folded)) := by
  rw [Phrase.line, Phrase.line, Statement.layout, Statement.layout, Text.lower_ascii_append,
    Text.lower_ascii_append]
  exact congrArg _ (Phrase.lower_ascii_text_folded row.2).symm

theorem lower_ascii_lines (options : Options) (rows : List (Nat × Phrase)) :
    (rows.map (Phrase.line options)).map Text.lowerAscii =
      (rows.map fun row => (row.1, row.2.folded)).map
        fun row => Text.lowerAscii (Phrase.line options row) := by
  rw [List.map_map, List.map_map]
  exact List.map_congr_left fun row _ => lower_ascii_line options row

namespace Script

/-- A program is translated alike in every mixture of ASCII cases. -/
theorem compile_case_insensitive (options : Options) (source other : String)
    (same : Text.lowerAscii source = Text.lowerAscii other) :
    SameButCase options source other := by
  have lowered : (executableLines source).map Line.folded =
      (executableLines other).map Line.folded := by
    rw [← executable_lines_lower_ascii, ← executable_lines_lower_ascii, same]
  have keys : (executableLines source).map letterLikeness.lineKey =
      (executableLines other).map letterLikeness.lineKey := by
    have shown : letterLikeness.lineKey = Line.text ∘ Line.folded := rfl
    rw [shown, ← List.map_map, ← List.map_map, lowered]
  cases letterLikeness.compile_together keys with
  | @compiled items others compiled otherCompiled names forms =>
      have rows := lines_of_items options items
      have otherRows := lines_of_items options others
      refine .translated (compiled options) (otherCompiled options) names ?_ rows otherRows
        (forms options.split)
      have folded := forms options.split
      rw [rows, otherRows, lower_ascii_lines, lower_ascii_lines]
      exact congrArg _ folded
  | @stopped index header otherHeader defect found otherFound _ _ failed otherFailed =>
      -- Lowering keeps the numbers of the lines, so the headers have the same number.
      have headers := congrArg (·[index]?) lowered
      simp only [List.getElem?_map, found, otherFound, Option.map_some, Option.some.injEq]
        at headers
      have numbers : header.number = otherHeader.number := by
        simpa [Line.folded] using congrArg Line.number headers
      refine .rejected (failed options) ?_
      rw [numbers]
      exact otherFailed options

/-- A sigma that ends a name behind a capital, a literal, and a word that names
nothing. -/
theorem compile_case_insensitive_sigma :
    Text.lowerAscii "TO AΣ :X\nFd :X\nEND\nRepeat 2 [aς \"Hi Boo]" =
        Text.lowerAscii "to aΣ :x\nfD :X\nend\nREPEAT 2 [Aς \"hi boo]" ∧
      SameButCase {} "TO AΣ :X\nFd :X\nEND\nRepeat 2 [aς \"Hi Boo]"
        "to aΣ :x\nfD :X\nend\nREPEAT 2 [Aς \"hi boo]" :=
  ⟨by decide +kernel, compile_case_insensitive {} _ _ (by decide +kernel)⟩

end Script

end TurtleLang
