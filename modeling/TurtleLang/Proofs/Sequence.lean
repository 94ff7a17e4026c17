import TurtleLang.Proofs.BlockLocality
import TurtleLang.Proofs.Words

/-!
Commands in sequence. A line of its own takes all its other words as inputs, and a
command in a block takes as many as it declares. Where a line has exactly as many as
its command declares, its tokens are read as the same command wherever they stand,
and nothing behind them is touched. Such lines can be put one behind the other in a
block and behind it, and are read there as they are read one by one; and a loop over
such lines is such a line again.
-/
namespace TurtleLang.Text

set_option autoImplicit false

def BracketFree (text : String) : Prop :=
  ∀ character ∈ text.toList, character ≠ '[' ∧ character ≠ ']'

instance (text : String) : Decidable (BracketFree text) :=
  List.decidableBAll _ _

theorem words_from_subset {characters pending word : List Char}
    (member : word ∈ wordsFrom pending characters) :
    ∀ character ∈ word, character ∈ pending ∨ character ∈ characters := by
  have finished : ∀ {begun : List Char}, word ∈ finishWord begun →
      ∀ character ∈ word, character ∈ begun := by
    intro begun here character inside
    unfold finishWord at here
    split at here
    · cases here
    · rw [List.mem_singleton] at here
      rw [here] at inside
      exact List.mem_reverse.mp inside
  induction characters generalizing pending with
  | nil => exact fun character inside => .inl (finished member character inside)
  | cons next characters ih =>
      intro character inside
      rw [wordsFrom] at member
      split at member
      · rcases List.mem_append.mp member with here | later
        · exact .inl (finished here character inside)
        · rcases ih later character inside with none | found
          · cases none
          · exact .inr (List.mem_cons_of_mem next found)
      · rcases ih member character inside with begun | found
        · rcases List.mem_cons.mp begun with rfl | before
          · exact .inr (by simp)
          · exact .inl before
        · exact .inr (List.mem_cons_of_mem next found)

theorem words_subset {text word : String} (member : word ∈ words text) :
    ∀ character ∈ word.toList, character ∈ text.toList := by
  unfold words at member
  obtain ⟨characters, cut, rfl⟩ := List.mem_map.mp member
  intro character inside
  rw [String.toList_ofList] at inside
  rcases words_from_subset cut character inside with none | found
  · cases none
  · exact found

end TurtleLang.Text

namespace TurtleLang.Token

set_option autoImplicit false

open Text (BracketFree)

theorem is_word_of_words {text word : String} (free : BracketFree text)
    (member : word ∈ Text.words text) : IsWord word := by
  have solid := Text.words_solid member
  refine ⟨solid.1, fun character inside => ?_⟩
  obtain ⟨notOpening, notClosing⟩ := free character (Text.words_subset member character inside)
  simp [isPlain, solid.2 character inside, notOpening, notClosing]

theorem flat_map_scan_words {words : List String} (plain : ∀ word ∈ words, IsWord word) :
    words.flatMap scan = words.map .word := by
  induction words with
  | nil => rfl
  | cons word words ih =>
      rw [List.flatMap_cons, scan_word (plain word (by simp)), List.map_cons,
        ih fun other member => plain other (List.mem_cons_of_mem word member)]
      rfl

theorem scan_of_bracket_free {text : String} (free : BracketFree text) :
    scan text = (Text.words text).map .word := by
  rw [scan_eq_flat_map_words]
  exact flat_map_scan_words fun word member => is_word_of_words free member

theorem scan_loop {count : String} (word : IsWord count) (inside after : String) :
    scan ("repeat " ++ count ++ " [" ++ inside ++ "]" ++ after) =
      .word "repeat" :: .word count :: .opening :: (scan inside ++ .closing :: scan after) := by
  have keyword : IsWord "repeat" := by decide
  have split : "repeat " ++ count ++ " [" ++ inside ++ "]" ++ after =
      "repeat" ++ (" " ++ (count ++ (" " ++ ("[" ++ (inside ++ ("]" ++ after)))))) := by
    simp [← String.append_assoc]
  rw [split, scan_append "repeat" _ (by simp [isPlain, Text.isBlank]), scan_word keyword,
    scan_space, scan_append count _ (by simp [isPlain, Text.isBlank]), scan_word word, scan_space,
    scan_opening, scan_append inside _ (by simp [isPlain]), scan_closing]
  rfl

end TurtleLang.Token

namespace TurtleLang.Command

set_option autoImplicit false

open Text (BracketFree)

/-- Tokens that are read as the given commands, whatever stands behind them. -/
def ReadsAs (registry : Registry) (tokens : List Token) (commands : List Command) : Prop :=
  ∀ nested rest more left, Reads registry nested rest more left →
    Reads registry nested (tokens ++ rest) (commands ++ more) left

variable {registry : Registry}

theorem reads_as_nil : ReadsAs registry [] [] :=
  fun _ _ _ _ reads => reads

theorem reads_as_append {front back : List Token} {commands more : List Command}
    (frontReads : ReadsAs registry front commands) (backReads : ReadsAs registry back more) :
    ReadsAs registry (front ++ back) (commands ++ more) := by
  intro nested rest others left reads
  rw [List.append_assoc, List.append_assoc]
  exact frontReads nested _ _ left (backReads nested rest others left reads)

theorem reads_as_flat_map {Piece : Type} {tokens : Piece → List Token}
    {commands : Piece → List Command} {pieces : List Piece}
    (members : ∀ piece ∈ pieces, ReadsAs registry (tokens piece) (commands piece)) :
    ReadsAs registry (pieces.flatMap tokens) (pieces.flatMap commands) := by
  induction pieces with
  | nil => exact reads_as_nil
  | cons piece pieces ih =>
      rw [List.flatMap_cons, List.flatMap_cons]
      apply reads_as_append (members piece (by simp))
      exact ih fun other member => members other (List.mem_cons_of_mem piece member)

theorem take_inputs_words (words : List String) (rest : List Token) :
    takeInputs words.length (words.map .word ++ rest) = (words.map inputOf, rest) := by
  induction words with
  | nil => cases rest <;> rfl
  | cons word words ih =>
      rw [List.map_cons, List.cons_append, List.length_cons, takeInputs, ih]
      rfl

theorem reads_as_primitive {word : String} {words : List String} {operation : Primitive}
    (plain : Text.lower word ≠ loopWord)
    (named : Primitive.ofName? (Text.lower word) = some operation)
    (exact : words.length = operation.arity) :
    ReadsAs registry (.word word :: words.map .word)
      [.primitive operation (words.map inputOf)] := by
  intro nested rest more left reads
  have taken := take_inputs_words words rest
  rw [exact] at taken
  exact .primitive plain named taken reads

theorem reads_as_call {word : String} {words : List String} {procedure : Procedure}
    (plain : Text.lower word ≠ loopWord)
    (unnamed : Primitive.ofName? (Text.lower word) = none)
    (known : registry.lookup (Text.lower word) = some procedure)
    (exact : words.length = procedure.parameters.length) :
    ReadsAs registry (.word word :: words.map .word)
      [.call (Text.lower word) (words.map inputOf)] := by
  intro nested rest more left reads
  have taken := take_inputs_words words rest
  rw [exact] at taken
  exact .call plain unnamed known taken reads

/-- The body ends at its closing bracket, because the tokens inside are read without
a look at what stands behind them. -/
theorem reads_as_loop {word : String} (count : String) {inside : List Token} {body : List Command}
    (opens : Text.lower word = loopWord) (insideReads : ReadsAs registry inside body) :
    ReadsAs registry (.word word :: .word count :: .opening :: (inside ++ [.closing]))
      [.loop (inputOf count) body] := by
  intro nested rest more left reads
  have closed := insideReads true (.closing :: rest) [] rest (.close rest)
  rw [List.append_nil] at closed
  simp only [List.cons_append, List.append_assoc, List.nil_append]
  exact .loopBlock opens closed reads

theorem read_all_of_reads_as {tokens : List Token} {commands : List Command}
    (reads : ReadsAs registry tokens commands) : readAll registry tokens = commands := by
  have whole := reads false [] [] [] (.done false)
  rw [List.append_nil, List.append_nil] at whole
  rw [readAll, read_commands_of_reads whole]

theorem read_line_of_scan {line word count : String} {rest : List Token}
    (opens : Text.lower word = loopWord)
    (scanned : Token.scan line = .word word :: .word count :: rest) :
    readLine registry .command line = readAll registry (Token.scan line) := by
  obtain ⟨others, cut⟩ := Token.words_of_scan scanned
  rw [readLine, cut]
  dsimp only
  rw [if_pos opens]

/-- A command line with as many words behind the first one as its command declares
inputs, or a loop over such lines. -/
inductive ArityExact (registry : Registry) : String → Prop
  | primitive {line word : String} {words : List String} {operation : Primitive} :
      BracketFree line → Text.words line = word :: words → Text.lower word ≠ loopWord →
      Primitive.ofName? (Text.lower word) = some operation → words.length = operation.arity →
        ArityExact registry line
  | call {line word : String} {words : List String} {procedure : Procedure} :
      BracketFree line → Text.words line = word :: words → Text.lower word ≠ loopWord →
      Primitive.ofName? (Text.lower word) = none →
      registry.lookup (Text.lower word) = some procedure →
      words.length = procedure.parameters.length →
        ArityExact registry line
  | loop {count : String} {lines : List String} : Token.IsWord count →
      (∀ line ∈ lines, ArityExact registry line) →
        ArityExact registry ("repeat " ++ count ++ " [" ++ " ".intercalate lines ++ "]")

theorem kept_inputs_exact {operation : Primitive} {words : List String}
    (exact : words.length = operation.arity) :
    keptInputs operation (words.map inputOf) = words.map inputOf := by
  unfold keptInputs
  split
  · next none =>
      rw [none, List.length_eq_zero_iff] at exact
      rw [exact]
      rfl
  · rfl

theorem read_line_loop {count inside after : String} {body more : List Command}
    (word : Token.IsWord count) (insideReads : ReadsAs registry (Token.scan inside) body)
    (afterReads : ReadsAs registry (Token.scan after) more) :
    readLine registry .command ("repeat " ++ count ++ " [" ++ inside ++ "]" ++ after) =
        .loop (inputOf count) body :: more ∧
      ReadsAs registry (Token.scan ("repeat " ++ count ++ " [" ++ inside ++ "]" ++ after))
        (.loop (inputOf count) body :: more) := by
  have opens : Text.lower "repeat" = loopWord := by decide
  have scanned := Token.scan_loop word inside after
  have reads := reads_as_append (reads_as_loop count opens insideReads) afterReads
  simp only [List.cons_append, List.append_assoc, List.nil_append] at reads
  rw [read_line_of_scan opens scanned, scanned]
  exact ⟨read_all_of_reads_as reads, reads⟩

/-- What one exact line is read as on its own, its tokens are read as anywhere. -/
theorem reads_as_of_arity_exact {line : String} (exact : ArityExact registry line) :
    ReadsAs registry (Token.scan line) (readLine registry .command line) := by
  induction exact with
  | @primitive line word words operation free cut plain named count =>
      have read : readLine registry .command line =
          [.primitive operation (words.map inputOf)] := by
        rw [readLine, cut]
        dsimp only
        rw [if_neg plain, readPlain]
        simp only [named, kept_inputs_exact count]
      rw [Token.scan_of_bracket_free free, cut, read]
      exact reads_as_primitive plain named count
  | @call line word words procedure free cut plain unnamed known count =>
      have contained : registry.contains (Text.lower word) = true := by
        rw [Registry.contains, known]
        rfl
      have read : readLine registry .command line =
          [.call (Text.lower word) (words.map inputOf)] := by
        rw [readLine, cut]
        dsimp only
        rw [if_neg plain, readPlain]
        simp only [unnamed, contained, if_true]
      rw [Token.scan_of_bracket_free free, cut, read]
      exact reads_as_call plain unnamed known count
  | @loop count lines word _ ih =>
      have body : ReadsAs registry (Token.scan (" ".intercalate lines))
          (lines.flatMap (readLine registry .command)) := by
        rw [Token.scan_intercalate]
        exact reads_as_flat_map ih
      have behind : ReadsAs registry (Token.scan "") [] := reads_as_nil
      obtain ⟨read, reads⟩ := read_line_loop word body behind
      rw [String.append_empty] at read reads
      rw [read]
      exact reads

theorem reads_as_exact_lines {lines : List String}
    (exact : ∀ line ∈ lines, ArityExact registry line) :
    ReadsAs registry (Token.scan (" ".intercalate lines))
      (lines.flatMap (readLine registry .command)) := by
  rw [Token.scan_intercalate]
  exact reads_as_flat_map fun line member => reads_as_of_arity_exact (exact line member)

/-- Exact lines inside the block of a loop and behind it are read as they are read one
by one. -/
theorem exact_lines_read_alike (registry : Registry) {count : String} (word : Token.IsWord count)
    {lines others : List String} (exact : ∀ line ∈ lines, ArityExact registry line)
    (othersExact : ∀ line ∈ others, ArityExact registry line) :
    readLine registry .command
        ("repeat " ++ count ++ " [" ++ " ".intercalate lines ++ "] " ++ " ".intercalate others) =
      .loop (inputOf count) (lines.flatMap (readLine registry .command)) ::
        others.flatMap (readLine registry .command) := by
  have behind : ReadsAs registry (Token.scan (" " ++ " ".intercalate others))
      (others.flatMap (readLine registry .command)) := by
    rw [Token.scan_space]
    exact reads_as_exact_lines othersExact
  have bracket : "] " = "]" ++ " " := rfl
  rw [bracket, ← String.append_assoc, String.append_assoc]
  exact (read_line_loop word (reads_as_exact_lines exact) behind).1

/-- An input that is a command name, a loop in the block with a call in capitals, and an
operation behind the block. -/
theorem exact_lines_read_alike_nested :
    readLine ⟨[⟨"tri", ["a", "b"], []⟩]⟩ .command "repeat 2 [fd fd repeat :n [TRI rt 1]] pu" =
      .loop "2" (["fd fd", "repeat :n [TRI rt 1]"].flatMap
          (readLine ⟨[⟨"tri", ["a", "b"], []⟩]⟩ .command)) ::
        ["pu"].flatMap (readLine ⟨[⟨"tri", ["a", "b"], []⟩]⟩ .command) := by
  have forward : ArityExact ⟨[⟨"tri", ["a", "b"], []⟩]⟩ "fd fd" :=
    .primitive (by decide) (show _ = "fd" :: ["fd"] by decide) (by decide)
      (show _ = some .forward by decide) rfl
  have call : ArityExact ⟨[⟨"tri", ["a", "b"], []⟩]⟩ "TRI rt 1" :=
    .call (by decide) (show _ = "TRI" :: ["rt", "1"] by decide) (by decide) (by decide)
      (show _ = some ⟨"tri", ["a", "b"], []⟩ by decide) rfl
  have inner : ArityExact ⟨[⟨"tri", ["a", "b"], []⟩]⟩ "repeat :n [TRI rt 1]" :=
    .loop (show Token.IsWord ":n" by decide)
      (show ∀ line ∈ ["TRI rt 1"], _ by simpa using call)
  have penUp : ArityExact ⟨[⟨"tri", ["a", "b"], []⟩]⟩ "pu" :=
    .primitive (by decide) (show _ = "pu" :: [] by decide) (by decide)
      (show _ = some .penUp by decide) rfl
  have spelled : "repeat 2 [fd fd repeat :n [TRI rt 1]] pu" =
      "repeat " ++ "2" ++ " [" ++ " ".intercalate ["fd fd", "repeat :n [TRI rt 1]"] ++ "] " ++
        " ".intercalate ["pu"] := by decide
  rw [spelled]
  exact exact_lines_read_alike _ (by decide) (by simpa using ⟨forward, inner⟩)
    (by simpa using penUp)

end TurtleLang.Command
