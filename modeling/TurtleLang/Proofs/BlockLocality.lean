import TurtleLang.Command.Line
import TurtleLang.Proofs.Balance
import TurtleLang.Proofs.Lexing
import TurtleLang.Proofs.Reading

/-!
A block is read from its own tokens alone. Every reader that consumes part of a
balanced list leaves a balanced list, and putting a closing bracket and any other
tokens behind the list only puts them behind what is left. A nested block
therefore ends exactly at its own closing bracket, and its commands are those of
its inside read as a token list of its own.
-/
namespace TurtleLang.Command

set_option autoImplicit false

open Token (Balanced)

theorem take_inputs_rest_balanced (count : Nat) {tokens : List Token}
    (balanced : Balanced tokens) : Balanced (takeInputs count tokens).2 := by
  induction count generalizing tokens with
  | zero => exact balanced
  | succ count ih =>
      cases balanced with
      | empty => exact .empty
      | word text restBalanced => exact ih restBalanced
      | group innerBalanced afterBalanced =>
          simp only [takeInputs, Token.take_group_of_balanced innerBalanced]
          exact ih afterBalanced

theorem take_inputs_before_closing (count : Nat) {tokens : List Token}
    (balanced : Balanced tokens) (rest : List Token) :
    takeInputs count (tokens ++ .closing :: rest) =
      ((takeInputs count tokens).1, (takeInputs count tokens).2 ++ .closing :: rest) := by
  induction count generalizing tokens with
  | zero => rfl
  | succ count ih =>
      cases balanced with
      | empty => rfl
      | word text restBalanced => simp only [List.cons_append, takeInputs, ih restBalanced]
      | group innerBalanced afterBalanced =>
          simp only [List.cons_append, List.append_assoc, takeInputs,
            Token.take_group_of_balanced innerBalanced, ih afterBalanced]

theorem take_unknown_rest_balanced (registry : Registry) {tokens : List Token}
    (balanced : Balanced tokens) : Balanced (takeUnknown registry tokens).2 := by
  fun_induction takeUnknown registry tokens with
  | case1 => exact balanced
  | case2 word rest unclaimed texts after taken ih =>
      have restBalanced := ih (Token.balanced_tail_of_word balanced)
      rwa [taken] at restBalanced
  | case3 rest texts after taken ih =>
      obtain ⟨inner, next, rfl, innerBalanced, nextBalanced⟩ :=
        Token.balanced_split_of_opening balanced
      rw [Token.take_group_of_balanced innerBalanced] at taken ih
      have restBalanced := ih nextBalanced
      rwa [taken] at restBalanced
  | case4 => exact balanced

theorem take_unknown_before_closing (registry : Registry) {tokens : List Token}
    (balanced : Balanced tokens) (rest : List Token) :
    takeUnknown registry (tokens ++ .closing :: rest) =
      ((takeUnknown registry tokens).1, (takeUnknown registry tokens).2 ++ .closing :: rest) := by
  fun_induction takeUnknown registry tokens with
  | case1 word others claimed =>
      rw [List.cons_append, takeUnknown, if_pos claimed]
  | case2 word others unclaimed texts after taken ih =>
      have othersTaken := ih (Token.balanced_tail_of_word balanced)
      rw [taken] at othersTaken
      rw [List.cons_append, takeUnknown, if_neg unclaimed, othersTaken]
  | case3 others texts after taken ih =>
      obtain ⟨inner, next, rfl, innerBalanced, nextBalanced⟩ :=
        Token.balanced_split_of_opening balanced
      rw [Token.take_group_of_balanced innerBalanced] at taken ih
      have nextTaken := ih nextBalanced
      rw [taken] at nextTaken
      rw [List.cons_append, List.append_assoc, List.cons_append, takeUnknown,
        Token.take_group_of_balanced innerBalanced, Token.take_group_of_balanced innerBalanced,
        nextTaken]
  | case4 others notWord notOpening =>
      cases balanced with
      | empty => rw [List.nil_append, takeUnknown] <;> simp
      | word text _ => exact absurd rfl (notWord text _)
      | group _ _ => exact absurd rfl (notOpening _)

theorem take_simple_rest_balanced (registry : Registry) (word : String) {tokens : List Token}
    (balanced : Balanced tokens) : Balanced (takeSimple registry word tokens).2 := by
  unfold takeSimple
  dsimp only
  split
  · exact take_inputs_rest_balanced _ balanced
  · split
    · exact take_inputs_rest_balanced _ balanced
    · exact take_unknown_rest_balanced registry balanced

theorem take_simple_before_closing (registry : Registry) (word : String) {tokens : List Token}
    (balanced : Balanced tokens) (rest : List Token) :
    takeSimple registry word (tokens ++ .closing :: rest) =
      ((takeSimple registry word tokens).1,
        (takeSimple registry word tokens).2 ++ .closing :: rest) := by
  unfold takeSimple
  dsimp only
  split
  · rw [take_inputs_before_closing _ balanced]
  · split
    · rw [take_inputs_before_closing _ balanced]
    · rw [take_unknown_before_closing registry balanced]

/-- One reading serves the token list on its own and, with a closing bracket
behind it, as the inside of a block that anything may follow. -/
def ReadsLocally (registry : Registry) (inside : List Token) : Prop :=
  ∃ commands, Reads registry false inside commands [] ∧
    ∀ rest, Reads registry true (inside ++ .closing :: rest) commands rest

variable {registry : Registry}

theorem reads_locally_empty : ReadsLocally registry [] :=
  ⟨[], .done false, fun rest => .close rest⟩

theorem reads_locally_group {inner after : List Token} (innerBalanced : Balanced inner)
    (afterLocal : ReadsLocally registry after) :
    ReadsLocally registry (.opening :: (inner ++ .closing :: after)) := by
  obtain ⟨more, readMore, readMoreNested⟩ := afterLocal
  refine ⟨.unknown (Token.groupText inner) :: more,
    .group (Token.take_group_of_balanced innerBalanced after) readMore, fun rest => ?_⟩
  rw [List.cons_append, List.append_assoc, List.cons_append]
  exact .group (Token.take_group_of_balanced innerBalanced _) (readMoreNested rest)

theorem reads_locally_loop_block {word count : String} {inner after : List Token}
    (opens : Text.lower word = loopWord) (innerLocal : ReadsLocally registry inner)
    (afterLocal : ReadsLocally registry after) :
    ReadsLocally registry
      (.word word :: .word count :: .opening :: (inner ++ .closing :: after)) := by
  obtain ⟨body, _, readBody⟩ := innerLocal
  obtain ⟨more, readMore, readMoreNested⟩ := afterLocal
  refine ⟨.loop (inputOf count) body :: more,
    .loopBlock opens (readBody after) readMore, fun rest => ?_⟩
  simp only [List.cons_append, List.append_assoc]
  exact .loopBlock opens (readBody (after ++ .closing :: rest)) (readMoreNested rest)

theorem reads_locally_loop_bare {word count : String} {after : List Token}
    (opens : Text.lower word = loopWord) (bare : ∀ inside, after ≠ .opening :: inside)
    (afterLocal : ReadsLocally registry after) :
    ReadsLocally registry (.word word :: .word count :: after) := by
  obtain ⟨more, readMore, readMoreNested⟩ := afterLocal
  refine ⟨.loop (inputOf count) [] :: more, .loopBare opens bare readMore, fun rest => ?_⟩
  apply Reads.loopBare opens
  · cases after with
    | nil => simp
    | cons token after =>
        intro inside same
        exact bare after (congrArg (· :: after) (List.cons.inj same).1)
  · exact readMoreNested rest

theorem reads_locally_loop_alone {word : String} {after : List Token}
    (opens : Text.lower word = loopWord) (alone : ∀ count others, after ≠ .word count :: others)
    (afterLocal : ReadsLocally registry after) : ReadsLocally registry (.word word :: after) := by
  obtain ⟨more, readMore, readMoreNested⟩ := afterLocal
  refine ⟨.unknown word :: more, .loopAlone opens alone readMore, fun rest => ?_⟩
  apply Reads.loopAlone opens
  · cases after with
    | nil => simp
    | cons token after =>
        intro count others same
        exact alone count after (congrArg (· :: after) (List.cons.inj same).1)
  · exact readMoreNested rest

theorem reads_locally_simple {word : String} {tail : List Token}
    (plain : Text.lower word ≠ loopWord) (tailBalanced : Balanced tail)
    (restLocal : ReadsLocally registry (takeSimple registry word tail).2) :
    ReadsLocally registry (.word word :: tail) := by
  obtain ⟨more, readMore, readMoreNested⟩ := restLocal
  refine ⟨(takeSimple registry word tail).1 :: more, reads_simple plain readMore, fun rest => ?_⟩
  have extended := take_simple_before_closing registry word tailBalanced rest
  have sameCommand : (takeSimple registry word (tail ++ .closing :: rest)).1 =
      (takeSimple registry word tail).1 := by rw [extended]
  rw [List.cons_append, ← sameCommand]
  apply reads_simple plain
  rw [extended]
  exact readMoreNested rest

/-- The induction is on a bound of the length, because one command may take any
number of tokens. -/
theorem reads_locally_of_balanced (bound : Nat) {inside : List Token}
    (short : inside.length ≤ bound) (balanced : Balanced inside) :
    ReadsLocally registry inside := by
  induction bound generalizing inside with
  | zero =>
      have none : inside = [] := List.length_eq_zero_iff.mp (Nat.le_zero.mp short)
      subst none
      exact reads_locally_empty
  | succ bound ih =>
      cases balanced with
      | empty => exact reads_locally_empty
      | @group inner after innerBalanced afterBalanced =>
          simp only [List.length_cons, List.length_append] at short
          exact reads_locally_group innerBalanced (ih (by omega) afterBalanced)
      | @word word tail tailBalanced =>
          have tailShort : tail.length ≤ bound := Nat.le_of_succ_le_succ short
          by_cases opens : Text.lower word = loopWord
          · cases tailBalanced with
            | empty => exact reads_locally_loop_alone opens (by simp) reads_locally_empty
            | group innerBalanced afterBalanced =>
                exact reads_locally_loop_alone opens (by simp)
                  (ih tailShort (.group innerBalanced afterBalanced))
            | @word count after afterBalanced =>
                simp only [List.length_cons] at tailShort
                cases afterBalanced with
                | empty => exact reads_locally_loop_bare opens (by simp) reads_locally_empty
                | word text restBalanced =>
                    exact reads_locally_loop_bare opens (by simp)
                      (ih (by omega) (restBalanced.word text))
                | group innerBalanced afterBalanced =>
                    simp only [List.length_cons, List.length_append] at tailShort
                    exact reads_locally_loop_block opens (ih (by omega) innerBalanced)
                      (ih (by omega) afterBalanced)
          · have shorter := take_simple_rest_length registry word tail
            exact reads_locally_simple opens tailBalanced
              (ih (by omega) (take_simple_rest_balanced registry word tailBalanced))

theorem read_block_of_balanced {inside : List Token} (balanced : Balanced inside)
    (rest : List Token) :
    readBlock registry (inside ++ .closing :: rest) = (readAll registry inside, rest) := by
  have reading : ReadsLocally registry inside :=
    reads_locally_of_balanced inside.length (Nat.le_refl _) balanced
  obtain ⟨commands, alone, nested⟩ := reading
  rw [readBlock, read_commands_of_reads (nested rest), readAll, read_commands_of_reads alone]

theorem read_all_loop_block {word : String} (count : String) (opens : Text.lower word = loopWord)
    {inside : List Token} (balanced : Balanced inside) (rest : List Token) :
    readAll registry (.word word :: .word count :: .opening :: (inside ++ .closing :: rest)) =
      .loop (inputOf count) (readAll registry inside) :: readAll registry rest := by
  have body : Reads registry true (inside ++ .closing :: rest) (readAll registry inside) rest :=
    reads_iff.mpr (read_block_of_balanced balanced rest)
  have whole : Reads registry false
      (.word word :: .word count :: .opening :: (inside ++ .closing :: rest))
      (.loop (inputOf count) (readAll registry inside) :: readAll registry rest)
      (readCommands registry false rest).val.2 :=
    .loopBlock opens body (reads_read_commands registry false rest)
  exact congrArg Prod.fst (read_commands_of_reads whole)

/-- A nested block gives the commands of its inside read alone and leaves exactly
what follows its closing bracket. So a loop line is one loop over the commands of
its inside, followed by the commands of the tokens behind it, whether or not the
brackets of those are balanced. -/
theorem block_reads_own_tokens (registry : Registry) {inside : List Token}
    (balanced : Balanced inside) (rest : List Token) :
    readBlock registry (inside ++ .closing :: rest) = (readAll registry inside, rest) ∧
      (∀ word count, Text.lower word = loopWord →
        readAll registry
            (.word word :: .word count :: .opening :: (inside ++ .closing :: rest)) =
          .loop (inputOf count) (readAll registry inside) :: readAll registry rest) ∧
      ∀ line word count, Text.lower word = loopWord →
        Token.scan line =
          .word word :: .word count :: .opening :: (inside ++ .closing :: rest) →
        readLine registry .command line =
          .loop (inputOf count) (readAll registry inside) :: readAll registry rest := by
  refine ⟨read_block_of_balanced balanced rest,
    fun word count opens => read_all_loop_block count opens balanced rest, ?_⟩
  intro line word count opens scanned
  obtain ⟨others, cut⟩ := Token.words_of_scan scanned
  rw [readLine, cut]
  dsimp only
  rw [if_pos opens, scanned]
  exact read_all_loop_block count opens balanced rest

/-- An inner loop, an operation cut short by the closing bracket, and a stray
bracket behind the block. -/
theorem block_reads_own_tokens_nested :
    readLine Registry.empty .command "Repeat 2 [repeat 3 [fd 10] rt] ] pu" =
      .loop "2" (readAll Registry.empty
          [.word "repeat", .word "3", .opening, .word "fd", .word "10", .closing, .word "rt"]) ::
        readAll Registry.empty [.closing, .word "pu"] :=
  (block_reads_own_tokens Registry.empty (by decide) [.closing, .word "pu"]).2.2
    "Repeat 2 [repeat 3 [fd 10] rt] ] pu" "Repeat" "2" (by decide) (by decide)

end TurtleLang.Command
