import Mathlib.Data.List.Forall2
import TurtleLang.Proofs.Arity
import TurtleLang.Proofs.SplitPolicies

/-!
What a line is when blocks are cut word by word. The block of a loop is the text behind its
count, without one bracket that opens it and one that closes it; each of its words is a command
of its own, which takes no inputs and has no body. A loop therefore holds no loop, however many
brackets or loop words stand in its block, and none of its statements is more than one level
deeper than the line.
-/
namespace TurtleLang.Command

set_option autoImplicit false

/-- The command that one word is by itself: an operation or a call where the word names one, and
otherwise the word, not understood. A loop needs a count, so the word that opens one is not
understood either, and no definition changes that. -/
inductive Alone (registry : Registry) (word : String) : Command → Prop
  | opener : Text.lower word = loopWord → Alone registry word (.unknown word)
  | primitive {operation : Primitive} : Text.lower word ≠ loopWord →
      Primitive.ofName? (Text.lower word) = some operation →
        Alone registry word (.primitive operation [])
  | call : Text.lower word ≠ loopWord → Primitive.ofName? (Text.lower word) = none →
      registry.contains (Text.lower word) = true →
        Alone registry word (.call (Text.lower word) [])
  | unknown : Text.lower word ≠ loopWord → Primitive.ofName? (Text.lower word) = none →
      registry.contains (Text.lower word) = false → Alone registry word (.unknown word)

/-- The inner characters are the given ones without an opening bracket at their start and without
a closing bracket at the end of what is left. -/
def Stripped (characters inner : List Char) : Prop :=
  ∃ front back, characters = front ++ inner ++ back ∧
    (front = ['['] ∨ front = [] ∧ characters.head? ≠ some '[') ∧
    (back = [']'] ∨ back = [] ∧ inner.getLast? ≠ some ']')

theorem drop_opening_other {characters : List Char} (other : characters.head? ≠ some '[') :
    dropOpening characters = characters := by
  unfold dropOpening
  split
  · exact absurd rfl other
  · rfl

theorem drop_closing_other {characters : List Char} (other : characters.getLast? ≠ some ']') :
    dropClosing characters = characters := by
  unfold dropClosing
  split
  · next rest reversed =>
      rw [List.reverse_eq_cons_iff] at reversed
      exact absurd (by rw [reversed]; simp) other
  · rfl

theorem drop_opening_split (characters : List Char) :
    ∃ front, characters = front ++ dropOpening characters ∧
      (front = ['['] ∨ front = [] ∧ characters.head? ≠ some '[') := by
  by_cases opened : characters.head? = some '['
  · obtain ⟨rest, whole⟩ := List.head?_eq_some_iff.mp opened
    rw [whole]
    exact ⟨['['], rfl, .inl rfl⟩
  · exact ⟨[], (drop_opening_other opened).symm, .inr ⟨rfl, opened⟩⟩

theorem drop_closing_split (characters : List Char) :
    ∃ back, characters = dropClosing characters ++ back ∧
      (back = [']'] ∨ back = [] ∧ (dropClosing characters).getLast? ≠ some ']') := by
  by_cases closed : characters.getLast? = some ']'
  · obtain ⟨rest, whole⟩ := List.getLast?_eq_some_iff.mp closed
    rw [whole, drop_closing_append]
    exact ⟨[']'], rfl, .inl rfl⟩
  · refine ⟨[], ?_, .inr ⟨rfl, ?_⟩⟩
    · rw [drop_closing_other closed, List.append_nil]
    · rw [drop_closing_other closed]
      exact closed

/-- Stripping gives one result, and it is the one that the reader works on. -/
theorem stripped_iff {characters inner : List Char} :
    Stripped characters inner ↔ inner = dropClosing (dropOpening characters) := by
  constructor
  · intro ⟨front, back, whole, opening, closing⟩
    have opened : dropOpening characters = inner ++ back := by
      rcases opening with bracket | ⟨none, other⟩
      · rw [whole, bracket]
        rfl
      · rw [drop_opening_other other, whole, none, List.nil_append]
    rw [opened]
    rcases closing with bracket | ⟨none, other⟩
    · rw [bracket, drop_closing_append]
    · rw [none, List.append_nil, drop_closing_other other]
  · intro same
    obtain ⟨front, opened, opening⟩ := drop_opening_split characters
    obtain ⟨back, closed, closing⟩ := drop_closing_split (dropOpening characters)
    rw [← same] at closed closing
    refine ⟨front, back, ?_, opening, closing⟩
    rw [List.append_assoc, ← closed]
    exact opened

theorem kept_inputs_nil (operation : Primitive) : keptInputs operation [] = [] :=
  ite_self []

theorem read_word_alone (registry : Registry) {word : String} (solid : Text.IsSolid word) :
    Alone registry word (readWord registry word) := by
  unfold readWord
  split
  · next opens => exact .opener opens
  · next noLoop =>
      unfold readPlain
      dsimp only
      split
      · next operation named =>
          rw [List.map_nil, kept_inputs_nil]
          exact .primitive noLoop named
      · next unnamed =>
          split
          · next known => exact .call noLoop unnamed known
          · next unknown =>
              rw [Text.trim_of_words (Text.words_of_solid solid)]
              exact .unknown noLoop unnamed (by simpa using unknown)

def Bodiless (command : Command) : Prop :=
  ∀ count body, command ≠ .loop count body

theorem alone_bodiless {registry : Registry} {word : String} {command : Command}
    (alone : Alone registry word command) : command.Bodiless := by
  intro count body
  cases alone <;> simp

theorem statements_bodiless {command : Command} (bodiless : command.Bodiless) (depth : Nat) :
    ∀ statement ∈ statements depth command, statement.depth = depth := by
  cases command with
  | loop count body => exact absurd rfl (bodiless count body)
  | primitive operation inputs => simp [statements]
  | call name inputs => simp [statements]
  | unknown text => simp [statements]

theorem statements_of_bodiless {commands : List Command}
    (bodiless : ∀ command ∈ commands, command.Bodiless) (depth : Nat) :
    ∀ statement ∈ statementsOf depth commands, statement.depth = depth := by
  induction commands with
  | nil => simp [statementsOf]
  | cons command commands ih =>
      intro statement member
      rw [statementsOf, List.mem_append] at member
      rcases member with here | later
      · exact statements_bodiless (bodiless command (by simp)) depth statement here
      · apply ih _ statement later
        exact fun other listed => bodiless other (List.mem_cons_of_mem command listed)

theorem close_block_depth {depth : Nat} {block : List Statement}
    (level : ∀ statement ∈ block, statement.depth = depth) :
    ∀ statement ∈ Statement.closeBlock depth block, statement.depth = depth := by
  unfold Statement.closeBlock
  split
  · exact level
  · intro statement member
    rcases List.mem_append.mp member with here | added
    · exact level statement here
    · rw [List.mem_singleton.mp added]

def wordCommand (registry : Registry) (line opener : String) (rest : List String) : Command :=
  if Text.lower opener = loopWord then readByWord registry line rest
  else readPlain registry line opener rest

theorem read_line_token {line opener : String} {rest : List String}
    (cut : Text.words line = opener :: rest) (registry : Registry) :
    readLine registry .token line = [wordCommand registry line opener rest] := by
  unfold readLine wordCommand
  rw [cut]
  dsimp only
  split <;> rfl

theorem block_words_alone (registry : Registry) (block : List String) :
    List.Forall₂ (Alone registry) (blockWords block)
      ((blockWords block).map (readWord registry)) := by
  rw [List.forall₂_map_right_iff, List.forall₂_same]
  intro word member
  exact read_word_alone registry (Text.words_solid member)

inductive Flat : Command → Prop
  | bodiless {command : Command} : command.Bodiless → Flat command
  | loop {count : String} {body : List Command} : (∀ command ∈ body, command.Bodiless) →
      Flat (.loop count body)

theorem word_command_flat (registry : Registry) (line opener : String) (rest : List String) :
    Flat (wordCommand registry line opener rest) := by
  unfold wordCommand
  split
  · cases rest with
    | nil => exact .bodiless (by simp [readByWord, Bodiless])
    | cons count block =>
        apply Flat.loop
        intro command member
        obtain ⟨word, listed, same⟩ := List.mem_map.mp member
        rw [← same]
        exact alone_bodiless (read_word_alone registry (Text.words_solid listed))
  · exact .bodiless (read_plain_bodiless registry line opener rest)

theorem within_all_bodiless {commands : List Command}
    (bodiless : ∀ command ∈ commands, command.Bodiless) : withinAll commands = commands := by
  induction commands with
  | nil => rw [withinAll]
  | cons command commands ih =>
      have rest := ih fun other listed => bodiless other (List.mem_cons_of_mem command listed)
      rw [withinAll, within_bodiless (bodiless command (by simp)), rest, List.singleton_append]

/-- The loops of a flat command hold no loop. -/
theorem flat_within {command : Command} (flat : Flat command) {count : String}
    {body : List Command} (member : .loop count body ∈ within command) :
    ∀ inner ∈ body, inner.Bodiless := by
  cases flat with
  | bodiless bodiless =>
      rw [within_bodiless bodiless, List.mem_singleton] at member
      exact absurd member.symm (bodiless count body)
  | @loop outer commands bodiless =>
      rw [within, within_all_bodiless bodiless, List.mem_cons] at member
      rcases member with here | inside
      · cases here
        exact bodiless
      · exact absurd rfl (bodiless _ inside count body)

theorem statements_flat {command : Command} (flat : Flat command) (depth : Nat) :
    ∀ statement ∈ statements depth command, statement.depth ≤ depth + 1 := by
  intro statement member
  cases flat with
  | bodiless bodiless =>
      rw [statements_bodiless bodiless depth statement member]
      exact Nat.le_succ depth
  | loop bodiless =>
      rw [statements, List.mem_cons] at member
      rcases member with heading | inside
      · rw [heading]
        exact Nat.le_succ depth
      · have level := close_block_depth (statements_of_bodiless bodiless (depth + 1))
        exact Nat.le_of_eq (level statement inside)

structure WordByWord (registry : Registry) (line : String) : Prop where
  single : ∃ command, readLine registry .token line = [command]
  /-- A loop with a count has one command for each word of its block, in order. -/
  loop : ∀ opener count block, Text.words line = opener :: count :: block →
    Text.lower opener = loopWord →
    ∃ body, readLine registry .token line = [.loop (inputOf count) body] ∧
      ∃! inner, Stripped (" ".intercalate block).toList inner ∧
        List.Forall₂ (Alone registry) (Text.words (String.ofList inner)) body
  /-- No loop stands inside a loop, at any depth. -/
  flat : ∀ count body, .loop count body ∈ withinAll (readLine registry .token line) →
    ∀ inner deeper, .loop inner deeper ∉ withinAll body
  shallow : ∀ depth, ∀ statement ∈ lineStatements registry .token depth line,
    statement.depth ≤ depth + 1

/-- Cut word by word, every line with a word on it is one command, and a loop is one over the
words of its block. -/
theorem read_line_word_by_word (registry : Registry) (line : String)
    (filled : Text.words line ≠ []) : WordByWord registry line := by
  obtain ⟨opener, rest, cut⟩ := List.exists_cons_of_ne_nil filled
  have read := read_line_token cut registry
  have flat := word_command_flat registry line opener rest
  constructor
  · exact ⟨_, read⟩
  · intro first count block words opens
    have same : opener :: rest = first :: count :: block := cut.symm.trans words
    cases same
    refine ⟨(blockWords block).map (readWord registry), ?_, ?_⟩
    · rw [read, wordCommand, if_pos opens]
      rfl
    · refine ⟨_, ⟨stripped_iff.mpr rfl, block_words_alone registry block⟩, ?_⟩
      intro inner ⟨stripped, _⟩
      exact stripped_iff.mp stripped
  · intro count body member inner deeper inside
    rw [read, withinAll, withinAll, List.append_nil] at member
    have bodiless := flat_within flat member
    rw [within_all_bodiless bodiless] at inside
    exact bodiless _ inside inner deeper rfl
  · intro depth statement member
    rw [lineStatements, read, statementsOf, statementsOf, List.append_nil] at member
    exact statements_flat flat depth statement member

/-- A registered procedure named like the loop word, capitals, brackets inside the block and a
bracket that stands alone. -/
theorem read_line_word_by_word_brackets :
    WordByWord ⟨[⟨"repeat", [], []⟩, ⟨"tri", ["a"], []⟩]⟩ "Repeat :N [Pu REPEAT Tri [fd ]]" ∧
      lineStatements ⟨[⟨"repeat", [], []⟩, ⟨"tri", ["a"], []⟩]⟩ .token 1
          "Repeat :N [Pu REPEAT Tri [fd ]]" =
        [⟨1, "for _ in range(int(n)):"⟩,
          ⟨2, "turtle.penup()"⟩,
          ⟨2, "# Unknown: REPEAT"⟩,
          ⟨2, "tri()"⟩,
          ⟨2, "# Unknown: [fd"⟩,
          ⟨2, "# Unknown: ]"⟩] :=
  ⟨read_line_word_by_word _ "Repeat :N [Pu REPEAT Tri [fd ]]" (by decide), by decide +kernel⟩

end TurtleLang.Command
