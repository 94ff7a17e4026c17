import TurtleLang.Command
import TurtleLang.Registry
import TurtleLang.Token.Group

/-!
Reading the inside of a `repeat` block command by command. There are no line
breaks to lean on, so a command takes as many inputs as it declares, a bracketed
group counts as one input, and a word that names nothing takes everything up to
the next command. All readers consume one list of tokens from the left and
return what they leave; none of them lengthens it, which is why reading a nested
block and then the tokens after it comes to an end.
-/
namespace TurtleLang.Command

def loopWord : String := "repeat"

/-- Takes up to `count` inputs, and stops early at a closing bracket or at the
end. -/
def takeInputs : Nat → List Token → List String × List Token
  | 0, tokens => ([], tokens)
  | count + 1, .word word :: rest =>
      let (inputs, after) := takeInputs count rest
      (inputOf word :: inputs, after)
  | count + 1, .opening :: rest =>
      let (inner, left) := Token.takeGroup 0 rest
      let (inputs, after) := takeInputs count left
      (Token.groupText inner :: inputs, after)
  | _ + 1, tokens => ([], tokens)

def startsCommand (registry : Registry) (word : String) : Bool :=
  Text.lowerAscii word == loopWord || (Primitive.ofName? word).isSome || registry.contains word

/-- Takes what follows a word that names nothing: words and groups, up to the
next command, a closing bracket or the end. -/
def takeUnknown (registry : Registry) (tokens : List Token) : List String × List Token :=
  match tokens with
  | .word word :: rest =>
      if startsCommand registry word then ([], .word word :: rest)
      else
        let (texts, after) := takeUnknown registry rest
        (word :: texts, after)
  | .opening :: rest =>
      let (texts, after) := takeUnknown registry (Token.takeGroup 0 rest).2
      (Token.groupText (Token.takeGroup 0 rest).1 :: texts, after)
  | tokens => ([], tokens)
termination_by tokens.length
decreasing_by
  · simp
  · exact Nat.lt_succ_of_le (Token.take_group_rest_length 0 rest)

def takeSimple (registry : Registry) (word : String) (tokens : List Token) :
    Command × List Token :=
  let name := Text.lower word
  match Primitive.ofName? name with
  | some operation =>
      let (inputs, after) := takeInputs operation.arity tokens
      (.primitive operation inputs, after)
  | none =>
      match registry.lookup name with
      | some procedure =>
          let (inputs, after) := takeInputs procedure.parameters.length tokens
          (.call name inputs, after)
      | none =>
          let (texts, after) := takeUnknown registry tokens
          (.unknown (" ".intercalate (word :: texts)), after)

theorem take_inputs_rest_length (count : Nat) (tokens : List Token) :
    (takeInputs count tokens).2.length ≤ tokens.length := by
  fun_induction takeInputs count tokens with
  | case1 tokens => exact Nat.le_refl _
  | case2 count word rest inputs after taken ih =>
      simp only [taken] at ih
      exact Nat.le_succ_of_le ih
  | case3 count rest inner left grouped inputs after taken ih =>
      have shorter := Token.take_group_rest_length 0 rest
      simp only [taken] at ih
      simp only [grouped] at shorter
      exact Nat.le_succ_of_le (Nat.le_trans ih shorter)
  | case4 => exact Nat.le_refl _

theorem take_unknown_rest_length (registry : Registry) (tokens : List Token) :
    (takeUnknown registry tokens).2.length ≤ tokens.length := by
  fun_induction takeUnknown registry tokens with
  | case1 => exact Nat.le_refl _
  | case2 word rest unclaimed texts after taken ih =>
      simp only [taken] at ih
      exact Nat.le_succ_of_le ih
  | case3 rest texts after taken ih =>
      simp only [taken] at ih
      exact Nat.le_succ_of_le (Nat.le_trans ih (Token.take_group_rest_length 0 rest))
  | case4 => exact Nat.le_refl _

theorem take_simple_rest_length (registry : Registry) (word : String) (tokens : List Token) :
    (takeSimple registry word tokens).2.length ≤ tokens.length := by
  unfold takeSimple
  dsimp only
  split
  · exact take_inputs_rest_length _ _
  · split
    · exact take_inputs_rest_length _ _
    · exact take_unknown_rest_length _ _

/-- Reads commands until the tokens run out or, when `nested`, until the closing
bracket of the block, which is consumed. The tokens left come with the fact that
they are no more than were given. -/
def readCommands (registry : Registry) (nested : Bool) (tokens : List Token) :
    { block : List Command × List Token // block.2.length ≤ tokens.length } :=
  match tokens with
  | [] => ⟨([], []), Nat.le_refl _⟩
  | .closing :: rest =>
      if nested then ⟨([], rest), Nat.le_succ _⟩
      else
        match readCommands registry nested rest with
        | ⟨(more, left), bound⟩ => ⟨(.unknown "]" :: more, left), Nat.le_succ_of_le bound⟩
  | .opening :: rest =>
      match readCommands registry nested (Token.takeGroup 0 rest).2 with
      | ⟨(more, left), bound⟩ =>
          ⟨(.unknown (Token.groupText (Token.takeGroup 0 rest).1) :: more, left),
            Nat.le_succ_of_le (Nat.le_trans bound (Token.take_group_rest_length 0 rest))⟩
  | .word word :: rest =>
      if Text.lower word = loopWord then
        match rest with
        | .word count :: .opening :: inside =>
            match readCommands registry true inside with
            | ⟨(body, after), inner⟩ =>
                match readCommands registry nested after with
                | ⟨(more, left), bound⟩ =>
                    ⟨(.loop (inputOf count) body :: more, left),
                      Nat.le_trans (Nat.le_trans bound inner) (Nat.le_add_right inside.length 3)⟩
        | .word count :: after =>
            match readCommands registry nested after with
            | ⟨(more, left), bound⟩ =>
                ⟨(.loop (inputOf count) [] :: more, left),
                  Nat.le_trans bound (Nat.le_add_right after.length 2)⟩
        | after =>
            match readCommands registry nested after with
            | ⟨(more, left), bound⟩ => ⟨(.unknown word :: more, left), Nat.le_succ_of_le bound⟩
      else
        match readCommands registry nested (takeSimple registry word rest).2 with
        | ⟨(more, left), bound⟩ =>
            ⟨((takeSimple registry word rest).1 :: more, left),
              Nat.le_succ_of_le (Nat.le_trans bound (take_simple_rest_length registry word rest))⟩
termination_by tokens.length
decreasing_by
  · exact Nat.lt_succ_self _
  · exact Nat.lt_succ_of_le (Token.take_group_rest_length 0 rest)
  · exact Nat.lt_succ_of_le (Nat.le_add_right inside.length 2)
  · exact Nat.lt_succ_of_le (Nat.le_trans inner (Nat.le_add_right inside.length 2))
  · exact Nat.lt_succ_of_le (Nat.le_succ after.length)
  · exact Nat.lt_succ_self _
  · exact Nat.lt_succ_of_le (take_simple_rest_length registry word rest)

def readAll (registry : Registry) (tokens : List Token) : List Command :=
  (readCommands registry false tokens).val.1

def readBlock (registry : Registry) (tokens : List Token) : List Command × List Token :=
  (readCommands registry true tokens).val

end TurtleLang.Command
