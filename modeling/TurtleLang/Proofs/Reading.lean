import TurtleLang.Command.Block

/-!
The reader of blocks as a relation. `Reads registry nested tokens commands left`
has one rule for each way the reader can go on, with everything it tests; it
holds exactly when the reader returns `commands` and leaves `left`. Facts about
every reading are then inductions over its rules.
-/
namespace TurtleLang.Command

set_option autoImplicit false

/-- From `tokens` the reader reads `commands` and leaves `left`. -/
inductive Reads (registry : Registry) :
    Bool → List Token → List Command → List Token → Prop
  | done (nested : Bool) : Reads registry nested [] [] []
  | close (rest : List Token) : Reads registry true (.closing :: rest) [] rest
  | stray {rest left : List Token} {more : List Command} :
      Reads registry false rest more left →
        Reads registry false (.closing :: rest) (.unknown "]" :: more) left
  | group {nested : Bool} {rest inner after left : List Token} {more : List Command}
      (grouped : Token.takeGroup 0 rest = (inner, after)) :
      Reads registry nested after more left →
        Reads registry nested (.opening :: rest) (.unknown (Token.groupText inner) :: more) left
  | loopBlock {nested : Bool} {word count : String} {inside after left : List Token}
      {body more : List Command} (opens : Text.lower word = loopWord) :
      Reads registry true inside body after → Reads registry nested after more left →
        Reads registry nested (.word word :: .word count :: .opening :: inside)
          (.loop (inputOf count) body :: more) left
  | loopBare {nested : Bool} {word count : String} {after left : List Token}
      {more : List Command} (opens : Text.lower word = loopWord)
      (bare : ∀ inside, after ≠ .opening :: inside) :
      Reads registry nested after more left →
        Reads registry nested (.word word :: .word count :: after)
          (.loop (inputOf count) [] :: more) left
  | loopAlone {nested : Bool} {word : String} {after left : List Token} {more : List Command}
      (opens : Text.lower word = loopWord) (alone : ∀ count rest, after ≠ .word count :: rest) :
      Reads registry nested after more left →
        Reads registry nested (.word word :: after) (.unknown word :: more) left
  | primitive {nested : Bool} {word : String} {rest after left : List Token}
      {operation : Primitive} {inputs : List String} {more : List Command}
      (plain : Text.lower word ≠ loopWord)
      (named : Primitive.ofName? (Text.lower word) = some operation)
      (taken : takeInputs operation.arity rest = (inputs, after)) :
      Reads registry nested after more left →
        Reads registry nested (.word word :: rest) (.primitive operation inputs :: more) left
  | call {nested : Bool} {word : String} {rest after left : List Token}
      {procedure : Procedure} {inputs : List String} {more : List Command}
      (plain : Text.lower word ≠ loopWord)
      (unnamed : Primitive.ofName? (Text.lower word) = none)
      (known : registry.lookup (Text.lower word) = some procedure)
      (taken : takeInputs procedure.parameters.length rest = (inputs, after)) :
      Reads registry nested after more left →
        Reads registry nested (.word word :: rest) (.call (Text.lower word) inputs :: more) left
  | unknown {nested : Bool} {word : String} {rest after left : List Token}
      {texts : List String} {more : List Command}
      (plain : Text.lower word ≠ loopWord)
      (unnamed : Primitive.ofName? (Text.lower word) = none)
      (unknown : registry.lookup (Text.lower word) = none)
      (taken : takeUnknown registry rest = (texts, after)) :
      Reads registry nested after more left →
        Reads registry nested (.word word :: rest)
          (.unknown (" ".intercalate (word :: texts)) :: more) left

theorem reads_simple {registry : Registry} {nested : Bool} {word : String}
    {rest left : List Token} {more : List Command} (plain : Text.lower word ≠ loopWord)
    (next : Reads registry nested (takeSimple registry word rest).2 more left) :
    Reads registry nested (.word word :: rest) ((takeSimple registry word rest).1 :: more)
      left := by
  unfold takeSimple at next ⊢
  dsimp only at next ⊢
  split at next
  · next operation named => exact .primitive plain named rfl next
  · next unnamed =>
      split at next
      · next procedure known => exact .call plain unnamed known rfl next
      · next unknown => exact .unknown plain unnamed unknown rfl next

/-- The reader follows the rules. -/
theorem reads_read_commands (registry : Registry) (nested : Bool) (tokens : List Token) :
    Reads registry nested tokens (readCommands registry nested tokens).val.1
      (readCommands registry nested tokens).val.2 := by
  fun_induction readCommands registry nested tokens with
  | case1 nested => exact .done nested
  | case2 rest => exact .close rest
  | case3 nested rest outer more left bound read ih =>
      rw [read] at ih
      have top : nested = false := by simpa using outer
      subst top
      exact .stray ih
  | case4 nested rest more left bound read ih =>
      rw [read] at ih
      exact .group rfl ih
  | case5 nested word opens count inside body after inner readBody more left bound read bodyIh ih =>
      rw [read] at ih
      rw [readBody] at bodyIh
      exact .loopBlock opens bodyIh ih
  | case6 nested word opens count after bare more left bound read ih =>
      rw [read] at ih
      exact .loopBare opens bare ih
  | case7 nested word opens after _ alone more left bound read ih =>
      rw [read] at ih
      exact .loopAlone opens alone ih
  | case8 nested word rest plain more left bound read ih =>
      rw [read] at ih
      exact reads_simple plain ih

theorem read_commands_simple {registry : Registry} {nested : Bool} {word : String}
    {rest after left : List Token} {command : Command} {more : List Command}
    (plain : Text.lower word ≠ loopWord) (taken : takeSimple registry word rest = (command, after))
    (read : (readCommands registry nested after).val = (more, left)) :
    (readCommands registry nested (.word word :: rest)).val = (command :: more, left) := by
  rw [readCommands.eq_def]
  dsimp only
  rw [if_neg plain]
  change ((takeSimple registry word rest).1 ::
    (readCommands registry nested (takeSimple registry word rest).2).val.1,
    (readCommands registry nested (takeSimple registry word rest).2).val.2) = _
  rw [taken, read]

/-- The rules leave the reader no choice. -/
theorem read_commands_of_reads {registry : Registry} {nested : Bool} {tokens left : List Token}
    {commands : List Command} (reads : Reads registry nested tokens commands left) :
    (readCommands registry nested tokens).val = (commands, left) := by
  induction reads with
  | done nested => rw [readCommands]
  | close rest => rw [readCommands, if_pos rfl]
  | @stray rest left more _ ih =>
      rw [readCommands, if_neg Bool.false_ne_true]
      change (_ :: (readCommands registry false rest).val.1,
        (readCommands registry false rest).val.2) = _
      rw [ih]
  | @group nested rest inner after left more grouped _ ih =>
      rw [readCommands]
      change (.unknown (Token.groupText (Token.takeGroup 0 rest).1) ::
        (readCommands registry nested (Token.takeGroup 0 rest).2).val.1,
        (readCommands registry nested (Token.takeGroup 0 rest).2).val.2) = _
      rw [grouped, ih]
  | @loopBlock nested word count inside after left body more opens _ _ bodyIh ih =>
      rw [readCommands, if_pos opens]
      change (.loop (inputOf count) (readCommands registry true inside).val.1 ::
        (readCommands registry nested (readCommands registry true inside).val.2).val.1,
        (readCommands registry nested (readCommands registry true inside).val.2).val.2) = _
      rw [bodyIh, ih]
  | @loopBare nested word count after left more opens bare _ ih =>
      rw [readCommands, if_pos opens]
      · change (_ :: (readCommands registry nested after).val.1,
          (readCommands registry nested after).val.2) = _
        rw [ih]
      · exact bare
  | @loopAlone nested word after left more opens alone _ ih =>
      rw [readCommands, if_pos opens]
      · change (_ :: (readCommands registry nested after).val.1,
          (readCommands registry nested after).val.2) = _
        rw [ih]
      · exact fun count inside => alone count (.opening :: inside)
      · exact alone
  | @primitive nested word rest after left operation inputs more plain named taken _ ih =>
      exact read_commands_simple plain (by simp only [takeSimple, named, taken]) ih
  | @call nested word rest after left procedure inputs more plain unnamed known taken _ ih =>
      exact read_commands_simple plain (by simp only [takeSimple, unnamed, known, taken]) ih
  | @unknown nested word rest after left texts more plain unnamed unknown taken _ ih =>
      exact read_commands_simple plain (by simp only [takeSimple, unnamed, unknown, taken]) ih

theorem reads_iff {registry : Registry} {nested : Bool} {tokens left : List Token}
    {commands : List Command} :
    Reads registry nested tokens commands left ↔
      (readCommands registry nested tokens).val = (commands, left) := by
  constructor
  · exact read_commands_of_reads
  · intro read
    have followed := reads_read_commands registry nested tokens
    rwa [read] at followed

end TurtleLang.Command
