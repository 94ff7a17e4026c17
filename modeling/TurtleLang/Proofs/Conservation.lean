import TurtleLang.Command.Line
import TurtleLang.Proofs.Balance
import TurtleLang.Proofs.Lexing
import TurtleLang.Proofs.Reading

/-!
No token of a loop line is lost. `Command.Pieces commands tokens` says that the
tokens can be cut, in order and without gap or overlap, into one piece for each
command, and the piece of a loop into the pieces of its body. The relation speaks
of tokens and commands alone, not of the readers; that reading follows it is
proved for each reader in turn. Where the tokens leave groups or blocks open, the
closing brackets they lack at their end are all that a cut adds.
-/
namespace TurtleLang.Command

set_option autoImplicit false

open Token (Balanced Clean Yields)

inductive InputPiece : String → List Token → Prop
  | word (text : String) : InputPiece (inputOf text) [.word text]
  | group {inner : List Token} :
      Balanced inner → InputPiece (Token.groupText inner) (.opening :: (inner ++ [.closing]))

inductive InputPieces : List String → List Token → Prop
  | none : InputPieces [] []
  | more {input : String} {inputs : List String} {piece rest : List Token} :
      InputPiece input piece → InputPieces inputs rest →
        InputPieces (input :: inputs) (piece ++ rest)

mutual

inductive Piece : Command → List Token → Prop
  | primitive {word : String} {operation : Primitive} {inputs : List String}
      {tokens : List Token} :
      Primitive.ofName? (Text.lower word) = some operation → InputPieces inputs tokens →
        Piece (.primitive operation inputs) (.word word :: tokens)
  | call {word name : String} {inputs : List String} {tokens : List Token} :
      Text.lower word = name → InputPieces inputs tokens →
        Piece (.call name inputs) (.word word :: tokens)
  | loopBlock {word count : String} {body : List Command} {tokens : List Token} :
      Text.lower word = loopWord → Pieces body tokens →
        Piece (.loop (inputOf count) body)
          (.word word :: .word count :: .opening :: (tokens ++ [.closing]))
  | loopBare {word count : String} :
      Text.lower word = loopWord →
        Piece (.loop (inputOf count) []) [.word word, .word count]
  | unknown {text : String} {tokens : List Token} :
      Token.scan text = tokens → tokens ≠ [] → Piece (.unknown text) tokens

inductive Pieces : List Command → List Token → Prop
  | none : Pieces [] []
  | more {command : Command} {commands : List Command} {piece rest : List Token} :
      Piece command piece → Pieces commands rest →
        Pieces (command :: commands) (piece ++ rest)

end

theorem clean_tail {token : Token} {tokens : List Token} (clean : Clean (token :: tokens)) :
    Clean tokens :=
  fun text member => clean text (List.mem_cons_of_mem token member)

theorem clean_piece {tokens piece rest : List Token} (yields : Yields tokens piece rest)
    (clean : Clean tokens) : Clean piece := by
  intro text member
  rcases yields with same | ⟨_, missing, same⟩
  · exact clean text (by simp [same, member])
  · rw [same, List.mem_append] at member
    rcases member with inTokens | supplied
    · exact clean text inTokens
    · cases List.eq_of_mem_replicate supplied

theorem clean_rest {tokens piece rest : List Token} (yields : Yields tokens piece rest)
    (clean : Clean tokens) : Clean rest := by
  intro text member
  rcases yields with same | ⟨none, _⟩
  · exact clean text (by simp [same, member])
  · rw [none] at member
    cases member

theorem take_group_clean {tokens : List Token} (clean : Clean tokens) :
    Clean (Token.takeGroup 0 tokens).1 ∧ Clean (Token.takeGroup 0 tokens).2 := by
  have yields := Token.take_group_yields 0 tokens
  refine ⟨fun text member => ?_, clean_rest yields clean⟩
  exact clean_piece yields clean text (List.mem_append_left _ member)

theorem take_inputs_pieces (count : Nat) (tokens : List Token) :
    ∃ piece, InputPieces (takeInputs count tokens).1 piece ∧
      Yields tokens piece (takeInputs count tokens).2 := by
  fun_induction takeInputs count tokens with
  | case1 tokens => exact ⟨[], .none, Token.yields_nothing tokens⟩
  | case2 count word rest inputs after taken ih =>
      obtain ⟨piece, pieces, yields⟩ := ih
      rw [taken] at pieces yields
      exact ⟨_, .more (.word word) pieces, Token.yields_cons (.word word) yields⟩
  | case3 count rest inner left grouped inputs after taken ih =>
      obtain ⟨piece, pieces, yields⟩ := ih
      rw [taken] at pieces yields
      have balanced := Token.take_group_balanced rest
      have group := Token.take_group_yields 0 rest
      rw [grouped] at balanced group
      exact ⟨_, .more (.group balanced) pieces,
        Token.yields_cons .opening (Token.yields_trans group yields)⟩
  | case4 tokens => exact ⟨[], .none, Token.yields_nothing _⟩

/-- What follows a word that names nothing comes back from its texts. -/
theorem take_unknown_yields (registry : Registry) (tokens : List Token) (clean : Clean tokens) :
    Yields tokens ((takeUnknown registry tokens).1.flatMap Token.scan)
      (takeUnknown registry tokens).2 := by
  fun_induction takeUnknown registry tokens with
  | case1 word rest claimed => exact Token.yields_nothing _
  | case2 word rest unclaimed texts after taken ih =>
      have yields := ih (clean_tail clean)
      rw [taken] at yields
      rw [List.flatMap_cons, Token.scan_word (clean word (by simp))]
      exact Token.yields_cons (.word word) yields
  | case3 rest texts after taken ih =>
      have group := Token.take_group_yields 0 rest
      obtain ⟨innerClean, restClean⟩ := take_group_clean (clean_tail clean)
      have yields := ih restClean
      rw [taken] at yields
      rw [List.flatMap_cons, Token.scan_group_text _ innerClean]
      exact Token.yields_cons .opening (Token.yields_trans group yields)
  | case4 => exact Token.yields_nothing _

/-- The tokens of a reading: those of its commands, and for a nested block its
closing bracket. -/
def closed (nested : Bool) (tokens : List Token) : List Token :=
  tokens ++ if nested then [.closing] else []

theorem pieces_more {nested : Bool} {command : Command} {more : List Command}
    {tokens piece after left : List Token} (first : Piece command piece)
    (yields : Yields tokens piece after)
    (next : ∃ others, Pieces more others ∧ Yields after (closed nested others) left) :
    ∃ pieces, Pieces (command :: more) pieces ∧ Yields tokens (closed nested pieces) left := by
  obtain ⟨others, morePieces, moreYields⟩ := next
  refine ⟨piece ++ others, .more first morePieces, ?_⟩
  rw [closed, List.append_assoc]
  exact Token.yields_trans yields moreYields

theorem group_piece {inner : List Token} (clean : Clean inner) :
    Piece (.unknown (Token.groupText inner)) (.opening :: (inner ++ [.closing])) :=
  .unknown (Token.scan_group_text inner clean) (by simp)

/-- Every reading cuts the tokens it consumes into the pieces of its commands. -/
theorem reads_pieces {registry : Registry} {nested : Bool} {tokens left : List Token}
    {commands : List Command} (reads : Reads registry nested tokens commands left)
    (clean : Clean tokens) :
    ∃ pieces, Pieces commands pieces ∧ Yields tokens (closed nested pieces) left := by
  induction reads with
  | done nested =>
      cases nested with
      | false => exact ⟨[], .none, Token.yields_nothing []⟩
      | true => exact ⟨[], .none, .inr ⟨rfl, 1, rfl⟩⟩
  | close rest => exact ⟨[], .none, .inl rfl⟩
  | @stray rest _ _ _ ih =>
      exact pieces_more (.unknown rfl (by decide)) (.inl rfl) (ih (clean_tail clean))
  | @group _ rest inner after _ _ grouped _ ih =>
      have group := Token.take_group_yields 0 rest
      obtain ⟨innerClean, afterClean⟩ := take_group_clean (clean_tail clean)
      rw [grouped] at group innerClean afterClean
      exact pieces_more (group_piece innerClean) (Token.yields_cons .opening group)
        (ih afterClean)
  | @loopBlock _ word count _ _ _ _ _ opens _ _ bodyIh ih =>
      have insideClean := clean_tail (clean_tail (clean_tail clean))
      obtain ⟨inside, bodyPieces, block⟩ := bodyIh insideClean
      exact pieces_more (.loopBlock opens bodyPieces)
        (Token.yields_cons (.word word) (Token.yields_cons (.word count)
          (Token.yields_cons .opening block)))
        (ih (clean_rest block insideClean))
  | loopBare opens _ _ ih =>
      exact pieces_more (.loopBare opens) (.inl rfl) (ih (clean_tail (clean_tail clean)))
  | @loopAlone _ word _ _ _ _ _ _ ih =>
      have alone : Token.scan word = [.word word] := Token.scan_word (clean word (by simp))
      exact pieces_more (.unknown alone (by simp)) (.inl rfl) (ih (clean_tail clean))
  | @primitive _ word rest _ _ operation _ _ _ named taken _ ih =>
      obtain ⟨piece, inputPieces, yields⟩ := take_inputs_pieces operation.arity rest
      rw [taken] at inputPieces yields
      exact pieces_more (.primitive named inputPieces) (Token.yields_cons (.word word) yields)
        (ih (clean_rest yields (clean_tail clean)))
  | @call _ word rest _ _ procedure _ _ _ _ _ taken _ ih =>
      obtain ⟨piece, inputPieces, yields⟩ := take_inputs_pieces procedure.parameters.length rest
      rw [taken] at inputPieces yields
      exact pieces_more (.call rfl inputPieces) (Token.yields_cons (.word word) yields)
        (ih (clean_rest yields (clean_tail clean)))
  | @unknown _ word rest after _ texts _ _ _ _ taken _ ih =>
      have yields := take_unknown_yields registry rest (clean_tail clean)
      rw [taken] at yields
      have relexed : Token.scan (" ".intercalate (word :: texts)) =
          .word word :: texts.flatMap Token.scan := by
        rw [Token.scan_intercalate, List.flatMap_cons, Token.scan_word (clean word (by simp)),
          List.singleton_append]
      exact pieces_more (.unknown relexed (by simp)) (Token.yields_cons (.word word) yields)
        (ih (clean_rest yields (clean_tail clean)))

theorem reads_all_tokens {registry : Registry} {nested : Bool} {tokens left : List Token}
    {commands : List Command} (reads : Reads registry nested tokens commands left)
    (top : nested = false) : left = [] := by
  induction reads with
  | done _ => rfl
  | close _ => cases top
  | stray _ ih => exact ih top
  | group _ _ ih => exact ih top
  | loopBlock _ _ _ _ ih => exact ih top
  | loopBare _ _ _ ih => exact ih top
  | loopAlone _ _ _ ih => exact ih top
  | primitive _ _ _ _ ih => exact ih top
  | call _ _ _ _ _ ih => exact ih top
  | unknown _ _ _ _ _ ih => exact ih top

theorem read_all_pieces (registry : Registry) (tokens : List Token) (clean : Clean tokens) :
    ∃ missing, Pieces (readAll registry tokens)
      (tokens ++ List.replicate missing .closing) := by
  have reads := reads_read_commands registry false tokens
  obtain ⟨pieces, cut, yields⟩ := reads_pieces reads clean
  rw [reads_all_tokens reads rfl] at yields
  rw [closed, if_neg Bool.false_ne_true, List.append_nil] at yields
  rcases yields with same | ⟨_, missing, same⟩
  · rw [List.append_nil] at same
    rw [← same] at cut
    exact ⟨0, (List.append_nil tokens).symm ▸ cut⟩
  · rw [same] at cut
    exact ⟨missing, cut⟩

/-- The tokens of a loop line, and behind them the closing brackets they may lack,
are the pieces of the line's commands. -/
theorem loop_line_conserves_tokens (registry : Registry) (line first : String)
    (others : List String) (cut : Text.words line = first :: others)
    (opens : Text.lower first = loopWord) :
    ∃ missing, Pieces (readLine registry .command line)
      (Token.scan line ++ List.replicate missing .closing) := by
  rw [readLine, cut]
  dsimp only
  rw [if_pos opens]
  exact read_all_pieces registry (Token.scan line) (Token.scan_clean line)

/-- A stray bracket, a group as an input and an inner block left open. -/
theorem loop_line_conserves_tokens_unclosed :
    ∃ missing, Pieces
      (readLine Registry.empty .command "repeat 1 [pu] ] fd [a b] REPEAT 2 [wiggle [c rt")
      (Token.scan "repeat 1 [pu] ] fd [a b] REPEAT 2 [wiggle [c rt" ++
        List.replicate missing .closing) :=
  loop_line_conserves_tokens Registry.empty
    "repeat 1 [pu] ] fd [a b] REPEAT 2 [wiggle [c rt" "repeat"
    ["1", "[pu]", "]", "fd", "[a", "b]", "REPEAT", "2", "[wiggle", "[c", "rt"]
    (by decide +kernel) (by decide +kernel)

end TurtleLang.Command
