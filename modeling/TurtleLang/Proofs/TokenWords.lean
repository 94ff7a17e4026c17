import TurtleLang.Proofs.Sequence

/-!
Two ways to cut a text, compared. The scanner goes through the characters once and
ends a word at any delimiter; the plain cut knows blanks alone. When a space is put
before and behind every bracket, the plain cut finds the tokens: each bracket is then
a word of its own, and no other word holds one. What either cut leaves out is blanks
and nothing else, so the tokens written one behind the other are the text without its
blanks.
-/
namespace TurtleLang.Token

set_option autoImplicit false

/-- A bracket with a space on either side; any other character alone. -/
def setApart (character : Char) : List Char :=
  if character = '[' ∨ character = ']' then [' ', character, ' '] else [character]

def bracketsApart (text : String) : String :=
  String.ofList (text.toList.flatMap setApart)

def ofPiece (piece : String) : Token :=
  if piece = "[" then .opening
  else if piece = "]" then .closing
  else .word piece

theorem set_apart_plain {character : Char} (plain : isPlain character = true) :
    setApart character = [character] := by
  simp only [isPlain, Bool.and_eq_true, bne_iff_ne] at plain
  exact if_neg (not_or.mpr ⟨plain.1.2, plain.2⟩)

theorem set_apart_blank {character : Char} (blank : Text.isBlank character = true) :
    setApart character = [character] := by
  apply if_neg
  rintro (rfl | rfl)
  · cases blank
  · cases blank

theorem of_piece_word {piece : String} (word : IsWord piece) : ofPiece piece = .word piece := by
  have notOpening : piece ≠ "[" := by
    rintro rfl
    exact absurd word (by decide)
  have notClosing : piece ≠ "]" := by
    rintro rfl
    exact absurd word (by decide)
  rw [ofPiece, if_neg notOpening, if_neg notClosing]

theorem finish_eq_pieces {pending : List Char}
    (plain : ∀ character ∈ pending, isPlain character = true) :
    finish pending = ((Text.finishWord pending).map String.ofList).map ofPiece := by
  unfold finish Text.finishWord
  split
  · rfl
  · next filled =>
      have word : IsWord (String.ofList pending.reverse) := by
        constructor
        · intro none
          exact filled (by simpa using congrArg String.toList none)
        · simpa using plain
      rw [List.map_singleton, List.map_singleton, of_piece_word word]

/-- A bracket that is set apart ends the word in front of it and is a word of its own. -/
theorem words_from_bracket (bracket : Char) (solid : Text.isBlank bracket = false)
    (pending rest : List Char) :
    Text.wordsFrom pending (' ' :: bracket :: ' ' :: rest) =
      Text.finishWord pending ++ [bracket] :: Text.wordsFrom [] rest := by
  have space : Text.isBlank ' ' = true := rfl
  have begun : Text.wordsFrom [] (bracket :: ' ' :: rest) =
      Text.wordsFrom [bracket] (' ' :: rest) := by
    rw [Text.wordsFrom, if_neg (by simp [solid])]
  rw [Text.words_from_blank space, begun, Text.words_from_blank space]
  rfl

theorem scan_from_eq_pieces (characters pending : List Char)
    (plain : ∀ character ∈ pending, isPlain character = true) :
    scanFrom pending characters =
      ((Text.wordsFrom pending (characters.flatMap setApart)).map String.ofList).map ofPiece := by
  induction characters generalizing pending with
  | nil => exact finish_eq_pieces plain
  | cons character characters ih =>
      rw [List.flatMap_cons]
      rcases character_cases character with inside | blank | rfl | rfl
      · have solid := not_blank_of_plain inside
        rw [scan_from_plain inside, set_apart_plain inside, List.singleton_append, Text.wordsFrom,
          if_neg (by simp [solid])]
        exact ih (character :: pending) (by simpa using ⟨inside, plain⟩)
      · rw [scan_from_blank blank, set_apart_blank blank, List.singleton_append,
          Text.words_from_blank blank, finish_eq_pieces plain, ih [] (by simp), List.map_append,
          List.map_append]
      · have apart : setApart '[' = [' ', '[', ' '] := rfl
        rw [scan_from_opening, apart, List.cons_append, List.cons_append, List.singleton_append,
          words_from_bracket '[' rfl, finish_eq_pieces plain, ih [] (by simp), List.map_append,
          List.map_append]
        rfl
      · have apart : setApart ']' = [' ', ']', ' '] := rfl
        rw [scan_from_closing, apart, List.cons_append, List.cons_append, List.singleton_append,
          words_from_bracket ']' rfl, finish_eq_pieces plain, ih [] (by simp), List.map_append,
          List.map_append]
        rfl

theorem scan_eq_pieces (text : String) :
    scan text = (Text.words (bracketsApart text)).map ofPiece := by
  rw [Text.words, bracketsApart, String.toList_ofList]
  exact scan_from_eq_pieces text.toList [] (by simp)

theorem flat_map_text_finish (pending : List Char) :
    (finish pending).flatMap (fun token => token.text.toList) = pending.reverse := by
  unfold finish
  split
  · next none => rw [List.isEmpty_iff.mp none]; rfl
  · simp [text]

/-- Scanning drops blanks and keeps every other character in its place. -/
theorem flat_map_text_scan_from (characters pending : List Char) :
    (scanFrom pending characters).flatMap (fun token => token.text.toList) =
      pending.reverse ++ characters.filter fun character => !Text.isBlank character := by
  induction characters generalizing pending with
  | nil => rw [scanFrom, flat_map_text_finish, List.filter_nil, List.append_nil]
  | cons character characters ih =>
      rcases character_cases character with inside | blank | rfl | rfl
      · have solid := not_blank_of_plain inside
        rw [scan_from_plain inside, ih, List.filter_cons_of_pos (by simp [solid])]
        simp
      · rw [scan_from_blank blank, List.flatMap_append, flat_map_text_finish, ih,
          List.filter_cons_of_neg (by simp [blank])]
        rfl
      · rw [scan_from_opening, List.flatMap_append, flat_map_text_finish, List.flatMap_cons, ih,
          List.filter_cons_of_pos rfl]
        rfl
      · rw [scan_from_closing, List.flatMap_append, flat_map_text_finish, List.flatMap_cons, ih,
          List.filter_cons_of_pos rfl]
        rfl

theorem join_text_scan (text : String) :
    String.join ((scan text).map Token.text) =
      String.ofList (text.toList.filter fun character => !Text.isBlank character) := by
  apply String.toList_injective
  rw [String.toList_join, String.toList_ofList, List.flatMap_map]
  exact flat_map_text_scan_from text.toList []

/-- The scanner finds the words of the text with its brackets set apart. So its words are
never empty and hold neither a blank nor a bracket, nothing but blanks is lost, and
without brackets the tokens are the words. -/
theorem scan_agrees_with_words (text : String) :
    scan text = (Text.words (bracketsApart text)).map ofPiece ∧
      (∀ content, .word content ∈ scan text → content ≠ "" ∧
        ∀ character ∈ content.toList,
          Text.isBlank character = false ∧ character ≠ '[' ∧ character ≠ ']') ∧
      String.join ((scan text).map Token.text) =
        String.ofList (text.toList.filter fun character => !Text.isBlank character) ∧
      (Text.BracketFree text → scan text = (Text.words text).map .word) := by
  refine ⟨scan_eq_pieces text, ?_, join_text_scan text, scan_of_bracket_free⟩
  intro content listed
  have word : IsWord content := scan_clean text content listed
  refine ⟨word.1, fun character inside => ?_⟩
  have plain := word.2 character inside
  simp only [isPlain, Bool.and_eq_true, Bool.not_eq_true', bne_iff_ne] at plain
  exact ⟨plain.1.1, plain.1.2, plain.2⟩

/-- Brackets glued to words and to each other, and a blank beyond ASCII. -/
example : scan "repeat 2[a]]\u3000b" =
    [.word "repeat", .word "2", .opening, .word "a", .closing, .closing, .word "b"] := by
  decide +kernel

end TurtleLang.Token
