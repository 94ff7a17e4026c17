import TurtleLang.Token.Group

/-!
What the scanner makes of a text. Its words are never empty and hold neither a
blank nor a bracket, a text can be cut before any delimiter, and a token list of
such words comes back from its written form. A line whose tokens start with two
words starts with the first of them as its first blank-separated word, so the two
ways of cutting a line agree on the word that decides how it is read.
-/
namespace TurtleLang.Text

set_option autoImplicit false

/-- The texts a blank-separated word can be: not empty, and without a blank. -/
def IsSolid (text : String) : Prop :=
  text ≠ "" ∧ ∀ character ∈ text.toList, isBlank character = false

theorem finish_word_solid {pending : List Char}
    (solid : ∀ character ∈ pending, isBlank character = false) :
    ∀ word ∈ finishWord pending, word ≠ [] ∧ ∀ character ∈ word, isBlank character = false := by
  intro word member
  unfold finishWord at member
  split at member
  · cases member
  · next filled =>
      rw [List.mem_singleton] at member
      subst member
      exact ⟨by simpa using filled, by simpa using solid⟩

theorem words_from_solid (characters pending : List Char)
    (solid : ∀ character ∈ pending, isBlank character = false) :
    ∀ word ∈ wordsFrom pending characters,
      word ≠ [] ∧ ∀ character ∈ word, isBlank character = false := by
  induction characters generalizing pending with
  | nil => exact finish_word_solid solid
  | cons character rest ih =>
      intro word member
      rw [wordsFrom] at member
      split at member
      · rcases List.mem_append.mp member with here | later
        · exact finish_word_solid solid word here
        · exact ih [] (by simp) word later
      · next notBlank =>
          have begun : ∀ other ∈ character :: pending, isBlank other = false := by
            simpa using ⟨Bool.eq_false_iff.mpr notBlank, solid⟩
          exact ih (character :: pending) begun word member

theorem words_solid {text word : String} (member : word ∈ words text) : IsSolid word := by
  unfold words at member
  obtain ⟨characters, cut, same⟩ := List.mem_map.mp member
  obtain ⟨filled, solid⟩ := words_from_solid text.toList [] (by simp) characters cut
  subst same
  exact ⟨by simpa using filled, by simpa using solid⟩

end TurtleLang.Text

namespace TurtleLang.Token

set_option autoImplicit false

def isPlain (character : Char) : Bool :=
  !Text.isBlank character && character != '[' && character != ']'

def IsWord (text : String) : Prop :=
  text ≠ "" ∧ ∀ character ∈ text.toList, isPlain character = true

instance (text : String) : Decidable (IsWord text) :=
  @instDecidableAnd _ _ inferInstance (List.decidableBAll _ _)

/-- Token lists whose words are words of their own. -/
def Clean (tokens : List Token) : Prop :=
  ∀ text, .word text ∈ tokens → IsWord text

theorem character_cases (character : Char) :
    isPlain character = true ∨ Text.isBlank character = true ∨ character = '[' ∨
      character = ']' := by
  simp only [isPlain, Bool.and_eq_true, Bool.not_eq_true', bne_iff_ne]
  by_cases blank : Text.isBlank character = true <;> by_cases opening : character = '[' <;>
    by_cases closing : character = ']' <;> simp_all

theorem not_blank_of_plain {character : Char} (plain : isPlain character = true) :
    Text.isBlank character = false := by
  simp only [isPlain, Bool.and_eq_true, Bool.not_eq_true'] at plain
  exact plain.1.1

theorem solid_of_word {text : String} (word : IsWord text) : Text.IsSolid text :=
  ⟨word.1, fun character member => not_blank_of_plain (word.2 character member)⟩

theorem scan_from_plain {character : Char} (plain : isPlain character = true)
    (pending rest : List Char) :
    scanFrom pending (character :: rest) = scanFrom (character :: pending) rest := by
  simp only [isPlain, Bool.and_eq_true, Bool.not_eq_true', bne_iff_ne] at plain
  obtain ⟨⟨solid, notOpening⟩, notClosing⟩ := plain
  rw [scanFrom, if_neg (by simp [solid]), if_neg notOpening, if_neg notClosing]

theorem scan_from_blank {character : Char} (blank : Text.isBlank character = true)
    (pending rest : List Char) :
    scanFrom pending (character :: rest) = finish pending ++ scanFrom [] rest := by
  rw [scanFrom, if_pos blank]

theorem scan_from_opening (pending rest : List Char) :
    scanFrom pending ('[' :: rest) = finish pending ++ .opening :: scanFrom [] rest := rfl

theorem scan_from_closing (pending rest : List Char) :
    scanFrom pending (']' :: rest) = finish pending ++ .closing :: scanFrom [] rest := rfl

/-- A word that has been begun ends before a delimiter and at the end. -/
theorem scan_from_delimited (pending rest : List Char)
    (delimited : ∀ character ∈ rest.head?, isPlain character = false) :
    scanFrom pending rest = finish pending ++ scanFrom [] rest := by
  cases rest with
  | nil => simp [scanFrom, finish]
  | cons character rest =>
      have notPlain := delimited character rfl
      rcases character_cases character with plain | blank | rfl | rfl
      · rw [plain] at notPlain
        cases notPlain
      · rw [scan_from_blank blank, scan_from_blank blank]
        rfl
      · rw [scan_from_opening, scan_from_opening]
        rfl
      · rw [scan_from_closing, scan_from_closing]
        rfl

theorem scan_from_append (front rest pending : List Char)
    (delimited : ∀ character ∈ rest.head?, isPlain character = false) :
    scanFrom pending (front ++ rest) = scanFrom pending front ++ scanFrom [] rest := by
  induction front generalizing pending with
  | nil => exact scan_from_delimited pending rest delimited
  | cons character front ih =>
      rw [List.cons_append]
      rcases character_cases character with plain | blank | rfl | rfl
      · rw [scan_from_plain plain, scan_from_plain plain, ih]
      · rw [scan_from_blank blank, scan_from_blank blank, ih, List.append_assoc]
      · rw [scan_from_opening, scan_from_opening, ih, List.append_assoc, List.cons_append]
      · rw [scan_from_closing, scan_from_closing, ih, List.append_assoc, List.cons_append]

theorem scan_from_all_plain (characters pending : List Char)
    (plain : ∀ character ∈ characters, isPlain character = true) :
    scanFrom pending characters = finish (characters.reverse ++ pending) := by
  induction characters generalizing pending with
  | nil => rfl
  | cons character rest ih =>
      rw [scan_from_plain (plain character (by simp)), ih _ fun other member =>
        plain other (List.mem_cons_of_mem character member)]
      simp

theorem finish_clean {pending : List Char}
    (plain : ∀ character ∈ pending, isPlain character = true) : Clean (finish pending) := by
  intro text member
  unfold finish at member
  split at member
  · cases member
  · next filled =>
      have same : text = String.ofList pending.reverse := by simpa using member
      subst same
      refine ⟨fun none => filled ?_, fun character inside => plain character ?_⟩
      · simpa using congrArg String.toList none
      · simpa using inside

theorem clean_append {left right : List Token} (leftClean : Clean left)
    (rightClean : Clean right) : Clean (left ++ right) := by
  intro text member
  rcases List.mem_append.mp member with inLeft | inRight
  · exact leftClean text inLeft
  · exact rightClean text inRight

theorem scan_from_clean (characters pending : List Char)
    (plain : ∀ character ∈ pending, isPlain character = true) :
    Clean (scanFrom pending characters) := by
  induction characters generalizing pending with
  | nil => exact finish_clean plain
  | cons character rest ih =>
      have front : Clean (finish pending) := finish_clean plain
      have back : Clean (scanFrom [] rest) := ih [] (by simp)
      rcases character_cases character with solid | blank | rfl | rfl
      · rw [scan_from_plain solid]
        exact ih (character :: pending) (by simpa using ⟨solid, plain⟩)
      · rw [scan_from_blank blank]
        exact clean_append front back
      · rw [scan_from_opening]
        have bracket : Clean [.opening] := by simp [Clean]
        exact clean_append front (clean_append bracket back)
      · rw [scan_from_closing]
        have bracket : Clean [.closing] := by simp [Clean]
        exact clean_append front (clean_append bracket back)

theorem scan_clean (text : String) : Clean (scan text) :=
  scan_from_clean text.toList [] (by simp)

theorem scan_append (left right : String)
    (delimited : ∀ character ∈ right.toList.head?, isPlain character = false) :
    scan (left ++ right) = scan left ++ scan right := by
  unfold scan
  rw [String.toList_append]
  exact scan_from_append left.toList right.toList [] delimited

theorem scan_word {text : String} (word : IsWord text) : scan text = [.word text] := by
  have filled : text.toList ≠ [] := by simpa using word.1
  unfold scan
  rw [scan_from_all_plain text.toList [] word.2]
  simp [finish, filled]

theorem scan_space (rest : String) : scan (" " ++ rest) = scan rest := by
  unfold scan
  rw [String.toList_append]
  rfl

theorem scan_opening (rest : String) : scan ("[" ++ rest) = .opening :: scan rest := by
  unfold scan
  rw [String.toList_append]
  rfl

theorem scan_closing (rest : String) : scan ("]" ++ rest) = .closing :: scan rest := by
  unfold scan
  rw [String.toList_append]
  rfl

theorem scan_token_append (token : Token) (rest : String) (clean : Clean [token])
    (delimited : ∀ character ∈ rest.toList.head?, isPlain character = false) :
    scan (token.text ++ rest) = token :: scan rest := by
  cases token with
  | word text =>
      have word : IsWord text := clean text (by simp)
      change scan (text ++ rest) = _
      rw [scan_append text rest delimited, scan_word word, List.singleton_append]
  | opening => exact scan_opening rest
  | closing => exact scan_closing rest

theorem spell_closing_delimited (rest : List Token) :
    ∀ character ∈ (spell (.closing :: rest)).toList.head?, isPlain character = false := by
  have starts : (spell (.closing :: rest)).toList.head? = some ']' := by
    cases rest with
    | nil => rfl
    | cons next rest => simp [spell, text, String.toList_append]
  intro character first
  rw [starts] at first
  cases first
  rfl

/-- Tokens come back from their written form. -/
theorem scan_spell (tokens : List Token) (clean : Clean tokens) : scan (spell tokens) = tokens := by
  fun_induction spell tokens with
  | case1 => rfl
  | case2 last =>
      have alone := scan_token_append last "" clean (by simp)
      rwa [String.append_empty] at alone
  | case3 left right rest ih =>
      have restClean : Clean (right :: rest) := fun text member =>
        clean text (List.mem_cons_of_mem left member)
      have leftClean : Clean [left] := fun text member =>
        clean text (by simp_all)
      rw [String.append_assoc]
      by_cases apart : spaced left right = true
      · rw [if_pos apart, scan_token_append left _ leftClean (by simp [isPlain, Text.isBlank]),
          scan_space, ih restClean]
      · rw [if_neg apart, String.empty_append]
        by_cases opened : left = .opening
        · subst opened
          exact (scan_opening _).trans (congrArg _ (ih restClean))
        · have closed : right = .closing := by simpa [spaced, opened] using apart
          subst closed
          rw [scan_token_append left _ leftClean (spell_closing_delimited rest), ih restClean]

theorem scan_group_text (inner : List Token) (clean : Clean inner) :
    scan (groupText inner) = .opening :: (inner ++ [.closing]) := by
  unfold groupText
  rw [String.append_assoc, scan_opening, scan_append _ _ (by simp [isPlain]),
    scan_spell inner clean]
  rfl

theorem scan_intercalate (texts : List String) :
    scan (" ".intercalate texts) = texts.flatMap scan := by
  induction texts with
  | nil => rfl
  | cons first rest ih =>
      cases rest with
      | nil => simp
      | cons second rest =>
          rw [String.intercalate_cons_cons, String.append_assoc,
            scan_append first _ (by simp [isPlain, Text.isBlank]), scan_space, ih]
          rfl

theorem finish_begun (last : Char) (pending : List Char) :
    finish (last :: pending) = [.word (String.ofList (last :: pending).reverse)] := rfl

/-- Where the tokens start with two words, a blank stands between them. -/
theorem words_from_of_scan_from (characters pending : List Char) {first second : String}
    {rest : List Token}
    (scanned : scanFrom pending characters = .word first :: .word second :: rest) :
    ∃ others, Text.wordsFrom pending characters = first.toList :: others := by
  induction characters generalizing pending with
  | nil =>
      cases pending with
      | nil => cases scanned
      | cons last pending => cases scanned
  | cons character remaining ih =>
      rcases character_cases character with plain | blank | rfl | rfl
      · rw [scan_from_plain plain] at scanned
        rw [Text.wordsFrom, if_neg (by simp [not_blank_of_plain plain])]
        exact ih (character :: pending) scanned
      · rw [scan_from_blank blank] at scanned
        rw [Text.wordsFrom, if_pos blank]
        cases pending with
        | nil => exact ih [] scanned
        | cons last pending =>
            rw [finish_begun, List.singleton_append] at scanned
            have same := Token.word.inj (List.cons.inj scanned).1
            exact ⟨Text.wordsFrom [] remaining, by rw [← same, String.toList_ofList]; rfl⟩
      · rw [scan_from_opening] at scanned
        cases pending with
        | nil => cases scanned
        | cons last pending => cases scanned
      · rw [scan_from_closing] at scanned
        cases pending with
        | nil => cases scanned
        | cons last pending => cases scanned

theorem words_of_scan {line first second : String} {rest : List Token}
    (scanned : scan line = .word first :: .word second :: rest) :
    ∃ others, Text.words line = first :: others := by
  obtain ⟨others, cut⟩ := words_from_of_scan_from line.toList [] scanned
  refine ⟨others.map String.ofList, ?_⟩
  rw [Text.words, cut, List.map_cons, String.ofList_toList]

end TurtleLang.Token
