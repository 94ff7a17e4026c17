import TurtleLang.Proofs.AsciiCase
import TurtleLang.Source

/-!
Words and margins of a line. A text splits into words at any blank, so blanks in
front, behind and between are of no account; trimming keeps the words, and a line
of one word is that word once it is trimmed. The tokens of a line are the tokens
of its words, which makes them, and the terminator test, functions of the words
alone.
-/
namespace TurtleLang.Text

set_option autoImplicit false

def AllBlank (characters : List Char) : Prop :=
  ∀ character ∈ characters, isBlank character = true

instance (characters : List Char) : Decidable (AllBlank characters) :=
  List.decidableBAll _ _

theorem words_from_blank {blank : Char} (isBlank : isBlank blank = true)
    (pending rest : List Char) :
    wordsFrom pending (blank :: rest) = finishWord pending ++ wordsFrom [] rest := by
  rw [wordsFrom, if_pos isBlank]

theorem words_from_append {rest : List Char} (front pending : List Char)
    (ends : ∀ character ∈ rest.head?, isBlank character = true) :
    wordsFrom pending (front ++ rest) = wordsFrom pending front ++ wordsFrom [] rest := by
  induction front generalizing pending with
  | nil =>
      cases rest with
      | nil => exact (List.append_nil _).symm
      | cons character rest =>
          have blank := ends character rfl
          rw [List.nil_append, words_from_blank blank, words_from_blank blank]
          rfl
  | cons character front ih =>
      rw [List.cons_append, wordsFrom, wordsFrom]
      by_cases blank : isBlank character = true
      · rw [if_pos blank, if_pos blank, ih, List.append_assoc]
      · rw [if_neg blank, if_neg blank, ih]

theorem words_from_blank_front {blanks : List Char} (blank : AllBlank blanks) (rest : List Char) :
    wordsFrom [] (blanks ++ rest) = wordsFrom [] rest := by
  induction blanks with
  | nil => rfl
  | cons character blanks ih =>
      rw [List.cons_append, words_from_blank (blank character (by simp))]
      exact ih fun other member => blank other (List.mem_cons_of_mem character member)

theorem words_from_blank_back {blanks : List Char} (blank : AllBlank blanks)
    (pending front : List Char) :
    wordsFrom pending (front ++ blanks) = wordsFrom pending front := by
  have ends : ∀ character ∈ blanks.head?, isBlank character = true :=
    fun character first => blank character (List.mem_of_head? first)
  have none := words_from_blank_front blank []
  rw [List.append_nil] at none
  rw [words_from_append front pending ends, none]
  exact List.append_nil _

theorem words_from_of_solid {run : List Char}
    (solid : ∀ character ∈ run, isBlank character = false) (pending : List Char) :
    wordsFrom pending run = finishWord (run.reverse ++ pending) := by
  induction run generalizing pending with
  | nil => rfl
  | cons character run ih =>
      have first : isBlank character = false := solid character (by simp)
      rw [wordsFrom, if_neg (by simp [first]),
        ih fun other member => solid other (List.mem_cons_of_mem character member)]
      simp

/-- A word that has been begun is the next word, with what it is continued by. -/
theorem words_from_begun {pending : List Char} (begun : pending ≠ []) (characters : List Char) :
    ∃ front rest, characters = front ++ rest ∧
      wordsFrom pending characters = (pending.reverse ++ front) :: wordsFrom [] rest := by
  induction characters generalizing pending with
  | nil => exact ⟨[], [], rfl, by simp [wordsFrom, finishWord, begun]⟩
  | cons character characters ih =>
      by_cases blank : isBlank character = true
      · refine ⟨[], character :: characters, rfl, ?_⟩
        rw [words_from_blank blank, words_from_blank blank]
        simp [finishWord, begun]
      · obtain ⟨front, rest, rfl, cut⟩ := ih (List.cons_ne_nil character pending)
        refine ⟨character :: front, rest, rfl, ?_⟩
        rw [wordsFrom, if_neg blank, cut]
        simp

/-- The first word of a text stands behind blanks and in front of the other words. -/
theorem words_from_eq_cons {characters word : List Char} {others : List (List Char)}
    (cut : wordsFrom [] characters = word :: others) :
    ∃ blanks rest, characters = blanks ++ word ++ rest ∧ AllBlank blanks ∧
      wordsFrom [] rest = others := by
  induction characters with
  | nil => cases cut
  | cons character characters ih =>
      by_cases blank : isBlank character = true
      · rw [words_from_blank blank] at cut
        obtain ⟨blanks, rest, rfl, allBlank, others⟩ := ih cut
        refine ⟨character :: blanks, rest, by simp, ?_, others⟩
        simpa [AllBlank] using ⟨blank, allBlank⟩
      · rw [wordsFrom, if_neg blank] at cut
        obtain ⟨front, rest, rfl, begun⟩ :=
          words_from_begun (List.cons_ne_nil character []) characters
        rw [begun] at cut
        obtain ⟨rfl, rfl⟩ := List.cons.inj cut
        exact ⟨[], rest, by simp, by simp [AllBlank], rfl⟩

theorem words_from_eq_nil {characters : List Char} :
    wordsFrom [] characters = [] ↔ AllBlank characters := by
  constructor
  · intro none
    induction characters with
    | nil => simp [AllBlank]
    | cons character characters ih =>
        by_cases blank : isBlank character = true
        · rw [words_from_blank blank] at none
          simpa [AllBlank] using ⟨blank, ih none⟩
        · rw [wordsFrom, if_neg blank] at none
          obtain ⟨_, _, _, begun⟩ := words_from_begun (List.cons_ne_nil character []) characters
          rw [begun] at none
          cases none
  · intro blank
    simpa [wordsFrom, finishWord] using words_from_blank_front blank []

theorem drop_blanks_split (characters : List Char) :
    ∃ blanks, characters = blanks ++ dropBlanks characters ∧ AllBlank blanks :=
  ⟨characters.takeWhile isBlank, (List.takeWhile_append_dropWhile).symm,
    fun character member => List.all_eq_true.mp List.all_takeWhile character member⟩

theorem trim_blanks_split (characters : List Char) :
    ∃ front back, characters = front ++ trimBlanks characters ++ back ∧
      AllBlank front ∧ AllBlank back := by
  obtain ⟨front, frontSplit, frontBlank⟩ := drop_blanks_split characters
  obtain ⟨back, backSplit, backBlank⟩ := drop_blanks_split (dropBlanks characters).reverse
  refine ⟨front, back.reverse, ?_, frontBlank, ?_⟩
  · have turned := congrArg List.reverse backSplit
    rw [List.reverse_reverse, List.reverse_append] at turned
    rw [trimBlanks, List.append_assoc, ← turned]
    exact frontSplit
  · intro character member
    exact backBlank character (List.mem_reverse.mp member)

theorem words_trim (text : String) : words (trim text) = words text := by
  obtain ⟨front, back, split, frontBlank, backBlank⟩ := trim_blanks_split text.toList
  have same : wordsFrom [] text.toList = wordsFrom [] (trimBlanks text.toList) := by
    conv => lhs; rw [split]
    rw [words_from_blank_back backBlank, words_from_blank_front frontBlank]
  rw [words, words, trim, String.toList_ofList, same]

theorem drop_blanks_blank_front {blanks : List Char} (blank : AllBlank blanks) {rest : List Char}
    (solid : ∀ character ∈ rest.head?, isBlank character = false) :
    dropBlanks (blanks ++ rest) = rest := by
  unfold dropBlanks
  rw [List.dropWhile_append_of_pos blank]
  cases rest with
  | nil => rfl
  | cons character rest => exact List.dropWhile_cons_of_neg (by simp [solid character rfl])

/-- Trimming leaves what stands between blanks and has no blank at either end. -/
theorem trim_blanks_between {front middle back : List Char} (frontBlank : AllBlank front)
    (backBlank : AllBlank back) (filled : middle ≠ [])
    (solid : ∀ character ∈ middle, isBlank character = false) :
    trimBlanks (front ++ middle ++ back) = middle := by
  have backTurned : AllBlank back.reverse :=
    fun character member => backBlank character (List.mem_reverse.mp member)
  have frontGone : dropBlanks (front ++ (middle ++ back)) = middle ++ back := by
    apply drop_blanks_blank_front frontBlank
    cases middle with
    | nil => exact absurd rfl filled
    | cons character middle =>
        intro other first
        cases first
        exact solid character (by simp)
  have backGone : dropBlanks (back.reverse ++ middle.reverse) = middle.reverse := by
    apply drop_blanks_blank_front backTurned
    intro character first
    exact solid character (List.mem_reverse.mp (List.mem_of_head? first))
  rw [trimBlanks, List.append_assoc, frontGone, List.reverse_append, backGone,
    List.reverse_reverse]

theorem words_of_solid {text : String} (solid : IsSolid text) : words text = [text] := by
  have filled : text.toList ≠ [] := by simpa using solid.1
  rw [words, words_from_of_solid solid.2]
  simp [finishWord, filled]

theorem trim_of_words {text word : String} (cut : words text = [word]) : trim text = word := by
  have listed : word ∈ words text := by simp [cut]
  have solid : IsSolid word := words_solid listed
  unfold words at cut
  obtain ⟨characters, others, first, rfl, noOthers⟩ := List.map_eq_cons_iff.mp cut
  rw [List.map_eq_nil_iff] at noOthers
  obtain ⟨front, back, split, frontBlank, backWords⟩ := words_from_eq_cons first
  have backBlank : AllBlank back := words_from_eq_nil.mp (backWords.trans noOthers)
  have filled : characters ≠ [] := by simpa using solid.1
  rw [trim, split, trim_blanks_between frontBlank backBlank filled]
  simpa using solid.2

end TurtleLang.Text

namespace TurtleLang.Token

set_option autoImplicit false

/-- Scanning a text is scanning its words one by one. -/
theorem scan_from_words (characters pending : List Char) :
    scanFrom [] (pending.reverse ++ characters) =
      (Text.wordsFrom pending characters).flatMap (scanFrom []) := by
  induction characters generalizing pending with
  | nil =>
      rw [List.append_nil, Text.wordsFrom, Text.finishWord]
      split
      · next none => simp [List.isEmpty_iff.mp none, scanFrom, finish]
      · simp
  | cons character characters ih =>
      by_cases blank : Text.isBlank character = true
      · have delimited : isPlain character = false := by simp [isPlain, blank]
        have front : scanFrom [] pending.reverse =
            (Text.finishWord pending).flatMap (scanFrom []) := by
          rw [Text.finishWord]
          split
          · next none => simp [List.isEmpty_iff.mp none, scanFrom, finish]
          · simp
        rw [scan_from_append _ _ _ (by simp [delimited]), scan_from_blank blank,
          Text.words_from_blank blank, List.flatMap_append, ← front, ← ih []]
        simp [finish]
      · rw [Text.wordsFrom, if_neg blank, ← ih (character :: pending)]
        simp

theorem scan_eq_flat_map_words (text : String) :
    scan text = (Text.words text).flatMap scan := by
  have cut := scan_from_words text.toList []
  rw [scan, Text.words, List.flatMap_map]
  simpa [scan] using cut

end TurtleLang.Token

namespace TurtleLang

set_option autoImplicit false

theorem is_terminator_iff (text : String) :
    isTerminator text = true ↔
      ∃ word, Text.words text = [word] ∧ Text.lowerAscii word = "end" := by
  unfold isTerminator
  rw [beq_iff_eq]
  constructor
  · intro ends
    refine ⟨Text.trim text, ?_, ends⟩
    rw [← Text.words_trim text]
    apply Text.words_of_solid
    have lowered : (Text.trim text).toList.map Char.toLower = ['e', 'n', 'd'] := by
      simpa using congrArg String.toList ends
    constructor
    · intro none
      simp [none] at lowered
    · intro character member
      have letter : character.toLower ∈ ['e', 'n', 'd'] := by
        rw [← lowered]
        exact List.mem_map_of_mem member
      rw [← Text.is_blank_to_lower]
      revert letter
      generalize character.toLower = letter
      simp only [List.mem_cons, List.not_mem_nil, or_false]
      rintro (rfl | rfl | rfl) <;> rfl
  · rintro ⟨word, cut, ends⟩
    rw [Text.trim_of_words cut]
    exact ends

end TurtleLang
