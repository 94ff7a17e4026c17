import TurtleLang.Proofs.Words

/-!
Physical and executable lines. A physical line is a stretch of the source without
a line feed, and an executable one is such a stretch trimmed, under the number of
its place. Which executable lines a source has does not depend on how its lines
end, how far they are set in, or which skipped lines stand between them.
-/
namespace TurtleLang.Text

set_option autoImplicit false

theorem drop_blanks_all_blank {blanks : List Char} (blank : AllBlank blanks) :
    dropBlanks blanks = [] := by
  have gone : dropBlanks (blanks ++ []) = [] := drop_blanks_blank_front blank (by simp)
  rwa [List.append_nil] at gone

theorem trim_blanks_blank_front {blanks : List Char} (blank : AllBlank blanks)
    (rest : List Char) : trimBlanks (blanks ++ rest) = trimBlanks rest := by
  have gone : dropBlanks (blanks ++ rest) = dropBlanks rest := List.dropWhile_append_of_pos blank
  rw [trimBlanks, trimBlanks, gone]

theorem trim_blanks_blank_back {blanks : List Char} (blank : AllBlank blanks)
    (front : List Char) : trimBlanks (front ++ blanks) = trimBlanks front := by
  have turned : ∀ character ∈ blanks.reverse, isBlank character = true :=
    fun character member => blank character (List.mem_reverse.mp member)
  have gone : blanks.dropWhile isBlank = [] := drop_blanks_all_blank blank
  unfold trimBlanks dropBlanks
  rw [List.dropWhile_append]
  split
  · next none => rw [List.isEmpty_iff.mp none, gone]
  · rw [List.reverse_append, List.dropWhile_append_of_pos turned]

theorem trim_blanks_last (characters : List Char) :
    ∀ character ∈ (trimBlanks characters).getLast?, isBlank character = false := by
  intro character last
  have stopped := List.head?_dropWhile_not isBlank (dropBlanks characters).reverse
  rw [trimBlanks, List.getLast?_reverse, dropBlanks] at last
  rw [Option.mem_def.mp last] at stopped
  exact stopped

theorem trim_trim (text : String) : trim (trim text) = trim text := by
  obtain ⟨front, back, split, frontBlank, backBlank⟩ := trim_blanks_split text.toList
  have again : trimBlanks text.toList = trimBlanks (trimBlanks text.toList) := by
    conv => lhs; rw [split, trim_blanks_blank_back backBlank, trim_blanks_blank_front frontBlank]
  rw [trim, trim, String.toList_ofList, ← again]

theorem lines_from_front {front : List Char} (noFeed : '\n' ∉ front) (pending rest : List Char) :
    linesFrom pending (front ++ rest) = linesFrom (front.reverse ++ pending) rest := by
  induction front generalizing pending with
  | nil => rfl
  | cons character front ih =>
      have other : character ≠ '\n' := fun feed => noFeed (by simp [feed])
      rw [List.cons_append, linesFrom, if_neg other, ih fun member => noFeed (by simp [member])]
      simp

/-- A physical line, but for blanks around it, is the stretch it was cut from. -/
theorem trim_blanks_finish_line (pending : List Char) :
    trimBlanks (finishLine pending) = trimBlanks pending.reverse := by
  unfold finishLine
  split
  · next pending =>
      have blank : AllBlank ['\r'] := by simp [AllBlank, isBlank]
      rw [List.reverse_cons, trim_blanks_blank_back blank]
  · rfl

theorem lines_from_stretch {characters pending line : List Char} (noFeed : '\n' ∉ pending)
    (member : line ∈ linesFrom pending characters) :
    '\n' ∉ line ∧ line <:+: pending.reverse ++ characters := by
  induction characters generalizing pending with
  | nil =>
      rw [linesFrom] at member
      split at member
      · cases member
      · rw [List.mem_singleton] at member
        subst member
        exact ⟨by simpa using noFeed, by simp⟩
  | cons character characters ih =>
      rw [linesFrom] at member
      split at member
      · rcases List.mem_cons.mp member with rfl | later
        · have cut : finishLine pending <+: pending.reverse := by
            unfold finishLine
            split
            · simp
            · exact List.prefix_refl _
          refine ⟨fun feed => noFeed ?_, ?_⟩
          · exact List.mem_reverse.mp (cut.subset feed)
          · exact (cut.trans (List.prefix_append _ _)).isInfix
        · obtain ⟨clean, inside⟩ := ih (by simp) later
          refine ⟨clean, inside.trans ?_⟩
          exact (List.suffix_append (pending.reverse ++ [character]) characters).isInfix.trans
            (by simp)
      · next other =>
          have stretch := ih (by simpa using ⟨Ne.symm other, noFeed⟩) member
          simpa using stretch

theorem lines_stretch {source line : String} (member : line ∈ lines source) :
    '\n' ∉ line.toList ∧ line.toList <:+: source.toList := by
  unfold lines at member
  obtain ⟨characters, cut, rfl⟩ := List.mem_map.mp member
  rw [String.toList_ofList]
  exact lines_from_stretch (by simp) cut

end TurtleLang.Text

namespace TurtleLang

set_option autoImplicit false

namespace Line

/-- An executable line is the trimmed physical line of its number. -/
def IsPhysical (source : String) (line : Line) : Prop :=
  ∃ index raw, (Text.lines source)[index]? = some raw ∧ line.number = index + 1 ∧
    line.text = Text.trim raw

end Line

theorem number_lines_physical {first : Nat} {texts : List String} {line : Line}
    (member : line ∈ numberLines first texts) :
    ∃ index raw, texts[index]? = some raw ∧ line.number = first + index ∧
      line.text = Text.trim raw := by
  induction texts generalizing first with
  | nil => cases member
  | cons text texts ih =>
      rcases List.mem_cons.mp member with rfl | later
      · exact ⟨0, text, rfl, rfl, rfl⟩
      · obtain ⟨index, raw, found, number, trimmed⟩ := ih later
        exact ⟨index + 1, raw, by simpa using found, by omega, trimmed⟩

theorem executable_lines_physical {source : String} {line : Line}
    (member : line ∈ executableLines source) : line.IsPhysical source := by
  have listed := (List.mem_filter.mp member).1
  obtain ⟨index, raw, found, number, trimmed⟩ := number_lines_physical listed
  exact ⟨index, raw, found, by omega, trimmed⟩

theorem executable_trim {source : String} {line : Line} (member : line ∈ executableLines source) :
    Text.trim line.text = line.text := by
  obtain ⟨_, raw, _, _, trimmed⟩ := executable_lines_physical member
  rw [trimmed, Text.trim_trim]

theorem number_lines_text (first : Nat) (texts : List String) :
    (numberLines first texts).map Line.text = texts.map Text.trim := by
  induction texts generalizing first with
  | nil => rfl
  | cons text texts ih => rw [numberLines, List.map_cons, List.map_cons, ih]

/-- Texts trimmed, without those that carry no command. -/
def keptTexts (texts : List String) : List String :=
  (texts.map Text.trim).filter fun text => !isSkipped text

theorem executable_lines_text (source : String) :
    (executableLines source).map Line.text = keptTexts (Text.lines source) := by
  rw [executableLines, keptTexts, ← number_lines_text 1, List.filter_map]
  rfl

def IsLineEnd (ending : String) : Prop :=
  ending = "\n" ∨ ending = "\r\n"

instance (ending : String) : Decidable (IsLineEnd ending) :=
  inferInstanceAs (Decidable (_ ∨ _))

theorem kept_texts_cons (text : String) (texts : List String) :
    keptTexts (text :: texts) = keptTexts [text] ++ keptTexts texts := by
  rw [keptTexts, ← List.singleton_append, List.map_append, List.filter_append]
  rfl

theorem kept_texts_of_trim {text other : String} (same : Text.trim text = Text.trim other) :
    keptTexts [text] = keptTexts [other] := by
  rw [keptTexts, keptTexts, List.map_singleton, List.map_singleton, same]

theorem kept_texts_line {ending text : String} (ends : IsLineEnd ending)
    (noFeed : '\n' ∉ text.toList) (rest : String) :
    keptTexts (Text.lines (text ++ ending ++ rest)) =
      keptTexts [text] ++ keptTexts (Text.lines rest) := by
  have feed : ∃ blanks : List Char, ending.toList = blanks ++ ['\n'] ∧ Text.AllBlank blanks ∧
      '\n' ∉ blanks := by
    rcases ends with rfl | rfl
    · exact ⟨[], rfl, by simp [Text.AllBlank], by simp⟩
    · exact ⟨['\r'], rfl, by simp [Text.AllBlank, Text.isBlank], by simp⟩
  obtain ⟨blanks, spelled, blank, blanksClean⟩ := feed
  have clean : '\n' ∉ text.toList ++ blanks := by
    simpa using ⟨noFeed, blanksClean⟩
  have cut : Text.lines (text ++ ending ++ rest) =
      String.ofList (Text.finishLine (text.toList ++ blanks).reverse) :: Text.lines rest := by
    rw [Text.lines, String.toList_append, String.toList_append, spelled, ← List.append_assoc,
      List.append_assoc, Text.lines_from_front clean, List.singleton_append, Text.linesFrom,
      if_pos rfl, List.append_nil]
    rfl
  rw [cut, kept_texts_cons, kept_texts_of_trim]
  rw [Text.trim, Text.trim, String.toList_ofList, Text.trim_blanks_finish_line,
    List.reverse_reverse, Text.trim_blanks_blank_back blank]

/-- The executable texts of lines joined by line ends are those of the lines. -/
theorem kept_texts_join {ending : String} (ends : IsLineEnd ending) {texts : List String}
    (noFeed : ∀ text ∈ texts, '\n' ∉ text.toList) :
    keptTexts (Text.lines (ending.intercalate texts)) = keptTexts texts := by
  induction texts with
  | nil => rfl
  | cons text texts ih =>
      have clean := noFeed text (by simp)
      have restKept := ih fun other member => noFeed other (List.mem_cons_of_mem text member)
      cases texts with
      | nil =>
          -- The last line has no end; when it is empty it is no line, and no text is lost.
          have alone := Text.lines_from_front clean [] []
          rw [String.intercalate_singleton, Text.lines]
          rw [List.append_nil, List.append_nil, Text.linesFrom] at alone
          rw [alone]
          split
          · next none =>
              have empty : text = "" := by simpa using none
              subst empty
              rfl
          · simp
      | cons second texts =>
          rw [String.intercalate_cons_cons, kept_texts_line ends clean, restKept]
          exact (kept_texts_cons text (second :: texts)).symm

end TurtleLang
