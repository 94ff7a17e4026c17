import TurtleLang.Proofs.Likeness

/-!
Layout does not matter. Whether a line opens or closes a definition, what it
declares and which commands it holds follow from its words, although some of that
is read from the words, some from the trimmed text and some from the tokens. Only
the echo of a line that is not understood shows the blanks between the words. Two
sources with the same words line by line are therefore translated alike, and where
the trimmed lines agree, the translations are equal.
-/
namespace TurtleLang

set_option autoImplicit false

theorem is_header_of_words {text other : String} (same : Text.words text = Text.words other) :
    isHeader text = isHeader other := by
  rw [isHeader, isHeader, same]

theorem is_terminator_of_words {text other : String} (same : Text.words text = Text.words other) :
    isTerminator text = isTerminator other := by
  apply Bool.eq_iff_iff.mpr
  rw [is_terminator_iff, is_terminator_iff, same]

theorem heading_of_words {text other : String} (same : Text.words text = Text.words other) :
    Procedure.heading text = Procedure.heading other := by
  rw [Procedure.heading, Procedure.heading, same]

theorem scan_of_words {text other : String} (same : Text.words text = Text.words other) :
    Token.scan text = Token.scan other := by
  rw [Token.scan_eq_flat_map_words text, Token.scan_eq_flat_map_words other, same]

namespace Phrase

/-- A phrase up to the blanks in the source text that it echoes. -/
def gist : Phrase → Phrase ⊕ List String
  | .unknown text => .inr (Text.words text)
  | phrase => .inl phrase

theorem gist_cases {phrase other : Phrase} (same : phrase.gist = other.gist) :
    phrase = other ∨ ∃ text otherText, phrase = .unknown text ∧ other = .unknown otherText ∧
      Text.words text = Text.words otherText := by
  cases phrase with
  | unknown text =>
      cases other with
      | unknown otherText => exact .inr ⟨text, otherText, rfl, rfl, Sum.inr.inj same⟩
      | _ => cases same
  | _ =>
      left
      cases other with
      | unknown otherText => cases same
      | _ => exact Sum.inl.inj same

theorem not_effective_unknown (text : String) : (unknown text).isEffective = false := by
  have starts : (unknown text).text.toList.head? = some '#' := head_append rfl text
  obtain ⟨rest, whole⟩ := List.head?_eq_some_iff.mp starts
  rw [isEffective, Statement.isEffective, Text.dropBlanks, whole,
    List.dropWhile_cons_of_neg (by decide)]
  rfl

theorem is_effective_of_gist {phrase other : Phrase} (same : phrase.gist = other.gist) :
    phrase.isEffective = other.isEffective := by
  rcases gist_cases same with rfl | ⟨text, otherText, rfl, rfl, _⟩
  · rfl
  · rw [not_effective_unknown, not_effective_unknown]

end Phrase

namespace Command

theorem echo_of_words {text other : String} (same : Text.words text = Text.words other) :
    Outline.map Phrase.gist (outline (.unknown (Text.trim text))) =
      Outline.map Phrase.gist (outline (.unknown (Text.trim other))) := by
  simp only [outline, Outline.map, Outline.mapOf, Phrase.gist, Text.words_trim, same]

theorem read_plain_of_words {text other : String} (same : Text.words text = Text.words other)
    (registry : Registry) (first : String) (rest : List String) :
    Outline.map Phrase.gist (outline (readPlain registry text first rest)) =
      Outline.map Phrase.gist (outline (readPlain registry other first rest)) := by
  unfold readPlain
  dsimp only
  split
  · rfl
  · split
    · rfl
    · exact echo_of_words same

theorem read_by_word_of_words {text other : String} (same : Text.words text = Text.words other)
    (registry : Registry) (rest : List String) :
    Outline.map Phrase.gist (outline (readByWord registry text rest)) =
      Outline.map Phrase.gist (outline (readByWord registry other rest)) := by
  cases rest with
  | nil => exact echo_of_words same
  | cons count block => rfl

/-- What a line is read as follows from its words, but for the blanks it echoes. -/
theorem read_line_of_words {text other : String} (same : Text.words text = Text.words other)
    (registry : Registry) (policy : SplitPolicy) :
    Outline.mapOf Phrase.gist (outlinesOf (readLine registry policy text)) =
      Outline.mapOf Phrase.gist (outlinesOf (readLine registry policy other)) := by
  unfold readLine
  rw [same, scan_of_words same]
  split
  · rfl
  · split
    · cases policy with
      | command => rfl
      | token => exact congrArg (fun first => [first]) (read_by_word_of_words same registry _)
    · exact congrArg (fun first => [first]) (read_plain_of_words same registry _ _)

end Command

def wordLikeness : Likeness (List String) (Phrase ⊕ List String) where
  key := Text.words
  form := Phrase.gist
  effective _ _ := Phrase.is_effective_of_gist
  header _ _ := is_header_of_words
  terminator _ _ := is_terminator_of_words
  heading _ _ := heading_of_words
  reading registry policy _ _ same := Command.read_line_of_words same registry policy

/-- Output lines that are equal, or that echo texts with the same words at the same
depth. -/
def SameButBlanks (options : Options) (line other : String) : Prop :=
  line = other ∨ ∃ depth text otherText, Text.words text = Text.words otherText ∧
    line = options.margin depth ++ ("# Unknown: " ++ text) ∧
    other = options.margin depth ++ ("# Unknown: " ++ otherText)

theorem same_but_blanks_of_gist (options : Options) {row other : Nat × Phrase}
    (same : (row.1, row.2.gist) = (other.1, other.2.gist)) :
    SameButBlanks options (Phrase.line options row) (Phrase.line options other) := by
  obtain ⟨depth, phrase⟩ := row
  obtain ⟨otherDepth, otherPhrase⟩ := other
  obtain ⟨rfl, gists⟩ := Prod.mk.injEq _ _ _ _ ▸ same
  rcases Phrase.gist_cases gists with rfl | ⟨text, otherText, rfl, rfl, words⟩
  · exact .inl rfl
  · exact .inr ⟨depth, text, otherText, words, rfl, rfl⟩

inductive LaidOut (options : Options) (source other : String) : Prop
  | translated {script otherScript : Script} :
      Script.compile options source = .ok script →
      Script.compile options other = .ok otherScript →
      script.procedures = otherScript.procedures →
      script.lines.length = otherScript.lines.length →
      (∀ (index : Nat) line otherLine, script.lines[index]? = some line →
        otherScript.lines[index]? = some otherLine → SameButBlanks options line otherLine) →
        LaidOut options source other
  /-- The fault is the same but for its number, which is in each source that of the
  physical line with the header. -/
  | rejected {index : Nat} {header otherHeader : Line} {defect : Defect} :
      (executableLines source)[index]? = some header →
      (executableLines other)[index]? = some otherHeader →
      isHeader header.text = true → isHeader otherHeader.text = true →
      header.IsPhysical source → otherHeader.IsPhysical other →
      Script.compile options source = .error (defect.fault header.number) →
      Script.compile options other = .error (defect.fault otherHeader.number) →
        LaidOut options source other

structure LayoutIndependent (options : Options) : Prop where
  words_decide : ∀ source other,
    (executableLines source).map (fun line => Text.words line.text) =
      (executableLines other).map (fun line => Text.words line.text) →
    LaidOut options source other
  /-- Skipped lines, the space around a line and the kind of line end are free. -/
  trimmed_lines_decide : ∀ texts others ending otherEnding,
    IsLineEnd ending → IsLineEnd otherEnding →
    (∀ text ∈ texts, '\n' ∉ text.toList) → (∀ text ∈ others, '\n' ∉ text.toList) →
    keptTexts texts = keptTexts others → ∀ script,
    Script.compile options (ending.intercalate texts) = .ok script →
      Script.compile options (otherEnding.intercalate others) = .ok script

namespace Script

theorem laid_out_of_words (options : Options) {source other : String}
    (same : (executableLines source).map (fun line => Text.words line.text) =
      (executableLines other).map fun line => Text.words line.text) :
    LaidOut options source other := by
  cases wordLikeness.compile_together same with
  | @compiled items others compiled otherCompiled names forms =>
      refine .translated (compiled options) (otherCompiled options) names ?_ ?_
      · rw [lines_of_items, lines_of_items]
        simpa using congrArg List.length (forms options.split)
      · intro index line otherLine found otherFound
        rw [lines_of_items, List.getElem?_map, Option.map_eq_some_iff] at found otherFound
        obtain ⟨row, here, rfl⟩ := found
        obtain ⟨otherRow, otherHere, rfl⟩ := otherFound
        have paired := congrArg (·[index]?) (forms options.split)
        simp only [List.getElem?_map, here, otherHere, Option.map_some, Option.some.injEq] at paired
        exact same_but_blanks_of_gist options paired
  | stopped found otherFound opening otherOpening failed otherFailed =>
      exact .rejected found otherFound opening otherOpening
        (executable_lines_physical (List.mem_of_getElem? found))
        (executable_lines_physical (List.mem_of_getElem? otherFound)) (failed options)
        (otherFailed options)

end Script

def textLikeness : Likeness String Phrase where
  key text := text
  form phrase := phrase
  effective _ _ same := by rw [same]
  header _ _ same := by rw [same]
  terminator _ _ same := by rw [same]
  heading _ _ same := by rw [same]
  reading _ _ _ _ same := by rw [same]

namespace Script

/-- The numbers of the lines show in faults alone. -/
theorem compile_of_texts {options : Options} {source other : String} {script : Script}
    (same : (executableLines source).map Line.text = (executableLines other).map Line.text)
    (compiled : compile options source = .ok script) : compile options other = .ok script := by
  cases textLikeness.compile_together same with
  | @compiled items others found otherFound names forms =>
      have rows : Outline.rowsOf 0 (forest options.split items) =
          Outline.rowsOf 0 (forest options.split others) := by
        simpa [textLikeness] using forms options.split
      have scripts : ofItems options items = ofItems options others := by
        simp only [ofItems, statements_forest, rows, names]
      rw [otherFound options, ← scripts, ← found options]
      exact compiled
  | stopped _ _ _ _ failed _ =>
      rw [failed options] at compiled
      cases compiled

/-- No translation depends on how its source is laid out. -/
theorem compile_layout_independent (options : Options) : LayoutIndependent options where
  words_decide source other same := laid_out_of_words options same
  trimmed_lines_decide texts others ending otherEnding ends otherEnds clean otherClean same script
      compiled := by
    apply compile_of_texts _ compiled
    rw [executable_lines_text, executable_lines_text, kept_texts_join ends clean,
      kept_texts_join otherEnds otherClean, same]

/-- A comment and blank lines inside a definition, other margins and line ends; and
a line that is not understood, set wider, in front of a header without a name. -/
theorem compile_layout_independent_block :
    compile {} ("\n".intercalate ["to go :n", "fd :n", "end", "go 3"]) =
        .ok ⟨["import turtle", "", "def go(n):", "    turtle.forward(n)", "go(3)",
          "turtle.done()"], ["go"]⟩ ∧
      compile {} ("\r\n".intercalate
          ["", "  to go :n ", "; inside", "\tfd :n", "", "end", "go 3", ""]) =
        .ok ⟨["import turtle", "", "def go(n):", "    turtle.forward(n)", "go(3)",
          "turtle.done()"], ["go"]⟩ ∧
      LaidOut {} "jump  now" "\r\n\tjump\tnow" ∧ LaidOut {} "to" "; a\n\n  to" := by
  have source : compile {} ("\n".intercalate ["to go :n", "fd :n", "end", "go 3"]) =
      .ok ⟨["import turtle", "", "def go(n):", "    turtle.forward(n)", "go(3)",
        "turtle.done()"], ["go"]⟩ := by
    decide +kernel
  refine ⟨source, ?_, ?_, ?_⟩
  · exact (compile_layout_independent {}).trimmed_lines_decide _ _ "\n" "\r\n" (by decide)
      (by decide) (by decide) (by decide) (by decide +kernel) _ source
  · exact (compile_layout_independent {}).words_decide _ _ (by decide +kernel)
  · exact (compile_layout_independent {}).words_decide _ _ (by decide +kernel)

end Script

end TurtleLang
