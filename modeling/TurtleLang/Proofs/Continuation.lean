import TurtleLang.Proofs.Layout

/-!
Sources put one behind the other. A line feed between two sources ends the last line
of the first one, whether or not that line was ended before, so the executable lines
of the whole are those of the first source and those of the second, numbered further
down. The walk over the whole begins as the walk over the first source. What that
source was compiled to is therefore never changed by what comes later, and neither is
a fault for which the lines behind its header are of no account.
-/
namespace TurtleLang.Text

set_option autoImplicit false

theorem lines_from_feed (front pending rest : List Char) :
    linesFrom pending (front ++ '\n' :: rest) =
      linesFrom pending (front ++ ['\n']) ++ linesFrom [] rest := by
  induction front generalizing pending with
  | nil => rfl
  | cons character front ih =>
      rw [List.cons_append, List.cons_append, linesFrom, linesFrom]
      split
      · rw [ih, List.cons_append]
      · exact ih (character :: pending)

theorem lines_from_closed_length (front pending : List Char) :
    (linesFrom pending (front ++ ['\n'])).length = front.count '\n' + 1 := by
  induction front generalizing pending with
  | nil => rfl
  | cons character front ih =>
      rw [List.cons_append, linesFrom, List.count_cons]
      by_cases feed : character = '\n'
      · rw [if_pos feed, List.length_cons, ih]
        simp [feed]
      · rw [if_neg feed, ih]
        simp [feed]

/-- A line feed at the end closes a line that was begun, or adds an empty one. -/
theorem lines_from_closed (front pending : List Char) :
    ∃ added, (linesFrom pending (front ++ ['\n'])).map trimBlanks =
        (linesFrom pending front).map trimBlanks ++ added ∧ (added = [] ∨ added = [[]]) := by
  induction front generalizing pending with
  | nil =>
      cases pending with
      | nil => exact ⟨[[]], rfl, .inr rfl⟩
      | cons last pending =>
          refine ⟨[], ?_, .inl rfl⟩
          rw [List.nil_append, linesFrom, linesFrom, linesFrom]
          simp [trim_blanks_finish_line]
  | cons character front ih =>
      rw [List.cons_append, linesFrom, linesFrom]
      by_cases feed : character = '\n'
      · obtain ⟨added, same, few⟩ := ih []
        refine ⟨added, ?_, few⟩
        rw [if_pos feed, if_pos feed, List.map_cons, List.map_cons, same, List.cons_append]
      · rw [if_neg feed, if_neg feed]
        exact ih (character :: pending)

theorem lines_feed (front back : String) :
    lines (front ++ "\n" ++ back) = lines (front ++ "\n") ++ lines back := by
  rw [lines, lines, lines, String.toList_append, String.toList_append, List.append_assoc,
    ← List.map_append]
  exact congrArg _ (lines_from_feed front.toList [] back.toList)

theorem lines_closed_length (front : String) :
    (lines (front ++ "\n")).length = front.toList.count '\n' + 1 := by
  rw [lines, List.length_map, String.toList_append]
  exact lines_from_closed_length front.toList []

theorem lines_closed (front : String) :
    ∃ added, (lines (front ++ "\n")).map trim = (lines front).map trim ++ added ∧
      (added = [] ∨ added = [""]) := by
  have trimmed : trim ∘ String.ofList = String.ofList ∘ trimBlanks := by
    funext characters
    simp [trim]
  obtain ⟨added, same, few⟩ := lines_from_closed front.toList []
  refine ⟨added.map String.ofList, ?_, ?_⟩
  · rw [lines, lines, List.map_map, List.map_map, trimmed, ← List.map_map, ← List.map_map,
      ← List.map_append, ← same, String.toList_append]
    rfl
  · rcases few with rfl | rfl
    · exact .inl rfl
    · exact .inr rfl

end TurtleLang.Text

namespace TurtleLang

set_option autoImplicit false

def Line.later (offset : Nat) (line : Line) : Line :=
  { line with number := line.number + offset }

def SourceFault.later (offset : Nat) : SourceFault → SourceFault
  | .missingTerminator name line => .missingTerminator name (line + offset)
  | .missingName line => .missingName (line + offset)
  | .duplicateParameter name parameter line => .duplicateParameter name parameter (line + offset)
  | .notAHeader index => .notAHeader index

theorem Defect.fault_later (defect : Defect) (number offset : Nat) :
    defect.fault (number + offset) = (defect.fault number).later offset := by
  cases defect <;> rfl

theorem number_lines_append (first : Nat) (texts others : List String) :
    numberLines first (texts ++ others) =
      numberLines first texts ++ numberLines (first + texts.length) others := by
  induction texts generalizing first with
  | nil => rfl
  | cons text texts ih =>
      rw [List.cons_append, numberLines, numberLines, ih, List.length_cons, List.cons_append]
      congr 3
      omega

theorem number_lines_later (first offset : Nat) (texts : List String) :
    numberLines (first + offset) texts = (numberLines first texts).map (Line.later offset) := by
  induction texts generalizing first with
  | nil => rfl
  | cons text texts ih =>
      have next : first + offset + 1 = first + 1 + offset := by omega
      rw [numberLines, numberLines, List.map_cons, next, ih]
      rfl

theorem number_lines_trim (first : Nat) (texts : List String) :
    numberLines first (texts.map Text.trim) = numberLines first texts := by
  induction texts generalizing first with
  | nil => rfl
  | cons text texts ih => rw [List.map_cons, numberLines, numberLines, ih, Text.trim_trim]

theorem executable_lines_closed (front : String) :
    executableLines (front ++ "\n") = executableLines front := by
  obtain ⟨added, same, few⟩ := Text.lines_closed front
  have skipped : ∀ number, (numberLines number added).filter (fun line => !isSkipped line.text) =
      [] := by
    intro number
    rcases few with rfl | rfl
    · rfl
    · rfl
  rw [executableLines, ← number_lines_trim, same, number_lines_append, List.filter_append, skipped,
    List.append_nil, number_lines_trim]
  rfl

/-- The number of lines that a source takes in front of another one. -/
def linesTaken (front : String) : Nat :=
  front.toList.count '\n' + 1

theorem executable_lines_feed (front back : String) :
    executableLines (front ++ "\n" ++ back) =
      executableLines front ++ (executableLines back).map (Line.later (linesTaken front)) := by
  have behind : (numberLines (1 + linesTaken front) (Text.lines back)).filter
      (fun line => !isSkipped line.text) =
        (executableLines back).map (Line.later (linesTaken front)) := by
    rw [number_lines_later, List.filter_map]
    rfl
  rw [← executable_lines_closed front, executableLines, Text.lines_feed, number_lines_append,
    List.filter_append, Text.lines_closed_length]
  exact congrArg _ behind

theorem spans_append {items others : List Item} {lines rest : List Line} (spans : Spans items lines)
    (otherSpans : Spans others rest) : Spans (items ++ others) (lines ++ rest) := by
  induction spans with
  | nil => exact otherSpans
  | command plain _ ih => exact .command plain ih
  | definition opening declared texts inner closing _ ih =>
      rw [List.cons_append, List.cons_append, List.append_assoc, List.cons_append]
      exact .definition opening declared texts inner closing ih

theorem reaches_behind {items : List Item} {consumed lines rest : List Line} {header : Line}
    (spans : Spans items consumed) (reached : Reaches lines header rest) :
    Reaches (consumed ++ lines) header rest := by
  obtain ⟨opening, others, between, otherSpans, rfl⟩ := reached
  refine ⟨opening, items ++ others, consumed ++ between, spans_append spans otherSpans, ?_⟩
  rw [List.append_assoc]

theorem reaches_before {lines rest : List Line} {header : Line}
    (reached : Reaches lines header rest) (more : List Line) :
    Reaches (lines ++ more) header (rest ++ more) := by
  obtain ⟨opening, items, consumed, spans, rfl⟩ := reached
  refine ⟨opening, items, consumed, spans, ?_⟩
  rw [List.append_assoc, List.cons_append]

theorem line_key_later (offset : Nat) (lines : List Line) :
    lines.map textLikeness.lineKey = (lines.map (Line.later offset)).map textLikeness.lineKey := by
  rw [List.map_map]
  rfl

namespace Script

variable {options : Options} {front back : String}

instance (options : Options) (source : String) (fault : SourceFault) :
    Decidable (compile options source = .error fault) :=
  match compile options source with
  | .error other => decidable_of_iff (other = fault) (by simp)
  | .ok _ => .isFalse (by simp)

theorem lines_of_items_rows_up_to (options : Options) (items : List Item) :
    (ofItems options items).lines =
      (rowsUpTo options.split items).map (Phrase.line options) ++ ["turtle.done()"] := by
  have last : Phrase.line options (0, .epilogue) = "turtle.done()" := layout_top options _
  rw [lines_of_items, forest, Outline.rows_of_append, List.map_append, rowsUpTo]
  simp only [Outline.rowsOf, Outline.rows, List.append_nil, List.map_cons, List.map_nil, last]

theorem rows_up_to_append (policy : SplitPolicy) (items others : List Item) :
    rowsUpTo policy (items ++ others) = rowsUpTo policy items ++
      Outline.rowsOf 0 (itemForest policy (knownAfter items) others) := by
  rw [rowsUpTo, rowsUpTo, item_forest_append, ← List.cons_append, Outline.rows_of_append]
  rfl

/-- The first items of a program keep their lines and names, whatever follows them. -/
theorem of_items_append (options : Options) (items others : List Item) :
    (∃ kept, (ofItems options items).lines = kept ++ ["turtle.done()"] ∧
        kept <+: (ofItems options (items ++ others)).lines) ∧
      (ofItems options (items ++ others)).procedures =
        (ofItems options items).procedures ++ (ofItems options others).procedures := by
  refine ⟨⟨_, lines_of_items_rows_up_to options items, ?_⟩, List.filterMap_append ..⟩
  rw [lines_of_items_rows_up_to options (items ++ others), rows_up_to_append, List.map_append,
    List.append_assoc]
  exact List.prefix_append _ _

theorem spans_of_compile {script : Script} (compiled : compile options front = .ok script) :
    ∃ items, Spans items (executableLines front) ∧ script = ofItems options items := by
  obtain ⟨items, found, rfl⟩ := items_of_compile compiled
  have spanned := read_items_spans (executableLines front)
  rw [found] at spanned
  exact ⟨items, spanned rfl, rfl⟩

theorem compile_feed_ok {script rest : Script} (compiled : compile options front = .ok script)
    (restCompiled : compile options back = .ok rest) :
    ∃ whole, compile options (front ++ "\n" ++ back) = .ok whole ∧
      (∃ kept, script.lines = kept ++ ["turtle.done()"] ∧ kept <+: whole.lines) ∧
      whole.procedures = script.procedures ++ rest.procedures := by
  obtain ⟨items, spans, rfl⟩ := spans_of_compile compiled
  obtain ⟨others, otherSpans, rfl⟩ := spans_of_compile restCompiled
  obtain ⟨moved, movedSpans, looks⟩ :=
    textLikeness.spans otherSpans (line_key_later (linesTaken front) (executableLines back))
  have wholeSpans : Spans (items ++ moved) (executableLines (front ++ "\n" ++ back)) := by
    rw [executable_lines_feed]
    exact spans_append spans movedSpans
  have names : (ofItems options others).procedures = (ofItems options moved).procedures :=
    textLikeness.defined_names looks
  obtain ⟨kept, procedures⟩ := of_items_append options items moved
  exact ⟨ofItems options (items ++ moved), compile_of_items wholeSpans options, kept,
    by rw [procedures, names]⟩

theorem compile_feed_error {script : Script} {fault : SourceFault}
    (compiled : compile options front = .ok script) (failed : compile options back = .error fault) :
    compile options (front ++ "\n" ++ back) = .error (fault.later (linesTaken front)) := by
  obtain ⟨items, spans, rfl⟩ := spans_of_compile compiled
  rcases compile_outcome back with ⟨others, _, otherCompiled⟩ | stopped
  · rw [otherCompiled options] at failed
    cases failed
  · obtain ⟨header, rest, defect, reached, wrong, stops⟩ := stopped
    rw [stops options] at failed
    cases failed
    obtain ⟨index, moved, movedRest, movedReached, found, movedFound, keyed, restKeyed⟩ :=
      textLikeness.reaches (line_key_later (linesTaken front) (executableLines back)) reached
    have same : moved = header.later (linesTaken front) := by
      rw [List.getElem?_map, found, Option.map_some, Option.some.injEq] at movedFound
      exact movedFound.symm
    subst same
    have movedWrong := textLikeness.has_defect reached.1 keyed restKeyed wrong
    have wholeReached : Reaches (executableLines (front ++ "\n" ++ back))
        (header.later (linesTaken front)) movedRest := by
      rw [executable_lines_feed]
      exact reaches_behind spans movedReached
    rw [compile_of_reaches wholeReached movedWrong options]
    exact congrArg _ (defect.fault_later header.number (linesTaken front))

/-- A header whose defect does not lie in the lines behind it keeps its fault. -/
theorem compile_feed_defect {header : Line} {rest : List Line} {defect : Defect}
    (reached : Reaches (executableLines front) header rest)
    (lasting : ∀ more, HasDefect header.text (rest ++ more) defect) (options : Options)
    (back : String) :
    compile options (front ++ "\n" ++ back) = .error (defect.fault header.number) := by
  have wholeReached := reaches_before reached
    ((executableLines back).map (Line.later (linesTaken front)))
  rw [← executable_lines_feed] at wholeReached
  exact compile_of_reaches wholeReached (lasting _) options

/-- How what a source is compiled to shows when another source is put behind it. -/
structure OnePass (options : Options) (front back : String) : Prop where
  /-- All lines but the call of the event loop stay, and so do the procedures. -/
  kept : ∀ script whole, compile options front = .ok script →
    compile options (front ++ "\n" ++ back) = .ok whole →
    (∃ lines, script.lines = lines ++ ["turtle.done()"] ∧ lines <+: whole.lines) ∧
      script.procedures <+: whole.procedures
  /-- Behind a source that compiles, the second one decides whether the whole does, and
  a fault of its own is found further down. -/
  compiled_iff : ∀ script, compile options front = .ok script →
    ((∃ whole, compile options (front ++ "\n" ++ back) = .ok whole) ↔
      ∃ rest, compile options back = .ok rest)
  fault_behind : ∀ script fault, compile options front = .ok script →
    compile options back = .error fault →
    compile options (front ++ "\n" ++ back) = .error (fault.later (linesTaken front))
  missingName : ∀ line, compile options front = .error (.missingName line) →
    compile options (front ++ "\n" ++ back) = .error (.missingName line)
  duplicateParameter : ∀ name parameter line,
    compile options front = .error (.duplicateParameter name parameter line) →
    compile options (front ++ "\n" ++ back) = .error (.duplicateParameter name parameter line)

theorem compile_feed_rejected {fault : SourceFault} (failed : compile options front = .error fault)
    (closed : ∀ name line, fault ≠ .missingTerminator name line) (back : String) :
    compile options (front ++ "\n" ++ back) = .error fault := by
  rcases compile_outcome front with ⟨items, _, compiled⟩ | stopped
  · rw [compiled options] at failed
    cases failed
  · obtain ⟨header, rest, defect, reached, wrong, stops⟩ := stopped
    rw [stops options] at failed
    cases failed
    apply compile_feed_defect reached
    intro more
    cases wrong with
    | unnamed cut => exact .unnamed cut
    | repeated cut parameters distinct again => exact .repeated cut parameters distinct again
    | unclosed _ _ _ => exact absurd rfl (closed _ _)

/-- Every source is compiled in one pass, whatever is put behind it. -/
theorem compile_one_pass (options : Options) (front back : String) :
    OnePass options front back where
  kept script whole compiled wholeCompiled := by
    cases rest : compile options back with
    | error fault =>
        rw [compile_feed_error compiled rest] at wholeCompiled
        cases wholeCompiled
    | ok others =>
        obtain ⟨same, found, kept, procedures⟩ := compile_feed_ok compiled rest
        rw [found] at wholeCompiled
        cases wholeCompiled
        exact ⟨kept, procedures ▸ List.prefix_append _ _⟩
  compiled_iff script compiled := by
    constructor
    · rintro ⟨whole, wholeCompiled⟩
      cases rest : compile options back with
      | error fault =>
          rw [compile_feed_error compiled rest] at wholeCompiled
          cases wholeCompiled
      | ok others => exact ⟨others, rfl⟩
    · rintro ⟨rest, restCompiled⟩
      obtain ⟨whole, found, _⟩ := compile_feed_ok compiled restCompiled
      exact ⟨whole, found⟩
  fault_behind script fault := compile_feed_error
  missingName line failed := compile_feed_rejected failed (by simp) back
  duplicateParameter name parameter line failed := compile_feed_rejected failed (by simp) back

/-- A definition that the second source replaces, cut before the line feed of its last
line; and faults in the first source and in the second. -/
theorem compile_one_pass_redefinition :
    ((∃ lines, ["import turtle", "", "def go(n):", "    turtle.forward(n)", "turtle.done()"] =
          lines ++ ["turtle.done()"] ∧
        lines <+: ["import turtle", "", "def go(n):", "    turtle.forward(n)", "", "def go():",
          "    pass", "go(1)", "turtle.done()"]) ∧ ["go"] <+: ["go", "go"]) ∧
      compile {} ("fd 1\nto f :x :X" ++ "\n" ++ "end") = .error (.duplicateParameter "f" "x" 2) ∧
      compile {} ("to" ++ "\n" ++ "square\nend") = .error (.missingName 1) ∧
      compile {} ("fd 1\n" ++ "\n" ++ "\nto go") = .error (.missingTerminator "go" 4) := by
  refine ⟨?_, ?_, ?_, ?_⟩
  · exact (compile_one_pass {} "to go :n\nfd :n\nEND\r" "to go\nend\ngo 1").kept
      ⟨_, ["go"]⟩ ⟨_, ["go", "go"]⟩ (by decide +kernel) (by decide +kernel)
  · exact (compile_one_pass {} "fd 1\nto f :x :X" "end").duplicateParameter "f" "x" 2
      (by decide +kernel)
  · exact (compile_one_pass {} "to" "square\nend").missingName 1 (by decide +kernel)
  · exact (compile_one_pass {} "fd 1\n" "\nto go").fault_behind
      ⟨["import turtle", "turtle.forward(1)", "turtle.done()"], []⟩ (.missingTerminator "go" 2)
      (by decide +kernel) (by decide +kernel)

end Script

end TurtleLang
