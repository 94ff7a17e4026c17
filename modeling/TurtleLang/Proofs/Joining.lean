import TurtleLang.Directory
import TurtleLang.Proofs.DefinedNames
import TurtleLang.Proofs.Echo

/-!
The three forms of a compiled program: its lines, its text and its bytes. No output line
holds a line feed, because words, literals and echoed lines hold none and nothing else of a
source gets into a line. Joining the lines therefore loses nothing, and each form can be had
from each other one. The names of the procedures are kept beside the lines, and come back from
them as well, unless there is a parenthesis in a name: the first parenthesis of a `def` line can
belong to the name or stand behind it.
-/
namespace TurtleLang

set_option autoImplicit false

open Text (Spaced)

/-- The pieces of a text between its line feeds, of which there is at least one. -/
def Text.cutAtFeeds (text : String) : List String :=
  (text.toList.splitOn '\n').map String.ofList

theorem no_feed_of_spaced {text : String} (spaced : Spaced text) : '\n' ∉ text.toList := by
  intro holds
  have space := spaced '\n' holds (by decide)
  exact absurd space (by decide)

theorem executable_no_feed {source : String} {line : Line}
    (member : line ∈ executableLines source) : '\n' ∉ line.text.toList := by
  obtain ⟨index, raw, found, _, trimmed⟩ := executable_lines_physical member
  obtain ⟨noFeed, _⟩ := Text.lines_stretch (List.mem_of_getElem? found)
  obtain ⟨front, back, split, _⟩ := Text.trim_blanks_split raw.toList
  rw [trimmed, Text.trim, String.toList_ofList]
  intro holds
  exact noFeed (by rw [split]; simp [holds])

namespace Script

theorem of_items_no_feed {options : Options} {source : String} {items : List Item}
    (spans : Spans items (executableLines source)) :
    ∀ line ∈ (ofItems options items).lines, '\n' ∉ line.toList := by
  intro line member
  by_cases spaced : Spaced line
  · exact no_feed_of_spaced spaced
  · obtain ⟨depth, text, ⟨_, _, _, _, stands, _⟩, rfl⟩ := echoes_of_line spans member spaced
    obtain ⟨original, listed, rfl⟩ := line_at_executable spans stands
    have front : '\n' ∉ (options.margin depth).toList :=
      no_feed_of_spaced (spaced_margin options depth)
    have mark : '\n' ∉ "# Unknown: ".toList := by decide
    have echo := executable_no_feed listed
    rw [String.toList_append, String.toList_append, List.mem_append, List.mem_append]
    exact not_or.mpr ⟨front, not_or.mpr ⟨mark, echo⟩⟩

theorem compile_no_feed {options : Options} {source : String} {script : Script}
    (compiled : compile options source = .ok script) :
    ∀ line ∈ script.lines, '\n' ∉ line.toList := by
  obtain ⟨items, found, rfl⟩ := items_of_compile compiled
  have spanned := read_items_spans (executableLines source)
  rw [found] at spanned
  exact of_items_no_feed (spanned rfl)

theorem compile_lines_ne_nil {options : Options} {source : String} {script : Script}
    (compiled : compile options source = .ok script) : script.lines ≠ [] := by
  obtain ⟨items, _, rfl⟩ := items_of_compile compiled
  simp [ofItems, statements]

/-- Lines without line feeds come back from their text. -/
theorem cut_at_feeds_text {script : Script} (noFeed : ∀ line ∈ script.lines, '\n' ∉ line.toList)
    (filled : script.lines ≠ []) : Text.cutAtFeeds script.text = script.lines := by
  have clean : ∀ characters ∈ script.lines.map String.toList, '\n' ∉ characters := by
    simpa using noFeed
  have cut := List.splitOn_intercalate '\n' clean (by simpa using filled)
  have joined : script.text.toList = ['\n'].intercalate (script.lines.map String.toList) :=
    String.toList_intercalate
  rw [Text.cutAtFeeds, joined, cut, List.map_map]
  simp

theorem join_lines {lines : List String} (filled : lines ≠ []) :
    String.join (lines.map (· ++ "\n")) = "\n".intercalate lines ++ "\n" := by
  induction lines with
  | nil => exact absurd rfl filled
  | cons line lines ih =>
      cases lines with
      | nil => simp
      | cons next lines =>
          rw [List.map_cons, String.join_cons, ih (by simp), String.intercalate_cons_cons]
          exact String.append_assoc.symm

theorem program_eq {script : Script} (filled : script.lines ≠ []) :
    script.program = script.text ++ "\n" :=
  join_lines filled

end Script

/-- The loop over a byte array lists the bytes from its index on behind those it has. -/
theorem to_list_loop (bytes : ByteArray) (index : Nat) (listed : List UInt8) :
    ByteArray.toList.loop bytes index listed =
      listed.reverse ++ bytes.data.toList.drop index := by
  fun_induction ByteArray.toList.loop bytes index listed with
  | case1 index listed more ih =>
      have inside : index < bytes.data.toList.length := by simpa using more
      have found : bytes.get! index = bytes.data.toList[index] := by
        rw [Array.getElem_toList]
        exact getElem!_pos bytes.data index more
      rw [ih, List.drop_eq_getElem_cons inside, found]
      simp
  | case2 index listed done =>
      have beyond : bytes.data.toList.length ≤ index := by simpa using done
      rw [List.drop_eq_nil_of_le beyond, List.append_nil]

theorem bytes_of_eq (text : String) : bytesOf text = text.toByteArray.data.toList := by
  rw [bytesOf, ByteArray.toList, to_list_loop]
  rfl

theorem bytes_of_append (left right : String) :
    bytesOf (left ++ right) = bytesOf left ++ bytesOf right := by
  simp [bytes_of_eq]

theorem bytes_of_inj {left right : String} : bytesOf left = bytesOf right ↔ left = right := by
  rw [bytes_of_eq, bytes_of_eq, Array.toList_inj, ← ByteArray.ext_iff, String.toByteArray_inj]

namespace Script

/-- The lines, the text and the written bytes of a compiled program give one another back, and
the procedures with them as long as no name has a parenthesis. -/
theorem compile_forms_agree (options : Options) (source : String) (script : Script)
    (compiled : compile options source = .ok script) :
    compileText options source = .ok script.text ∧
      Text.cutAtFeeds script.text = script.lines ∧
      bytesOf script.program = bytesOf script.text ++ [0x0A] ∧
      ∀ otherOptions otherSource other, compile otherOptions otherSource = .ok other →
        (script.lines = other.lines ↔ script.text = other.text) ∧
          (script.text = other.text ↔ bytesOf script.program = bytesOf other.program) ∧
          ((∀ name ∈ script.procedures ++ other.procedures, '(' ∉ name.toList) →
            (script = other ↔ script.text = other.text)) := by
  have filled := compile_lines_ne_nil compiled
  have cut := cut_at_feeds_text (compile_no_feed compiled) filled
  refine ⟨by rw [compileText, compiled]; rfl, cut, ?_, ?_⟩
  · have feed : bytesOf "\n" = [0x0A] := by rw [bytes_of_eq]; rfl
    rw [program_eq filled, bytes_of_append, feed]
  · intro otherOptions otherSource other otherCompiled
    have otherFilled := compile_lines_ne_nil otherCompiled
    have otherCut := cut_at_feeds_text (compile_no_feed otherCompiled) otherFilled
    have linesBack : script.text = other.text → script.lines = other.lines := by
      intro same
      rw [← cut, ← otherCut, same]
    refine ⟨⟨fun same => by rw [text, text, same], linesBack⟩, ?_, ?_⟩
    · rw [bytes_of_inj, program_eq filled, program_eq otherFilled, String.append_left_inj]
    · intro plain
      have names := names_shown compiled fun name member =>
        plain name (List.mem_append_left _ member)
      have otherNames := names_shown otherCompiled fun name member =>
        plain name (List.mem_append_right _ member)
      constructor
      · intro same
        rw [same]
      · intro same
        have sameLines := linesBack same
        have sameNames : script.procedures = other.procedures := by
          rw [← names, ← otherNames, sameLines]
        calc script = ⟨script.lines, script.procedures⟩ := rfl
          _ = ⟨other.lines, other.procedures⟩ := by rw [sameLines, sameNames]
          _ = other := rfl

/-- An empty line in front of a definition, and an echo with a vertical tab inside; and a program
that is told apart from it by the name of its procedure alone. -/
theorem compile_forms_agree_echo :
    Text.cutAtFeeds "import turtle\n\ndef box():\n    pass\n# Unknown: a\x0bb\nturtle.done()" =
        ["import turtle", "", "def box():", "    pass", "# Unknown: a\x0bb", "turtle.done()"] ∧
      compileText {} "to box\nend\na\x0bb\r\n" =
        .ok "import turtle\n\ndef box():\n    pass\n# Unknown: a\x0bb\nturtle.done()" ∧
      "import turtle\n\ndef box():\n    pass\n# Unknown: a\x0bb\nturtle.done()" ≠
        (⟨["import turtle", "", "def cup():", "    pass", "# Unknown: a\x0bb", "turtle.done()"],
          ["cup"]⟩ : Script).text := by
  have agree := compile_forms_agree {} "to box\nend\na\x0bb\r\n"
    ⟨["import turtle", "", "def box():", "    pass", "# Unknown: a\x0bb", "turtle.done()"], ["box"]⟩
    (by decide +kernel)
  have cup := agree.2.2.2 {} "to cup\nend\na\x0bb"
    ⟨["import turtle", "", "def cup():", "    pass", "# Unknown: a\x0bb", "turtle.done()"], ["cup"]⟩
    (by decide +kernel)
  have whole := cup.2.2 (by decide)
  exact ⟨agree.2.1, agree.1, fun same => absurd (whole.mpr same) (by decide)⟩

/-- A parenthesis in a name, and the same one in a parameter: two programs with one text whose
procedures have different names. -/
theorem compile_names_hidden :
    ∃ script other : Script,
      compile {} "to a(b :c\nend" = .ok script ∧ compile {} "to a :b(c\nend" = .ok other ∧
        script.text = other.text ∧ bytesOf script.program = bytesOf other.program ∧
        script.procedures = ["a(b"] ∧ other.procedures = ["a"] ∧ script ≠ other :=
  ⟨⟨["import turtle", "", "def a(b(c):", "    pass", "turtle.done()"], ["a(b"]⟩,
    ⟨["import turtle", "", "def a(b(c):", "    pass", "turtle.done()"], ["a"]⟩,
    by decide +kernel, by decide +kernel, rfl, rfl, rfl, rfl, by decide⟩

end Script

end TurtleLang
