import TurtleLang.Proofs.Atomicity
import TurtleLang.Proofs.Joining

/-!
The banner of a written file, and the program behind it. A file holds what would be printed
behind one more line, which is a comment. That is so as long as the name of the source stays
inside the comment. Nothing looks at the name on its way into the banner, so a name with a line
feed in it ends the comment early, and the rest of the name becomes the first line of the
program. A carriage return does the same for a reader that takes it as a line end.
-/
namespace TurtleLang

set_option autoImplicit false

def Text.behindFirstFeed (text : String) : String :=
  String.ofList ((text.toList.dropWhile (· != '\n')).drop 1)

/-- The text is the program behind one comment, which no line feed or carriage return cuts. -/
def BehindComment (text program : String) : Prop :=
  ∃ comment : String, text = comment ++ "\n" ++ program ∧ comment.toList.head? = some '#' ∧
    '\n' ∉ comment.toList ∧ '\r' ∉ comment.toList

def bannerText : Option String → String
  | some name => "# Auto-generated from " ++ name ++ ", do not edit"
  | none => "# Auto-generated, do not edit"

theorem banner_eq (source : Option String) : banner source = bannerText source ++ "\n" := by
  cases source with
  | none => exact (by decide : banner none = bannerText none ++ "\n")
  | some name =>
      have ending : ", do not edit\n" = ", do not edit" ++ "\n" := by decide
      calc banner (some name)
        _ = "# Auto-generated from " ++ name ++ (", do not edit" ++ "\n") :=
          congrArg ("# Auto-generated from " ++ name ++ ·) ending
        _ = bannerText (some name) ++ "\n" := (String.append_assoc).symm

theorem banner_text_head (source : Option String) :
    (bannerText source).toList.head? = some '#' := by
  cases source with
  | none => rfl
  | some name => exact Phrase.head_append (Phrase.head_append rfl _) _

/-- A mark that the words of the banner do not hold is in it only as part of the name. -/
theorem mem_banner_text {mark : Char} (foreign : mark ∉ (bannerText (some "")).toList)
    (plain : mark ∉ (bannerText none).toList) (source : Option String) :
    mark ∉ (bannerText source).toList ↔ ∀ name, source = some name → mark ∉ name.toList := by
  cases source with
  | none =>
      constructor
      · intro _ name given
        cases given
      · exact fun _ => plain
  | some name =>
      unfold bannerText at foreign ⊢
      dsimp only at foreign ⊢
      rw [String.toList_append, String.toList_append, List.mem_append, List.mem_append, not_or,
        not_or] at foreign ⊢
      constructor
      · intro absent other given
        cases given
        exact absent.1.2
      · intro absent
        exact ⟨⟨foreign.1.1, absent name rfl⟩, foreign.2⟩

theorem Text.drop_while_feed {front : List Char} (noFeed : '\n' ∉ front) (rest : List Char) :
    ((front ++ '\n' :: rest).dropWhile (· != '\n')).drop 1 = rest := by
  rw [List.dropWhile_append_of_pos (bne_of_foreign noFeed)]
  rfl

/-- What is put in front of a text with a line end goes away with the first line exactly when it
is one line. -/
theorem Text.behind_first_feed_iff (line rest : String) :
    behindFirstFeed (line ++ "\n" ++ rest) = rest ↔ '\n' ∉ line.toList := by
  have whole : (line ++ "\n" ++ rest).toList = line.toList ++ '\n' :: rest.toList := by simp
  rw [behindFirstFeed, whole, ← String.toList_inj, String.toList_ofList]
  constructor
  · intro removed holds
    obtain ⟨front, back, split, noFeed⟩ := List.eq_append_cons_of_mem holds
    rw [split, List.append_assoc, List.cons_append, drop_while_feed noFeed] at removed
    have lengths := congrArg List.length removed
    rw [List.length_append, List.length_cons] at lengths
    omega
  · intro noFeed
    exact drop_while_feed noFeed rest.toList

theorem file_text_eq (script : Script) (source : Option String) :
    script.fileText source = bannerText source ++ "\n" ++ script.program := by
  rw [Script.fileText, banner_eq]

theorem behind_first_feed_file_text (script : Script) (source : Option String) :
    Text.behindFirstFeed (script.fileText source) = script.program ↔
      ∀ name, source = some name → '\n' ∉ name.toList := by
  rw [file_text_eq, Text.behind_first_feed_iff]
  exact mem_banner_text (by decide) (by decide) source

theorem behind_comment_file_text (script : Script) (source : Option String) :
    BehindComment (script.fileText source) script.program ↔
      ∀ name, source = some name → '\n' ∉ name.toList ∧ '\r' ∉ name.toList := by
  have feeds := @mem_banner_text '\n' (by decide) (by decide) source
  have returns := @mem_banner_text '\r' (by decide) (by decide) source
  rw [file_text_eq]
  constructor
  · intro ⟨comment, whole, _, noFeed, noReturn⟩
    rw [String.append_left_inj, String.append_left_inj] at whole
    rw [← whole] at noFeed noReturn
    intro name given
    exact ⟨feeds.mp noFeed name given, returns.mp noReturn name given⟩
  · intro clean
    refine ⟨bannerText source, rfl, banner_text_head source, ?_, ?_⟩
    · exact feeds.mpr fun name given => (clean name given).1
    · exact returns.mpr fun name given => (clean name given).2

section Emission

variable {state File : Type} {host : Host (StateM state)} {scene : state → Scene File}
  (faithful : Faithful host scene) (script : Script) (start : state)

include faithful

theorem emit_emitted {arguments : Arguments}
    (accepted : (scene start).accepts arguments.output = .ok ()) :
    Emitted (scene start) (scene ((host.emit arguments script).run start).2) arguments.input script
      arguments.output :=
  (emit_done faithful (kept_self (scene start)) accepted start rfl).2.2

theorem emit_written {arguments : Arguments} {path : String} {file : File}
    (output : arguments.output = some path) (writable : (scene start).creates path = .ok file) :
    (scene ((host.emit arguments script).run start).2).contents file =
      some (bytesOf (script.fileText arguments.input)) := by
  have accepted : (scene start).accepts arguments.output = .ok () := by
    rw [output, Scene.accepts, writable]
    rfl
  have emitted := emit_emitted faithful script start accepted
  rw [output] at emitted
  cases emitted with
  | written found holds _ _ =>
      cases writable.symm.trans found
      exact holds

theorem emit_printed {arguments : Arguments} (output : arguments.output = none)
    (printable : (scene start).prints = .ok ()) :
    (scene ((host.emit arguments script).run start).2).output =
      (scene start).output ++ script.program := by
  have accepted : (scene start).accepts arguments.output = .ok () := by
    rw [output]
    exact printable
  have emitted := emit_emitted faithful script start accepted
  rw [output] at emitted
  cases emitted with
  | printed holds _ => exact holds

end Emission

/-- A script is written to a file behind its banner, and printed without one. Dropping the first
line of the file gives what is printed exactly when the name of the source has no line feed, and
the banner is one comment exactly when it has no carriage return either. -/
theorem emit_banner_confined {state File : Type} (host : Host (StateM state))
    (scene : state → Scene File) (faithful : Faithful host scene) (arguments : Arguments)
    (script : Script) (start : state) (path : String) (file : File)
    (output : arguments.output = some path) (writable : (scene start).creates path = .ok file) :
    ∃ text,
      (scene ((host.emit arguments script).run start).2).contents file = some (bytesOf text) ∧
      ((scene start).prints = .ok () →
        (scene ((host.emit { arguments with output := none } script).run start).2).output =
          (scene start).output ++ script.program) ∧
      (Text.behindFirstFeed text = script.program ↔
        ∀ name, arguments.input = some name → '\n' ∉ name.toList) ∧
      (BehindComment text script.program ↔
        ∀ name, arguments.input = some name → '\n' ∉ name.toList ∧ '\r' ∉ name.toList) :=
  ⟨script.fileText arguments.input,
    emit_written faithful script start output writable,
    emit_printed faithful script start rfl,
    behind_first_feed_file_text script arguments.input,
    behind_comment_file_text script arguments.input⟩

def bareScript : Script :=
  ⟨["import turtle", "turtle.done()"], []⟩

/-- A name with a carriage return: one line for a reader that ends lines at line feeds, and two
for one that ends them at carriage returns too. -/
theorem emit_banner_confined_return :
    ∃ text,
      (World.scene ((World.host.emit { input := some "a\rb", output := some "out.py" }
          bareScript).run {}).2).contents "out.py" = some (bytesOf text) ∧
      Text.behindFirstFeed text = bareScript.program ∧
      ¬BehindComment text bareScript.program := by
  obtain ⟨text, written, _, feeds, returns⟩ :=
    emit_banner_confined World.host World.scene World.faithful
      { input := some "a\rb", output := some "out.py" } bareScript {} "out.py" "out.py" rfl rfl
  refine ⟨text, written, feeds.mpr ?_, ?_⟩
  · intro name given
    cases given
    decide
  · intro behind
    exact (returns.mp behind "a\rb" rfl).2 (by decide)

/-- The name of the source becomes a statement of the written program. -/
theorem emit_banner_breaks :
    Script.compile {} "" = .ok bareScript ∧
      (World.scene ((World.host.emit { input := some "x\nimport os #", output := some "out.py" }
          bareScript).run {}).2).contents "out.py" =
        some (bytesOf ("# Auto-generated from x\nimport os #, do not edit\n" ++
          "import turtle\nturtle.done()\n")) ∧
      bareScript.program = "import turtle\nturtle.done()\n" ∧
      Text.behindFirstFeed ("# Auto-generated from x\nimport os #, do not edit\n" ++
          "import turtle\nturtle.done()\n") =
        "import os #, do not edit\nimport turtle\nturtle.done()\n" ∧
      "import os #, do not edit\nimport turtle\nturtle.done()\n" ≠ bareScript.program :=
  ⟨by decide +kernel, by decide +kernel, by decide +kernel, by decide +kernel, by decide +kernel⟩

end TurtleLang
