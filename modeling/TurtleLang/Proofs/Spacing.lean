import TurtleLang.Proofs.Forest
import TurtleLang.Proofs.Words

/-!
Which blanks commands carry into the output. Words hold none, lower case and
literals add none, and what is written between words is one space. So the texts of
commands, and the lines they become, have no blanks but spaces, with one exception:
a line that is not understood is echoed whole, with the blanks that stand in it.
-/
namespace TurtleLang.Text

set_option autoImplicit false

def Spaced (text : String) : Prop :=
  ∀ character ∈ text.toList, isBlank character = true → character = ' '

instance (text : String) : Decidable (Spaced text) :=
  decidable_of_iff
    (text.toList.all (fun character => !isBlank character || character == ' ') = true)
    (by simp [Spaced, ← Bool.not_eq_true, Decidable.imp_iff_not_or])

theorem spaced_of_unbroken {text : String} (unbroken : Unbroken text) : Spaced text := by
  intro character member blank
  rw [unbroken character member] at blank
  cases blank

theorem spaced_append {left right : String} (leftSpaced : Spaced left)
    (rightSpaced : Spaced right) : Spaced (left ++ right) := by
  intro character member
  rw [String.toList_append, List.mem_append] at member
  rcases member with inLeft | inRight
  · exact leftSpaced character inLeft
  · exact rightSpaced character inRight

theorem spaced_enclosed {front text back : String} (frontSpaced : Spaced front)
    (spaced : Spaced text) (backSpaced : Spaced back) : Spaced (front ++ text ++ back) :=
  spaced_append (spaced_append frontSpaced spaced) backSpaced

theorem spaced_intercalate {separator : String} (separated : Spaced separator)
    {texts : List String} (spaced : ∀ text ∈ texts, Spaced text) :
    Spaced (separator.intercalate texts) := by
  induction texts with
  | nil => simp [Spaced]
  | cons first rest ih =>
      have firstSpaced := spaced first (by simp)
      have restSpaced := ih fun text member => spaced text (List.mem_cons_of_mem first member)
      cases rest with
      | nil => simpa using firstSpaced
      | cons second rest =>
          rw [String.intercalate_cons_cons]
          exact spaced_append (spaced_append firstSpaced separated) restSpaced

theorem escape_ascii_solid :
    ∀ code < 0x80, (isBlank (Char.ofNat code) ||
      (escape (Char.ofNat code)).all fun image => !isBlank image) = true := by
  decide

theorem escape_solid (character : Char) : isBlank character = false →
    ∀ image ∈ escape character, isBlank image = false := by
  induction character using ascii_induction with
  | ascii code small =>
      intro solid image member
      have images := escape_ascii_solid code small
      rw [solid, Bool.false_or, List.all_eq_true] at images
      simpa using images image member
  | beyond character large _ =>
      intro solid image member
      rw [escape_beyond large, List.mem_singleton] at member
      rw [member]
      exact solid

theorem unbroken_literal {text : String} (unbroken : Unbroken text) : Unbroken (literal text) := by
  apply unbroken_of_list
  intro image member
  simp only [literalOf, List.cons_append, List.mem_cons, List.mem_append, List.mem_flatMap,
    List.not_mem_nil, or_false] at member
  rcases member with rfl | ⟨character, inText, escaped⟩ | rfl
  · rfl
  · exact escape_solid character (unbroken character inText) image escaped
  · rfl

theorem unbroken_tail {word : String} {mark : Char} {rest : List Char} (unbroken : Unbroken word)
    (spelled : word.toList = mark :: rest) : Unbroken (String.ofList rest) := by
  apply unbroken_of_list
  intro character member
  exact unbroken character (by simp [spelled, member])

theorem unbroken_input_of {word : String} (unbroken : Unbroken word) : Unbroken (inputOf word) := by
  unfold inputOf
  split
  · next spelled => exact unbroken_lower (unbroken_tail unbroken spelled)
  · next spelled => exact unbroken_literal (unbroken_tail unbroken spelled)
  · exact unbroken

theorem unbroken_parameter_of {word : String} (unbroken : Unbroken word) :
    Unbroken (Procedure.parameterOf word) := by
  unfold Procedure.parameterOf
  split
  · next spelled => exact unbroken_lower (unbroken_tail unbroken spelled)
  · exact unbroken_lower unbroken

theorem spaced_input_of_words {line word : String} (member : word ∈ words line) :
    Spaced (inputOf word) :=
  spaced_of_unbroken (unbroken_input_of (words_solid member).2)

end TurtleLang.Text

namespace TurtleLang

set_option autoImplicit false

open Token (Clean)
open Text (Spaced)

theorem Token.unbroken_word {tokens : List Token} {word : String} (clean : Clean tokens)
    (member : .word word ∈ tokens) : Text.Unbroken word :=
  (Token.solid_of_word (clean word member)).2

theorem Token.spaced_text {token : Token} (clean : Clean [token]) : Spaced token.text := by
  cases token with
  | word text =>
      have unbroken : Text.Unbroken text := Token.unbroken_word clean (by simp)
      exact Text.spaced_of_unbroken unbroken
  | opening => decide
  | closing => decide

theorem Token.spaced_spell {tokens : List Token} (clean : Clean tokens) :
    Spaced (spell tokens) := by
  fun_induction spell tokens with
  | case1 => decide
  | case2 last => exact Token.spaced_text clean
  | case3 left right rest ih =>
      have leftClean : Clean [left] := fun text member => clean text (by simp_all)
      have restSpaced := ih (Command.clean_tail clean)
      refine Text.spaced_append (Text.spaced_append (Token.spaced_text leftClean) ?_) restSpaced
      split
      · decide
      · decide

theorem Token.spaced_group_text {inner : List Token} (clean : Clean inner) :
    Spaced (groupText inner) :=
  Text.spaced_enclosed (by decide) (Token.spaced_spell clean) (by decide)

namespace Command

theorem take_inputs_spaced (count : Nat) {tokens : List Token} (clean : Clean tokens) :
    (∀ input ∈ (takeInputs count tokens).1, Spaced input) ∧
      Clean (takeInputs count tokens).2 := by
  fun_induction takeInputs count tokens with
  | case1 tokens => exact ⟨by simp, clean⟩
  | case2 count word rest inputs after taken ih =>
      obtain ⟨spaced, restClean⟩ := ih (clean_tail clean)
      rw [taken] at spaced restClean
      have unbroken := Token.unbroken_word clean List.mem_cons_self
      have first := Text.spaced_of_unbroken (Text.unbroken_input_of unbroken)
      exact ⟨by simpa using ⟨first, spaced⟩, restClean⟩
  | case3 count rest inner left grouped inputs after taken ih =>
      have group := take_group_clean (clean_tail clean)
      rw [grouped] at group
      obtain ⟨spaced, restClean⟩ := ih group.2
      rw [taken] at spaced restClean
      exact ⟨by simpa using ⟨Token.spaced_group_text group.1, spaced⟩, restClean⟩
  | case4 => exact ⟨by simp, clean⟩

theorem take_unknown_spaced (registry : Registry) {tokens : List Token} (clean : Clean tokens) :
    (∀ text ∈ (takeUnknown registry tokens).1, Spaced text) ∧
      Clean (takeUnknown registry tokens).2 := by
  fun_induction takeUnknown registry tokens with
  | case1 => exact ⟨by simp, clean⟩
  | case2 word rest unclaimed texts after taken ih =>
      obtain ⟨spaced, restClean⟩ := ih (clean_tail clean)
      rw [taken] at spaced restClean
      have first := Text.spaced_of_unbroken (Token.unbroken_word clean List.mem_cons_self)
      exact ⟨by simpa using ⟨first, spaced⟩, restClean⟩
  | case3 rest texts after taken ih =>
      have group := take_group_clean (clean_tail clean)
      obtain ⟨spaced, restClean⟩ := ih group.2
      rw [taken] at spaced restClean
      exact ⟨by simpa using ⟨Token.spaced_group_text group.1, spaced⟩, restClean⟩
  | case4 => exact ⟨by simp, clean⟩

mutual

/-- The texts that a command carries into the output. -/
def carried : Command → List String
  | .primitive _ inputs => inputs
  | .loop count body => count :: carriedOf body
  | .call name inputs => name :: inputs
  | .unknown text => [text]

def carriedOf : List Command → List String
  | [] => []
  | command :: rest => carried command ++ carriedOf rest

end

theorem mem_carried_of {text : String} {commands : List Command} :
    text ∈ carriedOf commands ↔ ∃ command ∈ commands, text ∈ carried command := by
  induction commands with
  | nil => simp [carriedOf]
  | cons first rest ih => simp [carriedOf, ih]

def AllSpaced (commands : List Command) : Prop :=
  ∀ text ∈ carriedOf commands, Spaced text

theorem all_spaced_cons {command : Command} {commands : List Command}
    (first : ∀ text ∈ carried command, Spaced text) (rest : AllSpaced commands) :
    AllSpaced (command :: commands) := by
  intro text member
  rcases List.mem_append.mp member with here | later
  · exact first text here
  · exact rest text later

theorem all_spaced_unknown {text : String} {commands : List Command} (spaced : Spaced text)
    (rest : AllSpaced commands) : AllSpaced (.unknown text :: commands) :=
  all_spaced_cons (by simpa [carried] using spaced) rest

/-- Whatever rule the reader follows, it puts spaces between words and nothing else. -/
theorem reads_spaced {registry : Registry} {nested : Bool} {tokens left : List Token}
    {commands : List Command} (reads : Reads registry nested tokens commands left)
    (clean : Clean tokens) : AllSpaced commands ∧ Clean left := by
  induction reads with
  | done nested => exact ⟨by simp [AllSpaced, carriedOf], clean⟩
  | close rest => exact ⟨by simp [AllSpaced, carriedOf], clean_tail clean⟩
  | stray _ ih =>
      obtain ⟨spaced, restClean⟩ := ih (clean_tail clean)
      exact ⟨all_spaced_unknown (by decide) spaced, restClean⟩
  | @group nested rest inner after left more grouped _ ih =>
      have group := take_group_clean (clean_tail clean)
      rw [grouped] at group
      obtain ⟨spaced, restClean⟩ := ih group.2
      exact ⟨all_spaced_unknown (Token.spaced_group_text group.1) spaced, restClean⟩
  | @loopBlock nested word count inside after left body more opens _ _ bodyIh ih =>
      obtain ⟨bodySpaced, afterClean⟩ := bodyIh (clean_tail (clean_tail (clean_tail clean)))
      obtain ⟨spaced, restClean⟩ := ih afterClean
      have unbroken : Text.Unbroken count := Token.unbroken_word clean (by simp)
      have counted := Text.spaced_of_unbroken (Text.unbroken_input_of unbroken)
      refine ⟨all_spaced_cons ?_ spaced, restClean⟩
      simpa [carried] using ⟨counted, bodySpaced⟩
  | @loopBare nested word count after left more opens bare _ ih =>
      obtain ⟨spaced, restClean⟩ := ih (clean_tail (clean_tail clean))
      have unbroken : Text.Unbroken count := Token.unbroken_word clean (by simp)
      have counted := Text.spaced_of_unbroken (Text.unbroken_input_of unbroken)
      refine ⟨all_spaced_cons ?_ spaced, restClean⟩
      simpa [carried, carriedOf] using counted
  | @loopAlone nested word after left more opens alone _ ih =>
      obtain ⟨spaced, restClean⟩ := ih (clean_tail clean)
      have unbroken := Token.unbroken_word clean List.mem_cons_self
      exact ⟨all_spaced_unknown (Text.spaced_of_unbroken unbroken) spaced, restClean⟩
  | @primitive nested word rest after left operation inputs more plain named taken _ ih =>
      have read := take_inputs_spaced operation.arity (clean_tail clean)
      rw [taken] at read
      obtain ⟨spaced, restClean⟩ := ih read.2
      exact ⟨all_spaced_cons read.1 spaced, restClean⟩
  | @call nested word rest after left procedure inputs more plain unnamed known taken _ ih =>
      have read := take_inputs_spaced procedure.parameters.length (clean_tail clean)
      rw [taken] at read
      obtain ⟨spaced, restClean⟩ := ih read.2
      have unbroken := Token.unbroken_word clean List.mem_cons_self
      have named := Text.spaced_of_unbroken (Text.unbroken_lower unbroken)
      refine ⟨all_spaced_cons ?_ spaced, restClean⟩
      simpa [carried] using ⟨named, read.1⟩
  | @unknown nested word rest after left texts more plain unnamed unknown taken _ ih =>
      have read := take_unknown_spaced registry (clean_tail clean)
      rw [taken] at read
      obtain ⟨spaced, restClean⟩ := ih read.2
      have unbroken := Token.unbroken_word clean List.mem_cons_self
      have joined : Spaced (" ".intercalate (word :: texts)) := by
        apply Text.spaced_intercalate (by decide)
        simpa using ⟨Text.spaced_of_unbroken unbroken, read.1⟩
      exact ⟨all_spaced_unknown joined spaced, restClean⟩

theorem read_plain_spaced {registry : Registry} {line first : String} {rest : List String}
    (cut : Text.words line = first :: rest)
    (recognised : (Primitive.ofName? (Text.lower first)).isSome = true ∨
      registry.contains (Text.lower first) = true) :
    AllSpaced [readPlain registry line first rest] := by
  have listed : first ∈ Text.words line := by simp [cut]
  have unbroken : Text.Unbroken first := (Text.words_solid listed).2
  have inputs : ∀ input ∈ rest.map inputOf, Spaced input := by
    intro input member
    obtain ⟨word, inRest, rfl⟩ := List.mem_map.mp member
    exact Text.spaced_input_of_words (by rw [cut]; exact List.mem_cons_of_mem first inRest)
  apply all_spaced_cons _ (by simp [AllSpaced, carriedOf])
  unfold readPlain
  dsimp only
  split
  · next operation _ =>
      rw [carried, keptInputs]
      split
      · simp
      · exact inputs
  · next unnamed =>
      have known : registry.contains (Text.lower first) = true := by
        simpa [unnamed] using recognised
      rw [if_pos known, carried, List.forall_mem_cons]
      exact ⟨Text.spaced_of_unbroken (Text.unbroken_lower unbroken), inputs⟩

theorem read_plain_unknown {registry : Registry} {first : String}
    (noPrimitive : Primitive.ofName? (Text.lower first) = none)
    (unknown : registry.contains (Text.lower first) = false) (line : String) (rest : List String) :
    readPlain registry line first rest = .unknown (Text.trim line) := by
  unfold readPlain
  dsimp only
  rw [noPrimitive]
  dsimp only
  rw [if_neg (by simp [unknown])]

theorem read_word_spaced (registry : Registry) {word : String} (solid : Text.IsSolid word) :
    ∀ text ∈ carried (readWord registry word), Spaced text := by
  have words := Text.words_of_solid solid
  have spaced := Text.spaced_of_unbroken solid.2
  unfold readWord
  split
  · simpa [carried] using spaced
  · by_cases recognised : (Primitive.ofName? (Text.lower word)).isSome = true ∨
        registry.contains (Text.lower word) = true
    · have read := read_plain_spaced words recognised
      simpa [AllSpaced, carriedOf] using read
    · rw [not_or, Option.not_isSome_iff_eq_none, Bool.not_eq_true] at recognised
      rw [read_plain_unknown recognised.1 recognised.2, Text.trim_of_words words]
      simpa [carried] using spaced

theorem read_by_word_spaced {registry : Registry} {line first : String} {rest : List String}
    (cut : Text.words line = first :: rest) : AllSpaced [readByWord registry line rest] := by
  apply all_spaced_cons _ (by simp [AllSpaced, carriedOf])
  cases rest with
  | nil =>
      have listed : first ∈ Text.words line := by simp [cut]
      have unbroken : Text.Unbroken first := (Text.words_solid listed).2
      rw [readByWord, Text.trim_of_words cut]
      simpa [carried] using Text.spaced_of_unbroken unbroken
  | cons count block =>
      have counted : Spaced (inputOf count) := Text.spaced_input_of_words (by rw [cut]; simp)
      intro text member
      rw [readByWord, carried] at member
      rcases List.mem_cons.mp member with rfl | inside
      · exact counted
      · obtain ⟨command, listed, here⟩ := mem_carried_of.mp inside
        obtain ⟨word, inBlock, rfl⟩ := List.mem_map.mp listed
        exact read_word_spaced registry (Text.words_solid inBlock) text here

/-- A line gives no blanks but spaces, or it is not understood and is echoed whole. -/
theorem read_line_spaced (registry : Registry) (policy : SplitPolicy) (line : String) :
    AllSpaced (readLine registry policy line) ∨
      ∃ first rest, Text.words line = first :: rest ∧ Text.lower first ≠ loopWord ∧
        Primitive.ofName? (Text.lower first) = none ∧
        registry.contains (Text.lower first) = false := by
  cases cut : Text.words line with
  | nil => exact .inl (by simp [readLine, cut, AllSpaced, carriedOf])
  | cons first rest =>
      by_cases opens : Text.lower first = loopWord
      · left
        unfold readLine
        rw [cut]
        dsimp only
        rw [if_pos opens]
        cases policy with
        | command =>
            exact (reads_spaced (reads_read_commands registry false (Token.scan line))
              (Token.scan_clean line)).1
        | token => exact read_by_word_spaced cut
      · by_cases recognised : (Primitive.ofName? (Text.lower first)).isSome = true ∨
            registry.contains (Text.lower first) = true
        · left
          unfold readLine
          rw [cut]
          dsimp only
          rw [if_neg opens]
          exact read_plain_spaced cut recognised
        · rw [not_or, Option.not_isSome_iff_eq_none, Bool.not_eq_true] at recognised
          exact .inr ⟨first, rest, rfl, opens, recognised⟩

end Command

namespace Phrase

theorem spaced_render (operation : Primitive) {inputs : List String}
    (spaced : ∀ input ∈ inputs, Spaced input) : Spaced (operation.render inputs) := by
  have joined := Text.spaced_intercalate (show Spaced " " by decide) spaced
  cases operation with
  | forward | back | right | left | setHeading | print =>
      exact Text.spaced_enclosed (by decide) joined (by decide)
  | _ =>
      dsimp only [Primitive.render]
      decide

end Phrase

namespace Command

theorem rows_spaced (command : Command) : (∀ text ∈ carried command, Spaced text) →
    ∀ depth, ∀ row ∈ Outline.rows depth (outline command), Spaced row.2.text := by
  induction command using command_induction with
  | primitive operation inputs =>
      intro spaced depth row member
      rw [outline, Outline.rows, Outline.rowsOf, List.mem_singleton] at member
      rw [member]
      exact Phrase.spaced_render operation spaced
  | call name inputs =>
      intro spaced depth row member
      rw [outline, Outline.rows, Outline.rowsOf, List.mem_singleton] at member
      rw [carried, List.forall_mem_cons] at spaced
      rw [member]
      have listed := Text.spaced_intercalate (show Spaced ", " by decide) spaced.2
      exact Text.spaced_enclosed (Text.spaced_append spaced.1 (by decide)) listed (by decide)
  | unknown text =>
      intro spaced depth row member
      rw [outline, Outline.rows, Outline.rowsOf, List.mem_singleton] at member
      rw [member]
      exact Text.spaced_append (by decide) (spaced text (by simp [carried]))
  | loop count body ih =>
      intro spaced depth row member
      rw [carried, List.forall_mem_cons] at spaced
      rw [outline, Outline.rows] at member
      rcases List.mem_cons.mp member with rfl | inside
      · exact Text.spaced_enclosed (by decide) spaced.1 (by decide)
      · rcases row_of_fill_block inside with within | rfl
        · obtain ⟨command, listed, shown⟩ := row_of_outlines_of within
          apply ih command listed _ (depth + 1) row shown
          exact fun text here => spaced.2 text (mem_carried_of.mpr ⟨command, listed, here⟩)
        · exact (by decide : Spaced "pass")

theorem rows_of_spaced {commands : List Command} (spaced : AllSpaced commands) (depth : Nat) :
    ∀ row ∈ Outline.rowsOf depth (outlinesOf commands), Spaced row.2.text := by
  intro row member
  obtain ⟨command, listed, shown⟩ := row_of_outlines_of member
  apply rows_spaced command _ depth row shown
  exact fun text here => spaced text (mem_carried_of.mpr ⟨command, listed, here⟩)

end Command

end TurtleLang
