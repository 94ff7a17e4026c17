import TurtleLang.Proofs.AsciiCase
import TurtleLang.Proofs.Reading
import TurtleLang.Statement

/-!
How far a word that names nothing reads on inside a block. It takes words into its text up
to the next command, and the test for that next word lowers A to Z only, while a word at the
start of a command is lowered in full. The two agree on every word but one kind. Of the
characters beyond ASCII the Kelvin sign alone has an ASCII letter as its lower case, so `bk`,
`back` and `backward` can be written with it: such a word is an operation where a command
starts, and is swallowed behind an unknown word, unless a procedure has its name.
-/
namespace TurtleLang.Text

set_option autoImplicit false

def IsAscii (text : String) : Prop :=
  ∀ character ∈ text.toList, character.toNat < 0x80

instance (text : String) : Decidable (IsAscii text) :=
  List.decidableBAll (fun character : Char => character.toNat < 0x80) text.toList

def kelvinSign : Char := '\u212A'

/-- No run of the table but that of the Kelvin sign leads to ASCII characters. -/
theorem lower_runs_beyond_ascii :
    lowerRuns.all (fun run => 0x80 ≤ run.image || (run.first == 0x212A && run.last == 0x212A)) =
      true := by
  decide +kernel

theorem ascii_image {run : LowerRun} {character : Char} (listed : run ∈ lowerRuns)
    (member : run.contains character.toNat = true)
    (ascii : (Char.ofNat (run.lower character.toNat)).toNat < 0x80) : character = kelvinSign := by
  obtain ⟨⟨stretch, chosen, starts, ends⟩, _⟩ := image_facts listed member
  rw [to_nat_of_nat (stretch_valid chosen starts ends)] at ascii
  have bounds := lower_bounds member
  have beyond := List.all_eq_true.mp lower_runs_beyond_ascii run listed
  simp only [Bool.or_eq_true, Bool.and_eq_true, decide_eq_true_eq, beq_iff_eq] at beyond
  rcases beyond with above | ⟨first, last⟩
  · omega
  · rw [contains_iff, first, last] at member
    have code : character.toNat = 0x212A := by omega
    rw [← Char.ofNat_toNat character, code]
    rfl

theorem ascii_of_lower_character {character : Char}
    (ascii : ∀ image ∈ lowerCharacter character, image.toNat < 0x80) :
    character.toNat < 0x80 ∨ character = kelvinSign := by
  by_cases small : character.toNat < 0x80
  · exact .inl small
  · right
    unfold lowerCharacter at ascii
    rw [if_neg small] at ascii
    split at ascii
    · exact absurd (ascii '\u0307' (by simp)) (by decide)
    · split at ascii
      · next run found =>
          have member := List.find?_some found
          exact ascii_image (List.mem_of_find?_eq_some found) member (ascii _ (by simp))
      · exact absurd (ascii character (by simp)) small

theorem ascii_of_lower_from {characters : List Char} (before : List Char)
    (ascii : ∀ image ∈ lowerFrom before characters, image.toNat < 0x80) :
    ∀ character ∈ characters, character.toNat < 0x80 ∨ character = kelvinSign := by
  induction characters generalizing before with
  | nil => simp
  | cons first rest ih =>
      rw [lowerFrom, List.forall_mem_append] at ascii
      obtain ⟨here, later⟩ := ascii
      rw [List.forall_mem_cons]
      refine ⟨?_, ih (first :: before) later⟩
      split at here
      · split at here
        · exact absurd (here 'ς' (by simp)) (by decide)
        · exact absurd (here 'σ' (by simp)) (by decide)
      · exact ascii_of_lower_character here

theorem lower_from_of_ascii {characters : List Char}
    (ascii : ∀ character ∈ characters, character.toNat < 0x80) (before : List Char) :
    lowerFrom before characters = characters.map Char.toLower := by
  induction characters generalizing before with
  | nil => rfl
  | cons first rest ih =>
      rw [List.forall_mem_cons] at ascii
      have noSigma : first ≠ 'Σ' := by
        rintro rfl
        exact absurd ascii.1 (by decide)
      rw [lowerFrom, if_neg noSigma, lowerCharacter, if_pos ascii.1, ih ascii.2]
      rfl

theorem lower_of_ascii {text : String} (ascii : IsAscii text) : lower text = lowerAscii text :=
  congrArg String.ofList (lower_from_of_ascii ascii [])

theorem is_ascii_of_lower_ascii {text : String} (ascii : IsAscii (lowerAscii text)) :
    IsAscii text := by
  intro character member
  have small := ascii character.toLower
    (by rw [to_list_lower_ascii]; exact List.mem_map_of_mem member)
  have alike := to_lower_invariant (fun other => decide (other.toNat < 0x80)) (by decide) character
  rwa [decide_eq_decide.mp alike] at small

theorem is_ascii_of_lower {text : String} (ascii : IsAscii (lower text))
    (plain : kelvinSign ∉ text.toList) : IsAscii text := by
  unfold IsAscii lower at ascii
  rw [String.toList_ofList] at ascii
  intro character member
  rcases ascii_of_lower_from [] ascii character member with small | rfl
  · exact small
  · exact absurd member plain

theorem kelvin_not_ascii {text : String} (holds : kelvinSign ∈ text.toList) : ¬IsAscii text := by
  intro ascii
  exact absurd (ascii kelvinSign holds) (by decide)

theorem k_mem_lower_from {characters : List Char} (holds : kelvinSign ∈ characters)
    (before : List Char) : 'k' ∈ lowerFrom before characters := by
  induction characters generalizing before with
  | nil => cases holds
  | cons first rest ih =>
      rw [lowerFrom, List.mem_append]
      rcases List.mem_cons.mp holds with rfl | later
      · left
        rw [if_neg (by decide)]
        decide +kernel
      · exact .inr (ih later (first :: before))

theorem k_mem_lower {text : String} (holds : kelvinSign ∈ text.toList) :
    'k' ∈ (lower text).toList := by
  rw [lower, String.toList_ofList]
  exact k_mem_lower_from holds []

/-- Without the Kelvin sign a text has an ASCII name in both lower cases or in neither. -/
theorem lower_eq_iff {text name : String} (ascii : IsAscii name)
    (plain : kelvinSign ∉ text.toList) : lower text = name ↔ lowerAscii text = name := by
  constructor
  · rintro rfl
    exact (lower_of_ascii (is_ascii_of_lower ascii plain)).symm
  · rintro rfl
    exact lower_of_ascii (is_ascii_of_lower_ascii ascii)

end TurtleLang.Text

namespace TurtleLang.Primitive

set_option autoImplicit false

def names : List String :=
  ["fd", "forward", "bk", "back", "backward", "rt", "right", "lt", "left", "pu", "penup", "pd",
    "pendown", "print", "cs", "clearscreen", "home", "ht", "hideturtle", "st", "showturtle",
    "seth", "setheading"]

theorem mem_names {name : String} (named : (ofLowerName? name).isSome = true) : name ∈ names := by
  apply Decidable.byContradiction
  intro missing
  simp only [names, List.mem_cons, List.not_mem_nil, or_false, not_or] at missing
  simp [ofLowerName?, missing] at named

theorem names_ascii :
    ∀ name ∈ names, Text.IsAscii name ∧
      ('k' ∈ name.toList → ofLowerName? name = some .back) := by
  decide

theorem of_name_lower (word : String) :
    ofName? (Text.lower word) = ofLowerName? (Text.lower word) := by
  rw [ofName?, Text.lower_ascii_lower]

theorem of_name_lower_of_plain {word : String} (plain : Text.kelvinSign ∉ word.toList) :
    ofName? (Text.lower word) = ofName? word := by
  rw [of_name_lower, ofName?]
  by_cases full : Text.lower word ∈ names
  · rw [(Text.lower_eq_iff (names_ascii _ full).1 plain).mp rfl]
  · by_cases short : Text.lowerAscii word ∈ names
    · rw [(Text.lower_eq_iff (names_ascii _ short).1 plain).mpr rfl]
    · have fullNone : ofLowerName? (Text.lower word) = none :=
        Option.not_isSome_iff_eq_none.mp (mt mem_names full)
      rw [fullNone, Option.not_isSome_iff_eq_none.mp (mt mem_names short)]

/-- A word with the Kelvin sign has no name of an operation in ASCII lower case. -/
theorem of_name_of_kelvin {word : String} (holds : Text.kelvinSign ∈ word.toList) :
    ofName? word = none := by
  apply Option.not_isSome_iff_eq_none.mp
  intro named
  have ascii := (names_ascii _ (mem_names named)).1
  exact Text.kelvin_not_ascii holds (Text.is_ascii_of_lower_ascii ascii)

/-- In full lower case it can have one, and then the operation is to go back. -/
theorem of_name_lower_of_kelvin {word : String} (holds : Text.kelvinSign ∈ word.toList)
    (named : (ofName? (Text.lower word)).isSome = true) :
    ofName? (Text.lower word) = some .back := by
  rw [of_name_lower] at named ⊢
  exact (names_ascii _ (mem_names named)).2 (Text.k_mem_lower holds)

end TurtleLang.Primitive

namespace TurtleLang.Command

set_option autoImplicit false

/-- The word is a command where a command starts: it opens a loop, or names an operation or a
known procedure. -/
def Dispatched (registry : Registry) (word : String) : Prop :=
  Text.lower word = loopWord ∨ (Primitive.ofName? (Text.lower word)).isSome = true ∨
    (registry.lookup (Text.lower word)).isSome = true

instance (registry : Registry) (word : String) : Decidable (Dispatched registry word) :=
  inferInstanceAs (Decidable (_ ∨ _ ∨ _))

/-- The word spells the operation to go back with the Kelvin sign, and no procedure has its
name. -/
def Masked (registry : Registry) (word : String) : Prop :=
  Text.kelvinSign ∈ word.toList ∧ Primitive.ofName? (Text.lower word) = some .back ∧
    registry.contains word = false

instance (registry : Registry) (word : String) : Decidable (Masked registry word) :=
  inferInstanceAs (Decidable (_ ∧ _ ∧ _))

theorem lookup_lower (registry : Registry) (word : String) :
    registry.lookup (Text.lower word) = registry.lookup word := by
  unfold Registry.lookup
  rw [Text.lower_lower]

theorem starts_command_eq_true (registry : Registry) (word : String) :
    startsCommand registry word = true ↔
      Text.lowerAscii word = loopWord ∨ (Primitive.ofName? word).isSome = true ∨
        registry.contains word = true := by
  simp [startsCommand, or_assoc]

/-- The test for the next command finds what is a command at its start, except for the words
that are masked. -/
theorem starts_command_iff (registry : Registry) (word : String) :
    startsCommand registry word = true ↔
      Dispatched registry word ∧ ¬Masked registry word := by
  have loopAscii : Text.IsAscii loopWord := by decide
  rw [starts_command_eq_true, Dispatched, lookup_lower, ← Registry.contains]
  by_cases holds : Text.kelvinSign ∈ word.toList
  · have noLoop : Text.lower word ≠ loopWord := by
      intro opens
      have letter := Text.k_mem_lower holds
      rw [opens] at letter
      exact absurd letter (by decide)
    have noLoopAscii : Text.lowerAscii word ≠ loopWord := by
      intro opens
      rw [← opens] at loopAscii
      exact Text.kelvin_not_ascii holds (Text.is_ascii_of_lower_ascii loopAscii)
    rw [Primitive.of_name_of_kelvin holds]
    constructor
    · rintro (opens | named | known)
      · exact absurd opens noLoopAscii
      · cases named
      · exact ⟨.inr (.inr known), fun masked => Bool.noConfusion (known.symm.trans masked.2.2)⟩
    · rintro ⟨opens | named | known, unmasked⟩
      · exact absurd opens noLoop
      · have backward := Primitive.of_name_lower_of_kelvin holds named
        have known : registry.contains word ≠ false :=
          fun unknown => unmasked ⟨holds, backward, unknown⟩
        exact .inr (.inr (Bool.not_eq_false _ ▸ known))
      · exact .inr (.inr known)
  · have unmasked : ¬Masked registry word := fun masked => holds masked.1
    rw [Primitive.of_name_lower_of_plain holds, Text.lower_eq_iff loopAscii holds]
    simp [unmasked]

theorem read_commands_unknown {registry : Registry} {word : String}
    (unnamed : ¬Dispatched registry word) (nested : Bool) {tokens after : List Token}
    {texts : List String} (taken : takeUnknown registry tokens = (texts, after)) :
    (readCommands registry nested (.word word :: tokens)).val =
      (.unknown (" ".intercalate (word :: texts)) :: (readCommands registry nested after).val.1,
        (readCommands registry nested after).val.2) := by
  simp only [Dispatched, not_or, Option.not_isSome_iff_eq_none] at unnamed
  obtain ⟨noLoop, noPrimitive, noProcedure⟩ := unnamed
  apply read_commands_simple noLoop _ rfl
  simp only [takeSimple, noPrimitive, noProcedure, taken]

def SwallowsNext (registry : Registry) (nested : Bool) (unknown word : String)
    (rest : List Token) : Prop :=
  ∃ tail more left,
    (readCommands registry nested (.word unknown :: .word word :: rest)).val =
      (.unknown (unknown ++ " " ++ word ++ tail) :: more, left)

def LeavesNext (registry : Registry) (nested : Bool) (unknown word : String)
    (rest : List Token) : Prop :=
  (readCommands registry nested (.word unknown :: .word word :: rest)).val =
    (.unknown unknown :: (readCommands registry nested (.word word :: rest)).val.1,
      (readCommands registry nested (.word word :: rest)).val.2)

section NextWord

variable {registry : Registry} {unknown word : String} (unnamed : ¬Dispatched registry unknown)
  (nested : Bool) (rest : List Token)

include unnamed

theorem leaves_next_of_starts (starts : startsCommand registry word = true) :
    LeavesNext registry nested unknown word rest := by
  have taken : takeUnknown registry (.word word :: rest) = ([], .word word :: rest) := by
    rw [takeUnknown, if_pos starts]
  rw [LeavesNext, read_commands_unknown unnamed nested taken, String.intercalate_singleton]

theorem swallows_next_of_not_starts (starts : ¬startsCommand registry word = true) :
    SwallowsNext registry nested unknown word rest := by
  have taken : takeUnknown registry (.word word :: rest) =
      (word :: (takeUnknown registry rest).1, (takeUnknown registry rest).2) := by
    rw [takeUnknown, if_neg starts]
  obtain ⟨tail, spelled⟩ : ∃ tail,
      " ".intercalate (unknown :: word :: (takeUnknown registry rest).1) =
        unknown ++ " " ++ word ++ tail := by
    cases (takeUnknown registry rest).1 with
    | nil => exact ⟨"", by simp⟩
    | cons text texts =>
        exact ⟨" " ++ " ".intercalate (text :: texts), by simp [String.append_assoc]⟩
  exact ⟨tail, _, _, by rw [read_commands_unknown unnamed nested taken, spelled]⟩

end NextWord

/-- A text is not its own beginning, so the word cannot be both swallowed and left. -/
theorem not_leaves_next_of_swallows_next {registry : Registry} {nested : Bool}
    {unknown word : String} {rest : List Token}
    (swallows : SwallowsNext registry nested unknown word rest) :
    ¬LeavesNext registry nested unknown word rest := by
  obtain ⟨tail, more, left, read⟩ := swallows
  intro leaves
  rw [LeavesNext, read] at leaves
  have same : unknown ++ " " ++ word ++ tail = unknown := by
    simpa using congrArg (fun block => block.1.head?) leaves
  have lengths := congrArg String.length same
  have space : " ".length = 1 := rfl
  simp only [String.length_append] at lengths
  omega

/-- A word that names nothing swallows the word behind it exactly when that word is no
command where a command starts, but for the words that are masked: they are commands there,
and are swallowed all the same. -/
theorem unknown_swallows_unless_command (registry : Registry) (word : String) :
    (startsCommand registry word = true ↔
      Dispatched registry word ∧ ¬Masked registry word) ∧
    ∀ unknown nested rest, ¬Dispatched registry unknown →
      (SwallowsNext registry nested unknown word rest ↔
        ¬Dispatched registry word ∨ Masked registry word) ∧
      (LeavesNext registry nested unknown word rest ↔
        Dispatched registry word ∧ ¬Masked registry word) := by
  refine ⟨starts_command_iff registry word, ?_⟩
  intro unknown nested rest unnamed
  have tested := starts_command_iff registry word
  by_cases starts : startsCommand registry word = true
  · have leaves := leaves_next_of_starts unnamed nested rest starts
    have keeps : ¬SwallowsNext registry nested unknown word rest :=
      fun swallows => not_leaves_next_of_swallows_next swallows leaves
    obtain ⟨dispatched, unmasked⟩ := tested.mp starts
    simp [leaves, keeps, dispatched, unmasked]
  · have swallows := swallows_next_of_not_starts unnamed nested rest starts
    have keeps := not_leaves_next_of_swallows_next swallows
    have missed := mt tested.mpr starts
    refine ⟨iff_of_true swallows ?_, iff_of_false keeps missed⟩
    rwa [Decidable.not_and_iff_not_or_not, Decidable.not_not] at missed

/-- Behind `foo` the operation `rt` is left, and `bar` and a masked word are swallowed. -/
theorem unknown_swallows_unless_command_foo :
    LeavesNext Registry.empty true "foo" "RT" [.closing] ∧
      SwallowsNext Registry.empty true "foo" "bar" [.closing] ∧
      SwallowsNext Registry.empty true "foo" "b\u212A" [.closing] :=
  ⟨((unknown_swallows_unless_command Registry.empty "RT").2 "foo" true [.closing]
      (by decide +kernel)).2.mpr (by decide +kernel),
    ((unknown_swallows_unless_command Registry.empty "bar").2 "foo" true [.closing]
      (by decide +kernel)).1.mpr (by decide +kernel),
    ((unknown_swallows_unless_command Registry.empty "b\u212A").2 "foo" true [.closing]
      (by decide +kernel)).1.mpr (by decide +kernel)⟩

/-- A masked word is a command at the start of a block and is hidden behind an unknown
word. -/
theorem masked_word_hidden :
    Dispatched Registry.empty "b\u212A" ∧ startsCommand Registry.empty "b\u212A" = false ∧
      lineStatements Registry.empty .command 0 "repeat 1 [b\u212A 5]" =
        [⟨0, "for _ in range(int(1)):"⟩, ⟨1, "turtle.backward(5)"⟩] ∧
      lineStatements Registry.empty .command 0 "repeat 1 [foo b\u212A 5]" =
        [⟨0, "for _ in range(int(1)):"⟩, ⟨1, "# Unknown: foo b\u212A 5"⟩, ⟨1, "pass"⟩] := by
  decide +kernel

end TurtleLang.Command
