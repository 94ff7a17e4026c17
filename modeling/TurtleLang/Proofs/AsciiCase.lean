import TurtleLang.Command
import TurtleLang.Proofs.LowerCase

/-!
What the case of ASCII letters is good for: nothing beyond what is shown. Every
test on characters answers alike for a letter and its lower case, so blanks,
brackets, marks and the surroundings of a sigma are where they were. The full
lower case of a text therefore does not depend on the case of its ASCII letters,
and it has no capital among them.
-/
namespace TurtleLang.Text

set_option autoImplicit false

/-- A fact about every character, from the ASCII ones and from those that have no
other ASCII case. -/
theorem ascii_induction {property : Char → Prop} (ascii : ∀ code < 0x80, property (Char.ofNat code))
    (beyond : ∀ character, 0x80 ≤ character.toNat → character.toLower = character →
      property character) (character : Char) : property character := by
  by_cases small : character.toNat < 0x80
  · have holds := ascii character.toNat small
    rwa [Char.ofNat_toNat] at holds
  · exact beyond character (by omega) (to_lower_of_above (by omega))

/-- A test that answers alike for ASCII letters and their lower case does so for
every character. -/
theorem to_lower_invariant {α : Type} (test : Char → α)
    (ascii : ∀ code < 0x80, test (Char.ofNat code).toLower = test (Char.ofNat code))
    (character : Char) : test character.toLower = test character := by
  induction character using ascii_induction with
  | ascii code small => exact ascii code small
  | beyond character _ same => rw [same]

theorem to_lower_to_lower (character : Char) : character.toLower.toLower = character.toLower :=
  to_lower_invariant Char.toLower (by decide) character

theorem is_blank_to_lower (character : Char) : isBlank character.toLower = isBlank character :=
  to_lower_invariant isBlank (by decide) character

def IsLetter (character : Char) : Prop :=
  (0x41 ≤ character.toNat ∧ character.toNat ≤ 0x5A) ∨
    (0x61 ≤ character.toNat ∧ character.toNat ≤ 0x7A)

instance (character : Char) : Decidable (IsLetter character) :=
  inferInstanceAs (Decidable (_ ∨ _))

theorem letters_ascii :
    ∀ code < 0x80, (Char.ofNat code).toLower = Char.ofNat code ∨
      (IsLetter (Char.ofNat code) ∧ IsLetter (Char.ofNat code).toLower) := by
  decide

theorem letters_of_to_lower (character : Char) :
    character.toLower = character ∨ (IsLetter character ∧ IsLetter character.toLower) := by
  induction character using ascii_induction with
  | ascii code small => exact letters_ascii code small
  | beyond character _ same => exact .inl same

theorem is_cased_of_letter {character : Char} (letter : IsLetter character) :
    isCased character = true := by
  unfold isCased inRanges
  rw [List.any_eq_true]
  rcases letter with upper | lower
  · exact ⟨(0x41, 0x5A), by simp [casedRanges], by simpa using upper⟩
  · exact ⟨(0x61, 0x7A), by simp [casedRanges], by simpa using lower⟩

theorem case_ignorable_beside_letters :
    caseIgnorableRanges.all (fun (first, last) =>
      (last < 0x41 || 0x5A < first) && (last < 0x61 || 0x7A < first)) = true := by
  decide +kernel

theorem not_case_ignorable_of_letter {character : Char} (letter : IsLetter character) :
    isCaseIgnorable character = false := by
  unfold isCaseIgnorable inRanges
  rw [List.any_eq_false]
  rintro ⟨first, last⟩ listed
  have beside := List.all_eq_true.mp case_ignorable_beside_letters (first, last) listed
  simp only [Bool.and_eq_true, Bool.or_eq_true, decide_eq_true_eq] at beside ⊢
  unfold IsLetter at letter
  omega

theorem is_cased_to_lower (character : Char) : isCased character.toLower = isCased character := by
  rcases letters_of_to_lower character with same | ⟨letter, lowered⟩
  · rw [same]
  · rw [is_cased_of_letter letter, is_cased_of_letter lowered]

theorem is_case_ignorable_to_lower (character : Char) :
    isCaseIgnorable character.toLower = isCaseIgnorable character := by
  rcases letters_of_to_lower character with same | ⟨letter, lowered⟩
  · rw [same]
  · rw [not_case_ignorable_of_letter letter, not_case_ignorable_of_letter lowered]

theorem to_lower_eq_iff {mark : Char} (noLetter : ¬IsLetter mark) (character : Char) :
    character.toLower = mark ↔ character = mark := by
  rcases letters_of_to_lower character with same | ⟨letter, lowered⟩
  · rw [same]
  · constructor
    · intro found
      rw [found] at lowered
      exact absurd lowered noLetter
    · intro found
      rw [found] at letter
      exact absurd letter noLetter

theorem to_lower_ne {mark character : Char} (noLetter : ¬IsLetter mark)
    (other : character ≠ mark) : character.toLower ≠ mark := by
  intro found
  exact other ((to_lower_eq_iff noLetter character).mp found)

theorem lower_character_to_lower (character : Char) :
    lowerCharacter character.toLower = lowerCharacter character :=
  to_lower_invariant lowerCharacter (by decide +kernel) character

theorem escape_beyond {character : Char} (large : 0x80 ≤ character.toNat) :
    escape character = [character] := by
  have marks : ∀ mark : Char, mark.toNat < 0x80 → character ≠ mark := by
    rintro mark small rfl
    omega
  unfold escape
  rw [if_neg (marks _ (by decide)), if_neg (marks _ (by decide)), if_neg (marks _ (by decide)),
    if_neg (marks _ (by decide)), if_neg (marks _ (by decide)), if_neg (marks _ (by decide)),
    if_neg (marks _ (by decide)), if_neg (by omega)]

theorem escape_ascii :
    ∀ code < 0x80, escape (Char.ofNat code).toLower =
      (escape (Char.ofNat code)).map Char.toLower := by
  decide

theorem escape_to_lower (character : Char) :
    escape character.toLower = (escape character).map Char.toLower := by
  induction character using ascii_induction with
  | ascii code small => exact escape_ascii code small
  | beyond character large same => rw [same, escape_beyond large, List.map_singleton, same]

theorem meets_cased_to_lower (characters : List Char) :
    meetsCased (characters.map Char.toLower) = meetsCased characters := by
  have through : isCaseIgnorable ∘ Char.toLower = isCaseIgnorable :=
    funext is_case_ignorable_to_lower
  unfold meetsCased
  rw [List.dropWhile_map, through]
  cases characters.dropWhile isCaseIgnorable with
  | nil => rfl
  | cons character rest => exact is_cased_to_lower character

/-- The case of ASCII letters has no influence on the full lower case, not even
through the form a sigma takes beside them. -/
theorem lower_from_to_lower (before after : List Char) :
    lowerFrom (before.map Char.toLower) (after.map Char.toLower) = lowerFrom before after := by
  induction after generalizing before with
  | nil => rfl
  | cons character after ih =>
      have rest := ih (character :: before)
      rw [List.map_cons] at rest
      rw [List.map_cons, lowerFrom, lowerFrom, rest, endsWord, endsWord, meets_cased_to_lower,
        meets_cased_to_lower, lower_character_to_lower]
      simp only [to_lower_eq_iff (show ¬IsLetter 'Σ' by decide)]

@[simp]
theorem to_list_lower_ascii (text : String) :
    (lowerAscii text).toList = text.toList.map Char.toLower := by
  rw [lowerAscii, String.toList_ofList]

@[simp]
theorem lower_ascii_of_list (characters : List Char) :
    lowerAscii (String.ofList characters) = String.ofList (characters.map Char.toLower) := by
  rw [lowerAscii, String.toList_ofList]

@[simp]
theorem lower_ascii_append (left right : String) :
    lowerAscii (left ++ right) = lowerAscii left ++ lowerAscii right := by
  apply String.toList_inj.mp
  simp [String.toList_append]

theorem lower_ascii_intercalate (separator : String) (texts : List String) :
    lowerAscii (separator.intercalate texts) =
      (lowerAscii separator).intercalate (texts.map lowerAscii) := by
  induction texts with
  | nil => rfl
  | cons first rest ih =>
      cases rest with
      | nil => simp
      | cons second rest =>
          rw [String.intercalate_cons_cons, lower_ascii_append, lower_ascii_append, ih]
          exact String.intercalate_cons_cons.symm

@[simp]
theorem lower_ascii_lower_ascii (text : String) :
    lowerAscii (lowerAscii text) = lowerAscii text := by
  have settled : Char.toLower ∘ Char.toLower = Char.toLower := funext to_lower_to_lower
  apply String.toList_inj.mp
  rw [to_list_lower_ascii, to_list_lower_ascii, List.map_map, settled]

@[simp]
theorem lower_lower_ascii (text : String) : lower (lowerAscii text) = lower text := by
  unfold lower
  rw [to_list_lower_ascii]
  exact congrArg String.ofList (lower_from_to_lower [] text.toList)

theorem to_lower_of_settled {character : Char} (settled : Settled character) :
    character.toLower = character := by
  by_cases small : character.toNat < 0x80
  · have fixed := settled.2
    rw [lowerCharacter, if_pos small] at fixed
    exact (List.cons.inj fixed).1
  · exact to_lower_of_above (by omega)

/-- No ASCII capital is left in a lower case. -/
@[simp]
theorem lower_ascii_lower (text : String) : lowerAscii (lower text) = lower text := by
  have settled : ∀ character ∈ lowerFrom [] text.toList, Settled character :=
    lower_from_forall (fun character _ plain => lower_character_settled plain)
      (by decide +kernel) (by decide +kernel) []
  rw [lower, lower_ascii_of_list]
  apply congrArg String.ofList
  rw [List.map_congr_left fun character member => to_lower_of_settled (settled character member)]
  exact List.map_id _

theorem literal_lower_ascii (text : String) :
    literal (lowerAscii text) = lowerAscii (literal text) := by
  have inside : (text.toList.map Char.toLower).flatMap escape =
      (text.toList.flatMap escape).map Char.toLower := by
    rw [List.flatMap_map, List.map_flatMap]
    exact congrArg text.toList.flatMap (funext escape_to_lower)
  rw [literal, literal, lower_ascii_of_list, to_list_lower_ascii, literalOf, literalOf, inside]
  simp

end TurtleLang.Text
