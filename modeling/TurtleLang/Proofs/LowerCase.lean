import TurtleLang.Proofs.Lexing
import TurtleLang.Text.Lower

/-!
Lower case is settled after one pass: no character it produces has another lower
case, and none of them is the sigma whose form depends on its surroundings. It
also keeps words words, since it neither produces a blank nor swallows a
character. Both rest on one check of the table of runs, run against run.
-/
namespace TurtleLang.Text

set_option autoImplicit false

def LowerRun.lastImage (run : LowerRun) : Nat :=
  run.image + (run.last - run.first)

/-- Whether the images of a run are visibly no members of another: they lie
before it, behind it, or between its members. -/
def LowerRun.apart (run other : LowerRun) : Bool :=
  run.lastImage.blt other.first || other.last.blt run.image ||
    ((run.spacing == 2 || run.first == run.last) && other.spacing == 2 &&
      (run.image + other.first) % 2 == 1)

def solidStretches : List (Nat × Nat) :=
  [(0x5B, 0x7F), (0xA1, 0x167F), (0x1681, 0x1FFF), (0x2060, 0x2FFF), (0x3001, 0xD7FF),
    (0xE000, 0x10FFFF)]

/-- Whether the images of a run are characters that are neither blank nor changed
by another pass. -/
def LowerRun.isSettled (run : LowerRun) : Bool :=
  solidStretches.any (fun (first, last) => first ≤ run.image && run.lastImage ≤ last) &&
    (run.lastImage < 0x130 || 0x130 < run.image) && (run.lastImage < 0x3A3 || 0x3A3 < run.image) &&
    lowerRuns.all run.apart

theorem lower_runs_settled : lowerRuns.all LowerRun.isSettled = true := by decide +kernel

theorem contains_iff (run : LowerRun) (code : Nat) :
    run.contains code = true ↔
      run.first ≤ code ∧ code ≤ run.last ∧ (code - run.first) % run.spacing = 0 := by
  simp only [LowerRun.contains, Bool.and_eq_true, decide_eq_true_eq, beq_iff_eq, and_assoc]

theorem lower_bounds {run : LowerRun} {code : Nat} (member : run.contains code = true) :
    run.image ≤ run.lower code ∧ run.lower code ≤ run.lastImage := by
  rw [contains_iff] at member
  simp only [LowerRun.lower, LowerRun.lastImage]
  omega

theorem not_contains_of_apart {run other : LowerRun} {code : Nat}
    (apart : run.apart other = true) (member : run.contains code = true) :
    other.contains (run.lower code) = false := by
  have bounds := lower_bounds member
  rw [contains_iff] at member
  simp only [LowerRun.apart, Bool.or_eq_true, Bool.and_eq_true, Nat.blt_eq,
    beq_iff_eq] at apart
  apply Bool.eq_false_iff.mpr
  intro inside
  rw [contains_iff] at inside
  obtain ⟨after, before, aligned⟩ := inside
  rcases apart with (ahead | behind) | ⟨⟨even, spacing⟩, odd⟩
  · omega
  · omega
  · rw [spacing] at aligned
    simp only [LowerRun.lower] at aligned after
    rcases even with two | single
    · rw [two] at member
      omega
    · omega

/-- Characters that lower case leaves alone wherever they stand. -/
def Settled (character : Char) : Prop :=
  character ≠ 'Σ' ∧ lowerCharacter character = [character]

instance (character : Char) : Decidable (Settled character) :=
  inferInstanceAs (Decidable (_ ∧ _))

theorem ascii_lower :
    ∀ code < 0x80, Settled (Char.ofNat code).toLower ∧
      (isBlank (Char.ofNat code) = false → isBlank (Char.ofNat code).toLower = false) := by
  decide +kernel

theorem to_nat_of_nat {code : Nat} (valid : code.isValidChar) : (Char.ofNat code).toNat = code := by
  rw [Char.ofNat, dif_pos valid]
  rfl

/-- What the check of the table says about one lower-case code point. -/
theorem image_facts {run : LowerRun} {code : Nat} (listed : run ∈ lowerRuns)
    (member : run.contains code = true) :
    (∃ stretch ∈ solidStretches, stretch.1 ≤ run.lower code ∧ run.lower code ≤ stretch.2) ∧
      run.lower code ≠ 0x130 ∧ run.lower code ≠ 0x3A3 ∧
      ∀ other ∈ lowerRuns, other.contains (run.lower code) = false := by
  have settled := List.all_eq_true.mp lower_runs_settled run listed
  have bounds := lower_bounds member
  simp only [LowerRun.isSettled, Bool.and_eq_true, Bool.or_eq_true, decide_eq_true_eq,
    List.any_eq_true, List.all_eq_true] at settled
  obtain ⟨⟨⟨⟨stretch, chosen, starts, ends⟩, dotted⟩, sigma⟩, apart⟩ := settled
  refine ⟨⟨stretch, chosen, by omega, by omega⟩, by omega, by omega, ?_⟩
  intro other present
  exact not_contains_of_apart (apart other present) member

theorem stretch_valid {stretch : Nat × Nat} {code : Nat} (chosen : stretch ∈ solidStretches)
    (starts : stretch.1 ≤ code) (ends : code ≤ stretch.2) : code.isValidChar := by
  simp only [solidStretches, List.mem_cons, List.not_mem_nil, or_false] at chosen
  rcases chosen with rfl | rfl | rfl | rfl | rfl | rfl <;>
    simp only [Nat.isValidChar] at * <;> omega

theorem stretch_solid {stretch : Nat × Nat} {character : Char} (chosen : stretch ∈ solidStretches)
    (starts : stretch.1 ≤ character.toNat) (ends : character.toNat ≤ stretch.2) :
    isBlank character = false := by
  simp only [solidStretches, List.mem_cons, List.not_mem_nil, or_false] at chosen
  apply Bool.eq_false_iff.mpr
  intro blank
  simp only [isBlank, Bool.or_eq_true, Bool.and_eq_true, decide_eq_true_eq, beq_iff_eq] at blank
  rcases chosen with rfl | rfl | rfl | rfl | rfl | rfl <;> omega

/-- Where a character of the lower case comes from. -/
theorem lower_character_cases {character image : Char}
    (produced : image ∈ lowerCharacter character) :
    (character.toNat < 0x80 ∧ image = character.toLower) ∨
      (image = 'i' ∨ image = '\u0307') ∨
      (∃ run ∈ lowerRuns, run.contains character.toNat = true ∧
        image = Char.ofNat (run.lower character.toNat)) ∨
      (image = character ∧ lowerCharacter character = [character]) := by
  unfold lowerCharacter at produced ⊢
  split at produced
  · next ascii => exact .inl ⟨ascii, List.mem_singleton.mp produced⟩
  · split at produced
    · exact .inr (.inl (by simpa using produced))
    · split at produced
      · next run found =>
          refine .inr (.inr (.inl ⟨run, List.mem_of_find?_eq_some found, ?_, ?_⟩))
          · have holds := List.find?_some found
            exact holds
          · exact List.mem_singleton.mp produced
      · next ascii dotted _ _ =>
          refine .inr (.inr (.inr ⟨List.mem_singleton.mp produced, ?_⟩))
          rw [if_neg ascii, if_neg dotted]

theorem to_lower_of_above {character : Char} (above : 0x5A < character.toNat) :
    character.toLower = character := by
  apply dif_neg
  intro upper
  have below : character.toNat ≤ 0x5A := upper.2
  omega

theorem image_settled {run : LowerRun} {code : Nat} (listed : run ∈ lowerRuns)
    (member : run.contains code = true) : Settled (Char.ofNat (run.lower code)) := by
  obtain ⟨⟨stretch, chosen, starts, ends⟩, dotted, sigma, apart⟩ := image_facts listed member
  have same := to_nat_of_nat (stretch_valid chosen starts ends)
  have lowest : 0x5A < run.lower code := by
    simp only [solidStretches, List.mem_cons, List.not_mem_nil, or_false] at chosen
    rcases chosen with rfl | rfl | rfl | rfl | rfl | rfl <;> simp only at starts <;> omega
  refine ⟨fun isSigma => sigma (by rw [← same, isSigma]; rfl), ?_⟩
  unfold lowerCharacter
  split
  · rw [to_lower_of_above (by rw [same]; exact lowest)]
  · rw [if_neg fun isDotted => dotted (by rw [← same, isDotted]; rfl)]
    have missing : lowerRuns.find? (·.contains (Char.ofNat (run.lower code)).toNat) = none := by
      rw [List.find?_eq_none, same]
      intro other present
      simp [apart other present]
    rw [missing]

theorem lower_character_settled {character : Char} (plain : character ≠ 'Σ') :
    ∀ image ∈ lowerCharacter character, Settled image := by
  intro image produced
  rcases lower_character_cases produced with
    ⟨ascii, rfl⟩ | (rfl | rfl) | ⟨run, listed, member, rfl⟩ | ⟨rfl, fixed⟩
  · have settled := (ascii_lower character.toNat ascii).1
    rwa [Char.ofNat_toNat] at settled
  · decide +kernel
  · decide +kernel
  · exact image_settled listed member
  · exact ⟨plain, fixed⟩

theorem lower_character_solid {character : Char} (solid : isBlank character = false) :
    ∀ image ∈ lowerCharacter character, isBlank image = false := by
  intro image produced
  rcases lower_character_cases produced with
    ⟨ascii, rfl⟩ | (rfl | rfl) | ⟨run, listed, member, rfl⟩ | ⟨rfl, _⟩
  · have kept := (ascii_lower character.toNat ascii).2
    rw [Char.ofNat_toNat] at kept
    exact kept solid
  · decide
  · decide
  · obtain ⟨⟨stretch, chosen, starts, ends⟩, _⟩ := image_facts listed member
    have same := to_nat_of_nat (stretch_valid chosen starts ends)
    exact stretch_solid chosen (by rwa [same]) (by rwa [same])
  · exact solid

theorem lower_character_nonempty (character : Char) : lowerCharacter character ≠ [] := by
  unfold lowerCharacter
  split
  · simp
  · split
    · simp
    · split <;> simp

theorem lower_from_forall {property : Char → Prop} {characters : List Char}
    (images : ∀ character ∈ characters, character ≠ 'Σ' →
      ∀ image ∈ lowerCharacter character, property image)
    (final : property 'ς') (medial : property 'σ') (before : List Char) :
    ∀ image ∈ lowerFrom before characters, property image := by
  induction characters generalizing before with
  | nil => simp [lowerFrom]
  | cons character rest ih =>
      intro image produced
      rw [lowerFrom, List.mem_append] at produced
      rcases produced with first | later
      · split at first
        · rw [List.mem_singleton] at first
          subst first
          split
          · exact final
          · exact medial
        · next plain => exact images character (by simp) plain image first
      · exact ih (fun other member => images other (List.mem_cons_of_mem character member))
          (character :: before) image later

theorem lower_from_nonempty {characters : List Char} (filled : characters ≠ [])
    (before : List Char) : lowerFrom before characters ≠ [] := by
  cases characters with
  | nil => exact absurd rfl filled
  | cons character rest =>
      rw [lowerFrom]
      intro none
      have first := (List.append_eq_nil_iff.mp none).1
      split at first
      · cases first
      · exact lower_character_nonempty character first

theorem lower_from_settled {characters : List Char}
    (settled : ∀ character ∈ characters, Settled character) (before : List Char) :
    lowerFrom before characters = characters := by
  induction characters generalizing before with
  | nil => rfl
  | cons character rest ih =>
      obtain ⟨plain, fixed⟩ := settled character (by simp)
      rw [lowerFrom, if_neg plain, fixed,
        ih (fun other member => settled other (List.mem_cons_of_mem character member))]
      rfl

theorem lower_lower (text : String) : lower (lower text) = lower text := by
  unfold lower
  rw [String.toList_ofList, lower_from_settled]
  exact lower_from_forall (fun character _ plain => lower_character_settled plain)
    (by decide +kernel) (by decide +kernel) []

def Unbroken (text : String) : Prop :=
  ∀ character ∈ text.toList, isBlank character = false

theorem unbroken_of_list {characters : List Char}
    (solid : ∀ character ∈ characters, isBlank character = false) :
    Unbroken (String.ofList characters) := by
  unfold Unbroken
  rwa [String.toList_ofList]

theorem unbroken_lower {text : String} (unbroken : Unbroken text) : Unbroken (lower text) := by
  apply unbroken_of_list
  refine lower_from_forall ?_ (by decide) (by decide) []
  intro character member _
  exact lower_character_solid (unbroken character member)

theorem lower_solid {text : String} (solid : IsSolid text) : IsSolid (lower text) := by
  have filled : text.toList ≠ [] := by simpa using solid.1
  constructor
  · unfold lower
    simpa using lower_from_nonempty filled []
  · exact unbroken_lower solid.2

end TurtleLang.Text
