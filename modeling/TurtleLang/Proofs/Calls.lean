import TurtleLang.Command.Line
import TurtleLang.Proofs.Conservation
import TurtleLang.Proofs.LowerCase

/-!
The procedures that commands call, at any depth. Whatever the split policy, a
call in the commands of a line has the lower case of a source word as its name,
and the registry the line was read with knows that name.
-/
namespace TurtleLang.Command

set_option autoImplicit false

open Token (Clean)

mutual

def calls : Command → List String
  | .primitive _ _ => []
  | .loop _ body => callsOf body
  | .call name _ => [name]
  | .unknown _ => []

def callsOf : List Command → List String
  | [] => []
  | command :: rest => calls command ++ callsOf rest

end

/-- A name that a source word calls with the given procedures known. -/
def Resolved (registry : Registry) (name : String) : Prop :=
  (∃ word, Text.IsSolid word ∧ name = Text.lower word) ∧ registry.contains name = true

theorem resolved_solid {registry : Registry} {name : String} (resolved : Resolved registry name) :
    Text.IsSolid name := by
  obtain ⟨⟨word, solid, rfl⟩, _⟩ := resolved
  exact Text.lower_solid solid

theorem resolved_lower {registry : Registry} {name : String} (resolved : Resolved registry name) :
    Text.lower name = name := by
  obtain ⟨⟨word, _, rfl⟩, _⟩ := resolved
  exact Text.lower_lower word

theorem reads_calls {registry : Registry} {nested : Bool} {tokens left : List Token}
    {commands : List Command} (reads : Reads registry nested tokens commands left)
    (clean : Clean tokens) : ∀ name ∈ callsOf commands, Resolved registry name := by
  induction reads with
  | done nested => simp [callsOf]
  | close rest => simp [callsOf]
  | stray _ ih => exact ih (clean_tail clean)
  | @group _ rest _ _ _ _ grouped _ ih =>
      have group := Token.take_group_yields 0 rest
      rw [grouped] at group
      exact ih (clean_rest group (clean_tail clean))
  | loopBlock _ bodyReads _ bodyIh ih =>
      have insideClean := clean_tail (clean_tail (clean_tail clean))
      obtain ⟨_, _, block⟩ := reads_pieces bodyReads insideClean
      intro name called
      rcases List.mem_append.mp called with inBody | later
      · exact bodyIh insideClean name inBody
      · exact ih (clean_rest block insideClean) name later
  | loopBare _ _ _ ih => exact ih (clean_tail (clean_tail clean))
  | loopAlone _ _ _ ih => exact ih (clean_tail clean)
  | @primitive _ _ rest _ _ operation _ _ _ _ taken _ ih =>
      obtain ⟨_, _, yields⟩ := take_inputs_pieces operation.arity rest
      rw [taken] at yields
      exact ih (clean_rest yields (clean_tail clean))
  | @call _ word rest _ _ procedure _ _ _ _ known taken _ ih =>
      obtain ⟨_, _, yields⟩ := take_inputs_pieces procedure.parameters.length rest
      rw [taken] at yields
      intro name called
      rcases List.mem_append.mp called with here | later
      · rw [calls, List.mem_singleton] at here
        subst here
        refine ⟨⟨word, Token.solid_of_word (clean word (by simp)), rfl⟩, ?_⟩
        rw [Registry.contains, known]
        rfl
      · exact ih (clean_rest yields (clean_tail clean)) name later
  | @unknown _ _ rest _ _ _ _ _ _ _ taken _ ih =>
      have yields := take_unknown_yields registry rest (clean_tail clean)
      rw [taken] at yields
      exact ih (clean_rest yields (clean_tail clean))

theorem read_plain_calls (registry : Registry) (line : String) {first : String}
    (rest : List String) (solid : Text.IsSolid first) :
    ∀ name ∈ calls (readPlain registry line first rest), Resolved registry name := by
  intro name called
  unfold readPlain at called
  dsimp only at called
  split at called
  · cases called
  · split at called
    · next known =>
        rw [calls, List.mem_singleton] at called
        subst called
        exact ⟨⟨first, solid, rfl⟩, known⟩
    · cases called

theorem mem_calls_of {name : String} {commands : List Command} :
    name ∈ callsOf commands ↔ ∃ command ∈ commands, name ∈ calls command := by
  induction commands with
  | nil => simp [callsOf]
  | cons first rest ih => simp [callsOf, ih]

theorem read_by_word_calls (registry : Registry) (line : String) (rest : List String) :
    ∀ name ∈ calls (readByWord registry line rest), Resolved registry name := by
  cases rest with
  | nil => simp [readByWord, calls]
  | cons count block =>
      intro name called
      rw [readByWord, calls, mem_calls_of] at called
      obtain ⟨command, member, calledThere⟩ := called
      obtain ⟨word, inBlock, rfl⟩ := List.mem_map.mp member
      unfold readWord at calledThere
      split at calledThere
      · cases calledThere
      · exact read_plain_calls registry word [] (Text.words_solid inBlock) name calledThere

/-- Every call in the commands of a line is of a known procedure. -/
theorem read_line_calls (registry : Registry) (policy : SplitPolicy) (line : String) :
    ∀ name ∈ callsOf (readLine registry policy line), Resolved registry name := by
  unfold readLine
  split
  · simp [callsOf]
  · next first rest cut =>
      have listed : first ∈ Text.words line := by simp [cut]
      split
      · cases policy with
        | command =>
            exact reads_calls (reads_read_commands registry false (Token.scan line))
              (Token.scan_clean line)
        | token =>
            simpa [callsOf] using read_by_word_calls registry line rest
      · simpa [callsOf] using read_plain_calls registry line rest (Text.words_solid listed)

theorem read_lines_calls (registry : Registry) (policy : SplitPolicy) (lines : List String) :
    ∀ name ∈ callsOf (lines.flatMap (readLine registry policy)),
      Resolved registry name := by
  intro name called
  obtain ⟨command, member, calledThere⟩ := mem_calls_of.mp called
  obtain ⟨line, _, read⟩ := List.mem_flatMap.mp member
  exact read_line_calls registry policy line name
    (mem_calls_of.mpr ⟨command, read, calledThere⟩)

end TurtleLang.Command
