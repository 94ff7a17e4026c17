import Mathlib.Data.List.Chain
import TurtleLang.Proofs.Forest

/-!
How many inputs the commands of a line have. Inside a block a command takes as many
inputs as it declares, and can go short only where the tokens give it no more: at a
closing bracket or at the end. What the reader does next there is to end the block, or,
where no block is open, to read that bracket as a command of its own. So a command that
lacks inputs is the last one of its block, or stands in front of a stray bracket.
-/
namespace TurtleLang.Command

set_option autoImplicit false

mutual

def within : Command → List Command
  | .primitive operation inputs => [.primitive operation inputs]
  | .loop count body => .loop count body :: withinAll body
  | .call name inputs => [.call name inputs]
  | .unknown text => [.unknown text]

def withinAll : List Command → List Command
  | [] => []
  | command :: rest => within command ++ withinAll rest

end

theorem mem_within_all_cons {command first : Command} {rest : List Command} :
    command ∈ withinAll (first :: rest) ↔ command ∈ within first ∨ command ∈ withinAll rest := by
  rw [withinAll, List.mem_append]

theorem within_bodiless {command : Command} (bodiless : ∀ count body, command ≠ .loop count body) :
    within command = [command] := by
  cases command with
  | loop count body => exact absurd rfl (bodiless count body)
  | primitive operation inputs => rw [within]
  | call name inputs => rw [within]
  | unknown text => rw [within]

theorem mem_within_all {command : Command} {commands : List Command} :
    command ∈ withinAll commands ↔ ∃ outer ∈ commands, command ∈ within outer := by
  induction commands with
  | nil => simp [withinAll]
  | cons first rest ih => simp [withinAll, ih]

def inputs : Command → List String
  | .primitive _ inputs => inputs
  | .call _ inputs => inputs
  | .loop _ _ => []
  | .unknown _ => []

/-- The number of inputs that a command declares, if it is an operation or a call: for a
call, as many as the procedure that has the name at this point has parameters. -/
def declared? (registry : Registry) : Command → Option Nat
  | .primitive operation _ => some operation.arity
  | .call name _ => (registry.lookup name).map fun procedure => procedure.parameters.length
  | .loop _ _ => none
  | .unknown _ => none

def Fits (registry : Registry) (command : Command) : Prop :=
  ∀ count ∈ command.declared? registry, command.inputs.length ≤ count

def Filled (registry : Registry) (command : Command) : Prop :=
  ∀ count ∈ command.declared? registry, command.inputs.length = count

/-- Inputs run short only at a closing bracket or at the end of the tokens. -/
theorem take_inputs_count (count : Nat) (tokens : List Token) :
    (takeInputs count tokens).1.length = count ∨
      ((takeInputs count tokens).1.length < count ∧
        ((takeInputs count tokens).2 = [] ∨
          ∃ rest, (takeInputs count tokens).2 = .closing :: rest)) := by
  fun_induction takeInputs count tokens with
  | case1 tokens => exact .inl rfl
  | case2 count word rest inputs after taken ih =>
      rw [taken] at ih
      simpa using ih
  | case3 count rest inner left grouped inputs after taken ih =>
      rw [taken] at ih
      simpa using ih
  | case4 count tokens noWord noOpening =>
      refine .inr ⟨Nat.succ_pos count, ?_⟩
      cases tokens with
      | nil => exact .inl rfl
      | cons token rest =>
          cases token with
          | word word => exact absurd rfl (noWord word rest)
          | opening => exact absurd rfl (noOpening rest)
          | closing => exact .inr ⟨rest, rfl⟩

/-- What a command may have behind it: anything when it has all its inputs, and where no
block is open also a bracket that closes nothing. -/
def MayPrecede (registry : Registry) (nested : Bool) (command next : Command) : Prop :=
  command.Filled registry ∨ (nested = false ∧ next = .unknown "]")

/-- Where inputs ran short, the block ends or the bracket is read on its own. -/
theorem reads_next_of_short {registry : Registry} {nested : Bool} {after left : List Token}
    {more : List Command} (reads : Reads registry nested after more left)
    (short : after = [] ∨ ∃ rest, after = .closing :: rest) :
    ∀ next ∈ more.head?, nested = false ∧ next = .unknown "]" := by
  rcases short with rfl | ⟨rest, rfl⟩
  · cases reads
    simp
  · cases reads with
    | close _ => simp
    | stray _ => simp

/-- What holds of the commands of a reading: none has too many inputs, and in every body
and in the sequence itself each one may precede the next. -/
structure InputsCounted (registry : Registry) (nested : Bool) (commands : List Command) : Prop where
  fits : ∀ command ∈ withinAll commands, command.Fits registry
  bodies : ∀ count body, .loop count body ∈ withinAll commands →
    body.IsChain (MayPrecede registry true)
  sequence : commands.IsChain (MayPrecede registry nested)

section Counting

variable {registry : Registry} {nested : Bool} {command : Command} {commands : List Command}

theorem inputs_counted_nil : InputsCounted registry nested [] where
  fits := by simp [withinAll]
  bodies := by simp [withinAll]
  sequence := .nil

theorem inputs_counted_cons
    (fits : ∀ inner ∈ within command, inner.Fits registry)
    (bodies : ∀ count body, .loop count body ∈ within command →
      body.IsChain (MayPrecede registry true))
    (next : ∀ next ∈ commands.head?, MayPrecede registry nested command next)
    (rest : InputsCounted registry nested commands) :
    InputsCounted registry nested (command :: commands) where
  fits inner member := by
    rcases mem_within_all_cons.mp member with here | later
    · exact fits inner here
    · exact rest.fits inner later
  bodies count body member := by
    rcases mem_within_all_cons.mp member with here | later
    · exact bodies count body here
    · exact rest.bodies count body later
  sequence := List.isChain_cons.mpr ⟨next, rest.sequence⟩

theorem filled_of_undeclared (none : command.declared? registry = none) :
    command.Filled registry := by
  intro count member
  rw [none] at member
  cases member

theorem inputs_counted_unknown (text : String) (rest : InputsCounted registry nested commands) :
    InputsCounted registry nested (.unknown text :: commands) := by
  apply inputs_counted_cons _ (by simp [within]) _ rest
  · simp [within, Fits, declared?]
  · exact fun next _ => .inl (filled_of_undeclared rfl)

theorem inputs_counted_loop (count : String) {body : List Command}
    (inside : InputsCounted registry true body) (rest : InputsCounted registry nested commands) :
    InputsCounted registry nested (.loop count body :: commands) := by
  apply inputs_counted_cons _ _ _ rest
  · intro inner member
    rcases List.mem_cons.mp member with rfl | deeper
    · simp [Fits, declared?]
    · exact inside.fits inner deeper
  · intro innerCount innerBody member
    rcases List.mem_cons.mp member with same | deeper
    · cases same
      exact inside.sequence
    · exact inside.bodies innerCount innerBody deeper
  · exact fun next _ => .inl (filled_of_undeclared rfl)

/-- A command that took its inputs off the tokens, in front of what was read behind them. -/
theorem inputs_counted_taken {declares : Nat} {rest after left : List Token}
    (bodiless : ∀ count body, command ≠ .loop count body)
    (declared : command.declared? registry = some declares)
    (taken : takeInputs declares rest = (command.inputs, after))
    (reads : Reads registry nested after commands left)
    (counted : InputsCounted registry nested commands) :
    InputsCounted registry nested (command :: commands) := by
  have alone := within_bodiless bodiless
  have counts := take_inputs_count declares rest
  rw [taken] at counts
  dsimp only at counts
  apply inputs_counted_cons _ _ _ counted
  · intro inner member count given
    rw [alone, List.mem_singleton] at member
    subst member
    rw [declared, Option.mem_some_iff] at given
    omega
  · intro count body member
    rw [alone, List.mem_singleton] at member
    exact absurd member.symm (bodiless count body)
  · intro next member
    rcases counts with full | ⟨_, short⟩
    · left
      intro count given
      rw [declared, Option.mem_some_iff] at given
      exact full.trans given
    · exact .inr (reads_next_of_short reads short next member)

end Counting

theorem reads_inputs_counted {registry : Registry} {nested : Bool} {tokens left : List Token}
    {commands : List Command} (reads : Reads registry nested tokens commands left) :
    InputsCounted registry nested commands := by
  induction reads with
  | done nested => exact inputs_counted_nil
  | close rest => exact inputs_counted_nil
  | stray _ ih => exact inputs_counted_unknown "]" ih
  | group _ _ ih => exact inputs_counted_unknown _ ih
  | loopBlock _ _ _ bodyIh ih => exact inputs_counted_loop _ bodyIh ih
  | loopBare _ _ _ ih => exact inputs_counted_loop _ inputs_counted_nil ih
  | loopAlone _ _ _ ih => exact inputs_counted_unknown _ ih
  | primitive _ _ taken next ih =>
      exact inputs_counted_taken (by simp) rfl taken next ih
  | call _ _ known taken next ih =>
      exact inputs_counted_taken (by simp) (by rw [declared?, known]; rfl) taken next ih
  | unknown _ _ _ _ _ ih => exact inputs_counted_unknown _ ih

theorem calls_of_within {name : String} {inputs : List String} (command : Command) :
    .call name inputs ∈ within command → name ∈ calls command := by
  induction command using command_induction with
  | primitive operation others => simp [within]
  | unknown text => simp [within]
  | call other others =>
      intro member
      rw [within, List.mem_singleton] at member
      cases member
      exact List.mem_singleton_self name
  | loop count body ih =>
      intro member
      rcases List.mem_cons.mp member with same | deeper
      · cases same
      · obtain ⟨inner, listed, inside⟩ := mem_within_all.mp deeper
        exact mem_calls_of.mpr ⟨inner, listed, ih inner listed inside⟩

def Tidy (command : Command) : Prop :=
  ∀ operation inputs, command = .primitive operation inputs → operation.arity = 0 → inputs = []

theorem tidy_of_fits {registry : Registry} {command : Command} (fits : command.Fits registry) :
    command.Tidy := by
  rintro operation inputs rfl none
  have bound := fits operation.arity (by simp [declared?])
  rw [none] at bound
  exact List.eq_nil_of_length_eq_zero (Nat.le_zero.mp bound)

theorem read_plain_bodiless (registry : Registry) (line first : String) (rest : List String)
    (count : String) (body : List Command) :
    readPlain registry line first rest ≠ .loop count body := by
  unfold readPlain
  dsimp only
  split
  · simp
  · split <;> simp

theorem read_plain_tidy (registry : Registry) (line first : String) (rest : List String) :
    ∀ command ∈ within (readPlain registry line first rest), command.Tidy := by
  rw [within_bodiless (read_plain_bodiless registry line first rest)]
  intro command member operation inputs same none
  rw [List.mem_singleton.mp member] at same
  unfold readPlain at same
  dsimp only at same
  split at same
  · cases same
    rw [keptInputs, if_pos none]
  · split at same <;> cases same

theorem read_word_tidy (registry : Registry) (word : String) :
    ∀ command ∈ within (readWord registry word), command.Tidy := by
  unfold readWord
  split
  · simp [within, Tidy]
  · exact read_plain_tidy registry word word []

theorem read_by_word_tidy (registry : Registry) (line : String) (rest : List String) :
    ∀ command ∈ within (readByWord registry line rest), command.Tidy := by
  cases rest with
  | nil => simp [readByWord, within, Tidy]
  | cons count block =>
      intro command member
      rcases List.mem_cons.mp member with rfl | deeper
      · simp [Tidy]
      · obtain ⟨outer, listed, inside⟩ := mem_within_all.mp deeper
        obtain ⟨word, _, rfl⟩ := List.mem_map.mp listed
        exact read_word_tidy registry word command inside

theorem read_line_of_loop {registry : Registry} {line first : String} {rest : List String}
    (cut : Text.words line = first :: rest) (opens : Text.lower first = loopWord) :
    readLine registry .command line = readAll registry (Token.scan line) := by
  rw [readLine, cut]
  dsimp only
  rw [if_pos opens]

theorem read_line_inputs_counted {registry : Registry} {line first : String} {rest : List String}
    (cut : Text.words line = first :: rest) (opens : Text.lower first = loopWord) :
    InputsCounted registry false (readLine registry .command line) := by
  rw [read_line_of_loop cut opens]
  exact reads_inputs_counted (reads_read_commands registry false (Token.scan line))

theorem read_line_tidy (registry : Registry) (policy : SplitPolicy) (line : String) :
    ∀ command ∈ withinAll (readLine registry policy line), command.Tidy := by
  cases cut : Text.words line with
  | nil => simp [readLine, cut, withinAll]
  | cons first rest =>
      by_cases opens : Text.lower first = loopWord
      · cases policy with
        | command =>
            have counted : InputsCounted registry false (readLine registry .command line) :=
              read_line_inputs_counted cut opens
            exact fun command member => tidy_of_fits (counted.fits command member)
        | token =>
            rw [readLine, cut]
            dsimp only
            rw [if_pos opens]
            simpa [withinAll] using read_by_word_tidy registry line rest
      · rw [readLine, cut]
        dsimp only
        rw [if_neg opens]
        simpa [withinAll] using read_plain_tidy registry line first rest

structure ArityKept (registry : Registry) (commands : List Command) : Prop where
  at_most : ∀ command ∈ withinAll commands, command.Fits registry
  /-- In a body only the last command may lack inputs. -/
  inside : ∀ count body, .loop count body ∈ withinAll commands →
    ∀ earlier command next later, body = earlier ++ command :: next :: later →
      command.Filled registry
  /-- Outside every body a command may also lack inputs in front of a stray bracket. -/
  outside : ∀ earlier command next later, commands = earlier ++ command :: next :: later →
    command.Filled registry ∨ next = .unknown "]"

theorem arity_kept_of_counted {registry : Registry} {commands : List Command}
    (counted : InputsCounted registry false commands) : ArityKept registry commands where
  at_most := counted.fits
  inside count body member earlier command next later split := by
    have chain := counted.bodies count body member
    rw [split] at chain
    rcases (List.isChain_append_cons_cons.mp chain).2.1 with filled | ⟨outer, _⟩
    · exact filled
    · cases outer
  outside earlier command next later split := by
    have chain := counted.sequence
    rw [split] at chain
    exact (List.isChain_append_cons_cons.mp chain).2.1.imp_right And.right

/-- The inputs of every command that a line gives: an operation without inputs has none, a
call is of a known procedure, and in a loop line that is read command by command no command
has too many inputs and only those at the end of a block have too few. -/
theorem read_line_arity_kept (registry : Registry) (policy : SplitPolicy) (line : String) :
    (∀ operation inputs,
      .primitive operation inputs ∈ withinAll (readLine registry policy line) →
        operation.arity = 0 → inputs = []) ∧
    (∀ name inputs, .call name inputs ∈ withinAll (readLine registry policy line) →
      registry.contains name = true) ∧
    (policy = .command → ∀ first rest, Text.words line = first :: rest →
      Text.lower first = loopWord → ArityKept registry (readLine registry policy line)) := by
  refine ⟨?_, ?_, ?_⟩
  · intro operation inputs member
    exact read_line_tidy registry policy line _ member operation inputs rfl
  · intro name inputs member
    obtain ⟨outer, listed, inside⟩ := mem_within_all.mp member
    have called := mem_calls_of.mpr ⟨outer, listed, calls_of_within outer inside⟩
    exact (read_line_calls registry policy line name called).2
  · rintro rfl first rest cut opens
    exact arity_kept_of_counted (read_line_inputs_counted cut opens)

/-- A group as an input, an operation cut short by the end of its block, another one in
front of a stray bracket, and a call at the end of the line. -/
theorem read_line_arity_kept_short :
    Command.lineStatements ⟨[⟨"tri", ["a", "b"], []⟩]⟩ .command 0
        "repeat 2 [tri 5 [x y] fd] rt ] pu tri 1" =
      [⟨0, "for _ in range(int(2)):"⟩,
        ⟨1, "tri(5, [x y])"⟩,
        ⟨1, "turtle.forward()"⟩,
        ⟨0, "turtle.right()"⟩,
        ⟨0, "# Unknown: ]"⟩,
        ⟨0, "turtle.penup()"⟩,
        ⟨0, "tri(1)"⟩] ∧
      ArityKept ⟨[⟨"tri", ["a", "b"], []⟩]⟩
        (readLine ⟨[⟨"tri", ["a", "b"], []⟩]⟩ .command "repeat 2 [tri 5 [x y] fd] rt ] pu tri 1") :=
  ⟨by decide +kernel,
    (read_line_arity_kept ⟨[⟨"tri", ["a", "b"], []⟩]⟩ .command
      "repeat 2 [tri 5 [x y] fd] rt ] pu tri 1").2.2 rfl "repeat"
      ["2", "[tri", "5", "[x", "y]", "fd]", "rt", "]", "pu", "tri", "1"]
      (by decide +kernel) (by decide +kernel)⟩

end TurtleLang.Command
