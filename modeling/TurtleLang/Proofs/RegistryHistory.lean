import Mathlib.Data.Finset.Card
import TurtleLang.Journal
import TurtleLang.Proofs.DefinitionOrder

/-!
A registry over its whole history. Whatever was defined, in whatever order and spelling, a
name is looked up as the last definition whose name has the same lower case, with the
parameters and the body of that one definition. There are as many entries as there are lower
cases of names, and every definition either adds an entry or is warned about. A program
defines its procedures in one such history, so its warnings count the names that repeat an
earlier one.
-/
namespace TurtleLang

set_option autoImplicit false

namespace Registry

def after (history : List Procedure) : Registry :=
  history.foldl define empty

def key (procedure : Procedure) : String :=
  Text.lower procedure.name

theorem after_concat (history : List Procedure) (procedure : Procedure) :
    after (history ++ [procedure]) = (after history).define procedure := by
  rw [after, List.foldl_append]
  rfl

theorem find_place (procedure : Procedure) (known : List Procedure) (name : String) :
    (place procedure known).find? (fun other => other.name == name) =
      if procedure.name = name then some procedure
      else known.find? fun other => other.name == name := by
  induction known with
  | nil =>
      rw [place, List.find?_singleton]
      simp only [beq_iff_eq, List.find?_nil]
  | cons first known ih =>
      rw [place]
      by_cases same : first.name = procedure.name
      · rw [if_pos same]
        by_cases found : procedure.name = name
        · rw [List.find?_cons_of_pos (by simpa using found), if_pos found]
        · have passed : ¬first.name = name := by rwa [same]
          rw [List.find?_cons_of_neg (by simpa using found), if_neg found,
            List.find?_cons_of_neg (by simpa using passed)]
      · rw [if_neg same]
        by_cases found : first.name = name
        · have other : procedure.name ≠ name := fun named => same (found.trans named.symm)
          rw [List.find?_cons_of_pos (by simpa using found), if_neg other,
            List.find?_cons_of_pos (by simpa using found)]
        · rw [List.find?_cons_of_neg (by simpa using found), ih,
            List.find?_cons_of_neg (by simpa using found)]

/-- Defining replaces what its own name finds, and nothing that another name finds. -/
theorem lookup_define (registry : Registry) (procedure : Procedure) (name : String) :
    (registry.define procedure).lookup name =
      if key procedure = Text.lower name then some (entry procedure)
      else registry.lookup name :=
  find_place (entry procedure) registry.procedures (Text.lower name)

theorem lookup_after (history : List Procedure) (name : String) :
    (after history).lookup name =
      (history.reverse.find? fun procedure => key procedure == Text.lower name).map entry := by
  induction history using List.reverseRecOn with
  | nil => rfl
  | append_singleton history procedure ih =>
      rw [after_concat, lookup_define, ih, List.reverse_append, List.reverse_singleton,
        List.singleton_append]
      by_cases same : key procedure = Text.lower name
      · rw [if_pos same, List.find?_cons_of_pos (by simpa using same), Option.map_some]
      · rw [if_neg same, List.find?_cons_of_neg (by simpa using same)]

theorem length_place (procedure : Procedure) (known : List Procedure) :
    (place procedure known).length +
        (if known.any fun other => other.name == procedure.name then 1 else 0) =
      known.length + 1 := by
  induction known with
  | nil => rfl
  | cons first known ih =>
      rw [place]
      by_cases same : first.name = procedure.name
      · simp [same]
      · rw [if_neg same, List.any_cons, List.length_cons, List.length_cons]
        have other : (first.name == procedure.name) = false := by simpa using same
        rw [other, Bool.false_or]
        omega

theorem contains_after (history : List Procedure) (name : String) :
    (after history).contains name = true ↔
      ∃ procedure ∈ history, key procedure = Text.lower name := by
  rw [contains, lookup_after, Option.isSome_map, List.find?_isSome]
  simp only [List.mem_reverse, beq_iff_eq]

/-- What a name finds is the last definition with its lower case, parameters and body alike. -/
theorem lookup_after_eq_some (history : List Procedure) (name : String) (stored : Procedure) :
    (after history).lookup name = some stored ↔
      ∃ before last later, history = before ++ last :: later ∧
        key last = Text.lower name ∧ (∀ other ∈ later, key other ≠ Text.lower name) ∧
        stored = ⟨Text.lower name, last.parameters, last.body⟩ := by
  rw [lookup_after, Option.map_eq_some_iff]
  constructor
  · rintro ⟨last, found, rfl⟩
    obtain ⟨same, later, before, split, passed⟩ := List.find?_eq_some_iff_append.mp found
    have named : key last = Text.lower name := by simpa using same
    refine ⟨before.reverse, last, later.reverse, ?_, named, ?_, by rw [← named]; rfl⟩
    · rw [List.reverse_eq_iff.mp split]
      simp
    · intro other member
      simpa using passed other (List.mem_reverse.mp member)
  · rintro ⟨before, last, later, rfl, named, passed, rfl⟩
    refine ⟨last, ?_, by rw [← named]; rfl⟩
    rw [List.find?_eq_some_iff_append]
    refine ⟨by simpa using named, later.reverse, before.reverse, by simp, ?_⟩
    intro other member
    simpa using passed other (List.mem_reverse.mp member)

theorem lookup_after_eq_none (history : List Procedure) (name : String) :
    (after history).lookup name = none ↔
      ∀ procedure ∈ history, key procedure ≠ Text.lower name := by
  rw [lookup_after, Option.map_eq_none_iff, List.find?_eq_none]
  simp only [List.mem_reverse, beq_iff_eq, ne_eq]

end Registry

namespace Notice

def isRedefinition : Notice → Bool
  | .redefined _ => true
  | _ => false

end Notice

namespace Journal

/-- The notices about procedures that are defined in order, with the given ones known. -/
def ofHistory (registry : Registry) : List Procedure → List Notice
  | [] => []
  | procedure :: rest =>
      ofDefining registry procedure ++ ofHistory (registry.define procedure) rest

def redefinitions (notices : List Notice) : Nat :=
  notices.countP Notice.isRedefinition

theorem redefinitions_append (front back : List Notice) :
    redefinitions (front ++ back) = redefinitions front + redefinitions back :=
  List.countP_append

theorem redefinitions_of_defining (registry : Registry) (procedure : Procedure) :
    redefinitions (ofDefining registry procedure) =
      if registry.contains procedure.name then 1 else 0 := by
  unfold ofDefining
  split <;> rfl

theorem size_define (registry : Registry) (procedure : Procedure) :
    (registry.define procedure).size + redefinitions (ofDefining registry procedure) =
      registry.size + 1 := by
  rw [redefinitions_of_defining, Registry.contains_eq_any]
  exact Registry.length_place (Registry.entry procedure) registry.procedures

/-- Any number of definitions: as many of them as were not warned about added an entry. -/
theorem size_foldl_define (registry : Registry) (history : List Procedure) :
    (history.foldl Registry.define registry).size + redefinitions (ofHistory registry history) =
      registry.size + history.length := by
  induction history generalizing registry with
  | nil => rfl
  | cons procedure history ih =>
      have step := size_define registry procedure
      have run := ih (registry.define procedure)
      rw [List.foldl_cons, ofHistory, redefinitions_append, List.length_cons]
      omega

end Journal

namespace Registry

theorem size_after (history : List Procedure) :
    (after history).size = (history.map key).toFinset.card := by
  induction history using List.reverseRecOn with
  | nil => rfl
  | append_singleton history procedure ih =>
      have step := Journal.size_define (after history) procedure
      have known := contains_after history procedure.name
      have keys : ((history ++ [procedure]).map key).toFinset =
          insert (key procedure) (history.map key).toFinset := by
        rw [List.map_append, List.map_singleton, List.toFinset_append, Finset.union_comm]
        rfl
      rw [Journal.redefinitions_of_defining] at step
      rw [after_concat, keys]
      by_cases again : (after history).contains procedure.name = true
      · obtain ⟨earlier, member, same⟩ := known.mp again
        have listed : key procedure ∈ (history.map key).toFinset :=
          List.mem_toFinset.mpr (List.mem_map.mpr ⟨earlier, member, same⟩)
        rw [if_pos again] at step
        rw [Finset.insert_eq_of_mem listed]
        omega
      · have fresh : key procedure ∉ (history.map key).toFinset := by
          rw [List.mem_toFinset, List.mem_map]
          rintro ⟨earlier, member, same⟩
          exact again (known.mpr ⟨earlier, member, same⟩)
        rw [if_neg again] at step
        rw [Finset.card_insert_of_notMem fresh]
        omega

/-- A registry is what its history says, for every name. -/
structure Recorded (history : List Procedure) : Prop where
  /-- A name finds the last definition with the same lower case, stored under it. -/
  last_wins : ∀ name stored, (after history).lookup name = some stored ↔
    ∃ before last later, history = before ++ last :: later ∧
      Text.lower last.name = Text.lower name ∧
      (∀ other ∈ later, Text.lower other.name ≠ Text.lower name) ∧
      stored = ⟨Text.lower name, last.parameters, last.body⟩
  /-- A name that was not defined in any spelling finds nothing. -/
  undefined : ∀ name, (after history).lookup name = none ↔
    ∀ procedure ∈ history, Text.lower procedure.name ≠ Text.lower name
  known : ∀ name, (after history).contains name = true ↔
    ∃ procedure ∈ history, Text.lower procedure.name = Text.lower name
  /-- There is one entry for each lower case of a name. -/
  size : (after history).size =
    (history.map fun procedure => Text.lower procedure.name).toFinset.card
  /-- Every definition is a new entry or was warned about. -/
  warned : Journal.redefinitions (Journal.ofHistory empty history) + (after history).size =
    history.length

theorem after_recorded (history : List Procedure) : Recorded history where
  last_wins := lookup_after_eq_some history
  undefined := lookup_after_eq_none history
  known := contains_after history
  size := size_after history
  warned := by
    have run := Journal.size_foldl_define empty history
    have start : empty.size = 0 := rfl
    rw [after]
    omega

end Registry

def definitionsOf (items : List Item) : List Procedure :=
  items.filterMap fun
    | .command _ => none
    | .definition _ procedure => some procedure

theorem defined_names_of_definitions (items : List Item) :
    items.filterMap Item.definedName? = (definitionsOf items).map Registry.key := by
  rw [definitionsOf, List.map_filterMap]
  congr 1
  funext item
  cases item <;> rfl

namespace Journal

theorem redefinitions_of_line (line : String) : redefinitions (ofLine line) = 0 := by
  unfold ofLine
  split
  · rfl
  · split
    · rfl
    · split <;> rfl

theorem redefinitions_of_body (lines : List String) : redefinitions (ofBody lines) = 0 := by
  induction lines with
  | nil => rfl
  | cons line lines ih =>
      rw [ofBody, List.flatMap_cons, redefinitions_append, redefinitions_of_line, Nat.zero_add]
      exact ih

theorem redefinitions_of_items (registry : Registry) (items : List Item) :
    redefinitions (ofItems registry items) =
      redefinitions (ofHistory registry (definitionsOf items)) := by
  induction items generalizing registry with
  | nil => rfl
  | cons item items ih =>
      rw [ofItems, redefinitions_append, ih]
      cases item with
      | command line =>
          have quiet : redefinitions (ofItem registry (.command line)) = 0 :=
            redefinitions_of_line line.text
          rw [quiet, Nat.zero_add]
          rfl
      | definition header procedure =>
          have said : redefinitions (ofItem registry (.definition header procedure)) =
              redefinitions (ofDefining registry procedure) := by
            have quiet := redefinitions_of_body procedure.body
            have parts : ofItem registry (.definition header procedure) =
                [.scanned procedure] ++ ofDefining registry procedure ++
                  [.defined header.number (Registry.entry procedure)] ++
                  ofBody procedure.body := by
              simp [ofItem]
            rw [parts, redefinitions_append, redefinitions_append, redefinitions_append, quiet]
            exact Nat.zero_add _
          have unfolded :
              ofHistory registry (definitionsOf (.definition header procedure :: items)) =
                ofDefining registry procedure ++
                  ofHistory (registry.define procedure) (definitionsOf items) := rfl
          rw [said, unfolded, redefinitions_append]
          rfl

theorem redefinitions_of_source {options : Options} {source : String} {script : Script}
    (compiled : Script.compile options source = .ok script) :
    ∃ history, redefinitions (ofSource options source) =
        redefinitions (ofHistory Registry.empty history) ∧
      script.procedures = history.map Registry.key := by
  obtain ⟨items, found, rfl⟩ := Script.items_of_compile compiled
  refine ⟨definitionsOf items, ?_, defined_names_of_definitions items⟩
  rw [ofSource, found]
  dsimp only
  rw [redefinitions_append, redefinitions_of_items]
  rfl

/-- Every history of definitions is recorded. So in a program that is compiled, the warnings
about definitions count the procedures that repeat an earlier name. -/
theorem definitions_recorded :
    (∀ history, Registry.Recorded history) ∧
      ∀ options source script, Script.compile options source = .ok script →
        redefinitions (ofSource options source) + script.procedures.toFinset.card =
          script.procedures.length := by
  refine ⟨Registry.after_recorded, ?_⟩
  intro options source script compiled
  obtain ⟨history, warnings, names⟩ := redefinitions_of_source compiled
  have recorded := Registry.after_recorded history
  have size := recorded.size
  have warned := recorded.warned
  rw [warnings, names, List.length_map, ← warned, size]
  rfl

/-- A name defined in two spellings, and a third spelling that is looked up. -/
theorem definitions_recorded_spin :
    (Registry.after [⟨"Spin", [], ["fd 1"]⟩, ⟨"go", [], []⟩, ⟨"sPIN", ["n"], []⟩]).lookup "SPIN" =
        some ⟨"spin", ["n"], []⟩ ∧
      redefinitions (ofSource {} "to Spin\nfd 1\nend\nto go\nend\nto SPIN :n\nend") +
        ["spin", "go", "spin"].toFinset.card = 3 :=
  ⟨((definitions_recorded.1 _).last_wins "SPIN" _).mpr
      ⟨[⟨"Spin", [], ["fd 1"]⟩, ⟨"go", [], []⟩], ⟨"sPIN", ["n"], []⟩, [], rfl,
        by decide +kernel, by simp, by decide +kernel⟩,
    definitions_recorded.2 {} "to Spin\nfd 1\nend\nto go\nend\nto SPIN :n\nend"
      ⟨["import turtle", "", "def spin():", "    turtle.forward(1)", "", "def go():", "    pass",
        "", "def spin(n):", "    pass", "turtle.done()"], ["spin", "go", "spin"]⟩
      (by decide +kernel)⟩

end Journal

end TurtleLang
