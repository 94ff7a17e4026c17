import Mathlib.Data.List.Nodup
import TurtleLang.Proofs.Atomicity
import TurtleLang.Proofs.DocumentMembers

/-!
Which documents are accepted. For every object of the grammar it is said, without regard to how
it is read, whether its members are acceptable and what settings they hold; loading the document
succeeds exactly on the acceptable ones and gives these settings. Blanks, escapes and the order
of the members make no difference.
-/
namespace TurtleLang

open Document

set_option autoImplicit false

structure Acceptable (members : List (List Nat × Value)) : Prop where
  known : ∀ member ∈ members, member.1 = units "indent" ∨ member.1 = units "split"
  distinct : (members.map Prod.fst).Nodup
  indent : ∀ value, (units "indent", value) ∈ members →
    ∃ count, value.Counts count ∧ 1 ≤ count ∧ count ≤ 16
  split : ∀ value, (units "split", value) ∈ members → ∃ policy, value.Names policy

/-- The settings are those the members give, with the default for one that is absent. -/
structure Holds (members : List (List Nat × Value)) (options : Options) : Prop where
  indent : ∀ value, (units "indent", value) ∈ members → value.Counts options.indent
  split : ∀ value, (units "split", value) ∈ members → value.Names options.split
  defaultIndent : units "indent" ∉ members.map Prod.fst → options.indent = 4
  defaultSplit : units "split" ∉ members.map Prod.fst → options.split = .command

section Settings

variable {Setting : Type} {key : List Nat} {Gives : Value → Setting → Prop}
  {members : List (List Nat × Value)} {after : Option Setting}

theorem fills_some_iff {given : Setting} :
    Fills key Gives (some given) members after ↔
      key ∉ members.map Prod.fst ∧ after = some given := by
  induction members with
  | nil => simp [Fills]
  | cons member members ih =>
      obtain ⟨name, value⟩ := member
      rw [Fills, List.map_cons, List.mem_cons, not_or, and_assoc, ← ih]
      split
      · next same => simp [same]
      · next other => simp [Ne.symm other]

/-- A setting is given by at most one member, and is absent when no member has its key. -/
theorem fills_none_iff :
    Fills key Gives none members after ↔
      (members.map Prod.fst).count key ≤ 1 ∧
      (∀ value, (key, value) ∈ members → ∃ given, after = some given ∧ Gives value given) ∧
      (key ∉ members.map Prod.fst → after = none) := by
  induction members with
  | nil => simp [Fills]
  | cons member members ih =>
      obtain ⟨name, value⟩ := member
      rw [Fills]
      split
      · next same =>
          subst same
          simp only [fills_some_iff, List.map_cons, List.count_cons_self]
          constructor
          · rintro ⟨_, given, gives, absent, rfl⟩
            have none := List.count_eq_zero.mpr absent
            refine ⟨by omega, ?_, by simp⟩
            intro other member
            rcases List.mem_cons.mp member with same | later
            · cases same
              exact ⟨given, rfl, gives⟩
            · exact absurd (List.mem_map_of_mem (f := Prod.fst) later) absent
          · rintro ⟨once, given, _⟩
            obtain ⟨setting, present, gives⟩ := given value (by simp)
            exact ⟨trivial, setting, gives, List.count_eq_zero.mp (by omega), present⟩
      · next other =>
          rw [ih, List.map_cons, List.count_cons_of_ne other]
          simp [Ne.symm other]

theorem nodup_of_known (known : ∀ member ∈ members,
    member.1 = units "indent" ∨ member.1 = units "split")
    (indentOnce : (members.map Prod.fst).count (units "indent") ≤ 1)
    (splitOnce : (members.map Prod.fst).count (units "split") ≤ 1) :
    (members.map Prod.fst).Nodup := by
  rw [List.nodup_iff_count_le_one]
  intro name
  by_cases present : name ∈ members.map Prod.fst
  · obtain ⟨member, inside, rfl⟩ := List.mem_map.mp present
    rcases known member inside with same | same
    · rwa [same]
    · rwa [same]
  · rw [List.count_eq_zero.mpr present]
    exact Nat.zero_le 1

theorem fills_of_gives {given : Setting} (distinct : (members.map Prod.fst).Nodup)
    (gives : ∀ value, (key, value) ∈ members → Gives value given) :
    Fills key Gives none members (if key ∈ members.map Prod.fst then some given else none) := by
  refine fills_none_iff.mpr ⟨List.nodup_iff_count_le_one.mp distinct key, ?_, ?_⟩
  · intro value member
    exact ⟨given, if_pos (List.mem_map_of_mem member), gives value member⟩
  · intro absent
    exact if_neg absent

theorem exists_gives (distinct : (members.map Prod.fst).Nodup)
    (readable : ∀ value, (key, value) ∈ members → ∃ given, Gives value given)
    (absent : Setting) :
    ∃ given, (∀ value, (key, value) ∈ members → Gives value given) ∧
      (key ∉ members.map Prod.fst → given = absent) := by
  by_cases present : key ∈ members.map Prod.fst
  · obtain ⟨⟨_, value⟩, inside, rfl⟩ := List.mem_map.mp present
    obtain ⟨given, gives⟩ := readable value inside
    refine ⟨given, ?_, fun missing => absurd present missing⟩
    intro other member
    cases List.inj_on_of_nodup_map distinct member inside rfl
    exact gives
  · refine ⟨absent, ?_, fun _ => rfl⟩
    intro value member
    exact absurd (List.mem_map_of_mem member) present

end Settings

theorem load_eq_ok {text : String} {options : Options} :
    Options.load text = .ok options ↔
      ∃ given, readDocument text.toList = .ok given ∧ given.options = options ∧
        1 ≤ options.indent ∧ options.indent ≤ 16 := by
  unfold Options.load
  cases readDocument text.toList with
  | error fault => simp
  | ok given =>
      have range := check_ok_iff given.options
      dsimp only
      cases checked : given.options.check with
      | error fault =>
          rw [checked] at range
          refine iff_of_false (by simp) ?_
          rintro ⟨_, read, rfl, inRange⟩
          cases read
          cases range.mpr inRange
      | ok _ =>
          have inRange := range.mp checked
          constructor
          · intro loaded
            cases loaded
            exact ⟨given, rfl, rfl, inRange⟩
          · rintro ⟨_, read, rfl, _⟩
            cases read
            rfl

section Objects

variable {text : String} {members : List (List Nat × Value)} {options : Options}

theorem acceptable_of_fitting {given : Given} (fitting : Fitting {} members given)
    (range : 1 ≤ given.options.indent ∧ given.options.indent ≤ 16) :
    Acceptable members ∧ Holds members given.options := by
  obtain ⟨known, indent, split⟩ := fitting
  obtain ⟨indentOnce, indentGiven, indentAbsent⟩ := fills_none_iff.mp indent
  obtain ⟨splitOnce, splitGiven, splitAbsent⟩ := fills_none_iff.mp split
  have counts : ∀ value, (units "indent", value) ∈ members →
      value.Counts given.options.indent := by
    intro value member
    obtain ⟨count, present, counts, _⟩ := indentGiven value member
    rw [Given.options, present]
    exact counts
  have names : ∀ value, (units "split", value) ∈ members → value.Names given.options.split := by
    intro value member
    obtain ⟨policy, present, names⟩ := splitGiven value member
    rw [Given.options, present]
    exact names
  refine ⟨⟨known, nodup_of_known known indentOnce splitOnce, ?_, ?_⟩,
    ⟨counts, names, ?_, ?_⟩⟩
  · intro value member
    exact ⟨_, counts value member, range⟩
  · intro value member
    exact ⟨_, names value member⟩
  · intro absent
    rw [Given.options, indentAbsent absent]
    rfl
  · intro absent
    rw [Given.options, splitAbsent absent]
    rfl

theorem exists_holds (acceptable : Acceptable members) : ∃ options, Holds members options := by
  have readable : ∀ value, (units "indent", value) ∈ members → ∃ count, value.Counts count := by
    intro value member
    obtain ⟨count, counts, _⟩ := acceptable.indent value member
    exact ⟨count, counts⟩
  obtain ⟨indent, counts, indentDefault⟩ := exists_gives acceptable.distinct readable 4
  obtain ⟨split, names, splitDefault⟩ :=
    exists_gives acceptable.distinct acceptable.split SplitPolicy.command
  exact ⟨⟨indent, split⟩, counts, names, indentDefault, splitDefault⟩

theorem counts_unique {value : Value} {first second : Nat} (one : value.Counts first)
    (other : value.Counts second) : first = second := by
  obtain ⟨numeral, rfl, _, _, _, counted⟩ := one
  obtain ⟨_, same, _, _, _, again⟩ := other
  cases same
  exact counted.symm.trans again

theorem range_of_holds (acceptable : Acceptable members) (holds : Holds members options) :
    1 ≤ options.indent ∧ options.indent ≤ 16 := by
  by_cases present : units "indent" ∈ members.map Prod.fst
  · obtain ⟨⟨_, value⟩, inside, same⟩ := List.mem_map.mp present
    cases same
    obtain ⟨count, counts, range⟩ := acceptable.indent value inside
    rwa [counts_unique (holds.indent value inside) counts]
  · rw [holds.defaultIndent present]
    decide

theorem fitting_of_acceptable (acceptable : Acceptable members) (holds : Holds members options) :
    ∃ given, Fitting {} members given ∧ given.options = options := by
  have range := range_of_holds acceptable holds
  have gives : ∀ value, (units "indent", value) ∈ members → GivesIndent value options.indent := by
    intro value member
    exact ⟨holds.indent value member, Nat.le_trans range.2 (by decide)⟩
  refine ⟨⟨if units "indent" ∈ members.map Prod.fst then some options.indent else none,
    if units "split" ∈ members.map Prod.fst then some options.split else none⟩,
    ⟨acceptable.known, fills_of_gives acceptable.distinct gives,
      fills_of_gives acceptable.distinct holds.split⟩, ?_⟩
  obtain ⟨indent, split⟩ := options
  unfold Given.options
  congr 1
  · dsimp only
    split
    · rfl
    · next absent => exact (holds.defaultIndent absent).symm
  · dsimp only
    split
    · rfl
    · next absent => exact (holds.defaultSplit absent).symm

/-- An object is loaded exactly when its members are acceptable and the settings are theirs. -/
theorem load_object (object : IsObject text members) :
    Options.load text = .ok options ↔ Acceptable members ∧ Holds members options := by
  simp only [load_eq_ok, read_document_object object]
  constructor
  · rintro ⟨given, fitting, rfl, range⟩
    exact acceptable_of_fitting fitting range
  · rintro ⟨acceptable, holds⟩
    obtain ⟨given, fitting, same⟩ := fitting_of_acceptable acceptable holds
    exact ⟨given, fitting, same, range_of_holds acceptable holds⟩

theorem acceptable_perm {others : List (List Nat × Value)} (reordered : members.Perm others)
    (acceptable : Acceptable members) : Acceptable others where
  known member inside := acceptable.known member (reordered.mem_iff.mpr inside)
  distinct := (reordered.map Prod.fst).nodup_iff.mp acceptable.distinct
  indent value inside := acceptable.indent value (reordered.mem_iff.mpr inside)
  split value inside := acceptable.split value (reordered.mem_iff.mpr inside)

theorem holds_perm {others : List (List Nat × Value)} (reordered : members.Perm others)
    (holds : Holds members options) : Holds others options where
  indent value inside := holds.indent value (reordered.mem_iff.mpr inside)
  split value inside := holds.split value (reordered.mem_iff.mpr inside)
  defaultIndent absent :=
    holds.defaultIndent fun present => absent ((reordered.map Prod.fst).mem_iff.mp present)
  defaultSplit absent :=
    holds.defaultSplit fun present => absent ((reordered.map Prod.fst).mem_iff.mp present)

theorem load_perm {reorderedText : String} {others : List (List Nat × Value)}
    (object : IsObject text members) (otherObject : IsObject reorderedText others)
    (reordered : members.Perm others) (loaded : Options.load text = .ok options) :
    Options.load reorderedText = .ok options := by
  obtain ⟨acceptable, holds⟩ := (load_object object).mp loaded
  exact (load_object otherObject).mpr
    ⟨acceptable_perm reordered acceptable, holds_perm reordered holds⟩

end Objects

def spreadText : String :=
  "\x7b \"split\" : \x7b\"token\":null\x7d, \"\\u0069ndent\":2 \x7d"

def spreadMembers : List (List Nat × Value) :=
  [(units "split", .object [(units "token", .null)]),
    (units "indent", .number ⟨false, ['2'], [], []⟩)]

theorem spread_is_object : IsObject spreadText spreadMembers := by
  have two : Numeral.WellFormed ⟨false, ['2'], [], []⟩ :=
    ⟨.inr ⟨by simp [Digits, Char.isDigit], by simp⟩, .inl rfl, .inl rfl⟩
  have zero : ('0', 0) ∈ hexDigits := by decide
  have six : ('6', 6) ∈ hexDigits := by decide
  have nine : ('9', 9) ∈ hexDigits := by decide
  have key : Quoted (units "indent") _ :=
    quoted_cons (.code zero zero six nine) (quoted_plain "ndent" (by simp))
  have indent : Member Written (units "indent", .number ⟨false, ['2'], [], []⟩) _ :=
    .intro gap_space key gap_none (.intro gap_none (.number two))
  have token : Member Written (units "token", .null) _ :=
    .intro gap_none (quoted_plain "token" (by simp)) gap_none (.intro gap_none .null)
  have policy : Written (.object [(units "token", .null)]) _ :=
    .object (.filled token (.close gap_none))
  have split : Member Written (units "split", .object [(units "token", .null)]) _ :=
    .intro gap_space (quoted_plain "split" (by simp)) gap_space (.intro gap_space policy)
  exact ⟨[], _, [], gap_none, .object (.filled split (.more gap_none indent (.close gap_space))),
    gap_none, by decide⟩

theorem spread_acceptable : Acceptable spreadMembers where
  known := by decide
  distinct := by decide
  indent := by
    intro value inside
    have only : value = .number ⟨false, ['2'], [], []⟩ := by
      simpa [spreadMembers, show units "indent" ≠ units "split" by decide] using inside
    exact ⟨2, ⟨_, only, rfl, rfl, rfl, rfl⟩, by decide, by decide⟩
  split := by
    intro value inside
    have only : value = .object [(units "token", .null)] := by
      simpa [spreadMembers, show units "split" ≠ units "indent" by decide] using inside
    exact ⟨.token, .inr only⟩

/-- A document that is an object is accepted exactly when its members are acceptable, and gives
the settings they hold, in whatever order they stand. Settings loaded from any text are in
range. -/
theorem load_exact :
    (∀ text members, IsObject text members →
      ((∃ options, Options.load text = .ok options) ↔ Acceptable members) ∧
      ∀ options, Options.load text = .ok options → Holds members options) ∧
    (∀ text members reorderedText others, IsObject text members →
      IsObject reorderedText others → members.Perm others →
      ∀ options, Options.load text = .ok options ↔ Options.load reorderedText = .ok options) ∧
    ∀ text options, Options.load text = .ok options →
      1 ≤ options.indent ∧ options.indent ≤ 16 := by
  refine ⟨?_, ?_, ?_⟩
  · intro text members object
    refine ⟨⟨?_, ?_⟩, ?_⟩
    · rintro ⟨options, loaded⟩
      exact ((load_object object).mp loaded).1
    · intro acceptable
      obtain ⟨options, holds⟩ := exists_holds acceptable
      exact ⟨options, (load_object object).mpr ⟨acceptable, holds⟩⟩
    · intro options loaded
      exact ((load_object object).mp loaded).2
  · intro text members reorderedText others object otherObject reordered options
    exact ⟨load_perm object otherObject reordered, load_perm otherObject object reordered.symm⟩
  · intro text options loaded
    obtain ⟨_, _, _, range⟩ := load_eq_ok.mp loaded
    exact range

theorem load_exact_spread :
    IsObject spreadText spreadMembers ∧ Acceptable spreadMembers ∧
      Options.load spreadText = .ok ⟨2, .token⟩ := by
  obtain ⟨accepted, held⟩ := load_exact.1 spreadText spreadMembers spread_is_object
  obtain ⟨⟨indent, split⟩, loaded⟩ := accepted.mpr spread_acceptable
  have holds := held _ loaded
  have two : indent = 2 := by
    have counts := holds.indent (.number ⟨false, ['2'], [], []⟩) (by simp [spreadMembers])
    exact counts_unique counts ⟨_, rfl, rfl, rfl, rfl, rfl⟩
  have token : split = .token := by
    have named := holds.split (.object [(units "token", .null)]) (by simp [spreadMembers])
    cases split with
    | command =>
        have different : units "token" ≠ units "command" := by decide
        simp [Value.Names, SplitPolicy.word, different] at named
    | token => rfl
  rw [two, token] at loaded
  exact ⟨spread_is_object, spread_acceptable, loaded⟩

end TurtleLang
