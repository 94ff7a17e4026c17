import TurtleLang.Proofs.Conservation

/-!
Where a group ends and what its text says. A group that has been opened ends with the
closing bracket that matches: what stands before it is balanced. At most one beginning
of a token list ends in this way, and reading a group takes exactly that beginning, or
all tokens where there is none. Scanned again, the text written for the group gives the
opening bracket and the tokens taken. Only where the tokens ran out does it hold more,
the closing brackets they lack, so the text of a closed group belongs to one row of
tokens and no other.
-/
namespace TurtleLang.Token

set_option autoImplicit false

/-- Tokens whose last one is the closing bracket of a group opened before the first. -/
def EndsGroup (piece : List Token) : Prop :=
  ∃ inner, Balanced inner ∧ piece = inner ++ [.closing]

structure ShortestGroup (tokens piece : List Token) : Prop where
  begins : piece <+: tokens
  ends : EndsGroup piece
  shortest : ∀ other, other <+: tokens → EndsGroup other → piece.length ≤ other.length

def Unclosed (tokens : List Token) : Prop :=
  ∀ piece, piece <+: tokens → ¬EndsGroup piece

/-- The group opened before the tokens needs `missing` closing brackets behind them to be
balanced, no fewer and no more. -/
def Lacks (tokens : List Token) (missing : Nat) : Prop :=
  ∀ count, Balanced (.opening :: (tokens ++ List.replicate count .closing)) ↔ count = missing

/-- How a group was read: which tokens were taken for it, and what its text is scanned as. -/
inductive Mirrors (tokens taken : List Token) (text : String) : Prop
  | closed (group : ShortestGroup tokens taken) (again : scan text = .opening :: taken) :
      Mirrors tokens taken text
  | unclosed (missing : Nat) (unclosed : Unclosed tokens) (all : taken = tokens)
      (lacks : Lacks taken missing)
      (again : scan text = .opening :: (taken ++ List.replicate missing .closing)) :
      Mirrors tokens taken text

theorem balanced_count {tokens : List Token} (balanced : Balanced tokens) :
    tokens.count .opening = tokens.count .closing := by
  induction balanced with
  | empty => rfl
  | word text _ ih => simpa using ih
  | @group inner rest _ _ innerIh restIh =>
      have openings : (Token.opening :: (inner ++ .closing :: rest)).count .opening =
          inner.count .opening + rest.count .opening + 1 := by simp
      have closings : (Token.opening :: (inner ++ .closing :: rest)).count .closing =
          inner.count .closing + rest.count .closing + 1 := by simp [Nat.add_assoc]
      rw [openings, closings, innerIh, restIh]

/-- Brackets are counted, so no second number of closing brackets balances the tokens. -/
theorem lacks_of_balanced {tokens : List Token} {missing : Nat}
    (balanced : Balanced (.opening :: (tokens ++ List.replicate missing .closing))) :
    Lacks tokens missing := by
  intro count
  constructor
  · intro also
    have supplied (number : Nat) :
        (Token.opening :: (tokens ++ List.replicate number .closing)).count .opening =
            tokens.count .opening + 1 ∧
          (Token.opening :: (tokens ++ List.replicate number .closing)).count .closing =
            tokens.count .closing + number := by
      simp [List.count_replicate]
    have counted := balanced_count balanced
    have alsoCounted := balanced_count also
    rw [(supplied missing).1, (supplied missing).2] at counted
    rw [(supplied count).1, (supplied count).2] at alsoCounted
    omega
  · rintro rfl
    exact balanced

theorem take_group_of_ends_group {piece : List Token} (ends : EndsGroup piece)
    (rest : List Token) :
    (takeGroup 0 (piece ++ rest)).1 ++ [.closing] = piece ∧
      (takeGroup 0 (piece ++ rest)).2 = rest := by
  obtain ⟨inner, balanced, rfl⟩ := ends
  have taken := take_group_of_balanced balanced rest
  rw [List.append_assoc, List.singleton_append, taken]
  exact ⟨rfl, rfl⟩

/-- A beginning that ends the group is the one that is taken, so there is only one. -/
theorem eq_taken_of_ends_group {tokens piece : List Token} (begins : piece <+: tokens)
    (ends : EndsGroup piece) : piece = (takeGroup 0 tokens).1 ++ [.closing] := by
  obtain ⟨rest, rfl⟩ := begins
  exact (take_group_of_ends_group ends rest).1.symm

theorem shortest_group_of_ends {tokens piece : List Token} (begins : piece <+: tokens)
    (ends : EndsGroup piece) : ShortestGroup tokens piece := by
  refine ⟨begins, ends, fun other otherBegins otherEnds => ?_⟩
  have same : other = piece :=
    (eq_taken_of_ends_group otherBegins otherEnds).trans (eq_taken_of_ends_group begins ends).symm
  exact Nat.le_of_eq (congrArg List.length same.symm)

theorem ends_group_taken (tokens : List Token) :
    EndsGroup ((takeGroup 0 tokens).1 ++ [.closing]) :=
  ⟨_, take_group_balanced tokens, rfl⟩

theorem take_group_outcome (tokens : List Token) :
    ShortestGroup tokens ((takeGroup 0 tokens).1 ++ [.closing]) ∧
        tokens = (takeGroup 0 tokens).1 ++ [.closing] ++ (takeGroup 0 tokens).2 ∨
      Unclosed tokens ∧ (takeGroup 0 tokens).2 = [] ∧
        ∃ missing, (takeGroup 0 tokens).1 ++ [.closing] =
          tokens ++ List.replicate (missing + 1) .closing := by
  have ends := ends_group_taken tokens
  rcases take_group_yields 0 tokens with split | ⟨none, missing, completed⟩
  · exact .inl ⟨shortest_group_of_ends ⟨_, split.symm⟩ ends, split⟩
  · cases missing with
    | zero =>
        -- the last token is the closing bracket itself: nothing is left, nothing supplied
        have whole : (takeGroup 0 tokens).1 ++ [.closing] = tokens := by
          rw [completed, List.replicate_zero, List.append_nil]
        refine .inl ⟨shortest_group_of_ends ⟨[], ?_⟩ ends, ?_⟩
        · rw [List.append_nil, whole]
        · rw [whole, none, List.append_nil]
    | succ missing =>
        refine .inr ⟨fun piece begins closes => ?_, none, missing, completed⟩
        have same := (eq_taken_of_ends_group begins closes).trans completed
        have longer := congrArg List.length same
        have shorter := begins.length_le
        rw [List.length_append, List.length_replicate] at longer
        omega

theorem scan_taken_text {tokens : List Token} (clean : Clean tokens) :
    scan (groupText (takeGroup 0 tokens).1) =
      .opening :: ((takeGroup 0 tokens).1 ++ [.closing]) :=
  scan_group_text _ (Command.take_group_clean clean).1

/-- Reading a group takes the shortest beginning that ends it, or all tokens where none
does, and the text of the group is scanned as the opening bracket, the tokens taken and,
where they left the group open, exactly the closing brackets they lack. Two closed groups
with one text have the same tokens. -/
theorem take_group_mirrored (tokens : List Token) (clean : Clean tokens) :
    (∃ taken, tokens = taken ++ (takeGroup 0 tokens).2 ∧
      Mirrors tokens taken (groupText (takeGroup 0 tokens).1)) ∧
    ∀ others piece otherPiece, Clean others → ShortestGroup tokens piece →
      ShortestGroup others otherPiece →
      groupText (takeGroup 0 tokens).1 = groupText (takeGroup 0 others).1 →
      piece = otherPiece := by
  have again := scan_taken_text clean
  constructor
  · rcases take_group_outcome tokens with ⟨group, split⟩ | ⟨unclosed, none, missing, completed⟩
    · exact ⟨_, split, .closed group again⟩
    · have balanced : Balanced (.opening :: (tokens ++ List.replicate (missing + 1) .closing)) := by
        rw [← completed]
        exact .group (take_group_balanced tokens) .empty
      rw [completed] at again
      refine ⟨tokens, ?_, .unclosed (missing + 1) unclosed rfl (lacks_of_balanced balanced) again⟩
      rw [none, List.append_nil]
  · intro others piece otherPiece othersClean group otherGroup sameText
    rw [eq_taken_of_ends_group group.begins group.ends,
      eq_taken_of_ends_group otherGroup.begins otherGroup.ends]
    have scanned := congrArg scan sameText
    rw [again, scan_taken_text othersClean] at scanned
    exact (List.cons.inj scanned).2

/-- Inner groups and an end among the tokens; the same group spaced otherwise in front of
other tokens; and tokens that run out inside two groups. -/
theorem take_group_mirrored_nested :
    Mirrors (scan "a [] [b]] c]") (scan "a [] [b]]") "[a [] [b]]" ∧
      scan "a [] [b]]" = scan "a[ ][b ] ]" ∧
      Mirrors (scan "a [] [b") (scan "a [] [b") "[a [] [b]]" := by
  have nested := take_group_mirrored (scan "a [] [b]] c]") (scan_clean _)
  have ranOut := take_group_mirrored (scan "a [] [b") (scan_clean _)
  refine ⟨?_, ?_, ?_⟩
  · obtain ⟨taken, split, mirrors⟩ := nested.1
    have rest : (takeGroup 0 (scan "a [] [b]] c]")).2 = scan "c]" := by decide
    have text : groupText (takeGroup 0 (scan "a [] [b]] c]")).1 = "[a [] [b]]" := by decide
    have same : taken = scan "a [] [b]]" := by
      rw [rest] at split
      exact List.append_cancel_right (split.symm.trans (by decide))
    rwa [same, text] at mirrors
  · have group : ShortestGroup (scan "a [] [b]] c]") (scan "a [] [b]]") :=
      shortest_group_of_ends ⟨scan "c]", by decide⟩ ⟨scan "a [] [b]", by decide, by decide⟩
    have other : ShortestGroup (scan "a[ ][b ] ] fd") (scan "a[ ][b ] ]") :=
      shortest_group_of_ends ⟨scan "fd", by decide⟩ ⟨scan "a[ ][b ]", by decide, by decide⟩
    exact nested.2 (scan "a[ ][b ] ] fd") _ _ (scan_clean _) group other (by decide)
  · obtain ⟨taken, split, mirrors⟩ := ranOut.1
    have rest : (takeGroup 0 (scan "a [] [b")).2 = [] := by decide
    have text : groupText (takeGroup 0 (scan "a [] [b")).1 = "[a [] [b]]" := by decide
    have same : taken = scan "a [] [b" := by
      rw [rest, List.append_nil] at split
      exact split.symm
    rwa [same, text] at mirrors

end TurtleLang.Token
