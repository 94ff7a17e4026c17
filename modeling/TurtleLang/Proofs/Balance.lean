import TurtleLang.Token.Group

/-!
Balanced token lists: every closing bracket has its opening bracket before it
and every opening bracket its closing bracket behind it. Proofs follow the
grammar `Token.Balanced`; the depth count `Token.closesFrom` decides it. Reading a
group passes over a balanced list and stops at the first closing bracket behind
it, so a group is read without looking at what follows its closing bracket.
-/
namespace TurtleLang.Token

inductive Balanced : List Token → Prop
  | empty : Balanced []
  | word (text : String) {rest : List Token} : Balanced rest → Balanced (.word text :: rest)
  | group {inner rest : List Token} :
      Balanced inner → Balanced rest → Balanced (.opening :: (inner ++ .closing :: rest))

theorem balanced_append {left right : List Token} (leftBalanced : Balanced left)
    (rightBalanced : Balanced right) : Balanced (left ++ right) := by
  induction leftBalanced with
  | empty => exact rightBalanced
  | word text _ ih => exact ih.word text
  | @group inner rest innerBalanced _ _ ih =>
      rw [List.cons_append, List.append_assoc, List.cons_append]
      exact .group innerBalanced ih

theorem balanced_tail_of_word {text : String} {rest : List Token}
    (balanced : Balanced (.word text :: rest)) : Balanced rest := by
  cases balanced with
  | word _ restBalanced => exact restBalanced

theorem balanced_split_of_opening {rest : List Token} (balanced : Balanced (.opening :: rest)) :
    ∃ inner after, rest = inner ++ .closing :: after ∧ Balanced inner ∧ Balanced after := by
  cases balanced with
  | group innerBalanced afterBalanced => exact ⟨_, _, rfl, innerBalanced, afterBalanced⟩

/-- Whether the tokens close exactly the `depth` brackets that are open before
them and their own, and never one that is not open. -/
def closesFrom : Nat → List Token → Bool
  | depth, [] => depth == 0
  | depth, .word _ :: rest => closesFrom depth rest
  | depth, .opening :: rest => closesFrom (depth + 1) rest
  | 0, .closing :: _ => false
  | depth + 1, .closing :: rest => closesFrom depth rest

theorem closes_from_balanced {tokens : List Token} (balanced : Balanced tokens)
    (depth : Nat) (rest : List Token) :
    closesFrom depth (tokens ++ rest) = closesFrom depth rest := by
  induction balanced generalizing depth rest with
  | empty => rfl
  | word text _ ih => exact ih depth rest
  | @group inner after _ _ innerCloses afterCloses =>
      rw [List.cons_append, List.append_assoc, closesFrom, innerCloses, List.cons_append,
        closesFrom, afterCloses]

def Layered : Nat → List Token → Prop
  | 0, tokens => Balanced tokens
  | depth + 1, tokens =>
      ∃ inner rest, Balanced inner ∧ tokens = inner ++ .closing :: rest ∧ Layered depth rest

theorem layered_append {front tokens : List Token} {depth : Nat} (frontBalanced : Balanced front)
    (layered : Layered depth tokens) : Layered depth (front ++ tokens) := by
  cases depth with
  | zero => exact balanced_append frontBalanced layered
  | succ depth =>
      obtain ⟨inner, rest, innerBalanced, rfl, restLayered⟩ := layered
      exact ⟨front ++ inner, rest, balanced_append frontBalanced innerBalanced,
        (List.append_assoc front inner (.closing :: rest)).symm, restLayered⟩

theorem layered_of_closes_from (depth : Nat) (tokens : List Token)
    (closes : closesFrom depth tokens = true) : Layered depth tokens := by
  fun_induction closesFrom depth tokens with
  | case1 depth =>
      have none : depth = 0 := by simpa using closes
      subst none
      exact .empty
  | case2 depth text rest ih => exact layered_append (Balanced.empty.word text) (ih closes)
  | case3 depth rest ih =>
      obtain ⟨inner, after, innerBalanced, rfl, afterLayered⟩ := ih closes
      have group : Balanced (.opening :: (inner ++ [.closing])) := .group innerBalanced .empty
      have whole := layered_append group afterLayered
      rwa [List.cons_append, List.append_assoc] at whole
  | case4 rest => cases closes
  | case5 depth rest ih => exact ⟨[], rest, .empty, rfl, ih closes⟩

theorem balanced_iff_closes_from (tokens : List Token) :
    Balanced tokens ↔ closesFrom 0 tokens = true := by
  constructor
  · intro balanced
    have passed := closes_from_balanced balanced 0 []
    rwa [List.append_nil] at passed
  · exact layered_of_closes_from 0 tokens

instance (tokens : List Token) : Decidable (Balanced tokens) :=
  decidable_of_iff _ (balanced_iff_closes_from tokens).symm

/-- A group that is being read goes on through a balanced list, at any depth. -/
theorem take_group_balanced_append {tokens : List Token} (balanced : Balanced tokens)
    (depth : Nat) (rest : List Token) :
    takeGroup depth (tokens ++ rest) =
      (tokens ++ (takeGroup depth rest).1, (takeGroup depth rest).2) := by
  induction balanced generalizing depth rest with
  | empty => rfl
  | word text _ ih => simp only [List.cons_append, takeGroup, ih]
  | group _ _ innerTaken afterTaken =>
      simp only [List.cons_append, List.append_assoc, takeGroup, innerTaken, afterTaken]

theorem take_group_of_balanced {inner : List Token} (balanced : Balanced inner)
    (rest : List Token) : takeGroup 0 (inner ++ .closing :: rest) = (inner, rest) := by
  rw [take_group_balanced_append balanced]
  simp only [takeGroup, List.append_nil]

/-- Reading `piece` off `tokens` leaves `rest`. When the tokens run out, the
piece may hold closing brackets that they lack at their end. -/
def Yields (tokens piece rest : List Token) : Prop :=
  tokens = piece ++ rest ∨ rest = [] ∧ ∃ missing, piece = tokens ++ List.replicate missing .closing

theorem yields_nothing (tokens : List Token) : Yields tokens [] tokens := .inl rfl

theorem yields_cons (token : Token) {tokens piece rest : List Token}
    (yields : Yields tokens piece rest) : Yields (token :: tokens) (token :: piece) rest := by
  rcases yields with same | ⟨none, missing, same⟩
  · exact .inl (by rw [same, List.cons_append])
  · exact .inr ⟨none, missing, by rw [same, List.cons_append]⟩

theorem yields_trans {tokens first middle second rest : List Token}
    (before : Yields tokens first middle) (after : Yields middle second rest) :
    Yields tokens (first ++ second) rest := by
  rcases before with same | ⟨rfl, missing, rfl⟩
  · subst same
    rcases after with same | ⟨none, missing, same⟩
    · exact .inl (by rw [same, List.append_assoc])
    · exact .inr ⟨none, missing, by rw [same, List.append_assoc]⟩
  · rcases after with same | ⟨none, further, same⟩
    · obtain ⟨rfl, rfl⟩ := List.append_eq_nil_iff.mp same.symm
      exact .inr ⟨rfl, missing, List.append_nil _⟩
    · refine .inr ⟨none, missing + further, ?_⟩
      rw [same, List.nil_append, List.append_assoc, List.replicate_append_replicate]

theorem take_group_yields (depth : Nat) (tokens : List Token) :
    Yields tokens ((takeGroup depth tokens).1 ++ [.closing]) (takeGroup depth tokens).2 := by
  induction tokens generalizing depth with
  | nil => exact .inr ⟨rfl, depth + 1, List.replicate_succ'.symm⟩
  | cons token rest ih =>
      cases token with
      | word text => exact yields_cons (.word text) (ih depth)
      | opening => exact yields_cons .opening (ih (depth + 1))
      | closing =>
          cases depth with
          | zero => exact .inl rfl
          | succ depth => exact yields_cons .closing (ih depth)

theorem closes_from_missing (depth : Nat) :
    closesFrom depth (List.replicate depth .closing) = true := by
  induction depth with
  | zero => rfl
  | succ depth ih => exact ih

theorem take_group_closes (depth : Nat) (tokens : List Token) :
    closesFrom depth (takeGroup depth tokens).1 = true := by
  induction tokens generalizing depth with
  | nil => exact closes_from_missing depth
  | cons token rest ih =>
      cases token with
      | word text => exact ih depth
      | opening => exact ih (depth + 1)
      | closing =>
          cases depth with
          | zero => rfl
          | succ depth => exact ih depth

/-- What a group holds is balanced, also when the tokens left it open. -/
theorem take_group_balanced (tokens : List Token) : Balanced (takeGroup 0 tokens).1 :=
  (balanced_iff_closes_from _).mpr (take_group_closes 0 tokens)

end TurtleLang.Token
