/-!
Outlines: labelled forests written as rows, one for each label, where a row keeps
how deep its label stands. `Outline.read` builds a forest from rows by comparing
their depths alone. Reading the rows of a forest gives the forest back, and so
does reading them with every depth widened by a common factor. Where every node
that opens a block has an effective label directly inside it, and no other node
has anything inside, the rows show as much: after a row comes a deeper one
exactly when the row opens a block, and then it is one level deeper.
-/
namespace TurtleLang

set_option autoImplicit false

inductive Outline (Label : Type) where
  | node (label : Label) (inside : List (Outline Label))

namespace Outline

variable {Label Other : Type}

def label : Outline Label → Label
  | .node label _ => label

mutual

def rows (depth : Nat) : Outline Label → List (Nat × Label)
  | .node label inside => (depth, label) :: rowsOf (depth + 1) inside

def rowsOf (depth : Nat) : List (Outline Label) → List (Nat × Label)
  | [] => []
  | first :: rest => rows depth first ++ rowsOf depth rest

end

mutual

def map (change : Label → Other) : Outline Label → Outline Other
  | .node label inside => .node (change label) (mapOf change inside)

def mapOf (change : Label → Other) : List (Outline Label) → List (Outline Other)
  | [] => []
  | first :: rest => map change first :: mapOf change rest

end

/-- The forest that rows describe. The rows behind a row that are deeper than it,
up to the first that is not, stand inside it. -/
def read (rows : List (Nat × Label)) : List (Outline Label) :=
  match rows with
  | [] => []
  | (depth, label) :: rest =>
      .node label (read (rest.takeWhile fun row => depth < row.1)) ::
        read (rest.dropWhile fun row => depth < row.1)
termination_by rows.length
decreasing_by
  · exact Nat.lt_succ_of_le (List.takeWhile_sublist _).length_le
  · exact Nat.lt_succ_of_le (List.dropWhile_sublist _).length_le

theorem outline_induction {motive : Outline Label → Prop}
    (node : ∀ label inside, (∀ child ∈ inside, motive child) → motive (.node label inside))
    (outline : Outline Label) : motive outline := by
  apply @Outline.rec Label motive fun forest => ∀ child ∈ forest, motive child
  · exact node
  · intro child none
    cases none
  · intro first rest firstHolds restHolds child member
    rcases List.mem_cons.mp member with rfl | later
    · exact firstHolds
    · exact restHolds child later

theorem rows_of_append (depth : Nat) (left right : List (Outline Label)) :
    rowsOf depth (left ++ right) = rowsOf depth left ++ rowsOf depth right := by
  induction left with
  | nil => rfl
  | cons first rest ih => rw [List.cons_append, rowsOf, rowsOf, ih, List.append_assoc]

theorem mem_rows_of {depth : Nat} {row : Nat × Label} {forest : List (Outline Label)} :
    row ∈ rowsOf depth forest ↔ ∃ child ∈ forest, row ∈ rows depth child := by
  induction forest with
  | nil => simp [rowsOf]
  | cons first rest ih => simp [rowsOf, ih]

theorem label_mem_rows_of (depth : Nat) {child : Outline Label} {forest : List (Outline Label)}
    (member : child ∈ forest) : (depth, child.label) ∈ rowsOf depth forest := by
  apply mem_rows_of.mpr ⟨child, member, _⟩
  cases child
  simp [rows, label]

theorem rows_deep (outline : Outline Label) :
    ∀ depth, ∀ row ∈ rows depth outline, depth ≤ row.1 := by
  induction outline using outline_induction with
  | node label inside ih =>
      intro depth row member
      rw [rows] at member
      rcases List.mem_cons.mp member with rfl | within
      · exact Nat.le_refl depth
      · obtain ⟨child, listed, shown⟩ := mem_rows_of.mp within
        exact Nat.le_of_succ_le (ih child listed (depth + 1) row shown)

theorem rows_of_deep (forest : List (Outline Label)) (depth : Nat) :
    ∀ row ∈ rowsOf depth forest, depth ≤ row.1 := by
  intro row member
  obtain ⟨child, _, shown⟩ := mem_rows_of.mp member
  exact rows_deep child depth row shown

theorem rows_of_head (depth : Nat) (forest : List (Outline Label)) (tail : List (Nat × Label))
    (shallow : ∀ row ∈ tail.head?, row.1 ≤ depth) :
    ∀ row ∈ (rowsOf depth forest ++ tail).head?, row.1 ≤ depth := by
  cases forest with
  | nil => exact shallow
  | cons first rest =>
      cases first
      intro row first
      rw [rowsOf, rows] at first
      cases first
      exact Nat.le_refl depth

/-- Behind a forest that stands deeper, rows that are no deeper end its block. -/
theorem take_while_rows_of {limit depth : Nat} (deeper : limit < depth)
    (forest : List (Outline Label)) (tail : List (Nat × Label))
    (shallow : ∀ row ∈ tail.head?, row.1 ≤ limit) :
    (rowsOf depth forest ++ tail).takeWhile (fun row => limit < row.1) = rowsOf depth forest ∧
      (rowsOf depth forest ++ tail).dropWhile (fun row => limit < row.1) = tail := by
  have within : ∀ row ∈ rowsOf depth forest, decide (limit < row.1) = true := by
    intro row member
    have bound := rows_of_deep forest depth row member
    exact decide_eq_true (by omega)
  rw [List.takeWhile_append_of_pos within, List.dropWhile_append_of_pos within]
  cases tail with
  | nil => simp
  | cons row tail =>
      have outside : ¬limit < row.1 := Nat.not_lt.mpr (shallow row rfl)
      simp [outside]

theorem read_rows_of_each_member {forest : List (Outline Label)}
    (members : ∀ child ∈ forest, ∀ depth tail, (∀ row ∈ tail.head?, row.1 ≤ depth) →
      read (rows depth child ++ tail) = child :: read tail)
    (depth : Nat) (tail : List (Nat × Label)) (shallow : ∀ row ∈ tail.head?, row.1 ≤ depth) :
    read (rowsOf depth forest ++ tail) = forest ++ read tail := by
  induction forest with
  | nil => rfl
  | cons first rest ih =>
      rw [rowsOf, List.append_assoc,
        members first (by simp) depth _ (rows_of_head depth rest tail shallow),
        ih (fun child present => members child (List.mem_cons_of_mem first present)),
        List.cons_append]

theorem read_rows (outline : Outline Label) :
    ∀ depth tail, (∀ row ∈ tail.head?, row.1 ≤ depth) →
      read (rows depth outline ++ tail) = outline :: read tail := by
  induction outline using outline_induction with
  | node label inside ih =>
      intro depth tail shallow
      obtain ⟨inner, outer⟩ :=
        take_while_rows_of (Nat.lt_succ_self depth) inside tail shallow
      have insideRead := read_rows_of_each_member ih (depth + 1) [] (by simp)
      rw [List.append_nil, read, List.append_nil] at insideRead
      rw [rows, List.cons_append, read, inner, outer, insideRead]

theorem read_rows_of (forest : List (Outline Label)) (depth : Nat) :
    read (rowsOf depth forest) = forest := by
  have whole := read_rows_of_each_member (fun child (_ : child ∈ forest) => read_rows child)
    depth [] (by simp)
  rwa [List.append_nil, read, List.append_nil] at whole

/-- A common factor on the depths changes nothing, and labels are carried along. -/
theorem read_map {unit : Nat} (positive : 0 < unit) (change : Label → Other)
    (rows : List (Nat × Label)) :
    read (rows.map fun row => (unit * row.1, change row.2)) = mapOf change (read rows) := by
  fun_induction read rows with
  | case1 => simp [read, mapOf]
  | case2 depth label rest ihInside ihAfter =>
      have scaled : (fun row : Nat × Other => decide (unit * depth < row.1)) ∘
          (fun row : Nat × Label => (unit * row.1, change row.2)) =
            fun row => decide (depth < row.1) := by
        funext row
        simp only [Function.comp, Nat.mul_lt_mul_left positive]
      rw [List.map_cons, read, List.takeWhile_map, List.dropWhile_map, scaled, ihInside, ihAfter,
        mapOf, map]

section Blocks

variable (opens effective : Label → Bool)

/-- Outlines in which exactly the labels that open a block have something inside,
an effective label among it. -/
inductive Tidy : Outline Label → Prop
  | leaf {label : Label} : opens label = false → Tidy (.node label [])
  | block {label : Label} {inside : List (Outline Label)} : opens label = true →
      (∀ child ∈ inside, Tidy child) → (∃ child ∈ inside, effective child.label = true) →
        Tidy (.node label inside)

/-- What the rows behind a row show about the block it may open. -/
structure Placed (row : Nat × Label) (after : List (Nat × Label)) : Prop where
  /-- A row that opens no block is not followed by a deeper one. -/
  leaf : opens row.2 = false → ∀ next ∈ after.head?, next.1 ≤ row.1
  /-- A row that opens a block is followed by one a level deeper. -/
  block : opens row.2 = true → ∃ next ∈ after.head?, next.1 = row.1 + 1
  /-- The block holds an effective row a level deeper. -/
  filled : opens row.2 = true →
    ∃ inner ∈ after.takeWhile (fun other => row.1 < other.1),
      inner.1 = row.1 + 1 ∧ effective inner.2 = true

def AllPlaced : List (Nat × Label) → Prop
  | [] => True
  | row :: after => Placed opens effective row after ∧ AllPlaced after

variable {opens effective}

theorem placed_of_split {before after : List (Nat × Label)} {row : Nat × Label}
    (placed : AllPlaced opens effective (before ++ row :: after)) :
    Placed opens effective row after := by
  induction before with
  | nil => exact placed.1
  | cons first before ih => exact ih placed.2

theorem rows_of_placed_of_members {forest : List (Outline Label)}
    (members : ∀ child ∈ forest, ∀ depth tail, (∀ row ∈ tail.head?, row.1 ≤ depth) →
      AllPlaced opens effective tail → AllPlaced opens effective (rows depth child ++ tail))
    (depth : Nat) (tail : List (Nat × Label)) (shallow : ∀ row ∈ tail.head?, row.1 ≤ depth)
    (placed : AllPlaced opens effective tail) :
    AllPlaced opens effective (rowsOf depth forest ++ tail) := by
  induction forest with
  | nil => exact placed
  | cons first rest ih =>
      rw [rowsOf, List.append_assoc]
      apply members first (by simp) depth _ (rows_of_head depth rest tail shallow)
      exact ih fun child present => members child (List.mem_cons_of_mem first present)

/-- The row of a tidy block, before the rows of what stands inside it. -/
theorem block_placed {label : Label} {inside : List (Outline Label)} (opened : opens label = true)
    (filled : ∃ child ∈ inside, effective child.label = true) (depth : Nat)
    (tail : List (Nat × Label)) (shallow : ∀ row ∈ tail.head?, row.1 ≤ depth) :
    Placed opens effective (depth, label) (rowsOf (depth + 1) inside ++ tail) := by
  obtain ⟨child, member, counts⟩ := filled
  refine ⟨fun closed => ?_, fun _ => ?_, fun _ => ?_⟩
  · rw [opened] at closed
    cases closed
  · cases inside with
    | nil => cases member
    | cons first rest =>
        cases first with
        | node firstLabel within => exact ⟨(depth + 1, firstLabel), rfl, rfl⟩
  · rw [(take_while_rows_of (Nat.lt_succ_self depth) inside tail shallow).1]
    exact ⟨_, label_mem_rows_of (depth + 1) member, rfl, counts⟩

theorem rows_placed {outline : Outline Label} (tidy : Tidy opens effective outline) :
    ∀ depth tail, (∀ row ∈ tail.head?, row.1 ≤ depth) → AllPlaced opens effective tail →
      AllPlaced opens effective (rows depth outline ++ tail) := by
  induction tidy with
  | leaf closed =>
      intro depth tail shallow placed
      refine ⟨⟨fun _ => shallow, fun opened => ?_, fun opened => ?_⟩, placed⟩
      · rw [closed] at opened
        cases opened
      · rw [closed] at opened
        cases opened
  | block opened _ filled ih =>
      intro depth tail shallow placed
      rw [rows, List.cons_append]
      refine ⟨block_placed opened filled depth tail shallow, ?_⟩
      exact rows_of_placed_of_members ih (depth + 1) tail
        (fun row first => Nat.le_succ_of_le (shallow row first)) placed

theorem rows_of_placed {forest : List (Outline Label)}
    (tidy : ∀ child ∈ forest, Tidy opens effective child) (depth : Nat) :
    AllPlaced opens effective (rowsOf depth forest) := by
  have whole := rows_of_placed_of_members (fun child member => rows_placed (tidy child member))
    depth [] (by simp) trivial
  rwa [List.append_nil] at whole

/-- In a tidy forest the effective labels that stand at its top tell whether any
of its rows is effective. -/
theorem any_effective_rows_of {forest : List (Outline Label)}
    (tidy : ∀ child ∈ forest, Tidy opens effective child)
    (headings : ∀ label, opens label = true → effective label = true) (depth : Nat) :
    (rowsOf depth forest).any (fun row => effective row.2) =
      forest.any fun child => effective child.label := by
  induction forest with
  | nil => rfl
  | cons first rest ih =>
      have restSame := ih fun child member => tidy child (List.mem_cons_of_mem first member)
      rw [rowsOf, List.any_append, List.any_cons, restSame]
      cases tidy first (by simp) with
      | leaf _ => simp [rows, rowsOf, label]
      | block opened _ _ => simp [rows, label, headings _ opened]

end Blocks

end Outline

end TurtleLang
