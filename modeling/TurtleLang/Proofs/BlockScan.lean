import Mathlib.Data.List.Forall2
import TurtleLang.Proofs.Walk

/-!
Reading a definition at an index. The executable lines are indexed without gaps, while their
numbers are places in the source, so the two differ by the lines that were skipped. At any
index a definition is read exactly when four conditions hold: a header stands there, it has a
name, its parameters are distinct, and a terminator comes later. The body is what stands
between the header and the first terminator behind it. When a condition fails, the fault is
that of the first one that does, with the number of the header.
-/
namespace TurtleLang

set_option autoImplicit false

namespace Line

/-- The line with the given index among the executable ones of the texts, which are numbered
from `first` on: its number is the place of its text, and as many executable texts as the
index says stand in front of it. -/
def StandsAmong (first index : Nat) (texts : List String) (line : Line) : Prop :=
  ∃ before raw after, texts = before ++ raw :: after ∧ (keptTexts before).length = index ∧
    line.number = first + before.length ∧ line.text = Text.trim raw ∧
    isSkipped line.text = false

def StandsAt (source : String) (index : Nat) (line : Line) : Prop :=
  StandsAmong 1 index (Text.lines source) line

theorem stands_among_cons {first index : Nat} {text : String} {texts : List String} {line : Line} :
    StandsAmong first index (text :: texts) line ↔
      (index = 0 ∧ line = ⟨first, Text.trim text⟩ ∧ isSkipped line.text = false) ∨
        ∃ later, (keptTexts [text]).length + later = index ∧
          StandsAmong (first + 1) later texts line := by
  constructor
  · rintro ⟨before, raw, after, cut, place, number, trimmed, kept⟩
    cases before with
    | nil =>
        cases cut
        cases line
        cases number
        cases trimmed
        exact .inl ⟨place.symm, rfl, kept⟩
    | cons front before =>
        cases cut
        rw [kept_texts_cons, List.length_append] at place
        rw [List.length_cons] at number
        exact .inr ⟨_, place, before, raw, after, rfl, rfl, by omega, trimmed, kept⟩
  · rintro (⟨rfl, rfl, kept⟩ | ⟨later, place, before, raw, after, rfl, behind, number, rest⟩)
    · exact ⟨[], text, texts, rfl, rfl, rfl, rfl, kept⟩
    · refine ⟨text :: before, raw, after, rfl, ?_, ?_, rest⟩
      · rw [kept_texts_cons, List.length_append]
        omega
      · rw [List.length_cons]
        omega

end Line

theorem kept_texts_skipped {text : String} (skipped : isSkipped (Text.trim text) = true) :
    keptTexts [text] = [] := by
  simp [keptTexts, skipped]

theorem kept_texts_kept {text : String} (kept : isSkipped (Text.trim text) = false) :
    keptTexts [text] = [Text.trim text] := by
  simp [keptTexts, kept]

theorem number_lines_stands_among (first index : Nat) (texts : List String) (line : Line) :
    ((numberLines first texts).filter fun line => !isSkipped line.text)[index]? = some line ↔
      line.StandsAmong first index texts := by
  induction texts generalizing first index with
  | nil => simp [numberLines, Line.StandsAmong]
  | cons text texts ih =>
      rw [Line.stands_among_cons, numberLines]
      cases skipped : isSkipped (Text.trim text) with
      | true =>
          rw [List.filter_cons_of_neg (by simp [skipped]), ih, kept_texts_skipped skipped]
          constructor
          · intro stands
            exact .inr ⟨index, Nat.zero_add index, stands⟩
          · rintro (⟨_, rfl, kept⟩ | ⟨later, place, stands⟩)
            · rw [skipped] at kept
              cases kept
            · rw [List.length_nil, Nat.zero_add] at place
              rwa [← place]
      | false =>
          rw [List.filter_cons_of_pos (by simp [skipped]), kept_texts_kept skipped]
          cases index with
          | zero =>
              rw [List.getElem?_cons_zero, Option.some.injEq]
              constructor
              · rintro rfl
                exact .inl ⟨rfl, rfl, skipped⟩
              · rintro (⟨_, rfl, _⟩ | ⟨later, place, _⟩)
                · rfl
                · rw [List.length_singleton] at place
                  omega
          | succ index =>
              rw [List.getElem?_cons_succ, ih]
              constructor
              · intro stands
                exact .inr ⟨index, by rw [List.length_singleton]; omega, stands⟩
              · rintro (⟨none, _, _⟩ | ⟨later, place, stands⟩)
                · cases none
                · have same : later = index := by
                    rw [List.length_singleton] at place
                    omega
                  rwa [← same]

/-- Indexing the executable lines of a source finds exactly the lines that stand there. -/
theorem executable_lines_stands_at (source : String) (index : Nat) (line : Line) :
    (executableLines source)[index]? = some line ↔ line.StandsAt source index :=
  number_lines_stands_among 1 index (Text.lines source) line

/-- The word of a header that declares a parameter: one colon in front of it is dropped. -/
inductive Declares : String → String → Prop
  | marked {rest : String} : Declares (":" ++ rest) (Text.lower rest)
  | plain {word : String} : word.toList.head? ≠ some ':' → Declares word (Text.lower word)

theorem declares_iff {word parameter : String} :
    Declares word parameter ↔ Procedure.parameterOf word = parameter := by
  constructor
  · intro declared
    cases declared with
    | @marked rest =>
        have spelled : (":" ++ rest).toList = ':' :: rest.toList := by simp
        unfold Procedure.parameterOf
        simp only [spelled, String.ofList_toList]
    | plain unmarked =>
        unfold Procedure.parameterOf
        split
        · next spelled => exact absurd (by rw [spelled]; rfl) unmarked
        · rfl
  · rintro rfl
    unfold Procedure.parameterOf
    split
    · next rest spelled =>
        have same : word = ":" ++ String.ofList rest := by
          apply String.toList_injective
          rw [spelled]
          simp
        rw [same]
        exact .marked
    · next unmarked =>
        apply Declares.plain
        intro first
        obtain ⟨rest, spelled⟩ := List.head?_eq_some_iff.mp first
        exact unmarked rest spelled

theorem forall₂_declares {words parameters : List String} :
    List.Forall₂ Declares words parameters ↔ parameters = words.map Procedure.parameterOf := by
  constructor
  · intro declared
    induction declared with
    | nil => rfl
    | cons first _ ih => rw [List.map_cons, declares_iff.mp first, ih]
  · rintro rfl
    induction words with
    | nil => exact .nil
    | cons word words ih => exact .cons (declares_iff.mpr rfl) ih

def Opens (text : String) : Prop :=
  ∃ keyword words, Text.words text = keyword :: words ∧ Text.lowerAscii keyword = "to"

theorem opens_iff {text : String} : Opens text ↔ isHeader text = true := by
  unfold Opens isHeader
  cases Text.words text with
  | nil => simp
  | cons keyword words => simp

/-- What a header with a name declares: the second word in lower case is the name, and each
word behind it is a parameter. -/
def Heads (text name : String) (parameters : List String) : Prop :=
  ∃ keyword word words, Text.words text = keyword :: word :: words ∧
    Text.lowerAscii keyword = "to" ∧ name = Text.lower word ∧
    List.Forall₂ Declares words parameters

theorem opens_of_heads {text name : String} {parameters : List String}
    (heads : Heads text name parameters) : isHeader text = true := by
  obtain ⟨keyword, word, words, cut, opening, _⟩ := heads
  exact opens_iff.mp ⟨keyword, word :: words, cut, opening⟩

theorem heads_of_words {text keyword word : String} {words : List String}
    (opening : isHeader text = true) (cut : Text.words text = keyword :: word :: words) :
    Heads text (Text.lower word) (words.map Procedure.parameterOf) := by
  obtain ⟨first, rest, same, starts⟩ := opens_iff.mpr opening
  rw [cut] at same
  cases same
  exact ⟨keyword, word, words, cut, starts, rfl, forall₂_declares.mpr rfl⟩

structure BlockAt (source : String) (start : Nat) (procedure : Procedure) (next : Nat) :
    Prop where
  header : ∃ header : Line, header.StandsAt source start ∧
    Heads header.text procedure.name procedure.parameters
  distinct : procedure.parameters.Nodup
  starts : start + 2 ≤ next
  ends : next ≤ (executableLines source).length
  body : procedure.body =
    (((executableLines source).drop (start + 1)).take (next - 2 - start)).map Line.text
  inner : ∀ text ∈ procedure.body, isTerminator text = false
  terminator : ∃ line : Line, line.StandsAt source (next - 1) ∧ isTerminator line.text = true

/-- The fault of the first condition that fails at the index `start`. -/
inductive FaultAt (source : String) (start : Nat) : SourceFault → Prop
  | noHeader : (∀ header : Line, header.StandsAt source start → ¬Opens header.text) →
      FaultAt source start (.notAHeader start)
  | unnamed {header : Line} {keyword : String} : header.StandsAt source start →
      Text.words header.text = [keyword] → Text.lowerAscii keyword = "to" →
      FaultAt source start (.missingName header.number)
  | repeated {header : Line} {name parameter : String} {before after : List String} :
      header.StandsAt source start → Heads header.text name (before ++ parameter :: after) →
      before.Nodup → parameter ∈ before →
      FaultAt source start (.duplicateParameter name parameter header.number)
  | unclosed {header : Line} {name : String} {parameters : List String} :
      header.StandsAt source start → Heads header.text name parameters → parameters.Nodup →
      (∀ index line, start < index → Line.StandsAt source index line →
        isTerminator line.text = false) →
      FaultAt source start (.missingTerminator name header.number)

namespace Procedure

theorem scan_at_absent {lines : List Line} {start : Nat} (absent : lines[start]? = none) :
    scanAt lines start = .error (.notAHeader start) := by
  rw [scanAt, List.drop_eq_nil_of_le (List.getElem?_eq_none_iff.mp absent)]

theorem scan_at_present {lines : List Line} {start : Nat} {header : Line}
    (present : lines[start]? = some header) :
    scanAt lines start =
      if isHeader header.text then
        match scan header (lines.drop (start + 1)) with
        | .error fault => .error fault
        | .ok (procedure, after) => .ok (procedure, lines.length - after.length)
      else .error (.notAHeader start) := by
  obtain ⟨bound, found⟩ := List.getElem?_eq_some_iff.mp present
  have front : lines.drop start = header :: lines.drop (start + 1) := by
    rw [List.drop_eq_getElem_cons bound, found]
  unfold scanAt
  exact front ▸ rfl

/-- A definition is read to its end when the header declares it and the lines behind the header
are the body, a terminator and what is left. -/
theorem scan_eq_ok {header : Line} {rest after : List Line} {procedure : Procedure} :
    scan header rest = .ok (procedure, after) ↔
      readHeader header = .ok (procedure.name, procedure.parameters) ∧
        ∃ body terminator, rest = body ++ terminator :: after ∧
          procedure.body = body.map Line.text ∧
          (∀ line ∈ body, isTerminator line.text = false) ∧
          isTerminator terminator.text = true := by
  constructor
  · intro scanned
    unfold scan at scanned
    split at scanned
    · cases scanned
    · next declared =>
        split at scanned
        · cases scanned
        · next taken =>
            cases scanned
            exact ⟨declared, take_body_spans taken⟩
  · rintro ⟨declared, body, terminator, rfl, texts, inner, closing⟩
    rw [scan, declared]
    dsimp only
    rw [take_body_of_split inner closing]
    dsimp only
    rw [← texts]

theorem scan_eq_error {header : Line} {rest : List Line} {fault : SourceFault}
    (opening : isHeader header.text = true) :
    scan header rest = .error fault ↔
      ∃ defect, HasDefect header.text rest defect ∧ fault = defect.fault header.number := by
  constructor
  · intro failed
    have wrong : IsDefective header.text rest := by
      apply Classical.byContradiction
      intro sound
      obtain ⟨procedure, after, scanned⟩ := scan_of_sound opening sound
      rw [scanned] at failed
      cases failed
    obtain ⟨defect, found⟩ := has_defect_of_is_defective opening wrong
    rw [scan_of_defect found] at failed
    cases failed
    exact ⟨defect, found, rfl⟩
  · rintro ⟨defect, found, rfl⟩
    exact scan_of_defect found

theorem read_header_eq_heads {header : Line} {name : String} {parameters : List String}
    (opening : isHeader header.text = true) :
    readHeader header = .ok (name, parameters) ↔
      Heads header.text name parameters ∧ parameters.Nodup := by
  constructor
  · intro declared
    obtain ⟨keyword, word, words, cut, rfl, rfl, distinct⟩ := read_header_ok declared
    exact ⟨heads_of_words opening cut, distinct⟩
  · rintro ⟨⟨keyword, word, words, cut, _, rfl, declared⟩, distinct⟩
    rw [forall₂_declares] at declared
    subst declared
    have fresh : firstRepeated [] (words.map parameterOf) = none :=
      (first_repeated_eq_none [] _).mpr ⟨distinct, by simp⟩
    rw [read_header_named cut, fresh]

end Procedure

theorem drop_eq_split {lines body after : List Line} {terminator : Line} {start : Nat} :
    lines.drop (start + 1) = body ++ terminator :: after ↔
      body = (lines.drop (start + 1)).take body.length ∧
        lines[start + 1 + body.length]? = some terminator ∧
        after = lines.drop (start + 2 + body.length) := by
  constructor
  · intro split
    refine ⟨by rw [split, List.take_left], ?_, ?_⟩
    · rw [← List.getElem?_drop, split, List.getElem?_append_right (Nat.le_refl _), Nat.sub_self]
      rfl
    · have behind : lines.drop (start + 2 + body.length) =
          (lines.drop (start + 1)).drop (body.length + 1) := by
        rw [List.drop_drop]
        congr 1
        omega
      rw [behind, split, ← List.drop_drop, List.drop_left]
      rfl
  · rintro ⟨front, found, rfl⟩
    obtain ⟨bound, same⟩ := List.getElem?_eq_some_iff.mp found
    have behind : (lines.drop (start + 1)).drop body.length =
        terminator :: lines.drop (start + 2 + body.length) := by
      rw [List.drop_drop, List.drop_eq_getElem_cons bound, same]
      congr 2
      omega
    calc lines.drop (start + 1)
        = (lines.drop (start + 1)).take body.length ++ (lines.drop (start + 1)).drop body.length :=
          (List.take_append_drop _ _).symm
      _ = body ++ terminator :: lines.drop (start + 2 + body.length) := by rw [behind, ← front]

theorem block_at_of_scan {source : String} {start : Nat} {header : Line} {procedure : Procedure}
    {after : List Line} (stands : header.StandsAt source start)
    (opening : isHeader header.text = true)
    (read : Procedure.scan header ((executableLines source).drop (start + 1)) =
      .ok (procedure, after)) :
    BlockAt source start procedure ((executableLines source).length - after.length) := by
  obtain ⟨declared, body, terminator, split, texts, inner, closing⟩ :=
    Procedure.scan_eq_ok.mp read
  obtain ⟨heads, distinct⟩ := (Procedure.read_header_eq_heads opening).mp declared
  obtain ⟨front, found, behind⟩ := drop_eq_split.mp split
  have reached : start + 1 + body.length < (executableLines source).length :=
    (List.getElem?_eq_some_iff.mp found).1
  have index : (executableLines source).length - after.length = start + 2 + body.length := by
    rw [behind, List.length_drop]
    omega
  have count : start + 2 + body.length - 2 - start = body.length := by omega
  have last : start + 2 + body.length - 1 = start + 1 + body.length := by omega
  rw [index]
  exact {
    header := ⟨header, stands, heads⟩
    distinct := distinct
    starts := by omega
    ends := by omega
    body := by rw [count, ← front, texts]
    inner := by
      rw [texts]
      intro text member
      obtain ⟨line, listed, rfl⟩ := List.mem_map.mp member
      exact inner line listed
    terminator := by
      rw [last]
      exact ⟨terminator, (executable_lines_stands_at _ _ _).mp found, closing⟩ }

theorem scan_of_block_at {source : String} {start next : Nat} {procedure : Procedure}
    (block : BlockAt source start procedure next) {header : Line}
    (heads : Heads header.text procedure.name procedure.parameters) :
    Procedure.scan header ((executableLines source).drop (start + 1)) =
      .ok (procedure, (executableLines source).drop next) := by
  obtain ⟨terminator, stands, closing⟩ := block.terminator
  have starts := block.starts
  have ends := block.ends
  have declared : Procedure.readHeader header = .ok (procedure.name, procedure.parameters) :=
    (Procedure.read_header_eq_heads (opens_of_heads heads)).mpr ⟨heads, block.distinct⟩
  have length : (((executableLines source).drop (start + 1)).take (next - 2 - start)).length =
      next - 2 - start := by
    rw [List.length_take, List.length_drop]
    omega
  have split : (executableLines source).drop (start + 1) =
      ((executableLines source).drop (start + 1)).take (next - 2 - start) ++
        terminator :: (executableLines source).drop next := by
    have last : start + 1 + (next - 2 - start) = next - 1 := by omega
    have behind : start + 2 + (next - 2 - start) = next := by omega
    apply drop_eq_split.mpr
    rw [length, last, behind]
    exact ⟨rfl, (executable_lines_stands_at _ _ _).mpr stands, rfl⟩
  have inner : ∀ line ∈ ((executableLines source).drop (start + 1)).take (next - 2 - start),
      isTerminator line.text = false := by
    intro line listed
    apply block.inner
    rw [block.body]
    exact List.mem_map_of_mem listed
  exact Procedure.scan_eq_ok.mpr ⟨declared, _, terminator, split, block.body, inner, closing⟩

theorem scan_at_eq_ok (source : String) (start : Nat) (procedure : Procedure) (next : Nat) :
    Procedure.scanAt (executableLines source) start = .ok (procedure, next) ↔
      BlockAt source start procedure next := by
  constructor
  · intro scanned
    cases present : (executableLines source)[start]? with
    | none =>
        rw [Procedure.scan_at_absent present] at scanned
        cases scanned
    | some header =>
        rw [Procedure.scan_at_present present] at scanned
        split at scanned
        · next opening =>
            split at scanned
            · cases scanned
            · next read =>
                cases scanned
                exact block_at_of_scan ((executable_lines_stands_at _ _ _).mp present) opening read
        · cases scanned
  · intro block
    obtain ⟨header, stands, heads⟩ := block.header
    rw [Procedure.scan_at_present ((executable_lines_stands_at _ _ _).mpr stands),
      if_pos (opens_of_heads heads), scan_of_block_at block heads]
    dsimp only
    rw [List.length_drop, Nat.sub_sub_self block.ends]

theorem not_is_defective_of_heads {text name : String} {parameters : List String}
    {rest : List Line} {line : Line} (heads : Heads text name parameters)
    (distinct : parameters.Nodup) (closed : line ∈ rest)
    (closing : isTerminator line.text = true) : ¬IsDefective text rest := by
  obtain ⟨keyword, word, words, cut, _, _, declared⟩ := heads
  rw [forall₂_declares] at declared
  subst declared
  rintro (single | twice | endless)
  · rw [cut] at single
    simp at single
  · apply twice
    rw [cut]
    exact distinct
  · rw [endless line closed] at closing
    cases closing

theorem mem_drop_iff {source : String} {start : Nat} {line : Line} :
    line ∈ (executableLines source).drop (start + 1) ↔
      ∃ index, start < index ∧ line.StandsAt source index := by
  rw [List.mem_iff_getElem?]
  constructor
  · rintro ⟨offset, found⟩
    rw [List.getElem?_drop] at found
    exact ⟨start + 1 + offset, by omega, (executable_lines_stands_at _ _ _).mp found⟩
  · rintro ⟨index, later, stands⟩
    refine ⟨index - (start + 1), ?_⟩
    have place : start + 1 + (index - (start + 1)) = index := by omega
    rw [List.getElem?_drop, place]
    exact (executable_lines_stands_at _ _ _).mpr stands

theorem stands_at_unique {source : String} {index : Nat} {line other : Line}
    (stands : line.StandsAt source index) (otherStands : other.StandsAt source index) :
    line = other := by
  have found := (executable_lines_stands_at _ _ _).mpr stands
  rw [(executable_lines_stands_at _ _ _).mpr otherStands] at found
  exact (Option.some.inj found).symm

/-- A defect of the header at an index is the fault of the first condition that fails there. -/
theorem fault_at_iff {source : String} {start : Nat} {header : Line}
    (stands : header.StandsAt source start) (opening : isHeader header.text = true)
    (fault : SourceFault) :
    FaultAt source start fault ↔
      ∃ defect, HasDefect header.text ((executableLines source).drop (start + 1)) defect ∧
        fault = defect.fault header.number := by
  constructor
  · intro wrong
    cases wrong with
    | noHeader none => exact absurd (opens_iff.mpr opening) (none header stands)
    | unnamed otherStands cut _ =>
        cases stands_at_unique otherStands stands
        exact ⟨_, .unnamed cut, rfl⟩
    | repeated otherStands heads distinct again =>
        cases stands_at_unique otherStands stands
        obtain ⟨keyword, word, words, cut, _, rfl, declared⟩ := heads
        exact ⟨_, .repeated cut (forall₂_declares.mp declared).symm distinct again, rfl⟩
    | unclosed otherStands heads distinct endless =>
        cases stands_at_unique otherStands stands
        obtain ⟨keyword, word, words, cut, _, rfl, declared⟩ := heads
        rw [forall₂_declares] at declared
        subst declared
        refine ⟨_, .unclosed cut distinct ?_, rfl⟩
        intro line member
        obtain ⟨index, later, lineStands⟩ := mem_drop_iff.mp member
        exact endless index line later lineStands
  · rintro ⟨defect, wrong, rfl⟩
    cases wrong with
    | @unnamed keyword cut =>
        obtain ⟨first, rest, same, starts⟩ := opens_iff.mpr opening
        rw [cut] at same
        cases same
        exact .unnamed stands cut starts
    | repeated cut parameters distinct again =>
        have heads := heads_of_words opening cut
        rw [parameters] at heads
        exact .repeated stands heads distinct again
    | unclosed cut distinct endless =>
        refine .unclosed stands (heads_of_words opening cut) distinct ?_
        intro index line later lineStands
        exact endless line (mem_drop_iff.mpr ⟨index, later, lineStands⟩)

theorem fault_at_unopened {source : String} {start : Nat}
    (unopened : ∀ header : Line, header.StandsAt source start → ¬Opens header.text)
    (fault : SourceFault) : FaultAt source start fault ↔ fault = .notAHeader start := by
  constructor
  · intro wrong
    cases wrong with
    | noHeader _ => rfl
    | unnamed stands cut opening => exact absurd ⟨_, _, cut, opening⟩ (unopened _ stands)
    | repeated stands heads _ _ =>
        exact absurd (opens_iff.mpr (opens_of_heads heads)) (unopened _ stands)
    | unclosed stands heads _ _ =>
        exact absurd (opens_iff.mpr (opens_of_heads heads)) (unopened _ stands)
  · rintro rfl
    exact .noHeader unopened

theorem scan_at_eq_error (source : String) (start : Nat) (fault : SourceFault) :
    Procedure.scanAt (executableLines source) start = .error fault ↔
      FaultAt source start fault := by
  cases present : (executableLines source)[start]? with
  | none =>
      have unopened : ∀ header : Line, header.StandsAt source start → ¬Opens header.text := by
        intro header stands
        rw [(executable_lines_stands_at _ _ _).mpr stands] at present
        cases present
      rw [Procedure.scan_at_absent present, fault_at_unopened unopened, Except.error.injEq]
      exact eq_comm
  | some header =>
      have stands := (executable_lines_stands_at _ _ _).mp present
      rw [Procedure.scan_at_present present]
      split
      · next opening =>
          rw [fault_at_iff stands opening, ← Procedure.scan_eq_error opening]
          split
          · next failed => rw [failed, Except.error.injEq, Except.error.injEq]
          · next read => simp [read]
      · next plain =>
          have unopened : ∀ other : Line, other.StandsAt source start → ¬Opens other.text := by
            intro other otherStands
            rw [stands_at_unique otherStands stands, opens_iff]
            exact plain
          rw [fault_at_unopened unopened, Except.error.injEq]
          exact eq_comm

/-- At every index of every source a definition is read exactly when a header with a name and
distinct parameters stands there and a terminator stands behind it. It is then the block up to
the first such terminator; otherwise the fault is that of the first condition that fails. -/
theorem scan_at_exact (source : String) (start : Nat) :
    ((∃ procedure next,
        Procedure.scanAt (executableLines source) start = .ok (procedure, next)) ↔
      ∃ (header : Line) (name : String) (parameters : List String),
        header.StandsAt source start ∧ Heads header.text name parameters ∧ parameters.Nodup ∧
        ∃ (index : Nat) (line : Line), start < index ∧ line.StandsAt source index ∧
          isTerminator line.text = true) ∧
      (∀ procedure next,
        Procedure.scanAt (executableLines source) start = .ok (procedure, next) ↔
          BlockAt source start procedure next) ∧
      ∀ fault, Procedure.scanAt (executableLines source) start = .error fault ↔
        FaultAt source start fault := by
  refine ⟨?_, scan_at_eq_ok source start, scan_at_eq_error source start⟩
  constructor
  · rintro ⟨procedure, next, scanned⟩
    have block := (scan_at_eq_ok source start procedure next).mp scanned
    obtain ⟨header, stands, heads⟩ := block.header
    obtain ⟨terminator, standsLast, closing⟩ := block.terminator
    have starts := block.starts
    exact ⟨header, _, _, stands, heads, block.distinct, next - 1, terminator, by omega,
      standsLast, closing⟩
  · rintro ⟨header, name, parameters, stands, heads, distinct, index, line, later, lineStands,
      closing⟩
    have opening := opens_of_heads heads
    have closed : line ∈ (executableLines source).drop (start + 1) :=
      mem_drop_iff.mpr ⟨index, later, lineStands⟩
    obtain ⟨procedure, after, scanned⟩ :=
      Procedure.scan_of_sound opening (not_is_defective_of_heads heads distinct closed closing)
    rw [Procedure.scan_at_present ((executable_lines_stands_at _ _ _).mpr stands), if_pos opening,
      scanned]
    exact ⟨procedure, _, rfl⟩

/-- Skipped lines in front of the header and inside the block, and a terminator in capitals. -/
example :
    Procedure.scanAt (executableLines "fd 1\n\n; box\nTo Box :W h\nrt 90\n\nEND\nend") 1 =
      .ok (⟨"box", ["w", "h"], ["rt 90"]⟩, 4) := by
  decide +kernel

end TurtleLang
