import TurtleLang.Document.Settings
import TurtleLang.Proofs.DocumentScalars

/-!
Members of a document, as they are read and as the grammar has them. Each reader is settled
with anything behind what it reads: the value of `indent` and the value of `split` are read
exactly when they have one of the forms they may have, and one member is read exactly when its
key is one of the two and has not come before. What a whole object gives follows from this
member by member.
-/
namespace TurtleLang.Document

set_option autoImplicit false

def Value.Counts (value : Value) (count : Nat) : Prop :=
  ∃ numeral, value = .number numeral ∧ numeral.Counts count

/-- The word of a policy, or an object whose only member has the word as its key and is null. -/
def Value.Names (value : Value) (policy : SplitPolicy) : Prop :=
  value = .text (units policy.word) ∨ value = .object [(units policy.word, .null)]

/-- A setting before and after the members of an object. A member with the given key gives a
setting that was not given before; the others leave it as it is. -/
def Fills {Setting : Type} (key : List Nat) (Gives : Value → Setting → Prop) :
    Option Setting → List (List Nat × Value) → Option Setting → Prop
  | before, [], after => after = before
  | before, (name, value) :: members, after =>
      if name = key then
        before = none ∧ ∃ given, Gives value given ∧ Fills key Gives (some given) members after
      else Fills key Gives before members after

def GivesIndent (value : Value) (count : Nat) : Prop :=
  value.Counts count ∧ count ≤ greatestSignificand

structure Fitting (given : Given) (members : List (List Nat × Value)) (result : Given) : Prop where
  known : ∀ member ∈ members, member.1 = units "indent" ∨ member.1 = units "split"
  indent : Fills (units "indent") GivesIndent given.indent members result.indent
  split : Fills (units "split") Value.Names given.split members result.split

section Blanks

theorem skip_blanks_gap {blanks : List Char} (gap : Gap blanks) (rest : List Char) :
    skipBlanks (blanks ++ rest) = skipBlanks rest := by
  unfold skipBlanks
  apply List.dropWhile_append_of_pos
  intro character member
  rcases gap character member with rfl | rfl | rfl | rfl <;> rfl

theorem skip_blanks_all {blanks : List Char} (gap : Gap blanks) : skipBlanks blanks = [] := by
  have skipped := skip_blanks_gap gap []
  rwa [List.append_nil] at skipped

theorem skip_blanks_mark {mark : Char} (space : mark ≠ ' ') (tab : mark ≠ '\t') (feed : mark ≠ '\n')
    (carriage : mark ≠ '\r') (rest : List Char) : skipBlanks (mark :: rest) = mark :: rest := by
  unfold skipBlanks
  apply List.dropWhile_cons_of_neg
  simp [space, tab, feed, carriage]

theorem read_colon_mark {blanks : List Char} (gap : Gap blanks) (rest : List Char) :
    readColon (blanks ++ ':' :: rest) = .ok ((), rest) := by
  rw [readColon, skip_blanks_gap gap]
  rfl

end Blanks

section Words

theorem of_word_eq_some {name : String} {policy : SplitPolicy} :
    SplitPolicy.ofWord? name = some policy ↔ name = policy.word := by
  unfold SplitPolicy.ofWord?
  cases policy <;> simp only [SplitPolicy.word] <;> split <;> simp_all

theorem word_ascii (policy : SplitPolicy) :
    ∀ character ∈ policy.word.toList, character.toNat < 0x80 := by
  cases policy <;> simp [SplitPolicy.word]

theorem read_text_eq_word {word : String}
    (ascii : ∀ character ∈ word.toList, character.toNat < 0x80)
    {key : List Nat} {quoted : List Char} (spelled : Quoted key quoted) {rest left : List Char} :
    readText (quoted ++ rest) = .ok (word, left) ↔ key = units word ∧ left = rest := by
  constructor
  · intro read
    obtain ⟨consumed, same⟩ := read_text_units spelled read
    exact ⟨same.symm, consumed⟩
  · rintro ⟨rfl, rfl⟩
    exact read_text_ascii ascii spelled left

theorem read_policy_name_eq_ok {key : List Nat} {quoted : List Char} (spelled : Quoted key quoted)
    {rest left : List Char} {policy : SplitPolicy} :
    readPolicyName (quoted ++ rest) = .ok (policy, left) ↔
      key = units policy.word ∧ left = rest := by
  rw [← read_text_eq_word (word_ascii policy) spelled]
  unfold readPolicyName
  cases readText (quoted ++ rest) with
  | error fault => simp
  | ok pair =>
      obtain ⟨name, behind⟩ := pair
      dsimp only
      cases asked : SplitPolicy.ofWord? name with
      | none =>
          refine iff_of_false (by simp) ?_
          intro same
          cases same
          rw [of_word_eq_some.mpr rfl] at asked
          cases asked
      | some found =>
          obtain rfl := of_word_eq_some.mp asked
          have injective : found.word = policy.word ↔ found = policy := by
            cases found <;> cases policy <;> decide
          simp [injective]

end Words

section Values

def StartsNumber (first : Char) : Prop :=
  first = '-' ∨ first.isDigit = true

theorem starts_number_bounds {first : Char} (starts : StartsNumber first) :
    first.toNat = 45 ∨ 48 ≤ first.toNat ∧ first.toNat ≤ 57 := by
  rcases starts with rfl | digit
  · exact .inl rfl
  · simp only [Char.isDigit, Bool.and_eq_true, decide_eq_true_eq] at digit
    exact .inr digit

theorem starts_number_ne {first other : Char} (starts : StartsNumber first)
    (outside : other.toNat < 45 ∨ 57 < other.toNat) : first ≠ other := by
  rintro rfl
  have bounds := starts_number_bounds starts
  omega

theorem skip_blanks_number {first : Char} (starts : StartsNumber first) (rest : List Char) :
    skipBlanks (first :: rest) = first :: rest :=
  skip_blanks_mark (starts_number_ne starts (by decide)) (starts_number_ne starts (by decide))
    (starts_number_ne starts (by decide)) (starts_number_ne starts (by decide)) rest

theorem whole_head {whole : List Char} (form : Numeral.IsWhole whole) :
    ∃ first others, whole = first :: others ∧ first.isDigit = true := by
  have digits := is_digit_of_is_whole form
  cases whole with
  | nil =>
      rcases form with empty | ⟨⟨filled, _⟩, _⟩
      · cases empty
      · exact absurd rfl filled
  | cons first others => exact ⟨first, others, rfl, digits first (by simp)⟩

theorem number_head {numeral : Numeral} (wellFormed : numeral.WellFormed) :
    ∃ first others, numeral.text = first :: others ∧ StartsNumber first := by
  obtain ⟨first, others, whole, digit⟩ := whole_head wellFormed.whole
  unfold Numeral.text
  cases numeral.minus with
  | true => exact ⟨'-', _, rfl, .inl rfl⟩
  | false => exact ⟨first, _, by rw [whole]; rfl, .inr digit⟩

theorem indent_of_eq_ok {reading : Reading Number} {count : Nat} {left : List Char} :
    indentOf reading = .ok (count, left) ↔ reading = .ok (.natural count, left) := by
  rcases reading with fault | ⟨value | value | value, rest⟩ <;> simp [indentOf]

theorem read_indent_number {numeral : Numeral} (wellFormed : numeral.WellFormed)
    (rest : List Char) :
    readIndent (numeral.text ++ rest) =
      indentOf (readNumber numeral.minus
        (numeral.whole ++ (numeral.fraction ++ numeral.exponent ++ rest))) := by
  obtain ⟨first, others, whole, digit⟩ := whole_head wellFormed.whole
  unfold readIndent Numeral.text
  cases numeral.minus with
  | true =>
      simp only [if_pos, List.cons_append, List.append_assoc]
      rw [skip_blanks_number (.inl rfl)]
      rfl
  | false =>
      have noSign : first ≠ '-' := by
        rintro rfl
        cases digit
      simp only [Bool.false_eq_true, if_false, List.nil_append, List.append_assoc, whole,
        List.cons_append]
      rw [skip_blanks_number (.inr digit)]
      dsimp only
      rw [if_neg noSign, if_pos digit]

/-- The value of `indent` is read exactly when it is written with digits alone and fits. -/
theorem read_indent_eq_ok {value : Value} {text : List Char} (element : Element Written value text)
    {rest left : List Char} (ends : EndsNumber rest) {count : Nat} :
    readIndent (text ++ rest) = .ok (count, left) ↔ GivesIndent value count ∧ left = rest := by
  have isNumber : GivesIndent value count → ∃ numeral, value = .number numeral := by
    rintro ⟨⟨numeral, same, _⟩, _⟩
    exact ⟨numeral, same⟩
  cases element with
  | @intro blanks text _ gap written =>
      have skipped : readIndent (blanks ++ text ++ rest) = readIndent (text ++ rest) := by
        rw [List.append_assoc]
        unfold readIndent
        rw [skip_blanks_gap gap]
      rw [skipped]
      cases written with
      | @number numeral wellFormed =>
          rw [read_indent_number wellFormed, indent_of_eq_ok,
            read_number_eq_natural wellFormed ends]
          simp [GivesIndent, Value.Counts, and_assoc]
      | null | yes | no | text | list | object =>
          refine iff_of_false (by simp [readIndent, skipBlanks]) ?_
          rintro ⟨gives, _⟩
          obtain ⟨numeral, same⟩ := isNumber gives
          cases same

theorem read_null_eq_ok {value : Value} {text : List Char} (element : Element Written value text)
    {rest left : List Char} :
    readNull (text ++ rest) = .ok ((), left) ↔ value = .null ∧ left = rest := by
  cases element with
  | @intro blanks text _ gap written =>
      rw [List.append_assoc, readNull, skip_blanks_gap gap]
      cases written with
      | null =>
          simp [skipBlanks, readWord, eq_comm]
      | @number numeral wellFormed =>
          obtain ⟨first, others, split, starts⟩ := number_head wellFormed
          rw [split, List.cons_append, skip_blanks_number starts]
          refine iff_of_false ?_ (by simp)
          split
          · simp
          · next same => exact absurd (List.cons.inj same).1 (starts_number_ne starts (by decide))
          · simp
      | yes | no | text | list | object => simp [skipBlanks]

theorem read_policy_end_eq_ok {Item : Type} {Part : Item → List Char → Prop} {items : List Item}
    {text : List Char} (behind : Behind Part '\x7d' items text) {rest left : List Char} :
    readPolicyEnd (text ++ rest) = .ok ((), left) ↔ items = [] ∧ left = rest := by
  cases behind with
  | close gap =>
      rw [List.append_assoc, readPolicyEnd, skip_blanks_gap gap]
      simp [skipBlanks, eq_comm]
  | more gap _ _ =>
      rw [List.append_assoc, readPolicyEnd, skip_blanks_gap gap]
      simp [skipBlanks]

/-- The object form of a policy is read exactly when its only member is the word and null. -/
theorem read_policy_object_eq_ok {members : List (List Nat × Value)} {text : List Char}
    (inside : Inside (Member Written) '\x7d' members text) {rest left : List Char}
    {policy : SplitPolicy} :
    readPolicyObject (text ++ rest) = .ok (policy, left) ↔
      members = [(units policy.word, .null)] ∧ left = rest := by
  cases inside with
  | empty gap =>
      rw [List.append_assoc, readPolicyObject, skip_blanks_gap gap]
      simp [skipBlanks]
  | @filled _ closing _ others part behind =>
      cases part with
      | @intro front back quoted text key value frontGap spelled backGap element =>
          simp only [List.append_assoc, List.cons_append]
          rw [readPolicyObject, skip_blanks_gap frontGap]
          change andThen (readPolicyName (quoted ++ _)) _ = _ ↔ _
          simp only [and_then_eq_ok, read_policy_name_eq_ok spelled]
          constructor
          · rintro ⟨_, _, ⟨rfl, rfl⟩, _, _, colon, _, _, null, _, _, closed, same⟩
            rw [read_colon_mark backGap] at colon
            cases colon
            obtain ⟨rfl, rfl⟩ := (read_null_eq_ok element).mp null
            obtain ⟨rfl, rfl⟩ := (read_policy_end_eq_ok behind).mp closed
            cases same
            exact ⟨rfl, rfl⟩
          · rintro ⟨same, rfl⟩
            cases same
            exact ⟨policy, _, ⟨rfl, rfl⟩, (), _, read_colon_mark backGap _, (), _,
              (read_null_eq_ok element).mpr ⟨rfl, rfl⟩, (), _,
              (read_policy_end_eq_ok behind).mpr ⟨rfl, rfl⟩, rfl⟩

theorem read_policy_eq_ok {value : Value} {text : List Char} (element : Element Written value text)
    {rest left : List Char} {policy : SplitPolicy} :
    readPolicy (text ++ rest) = .ok (policy, left) ↔ value.Names policy ∧ left = rest := by
  unfold Value.Names
  cases element with
  | @intro blanks text _ gap written =>
      rw [List.append_assoc, readPolicy, skip_blanks_gap gap]
      cases written with
      | @text key quoted spelled =>
          change readPolicyName (quoted ++ rest) = _ ↔ _
          rw [read_policy_name_eq_ok spelled]
          simp
      | @object members text inside =>
          change readPolicyObject (text ++ rest) = _ ↔ _
          rw [read_policy_object_eq_ok inside]
          simp
      | @number numeral wellFormed =>
          obtain ⟨first, others, split, starts⟩ := number_head wellFormed
          rw [split, List.cons_append, skip_blanks_number starts]
          refine iff_of_false ?_ (by simp)
          split
          · simp
          · next same => exact absurd (List.cons.inj same).1 (starts_number_ne starts (by decide))
          · next same => exact absurd (List.cons.inj same).1 (starts_number_ne starts (by decide))
          · simp
      | null | yes | no | list => simp [skipBlanks]

end Values

section Members

theorem behind_ends {Item : Type} {Part : Item → List Char → Prop} {items : List Item}
    {text : List Char} (behind : Behind Part '\x7d' items text) (rest : List Char) :
    EndsNumber (text ++ rest) := by
  have blank : ∀ {blanks : List Char} {mark : Char} {others : List Char}, Gap blanks →
      mark = ',' ∨ mark = '\x7d' → EndsNumber (blanks ++ mark :: others) := by
    intro blanks mark others gap marked character first
    cases blanks with
    | nil =>
        cases first
        rcases marked with rfl | rfl <;> decide
    | cons space blanks =>
        cases first
        rcases gap character (by simp) with rfl | rfl | rfl | rfl <;> decide
  cases behind with
  | close gap =>
      rw [List.append_assoc]
      exact blank gap (.inr rfl)
  | more gap _ _ =>
      rw [List.append_assoc]
      exact blank gap (.inl rfl)

def keyRead (name : String) (rest : List Char) : Reading (Option String) :=
  .ok (some name, rest)

theorem next_key_first {front : List Char} (gap : Gap front) (rest : List Char) :
    nextKey true (front ++ '"' :: rest) = andThen (readText rest) keyRead := by
  rw [nextKey, skip_blanks_gap gap]
  cases read : readText rest <;> simp [skipBlanks, read, andThen, keyRead]

theorem next_key_later {blanks front : List Char} (gap : Gap blanks) (frontGap : Gap front)
    (rest : List Char) :
    nextKey false (blanks ++ ',' :: (front ++ '"' :: rest)) = andThen (readText rest) keyRead := by
  have comma : skipBlanks (',' :: (front ++ '"' :: rest)) = ',' :: (front ++ '"' :: rest) := rfl
  have quote : skipBlanks (front ++ '"' :: rest) = '"' :: rest := by
    rw [skip_blanks_gap frontGap]
    rfl
  rw [nextKey, skip_blanks_gap gap, comma]
  cases read : readText rest <;> simp [quote, read, andThen, keyRead]

theorem read_members_close {blanks : List Char} (gap : Gap blanks) (given : Given) (first : Bool)
    (rest : List Char) :
    readMembers given first (blanks ++ '\x7d' :: rest) = .ok (given, rest) := by
  have closed : nextKey first (blanks ++ '\x7d' :: rest) = .ok (none, rest) := by
    rw [nextKey, skip_blanks_gap gap]
    rfl
  rw [readMembers, closed]

theorem read_members_found {first : Bool} {input rest : List Char} {name : String}
    (found : nextKey first input = .ok (some name, rest)) {given : Given}
    {result : Given × List Char} :
    readMembers given first input = .ok result ↔
      (name = "indent" ∧ given.indent = none ∧ ∃ count left,
        (andThen (readColon rest) fun _ rest => readIndent rest) = .ok (count, left) ∧
        readMembers { given with indent := some count } false left = .ok result) ∨
      (name = "split" ∧ given.split = none ∧ ∃ policy left,
        (andThen (readColon rest) fun _ rest => readPolicy rest) = .ok (policy, left) ∧
        readMembers { given with split := some policy } false left = .ok result) := by
  rw [readMembers, found]
  dsimp only
  split
  · next isIndent =>
      have noSplit : name ≠ "split" := by
        rw [isIndent]
        decide
      split
      · next taken => simp [noSplit, taken]
      · next vacant =>
          split
          · next failed => simp [noSplit, failed]
          · next read => simp [isIndent, vacant, read]
  · next noIndent =>
      split
      · next isSplit =>
          split
          · next taken => simp [noIndent, taken]
          · next vacant =>
              split
              · next failed => simp [noIndent, failed]
              · next read => simp [isSplit, vacant, read]
      · next noSplit => simp [noIndent, noSplit]

/-- One member is read exactly when it gives a setting that was not given before. -/
theorem read_members_member {first : Bool} {input : List Char} {key : List Nat}
    {quoted back text rest : List Char} {value : Value}
    (opens : nextKey first input =
      andThen (readText (quoted ++ (back ++ ':' :: (text ++ rest)))) keyRead)
    (spelled : Quoted key quoted) (gap : Gap back) (element : Element Written value text)
    (ends : EndsNumber rest) {given : Given} {result : Given × List Char} :
    readMembers given first input = .ok result ↔
      (key = units "indent" ∧ given.indent = none ∧ ∃ count, GivesIndent value count ∧
        readMembers { given with indent := some count } false rest = .ok result) ∨
      (key = units "split" ∧ given.split = none ∧ ∃ policy, value.Names policy ∧
        readMembers { given with split := some policy } false rest = .ok result) := by
  have known : ∀ word : String, (∀ character ∈ word.toList, character.toNat < 0x80) →
      (key = units word ↔ readText (quoted ++ (back ++ ':' :: (text ++ rest))) =
        .ok (word, back ++ ':' :: (text ++ rest))) := by
    intro word ascii
    rw [read_text_eq_word ascii spelled, and_iff_left rfl]
  rw [known "indent" (by simp), known "split" (by simp)]
  cases read : readText (quoted ++ (back ++ ':' :: (text ++ rest))) with
  | error fault =>
      have failed : nextKey first input = .error fault := by
        rw [opens, read]
        rfl
      rw [readMembers, failed]
      simp
  | ok pair =>
      obtain ⟨name, left⟩ := pair
      obtain ⟨rfl, _⟩ := read_text_units spelled read
      have found : nextKey first input = .ok (some name, back ++ ':' :: (text ++ rest)) := by
        rw [opens, read]
        rfl
      rw [read_members_found found, read_colon_mark gap]
      simp only [and_then_ok, read_indent_eq_ok element ends, read_policy_eq_ok element,
        Except.ok.injEq, Prod.mk.injEq, and_true, and_assoc, exists_and_left, exists_eq_left]

theorem fitting_nil {given result : Given} : Fitting given [] result ↔ result = given := by
  constructor
  · rintro ⟨_, indent, split⟩
    cases given
    cases result
    cases indent
    cases split
    rfl
  · rintro rfl
    exact ⟨by simp, rfl, rfl⟩

theorem fitting_cons {given result : Given} {key : List Nat} {value : Value}
    {members : List (List Nat × Value)} :
    Fitting given ((key, value) :: members) result ↔
      (key = units "indent" ∧ given.indent = none ∧ ∃ count, GivesIndent value count ∧
        Fitting { given with indent := some count } members result) ∨
      (key = units "split" ∧ given.split = none ∧ ∃ policy, value.Names policy ∧
        Fitting { given with split := some policy } members result) := by
  have different : units "indent" ≠ units "split" := by decide
  constructor
  · rintro ⟨known, indent, split⟩
    have others := fun member inside => known member (List.mem_cons_of_mem (key, value) inside)
    rcases known (key, value) (by simp) with rfl | rfl
    · rw [Fills, if_pos rfl] at indent
      rw [Fills, if_neg different] at split
      obtain ⟨vacant, count, gives, filled⟩ := indent
      exact .inl ⟨rfl, vacant, count, gives, others, filled, split⟩
    · rw [Fills, if_neg different.symm] at indent
      rw [Fills, if_pos rfl] at split
      obtain ⟨vacant, policy, gives, filled⟩ := split
      exact .inr ⟨rfl, vacant, policy, gives, others, indent, filled⟩
  · rintro (⟨rfl, vacant, count, gives, known, indent, split⟩ |
      ⟨rfl, vacant, policy, gives, known, indent, split⟩)
    · refine ⟨List.forall_mem_cons.mpr ⟨.inl rfl, known⟩, ?_, ?_⟩
      · rw [Fills, if_pos rfl]
        exact ⟨vacant, count, gives, indent⟩
      · rw [Fills, if_neg different]
        exact split
    · refine ⟨List.forall_mem_cons.mpr ⟨.inr rfl, known⟩, ?_, ?_⟩
      · rw [Fills, if_neg different.symm]
        exact indent
      · rw [Fills, if_pos rfl]
        exact ⟨vacant, policy, gives, split⟩

theorem read_members_behind {members : List (List Nat × Value)} {text : List Char}
    (behind : Behind (Member Written) '\x7d' members text) {given result : Given}
    {rest left : List Char} :
    readMembers given false (text ++ rest) = .ok (result, left) ↔
      Fitting given members result ∧ left = rest := by
  induction behind generalizing given with
  | close gap =>
      rw [List.append_assoc, List.singleton_append, read_members_close gap, fitting_nil]
      simp [eq_comm]
  | @more blanks _ others _ members gap part behind ih =>
      cases part with
      | @intro front back quoted text key value frontGap spelled backGap element =>
          have opens := next_key_later gap frontGap
            (quoted ++ (back ++ ':' :: (text ++ (others ++ rest))))
          simp only [List.append_assoc, List.cons_append]
          rw [read_members_member opens spelled backGap element (behind_ends behind rest),
            fitting_cons]
          simp only [ih, or_and_right, ← exists_and_right, and_assoc]

theorem read_members_inside {members : List (List Nat × Value)} {text : List Char}
    (inside : Inside (Member Written) '\x7d' members text) {given result : Given}
    {rest left : List Char} :
    readMembers given true (text ++ rest) = .ok (result, left) ↔
      Fitting given members result ∧ left = rest := by
  cases inside with
  | empty gap =>
      rw [List.append_assoc, List.singleton_append, read_members_close gap, fitting_nil]
      simp [eq_comm]
  | @filled _ others _ members part behind =>
      cases part with
      | @intro front back quoted text key value frontGap spelled backGap element =>
          have opens := next_key_first frontGap
            (quoted ++ (back ++ ':' :: (text ++ (others ++ rest))))
          simp only [List.append_assoc, List.cons_append]
          rw [read_members_member opens spelled backGap element (behind_ends behind rest),
            fitting_cons]
          simp only [read_members_behind behind, or_and_right, ← exists_and_right, and_assoc]

/-- A document that is an object is read exactly when its members are fitting. -/
theorem read_document_object {text : String} {members : List (List Nat × Value)}
    (object : IsObject text members) {given : Given} :
    readDocument text.toList = .ok given ↔ Fitting {} members given := by
  obtain ⟨front, _, back, frontGap, written, backGap, same⟩ := object
  cases written with
  | @object _ inner inside =>
      have opened : readSettings text.toList = readMembers {} true (inner ++ back) := by
        rw [same, List.append_assoc, readSettings, skip_blanks_gap frontGap]
        rfl
      rw [readDocument, opened]
      cases read : readMembers {} true (inner ++ back) with
      | error fault =>
          refine iff_of_false (by simp) ?_
          intro fitting
          rw [(read_members_inside inside).mpr ⟨fitting, rfl⟩] at read
          cases read
      | ok pair =>
          obtain ⟨found, left⟩ := pair
          obtain ⟨fitting, rfl⟩ := (read_members_inside inside).mp read
          dsimp only
          rw [skip_blanks_all backGap]
          constructor
          · intro done
            cases done
            exact fitting
          · intro other
            rw [(read_members_inside inside).mpr ⟨other, rfl⟩] at read
            cases read
            rfl

end Members

end TurtleLang.Document
