import TurtleLang.Document.Number
import TurtleLang.Document.Quoted
import TurtleLang.Proofs.DocumentGrammar
import TurtleLang.Proofs.LowerCase

/-!
Strings and numbers of a document, as they are read and as the grammar has them. A string that
is read names the units it is written with and is consumed to its closing quote; a string of
ASCII characters is always read, however they are escaped. A number is read as a whole number
without a sign exactly when it is written with digits alone and does not outgrow sixty-four
bits; digits, fraction and exponent of any other number are never mistaken for one.
-/
namespace TurtleLang.Document

set_option autoImplicit false

theorem and_then_ok {first second : Type} (value : first) (rest : List Char)
    (continuation : first → List Char → Reading second) :
    andThen (.ok (value, rest)) continuation = continuation value rest := rfl

theorem and_then_eq_ok {first second : Type} {reading : Reading first}
    {continuation : first → List Char → Reading second} {result : second × List Char} :
    andThen reading continuation = .ok result ↔
      ∃ value rest, reading = .ok (value, rest) ∧ continuation value rest = .ok result := by
  cases reading with
  | error fault => simp [andThen]
  | ok pair =>
      obtain ⟨value, rest⟩ := pair
      simp [andThen]

theorem read_quoted_close (rest : List Char) : readQuoted ('"' :: rest) = .ok ([], rest) := by
  rw [readQuoted]
  rfl

theorem read_quoted_plain {character : Char} (printable : 0x20 ≤ character.toNat)
    (noQuote : character ≠ '"') (noBackslash : character ≠ '\\') (rest : List Char) :
    readQuoted (character :: rest) =
      andThen (readQuoted rest) fun more left => .ok (character :: more, left) := by
  rw [readQuoted, if_neg noQuote, if_neg noBackslash, if_neg (by omega)]
  cases readQuoted rest <;> rfl

theorem read_quoted_escape (rest : List Char) :
    readQuoted ('\\' :: rest) =
      andThen (readEscape rest) fun first after =>
        andThen (readQuoted after) fun more left => .ok (first :: more, left) := by
  rw [readQuoted, if_neg (by decide), if_pos rfl]
  split
  · next failed =>
      rw [failed]
      rfl
  · next first after found =>
      dsimp only
      rw [found, and_then_ok]
      cases readQuoted after <;> rfl

theorem hex_digits_value : ∀ digit ∈ hexDigits, hexValue digit.1 = some digit.2 ∧ digit.2 < 16 := by
  decide

theorem escape_letters_named :
    ∀ pair ∈ escapeLetters, escapedBy pair.1 = some pair.2 ∧ pair.1 ≠ 'u' := by
  decide

theorem read_hex_digits {a b c d : Char} {first second third fourth : Nat}
    (one : (a, first) ∈ hexDigits) (two : (b, second) ∈ hexDigits) (three : (c, third) ∈ hexDigits)
    (four : (d, fourth) ∈ hexDigits) (rest : List Char) :
    readHex (a :: b :: c :: d :: rest) =
      .ok (((first * 16 + second) * 16 + third) * 16 + fourth, rest) := by
  have long : ¬byteLength (a :: b :: c :: d :: rest) < 4 := by
    have sizes := And.intro (Char.utf8Size_pos a) (And.intro (Char.utf8Size_pos b)
      (And.intro (Char.utf8Size_pos c) (Char.utf8Size_pos d)))
    simp only [byteLength]
    omega
  rw [readHex, if_neg long]
  simp only [(hex_digits_value _ one).1, (hex_digits_value _ two).1, (hex_digits_value _ three).1,
    (hex_digits_value _ four).1]

theorem four_digits_lt {a b c d : Char} {first second third fourth : Nat}
    (one : (a, first) ∈ hexDigits) (two : (b, second) ∈ hexDigits) (three : (c, third) ∈ hexDigits)
    (four : (d, fourth) ∈ hexDigits) :
    ((first * 16 + second) * 16 + third) * 16 + fourth < 0x10000 := by
  have firstSmall := (hex_digits_value _ one).2
  have secondSmall := (hex_digits_value _ two).2
  have thirdSmall := (hex_digits_value _ three).2
  have fourthSmall := (hex_digits_value _ four).2
  dsimp only at firstSmall secondSmall thirdSmall fourthSmall
  omega

theorem units_of_basic {unit : Nat} (small : unit < 0x10000)
    (notLow : isLowSurrogate unit = false) (notHigh : isHighSurrogate unit = false) :
    unitsOf (Char.ofNat unit) = [unit] := by
  have valid : unit.isValidChar := by
    simp only [isLowSurrogate, isHighSurrogate, Bool.and_eq_false_iff, decide_eq_false_iff_not]
      at notLow notHigh
    simp only [Nat.isValidChar]
    omega
  rw [unitsOf, Text.to_nat_of_nat valid, if_pos small]

theorem units_of_joined {high low : Nat} (isHigh : isHighSurrogate high = true)
    (isLow : isLowSurrogate low = true) : unitsOf (joinSurrogates high low) = [high, low] := by
  simp only [isLowSurrogate, isHighSurrogate, Bool.and_eq_true, decide_eq_true_eq] at isLow isHigh
  have valid : ((high - 0xD800) * 0x400 + (low - 0xDC00) + 0x10000).isValidChar := by
    simp only [Nat.isValidChar]
    omega
  have front : 0xD800 + ((high - 0xD800) * 0x400 + (low - 0xDC00) + 0x10000 - 0x10000) / 0x400 =
      high := by
    omega
  have back : 0xDC00 + ((high - 0xD800) * 0x400 + (low - 0xDC00) + 0x10000 - 0x10000) % 0x400 =
      low := by
    omega
  rw [unitsOf, joinSurrogates, Text.to_nat_of_nat valid, if_neg (by omega), front, back]

theorem read_partner_stray {mark : Char} (other : mark ≠ '\\') (high : Nat) (rest : List Char) :
    ∃ fault, readPartner high (mark :: rest) = .error fault := by
  cases rest with
  | nil => exact ⟨_, by rw [readPartner, if_pos other]⟩
  | cons letter rest => exact ⟨_, by rw [readPartner, if_pos other]⟩

/-- A first surrogate is read together with the sign behind it, which is the escape of a second
one. -/
theorem read_partner_units {high : Nat} (isHigh : isHighSurrogate high = true)
    {signs : List (List Char)} {pieces : List (List Nat)}
    (spelled : List.Forall₂ Sign signs pieces) {rest after : List Char} {character : Char}
    (read : readPartner high (signs.flatten ++ '"' :: rest) = .ok (character, after)) :
    ∃ later left, List.Forall₂ Sign later left ∧ later.length ≤ signs.length ∧
      after = later.flatten ++ '"' :: rest ∧
      high :: pieces.flatten = unitsOf character ++ left.flatten := by
  cases spelled with
  | nil =>
      obtain ⟨fault, failed⟩ := read_partner_stray (show '"' ≠ '\\' by decide) high rest
      cases failed.symm.trans read
  | @cons sign piece signs pieces stands spelled =>
      rw [List.flatten_cons, List.append_assoc] at read
      cases stands with
      | plain _ _ noBackslash =>
          obtain ⟨fault, failed⟩ :=
            read_partner_stray noBackslash high (signs.flatten ++ '"' :: rest)
          cases failed.symm.trans read
      | letter named =>
          obtain ⟨_, short⟩ := escape_letters_named _ named
          rw [List.cons_append, List.singleton_append, readPartner, if_neg (by decide),
            if_pos short] at read
          cases read
      | code one two three four =>
          simp only [List.cons_append, List.nil_append] at read
          rw [readPartner, if_neg (by decide), if_neg (by decide),
            read_hex_digits one two three four] at read
          dsimp only at read
          split at read
          · next isLow =>
              simp only [Except.ok.injEq, Prod.mk.injEq] at read
              obtain ⟨joined, consumed⟩ := read
              refine ⟨signs, pieces, spelled, Nat.le_succ _, consumed.symm, ?_⟩
              rw [← joined, units_of_joined isHigh isLow]
              rfl
          · cases read

/-- What an escape is read as has its units. What is left is the signs that are not used up. -/
theorem read_escape_units {sign : List Char} {piece : List Nat} {signs : List (List Char)}
    {pieces : List (List Nat)} (escape : Sign ('\\' :: sign) piece)
    (spelled : List.Forall₂ Sign signs pieces) {rest after : List Char} {character : Char}
    (read : readEscape (sign ++ (signs.flatten ++ '"' :: rest)) = .ok (character, after)) :
    ∃ later left, List.Forall₂ Sign later left ∧ later.length ≤ signs.length ∧
      after = later.flatten ++ '"' :: rest ∧
      piece ++ pieces.flatten = unitsOf character ++ left.flatten := by
  cases escape with
  | plain _ _ noBackslash => exact absurd rfl noBackslash
  | letter named =>
      obtain ⟨stands, short⟩ := escape_letters_named _ named
      rw [List.singleton_append, readEscape, if_neg short, stands] at read
      cases read
      exact ⟨signs, pieces, spelled, Nat.le_refl _, rfl, rfl⟩
  | code one two three four =>
      have small := four_digits_lt one two three four
      simp only [List.cons_append, List.nil_append] at read
      rw [readEscape, if_pos rfl, readCode, read_hex_digits one two three four] at read
      dsimp only at read
      split at read
      · cases read
      · next notLow =>
          split at read
          · next isHigh => exact read_partner_units isHigh spelled read
          · next notHigh =>
              cases read
              refine ⟨signs, pieces, spelled, Nat.le_refl _, rfl, ?_⟩
              rw [units_of_basic small (by simpa using notLow) (by simpa using notHigh)]

theorem read_quoted_units {signs : List (List Char)} {pieces : List (List Nat)}
    (spelled : List.Forall₂ Sign signs pieces) {rest characters left : List Char}
    (read : readQuoted (signs.flatten ++ '"' :: rest) = .ok (characters, left)) :
    left = rest ∧ characters.flatMap unitsOf = pieces.flatten := by
  -- By the number of signs, because an escape may use up two of them.
  induction count : signs.length using Nat.strongRecOn generalizing signs pieces
    characters with
  | ind count ih =>
      cases spelled with
      | nil =>
          rw [List.flatten_nil, List.nil_append, read_quoted_close] at read
          cases read
          exact ⟨rfl, rfl⟩
      | @cons sign piece signs pieces stands spelled =>
          rw [List.length_cons] at count
          rw [List.flatten_cons, List.append_assoc] at read
          by_cases escape : ∃ others, sign = '\\' :: others
          · obtain ⟨others, rfl⟩ := escape
            rw [List.cons_append, read_quoted_escape] at read
            obtain ⟨first, after, escaped, more⟩ := and_then_eq_ok.mp read
            obtain ⟨others, behind, readRest, same⟩ := and_then_eq_ok.mp more
            cases same
            obtain ⟨later, left, laterSpelled, fewer, rfl, named⟩ :=
              read_escape_units stands spelled escaped
            obtain ⟨consumed, rest⟩ := ih later.length (by omega) laterSpelled readRest rfl
            refine ⟨consumed, ?_⟩
            rw [List.flatMap_cons, rest, List.flatten_cons, named]
          · cases stands with
            | plain printable noQuote noBackslash =>
                rw [List.singleton_append, read_quoted_plain printable noQuote noBackslash] at read
                obtain ⟨more, behind, readRest, same⟩ := and_then_eq_ok.mp read
                cases same
                obtain ⟨consumed, rest⟩ := ih signs.length (by omega) spelled readRest rfl
                refine ⟨consumed, ?_⟩
                rw [List.flatMap_cons, rest, List.flatten_cons]
            | letter _ => exact absurd ⟨_, rfl⟩ escape
            | code _ _ _ _ => exact absurd ⟨_, rfl⟩ escape

theorem read_quoted_ascii {signs : List (List Char)} {pieces : List (List Nat)}
    (spelled : List.Forall₂ Sign signs pieces) (ascii : ∀ unit ∈ pieces.flatten, unit < 0x80)
    (rest : List Char) :
    ∃ characters, readQuoted (signs.flatten ++ '"' :: rest) = .ok (characters, rest) := by
  induction spelled with
  | nil => exact ⟨[], read_quoted_close rest⟩
  | @cons sign piece signs pieces stands spelled ih =>
      obtain ⟨characters, read⟩ :=
        ih fun unit member => ascii unit (List.mem_append_right piece member)
      rw [List.flatten_cons, List.append_assoc]
      cases stands with
      | @plain character printable noQuote noBackslash =>
          refine ⟨character :: characters, ?_⟩
          rw [List.singleton_append, read_quoted_plain printable noQuote noBackslash, read,
            and_then_ok]
      | @letter letter character named =>
          obtain ⟨known, short⟩ := escape_letters_named _ named
          refine ⟨character :: characters, ?_⟩
          rw [List.cons_append, List.singleton_append, read_quoted_escape, readEscape,
            if_neg short, known]
          dsimp only
          rw [and_then_ok, read, and_then_ok]
      | @code a b c d first second third fourth one two three four =>
          have small := ascii (((first * 16 + second) * 16 + third) * 16 + fourth) (by simp)
          have notLow :
              ¬isLowSurrogate (((first * 16 + second) * 16 + third) * 16 + fourth) = true := by
            simp only [isLowSurrogate, Bool.and_eq_true, decide_eq_true_eq]
            omega
          have notHigh :
              ¬isHighSurrogate (((first * 16 + second) * 16 + third) * 16 + fourth) = true := by
            simp only [isHighSurrogate, Bool.and_eq_true, decide_eq_true_eq]
            omega
          refine ⟨Char.ofNat (((first * 16 + second) * 16 + third) * 16 + fourth) :: characters, ?_⟩
          simp only [List.cons_append, List.nil_append]
          rw [read_quoted_escape, readEscape, if_pos rfl, readCode,
            read_hex_digits one two three four]
          dsimp only
          rw [if_neg notLow, if_neg notHigh, and_then_ok, read, and_then_ok]

theorem units_of_ne_nil (character : Char) : unitsOf character ≠ [] := by
  unfold unitsOf
  split <;> simp

theorem eq_of_units_ascii {word characters : List Char}
    (ascii : ∀ character ∈ word, character.toNat < 0x80)
    (same : characters.flatMap unitsOf = word.flatMap unitsOf) : characters = word := by
  induction word generalizing characters with
  | nil =>
      cases characters with
      | nil => rfl
      | cons character characters =>
          rw [List.flatMap_cons, List.flatMap_nil, List.append_eq_nil_iff] at same
          exact absurd same.1 (units_of_ne_nil character)
  | cons letter word ih =>
      have small : letter.toNat < 0x80 := ascii letter (by simp)
      have alone : unitsOf letter = [letter.toNat] := by
        rw [unitsOf, if_pos (by omega)]
      rw [List.flatMap_cons, alone, List.singleton_append] at same
      cases characters with
      | nil => cases same
      | cons character characters =>
          rw [List.flatMap_cons, unitsOf] at same
          split at same
          · obtain ⟨first, others⟩ := List.cons.inj same
            rw [Char.toNat_inj.mp first,
              ih (fun other member => ascii other (List.mem_cons_of_mem letter member)) others]
          · have first := (List.cons.inj same).1
            omega

theorem read_text_units {key : List Nat} {quoted : List Char} (spelled : Quoted key quoted)
    {rest left : List Char} {name : String}
    (read : readText (quoted ++ rest) = .ok (name, left)) : left = rest ∧ units name = key := by
  cases spelled with
  | intro stand =>
      rw [List.append_assoc, List.singleton_append] at read
      unfold readText at read
      split at read
      · cases read
      · next found =>
          cases read
          rw [units, String.toList_ofList]
          exact read_quoted_units stand found

theorem read_text_ascii {word : String} (ascii : ∀ character ∈ word.toList, character.toNat < 0x80)
    {quoted : List Char} (spelled : Quoted (units word) quoted) (rest : List Char) :
    readText (quoted ++ rest) = .ok (word, rest) := by
  have small : ∀ unit ∈ units word, unit < 0x80 := by
    intro unit member
    obtain ⟨character, inside, listed⟩ := List.mem_flatMap.mp member
    have bound := ascii character inside
    rw [unitsOf, if_pos (by omega), List.mem_singleton] at listed
    omega
  generalize named : units word = key at spelled
  rw [named] at small
  cases spelled with
  | intro stand =>
      obtain ⟨characters, read⟩ := read_quoted_ascii stand small rest
      have same := (read_quoted_units stand read).2
      rw [← named, units] at same
      rw [List.append_assoc, List.singleton_append, readText, read]
      dsimp only
      rw [eq_of_units_ascii ascii same, String.ofList_toList]

def Numeral.Counts (numeral : Numeral) (value : Nat) : Prop :=
  numeral.minus = false ∧ numeral.fraction = [] ∧ numeral.exponent = [] ∧
    Nat.ofDigitChars 10 numeral.whole 0 = value

/-- What may follow a number: no digit, and nothing that would continue it. -/
def EndsNumber (rest : List Char) : Prop :=
  ∀ character ∈ rest.head?, character.isDigit = false ∧ character ≠ '.' ∧ character ≠ 'e' ∧
    character ≠ 'E'

theorem le_of_digit_chars (digits : List Char) (value : Nat) :
    value ≤ Nat.ofDigitChars 10 digits value := by
  induction digits generalizing value with
  | nil => exact Nat.le_refl value
  | cons digit digits ih =>
      rw [Nat.ofDigitChars_cons]
      exact Nat.le_trans (by omega) (ih _)

theorem gather_step (value : Nat) (digit : Char) :
    value * 10 + (digit.toNat - 48) = 10 * value + (digit.toNat - '0'.toNat) := by
  rw [Nat.mul_comm]
  rfl

/-- All digits are taken exactly when the number they count is within the limit. -/
theorem gather_all_iff {limit value : Nat} (within : value ≤ limit) (digits : List Char) :
    (gather limit value digits).2 = [] ↔ Nat.ofDigitChars 10 digits value ≤ limit := by
  induction digits generalizing value with
  | nil => exact iff_of_true rfl within
  | cons digit digits ih =>
      rw [gather, gather_step, Nat.ofDigitChars_cons]
      split
      · next beyond =>
          have grown := le_of_digit_chars digits (10 * value + (digit.toNat - '0'.toNat))
          exact iff_of_false (List.cons_ne_nil digit digits) (by omega)
      · next fits => exact ih (by omega)

theorem gather_of_all {limit value : Nat} {digits : List Char}
    (all : (gather limit value digits).2 = []) :
    (gather limit value digits).1 = Nat.ofDigitChars 10 digits value := by
  induction digits generalizing value with
  | nil => rfl
  | cons digit digits ih =>
      rw [gather] at all ⊢
      split at all
      · cases all
      · next fits => rw [if_neg fits, ih all, gather_step, Nat.ofDigitChars_cons]

def NeverNatural (reading : Reading Number) : Prop :=
  ∀ value rest, reading ≠ .ok (.natural value, rest)

theorem finish_decimal_never_natural (signed : Bool) (significand : Nat) (exponent : Int)
    (rest : List Char) : NeverNatural (finishDecimal signed significand exponent rest) := by
  intro value left read
  unfold finishDecimal at read
  split at read <;> cases read

theorem read_exponent_never_natural (signed : Bool) (significand : Nat) (shift : Int)
    (input : List Char) : NeverNatural (readExponent signed significand shift input) := by
  intro value left read
  unfold readExponent at read
  dsimp only at read
  split at read
  · split at read <;> cases read
  · split at read
    · exact finish_decimal_never_natural _ _ _ _ value left read
    · split at read <;> cases read

theorem read_scale_never_natural (signed : Bool) (significand : Nat) (shift : Int)
    (input : List Char) : NeverNatural (readScale signed significand shift input) := by
  intro value left read
  unfold readScale at read
  split at read
  · exact read_exponent_never_natural _ _ _ _ value left read
  · exact read_exponent_never_natural _ _ _ _ value left read
  · exact finish_decimal_never_natural _ _ _ _ value left read

theorem read_fraction_never_natural (signed : Bool) (significand : Nat) (shift : Int)
    (input : List Char) : NeverNatural (readFraction signed significand shift input) := by
  intro value left read
  unfold readFraction at read
  dsimp only at read
  split at read
  · split at read <;> cases read
  · exact read_scale_never_natural _ _ _ _ value left read

/-- Behind the digits, a whole number is read where no sign stood in front of them, all of them
fitted, and nothing continues the number. -/
theorem read_tail_natural {signed : Bool} {significand excess value : Nat} {input left : List Char}
    (read : readTail signed significand excess input = .ok (.natural value, left)) :
    signed = false ∧ excess = 0 ∧ value = significand ∧ left = input ∧
      ∀ character ∈ input.head?, character ≠ '.' ∧ character ≠ 'e' ∧ character ≠ 'E' := by
  unfold readTail at read
  split at read
  · exact absurd read (read_fraction_never_natural _ _ _ _ value left)
  · exact absurd read (read_exponent_never_natural _ _ _ _ value left)
  · exact absurd read (read_exponent_never_natural _ _ _ _ value left)
  · next noPoint noMark noCapital =>
      split at read
      · next fitted =>
          unfold finishWhole at read
          split at read
          · next unsigned =>
              cases read
              refine ⟨unsigned, fitted, rfl, rfl, ?_⟩
              intro character first
              obtain ⟨behind, rfl⟩ := List.head?_eq_some_iff.mp first
              refine ⟨?_, ?_, ?_⟩
              · rintro rfl
                exact noPoint behind rfl
              · rintro rfl
                exact noMark behind rfl
              · rintro rfl
                exact noCapital behind rfl
          · split at read <;> cases read
      · exact absurd read (finish_decimal_never_natural _ _ _ _ value left)

theorem read_tail_plain {rest : List Char} (ends : EndsNumber rest) (significand : Nat) :
    readTail false significand 0 rest = .ok (.natural significand, rest) := by
  have continues : ∀ {mark : Char} {behind : List Char}, rest = mark :: behind →
      mark ≠ '.' ∧ mark ≠ 'e' ∧ mark ≠ 'E' := by
    rintro mark behind rfl
    exact (ends mark rfl).2
  rw [readTail.eq_4 _ _ _ _ (fun behind same => (continues same).1 rfl)
    (fun behind same => (continues same).2.1 rfl) (fun behind same => (continues same).2.2 rfl),
    if_pos rfl]
  rfl

theorem is_digit_of_is_whole {whole : List Char} (form : Numeral.IsWhole whole) :
    ∀ character ∈ whole, character.isDigit = true := by
  rcases form with rfl | ⟨digits, _⟩
  · simp [Char.isDigit]
  · exact digits.2

theorem read_number_whole {whole tail : List Char} (form : Numeral.IsWhole whole)
    (ends : ∀ character ∈ tail.head?, character.isDigit = false) (signed : Bool) :
    ∃ significand excess,
      readNumber signed (whole ++ tail) = readTail signed significand excess tail ∧
      (excess = 0 ↔ Nat.ofDigitChars 10 whole 0 ≤ greatestSignificand) ∧
      (excess = 0 → significand = Nat.ofDigitChars 10 whole 0) := by
  have digits := is_digit_of_is_whole form
  have stops : tail.takeWhile Char.isDigit = [] ∧ tail.dropWhile Char.isDigit = tail := by
    cases tail with
    | nil => exact ⟨rfl, rfl⟩
    | cons character tail =>
        have other := ends character rfl
        exact ⟨List.takeWhile_cons_of_neg (by simp [other]),
          List.dropWhile_cons_of_neg (by simp [other])⟩
  have front : (whole ++ tail).takeWhile Char.isDigit = whole := by
    rw [List.takeWhile_append_of_pos digits, stops.1, List.append_nil]
  have back : (whole ++ tail).dropWhile Char.isDigit = tail := by
    rw [List.dropWhile_append_of_pos digits, stops.2]
  rw [readNumber, front, back]
  rcases form with rfl | ⟨⟨filled, _⟩, noZero⟩
  · exact ⟨0, 0, rfl, iff_of_true rfl (Nat.zero_le _), fun _ => rfl⟩
  · split
    · exact absurd rfl filled
    · exact absurd rfl noZero
    · refine ⟨(gather greatestSignificand 0 whole).1,
        (gather greatestSignificand 0 whole).2.length, rfl, ?_, ?_⟩
      · rw [List.length_eq_zero_iff, gather_all_iff (Nat.zero_le _)]
      · intro none
        exact gather_of_all (List.length_eq_zero_iff.mp none)

theorem tail_cases {numeral : Numeral} (wellFormed : numeral.WellFormed) (rest : List Char) :
    (numeral.fraction = [] ∧ numeral.exponent = []) ∨
      ∃ mark behind, numeral.fraction ++ numeral.exponent ++ rest = mark :: behind ∧
        mark.isDigit = false ∧ (mark = '.' ∨ mark = 'e' ∨ mark = 'E') := by
  obtain ⟨minus, whole, fraction, exponent⟩ := numeral
  obtain ⟨_, fractionForm, exponentForm⟩ := wellFormed
  dsimp only at fractionForm exponentForm ⊢
  rcases fractionForm with rfl | fractionForm
  · rcases exponentForm with rfl | exponentForm
    · exact .inl ⟨rfl, rfl⟩
    · cases exponentForm with
      | intro marked _ _ =>
          rcases marked with rfl | rfl
          · exact .inr ⟨'e', _, rfl, rfl, by simp⟩
          · exact .inr ⟨'E', _, rfl, rfl, by simp⟩
  · cases fractionForm with
    | intro _ => exact .inr ⟨'.', _, rfl, rfl, by simp⟩

theorem tail_ends {numeral : Numeral} (wellFormed : numeral.WellFormed) {rest : List Char}
    (ends : EndsNumber rest) :
    ∀ character ∈ (numeral.fraction ++ numeral.exponent ++ rest).head?,
      character.isDigit = false := by
  rcases tail_cases wellFormed rest with ⟨noFraction, noExponent⟩ | ⟨mark, behind, split, other, _⟩
  · rw [noFraction, noExponent, List.nil_append, List.nil_append]
    exact fun character first => (ends character first).1
  · rw [split]
    intro character first
    cases first
    exact other

/-- A number is read as a whole number without a sign exactly when it is written as one and is
within the limit. -/
theorem read_number_eq_natural {numeral : Numeral} (wellFormed : numeral.WellFormed)
    {rest left : List Char} (ends : EndsNumber rest) {value : Nat} :
    readNumber numeral.minus (numeral.whole ++ (numeral.fraction ++ numeral.exponent ++ rest)) =
        .ok (.natural value, left) ↔
      numeral.Counts value ∧ value ≤ greatestSignificand ∧ left = rest := by
  obtain ⟨significand, excess, counted, fits, total⟩ :=
    read_number_whole wellFormed.whole (tail_ends wellFormed ends) numeral.minus
  rw [counted]
  constructor
  · intro read
    obtain ⟨unsigned, fitted, rfl, consumed, ended⟩ := read_tail_natural read
    have bound := fits.mp fitted
    rw [← total fitted] at bound
    rcases tail_cases wellFormed rest with
      ⟨noFraction, noExponent⟩ | ⟨mark, behind, split, _, marked⟩
    · rw [noFraction, noExponent, List.nil_append, List.nil_append] at consumed
      exact ⟨⟨unsigned, noFraction, noExponent, (total fitted).symm⟩, bound, consumed⟩
    · rw [split] at ended
      obtain ⟨noPoint, noMark, noCapital⟩ := ended mark rfl
      rcases marked with same | same | same
      · exact absurd same noPoint
      · exact absurd same noMark
      · exact absurd same noCapital
  · rintro ⟨⟨unsigned, noFraction, noExponent, rfl⟩, bound, rfl⟩
    have fitted := fits.mpr bound
    rw [unsigned, fitted, total fitted, noFraction, noExponent, List.nil_append, List.nil_append]
    exact read_tail_plain ends _

end TurtleLang.Document
