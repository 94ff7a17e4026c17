import TurtleLang.Document

/-!
Reading the text between double quotes. A backslash starts an escape; a
character beyond the basic plane is escaped as a pair of surrogates, and a
surrogate without its partner is refused.
-/
namespace TurtleLang.Document

def hexValue (character : Char) : Option Nat :=
  let code := character.toNat
  if 48 ≤ code ∧ code ≤ 57 then some (code - 48)
  else if 65 ≤ code ∧ code ≤ 70 then some (code - 55)
  else if 97 ≤ code ∧ code ≤ 102 then some (code - 87)
  else none

/-- Reads four hexadecimal digits. Four bytes are taken before they are looked
at. -/
def readHex (input : List Char) : Reading Nat :=
  if byteLength input < 4 then .error (.before .endInText [])
  else
    match input with
    | a :: b :: c :: d :: rest =>
        match hexValue a, hexValue b, hexValue c, hexValue d with
        | some a, some b, some c, some d => .ok (((a * 16 + b) * 16 + c) * 16 + d, rest)
        | _, _, _, _ => .error ⟨.invalidEscape, byteLength input - 4⟩
    | _ => .error ⟨.invalidEscape, byteLength input - 4⟩

def isLowSurrogate (unit : Nat) : Bool :=
  0xDC00 ≤ unit && unit ≤ 0xDFFF

def isHighSurrogate (unit : Nat) : Bool :=
  0xD800 ≤ unit && unit ≤ 0xDBFF

def joinSurrogates (high low : Nat) : Char :=
  Char.ofNat ((high - 0xD800) * 0x400 + (low - 0xDC00) + 0x10000)

/-- Reads the second unit of a surrogate pair whose first one is `high`. -/
def readPartner (high : Nat) : List Char → Reading Char
  | [] => .error (.before .endInText [])
  | mark :: rest =>
      if mark ≠ '\\' then .error (.inside .surrogateCutOff (mark :: rest))
      else
        match rest with
        | [] => .error (.before .endInText [])
        | letter :: digits =>
            if letter ≠ 'u' then .error (.inside .surrogateCutOff (letter :: digits))
            else
              match readHex digits with
              | .error fault => .error fault
              | .ok (low, after) =>
                  if isLowSurrogate low then
                    .ok (joinSurrogates high low, after)
                  else .error (.before .surrogateAlone after)

def readCode (input : List Char) : Reading Char :=
  match readHex input with
  | .error fault => .error fault
  | .ok (unit, rest) =>
      if isLowSurrogate unit then .error (.before .surrogateAlone rest)
      else if isHighSurrogate unit then readPartner unit rest
      else .ok (Char.ofNat unit, rest)

def escapedBy (letter : Char) : Option Char :=
  if letter = '"' ∨ letter = '\\' ∨ letter = '/' then some letter
  else if letter = 'b' then some '\x08'
  else if letter = 'f' then some '\x0c'
  else if letter = 'n' then some '\n'
  else if letter = 'r' then some '\r'
  else if letter = 't' then some '\t'
  else none

def readEscape : List Char → Reading Char
  | [] => .error (.before .endInText [])
  | letter :: rest =>
      if letter = 'u' then readCode rest
      else
        match escapedBy letter with
        | some character => .ok (character, rest)
        | none => .error (.inside .invalidEscape (letter :: rest))

theorem read_hex_rest_length {input rest : List Char} {unit : Nat}
    (read : readHex input = .ok (unit, rest)) : rest.length < input.length := by
  unfold readHex at read
  split at read
  · cases read
  · split at read
    · split at read
      · cases read
        simp only [List.length_cons]
        omega
      · cases read
    · cases read

theorem read_partner_rest_length {high : Nat} {input rest : List Char} {character : Char}
    (read : readPartner high input = .ok (character, rest)) : rest.length < input.length := by
  unfold readPartner at read
  split at read
  · cases read
  · split at read
    · cases read
    · split at read
      · cases read
      · split at read
        · cases read
        · split at read
          · cases read
          · next digits =>
              have shorter := read_hex_rest_length digits
              split at read
              · simp only [Except.ok.injEq, Prod.mk.injEq] at read
                rw [← read.2]
                simp only [List.length_cons]
                omega
              · cases read

theorem read_code_rest_length {input rest : List Char} {character : Char}
    (read : readCode input = .ok (character, rest)) : rest.length < input.length := by
  unfold readCode at read
  split at read
  · cases read
  · next digits =>
      have shorter := read_hex_rest_length digits
      split at read
      · cases read
      · split at read
        · exact Nat.lt_trans (read_partner_rest_length read) shorter
        · simp only [Except.ok.injEq, Prod.mk.injEq] at read
          exact read.2 ▸ shorter

theorem read_escape_rest_length {input rest : List Char} {character : Char}
    (read : readEscape input = .ok (character, rest)) : rest.length < input.length := by
  unfold readEscape at read
  split at read
  · cases read
  · split at read
    · exact Nat.lt_succ_of_lt (read_code_rest_length read)
    · split at read
      · cases read
        exact Nat.lt_succ_self _
      · cases read

def readQuoted (input : List Char) : Reading (List Char) :=
  match input with
  | [] => .error (.before .endInText [])
  | character :: rest =>
      if character = '"' then .ok ([], rest)
      else if character = '\\' then
        match escaped : readEscape rest with
        | .error fault => .error fault
        | .ok (first, after) =>
            have : after.length < rest.length := read_escape_rest_length escaped
            match readQuoted after with
            | .error fault => .error fault
            | .ok (more, left) => .ok (first :: more, left)
      else if character.toNat < 0x20 then .error (.before .controlCharacter rest)
      else
        match readQuoted rest with
        | .error fault => .error fault
        | .ok (more, left) => .ok (character :: more, left)
termination_by input.length
decreasing_by all_goals simp only [List.length_cons]; omega

def readText (input : List Char) : Reading String :=
  match readQuoted input with
  | .error fault => .error fault
  | .ok (characters, rest) => .ok (String.ofList characters, rest)

end TurtleLang.Document
