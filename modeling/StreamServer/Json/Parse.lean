import StreamServer.Json.Value

/-! # Parsing JSON text

`json::parse` reads one value and then requires the end of the input. Its lexer skips a byte
order mark at the start and blanks between tokens, reads a NUL character as the end of the
input, and reports `parse_error` at the first character no token starts with or continues
(`StreamServer.Json.scanToken`); its parser, `sax_parse_internal`, keeps a stack of the
containers it has open (`StreamServer.Json.parseValue`). The tokens are read with fuel, which
the length of the text always makes enough (`StreamServer.Json.tokenize_enough`).
-/

namespace StreamServer

namespace Json

/-- A token of `lexer::scan`. -/
inductive Token
  | beginArray
  | beginObject
  | endArray
  | endObject
  | nameSeparator
  | valueSeparator
  | literalTrue
  | literalFalse
  | literalNull
  | valueString (value : List Char)
  | valueUnsigned (value : Nat)
  | valueInteger (value : Int)
  | valueFloat (literal : List Char)
  | parseError
  | endOfInput
deriving DecidableEq, Repr

/-! ## The lexer -/

/-- `skip_whitespace`. -/
def skipWhitespace : List Char → List Char
  | [] => []
  | c :: rest =>
      if c = ' ' ∨ c = '\t' ∨ c = '\n' ∨ c = '\r' then skipWhitespace rest else c :: rest

/-- `skip_bom`: a byte order mark at the start of the input is dropped. -/
def skipBom : List Char → List Char
  | [] => []
  | c :: rest => if c = '\uFEFF' then rest else c :: rest

def isDigit (c : Char) : Bool :=
  '0' ≤ c && c ≤ '9'

/-- The value of a hex digit, as `get_codepoint` reads it. -/
def hexValue (c : Char) : Option Nat :=
  if '0' ≤ c && c ≤ '9' then some (c.toNat - '0'.toNat)
  else if 'A' ≤ c && c ≤ 'F' then some (c.toNat - 'A'.toNat + 10)
  else if 'a' ≤ c && c ≤ 'f' then some (c.toNat - 'a'.toNat + 10)
  else none

/-- Prepends a character to a scanned string. -/
def pushChar (c : Char) : Option (List Char × List Char) → Option (List Char × List Char) :=
  Option.map fun scanned => (c :: scanned.1, scanned.2)

/-- The character of a one-character escape: `\"`, `\\`, `\/`, `\b`, `\f`, `\n`, `\r` or `\t`. -/
def escapedChar (e : Char) : Option Char :=
  if e = '"' then some '"'
  else if e = '\\' then some '\\'
  else if e = '/' then some '/'
  else if e = 'b' then some '\x08'
  else if e = 'f' then some '\x0c'
  else if e = 'n' then some '\n'
  else if e = 'r' then some '\r'
  else if e = 't' then some '\t'
  else none

/-- Where `scan_string` is: in the text, after a backslash, among the four hex digits of a
`\u` escape (after a high surrogate when `high` is set), or expecting the `\u` of the low
surrogate that must follow a high one. -/
inductive StringState
  | text
  | escape
  | hex (high : Option Nat) (value count : Nat)
  | lowBackslash (high : Nat)
  | lowU (high : Nat)

/-- What `scan_string` does with one character. -/
inductive StringStep
  /-- The closing quote. -/
  | close
  /-- `parse_error`. -/
  | fail
  /-- On to `state`, adding `out` to the string when it is set. -/
  | next (state : StringState) (out : Option Char)

/-- One character of `scan_string`. -/
def stringStep : StringState → Char → StringStep
  | .text, c =>
      if c = '"' then .close
      else if c = '\\' then .next .escape none
      else if c.toNat < 0x20 then .fail
      else .next .text (some c)
  | .escape, e =>
      if e = 'u' then .next (.hex none 0 0) none
      else
        match escapedChar e with
        | some escaped => .next .text (some escaped)
        | none => .fail
  | .hex high value count, c =>
      match hexValue c, high with
      | none, _ => .fail
      | some digit, none =>
          let code := value * 16 + digit
          if count < 3 then .next (.hex none code (count + 1)) none
          else if code < 0xD800 ∨ 0xDFFF < code then .next .text (some (Char.ofNat code))
          else if 0xDBFF < code then .fail
          else .next (.lowBackslash code) none
      | some digit, some high =>
          let low := value * 16 + digit
          if count < 3 then .next (.hex (some high) low (count + 1)) none
          else if 0xDC00 ≤ low ∧ low ≤ 0xDFFF then
            .next .text (some (Char.ofNat (0x10000 + (high - 0xD800) * 0x400 + (low - 0xDC00))))
          else .fail
  | .lowBackslash high, c => if c = '\\' then .next (.lowU high) none else .fail
  | .lowU high, c => if c = 'u' then .next (.hex (some high) 0 0) none else .fail

/-- `scan_string` from a state: the string read, and the input after the closing quote; `none`
where it reports `parse_error`. -/
def scanFrom : StringState → List Char → Option (List Char × List Char)
  | _, [] => none
  | state, c :: rest =>
      match stringStep state c with
      | .close => some ([], rest)
      | .fail => none
      | .next next none => scanFrom next rest
      | .next next (some out) => pushChar out (scanFrom next rest)

/-- `scan_string` after the opening quote. -/
def scanString (input : List Char) : Option (List Char × List Char) :=
  scanFrom .text input

example : scanString "a\\u00e9\\ud83d\\ude00\"x".toList = some (['a', 'é', '😀'], ['x']) := by
  decide

/-- The value of a run of decimal digits. -/
def digitsValue (digits : List Char) : Nat :=
  digits.foldl (fun value c => 10 * value + (c.toNat - '0'.toNat)) 0

/-- The digits, optionally signed, of an exponent. -/
def exponentValue : List Char → Int
  | '+' :: digits => digitsValue digits
  | '-' :: digits => -(digitsValue digits : Int)
  | digits => digitsValue digits

/-- A run of one digit or more. -/
def scanDigits (input : List Char) : Option (List Char × List Char) :=
  match input.takeWhile isDigit with
  | [] => none
  | digits => some (digits, input.dropWhile isDigit)

/-- The integer part of a number: `0`, or a digit from `1` to `9` and the digits after it. -/
def scanWhole : List Char → Option (List Char × List Char)
  | [] => none
  | c :: rest =>
      if c = '0' then some (['0'], rest)
      else if '1' ≤ c && c ≤ '9' then some (c :: rest.takeWhile isDigit, rest.dropWhile isDigit)
      else none

/-- The fraction of a number: nothing, or `.` and digits. -/
def scanFraction : List Char → Option (List Char × List Char)
  | [] => some ([], [])
  | c :: rest =>
      if c = '.' then (scanDigits rest).map fun run => ('.' :: run.1, run.2)
      else some ([], c :: rest)

/-- The exponent of a number: nothing, or `e` or `E`, a sign if any, and digits. -/
def scanExponent : List Char → Option (List Char × List Char)
  | [] => some ([], [])
  | e :: rest =>
      if e = 'e' ∨ e = 'E' then
        match rest with
        | sign :: digits =>
            if sign = '+' ∨ sign = '-' then (scanDigits digits).map fun run => (e :: sign :: run.1, run.2)
            else (scanDigits rest).map fun run => (e :: run.1, run.2)
        | [] => none
      else some ([], e :: rest)

/-- `scan_number` from its first character: the literal and the input after it; `none` where
it reports `parse_error` (no digit after `-`, after `.`, or in the exponent). -/
def scanNumber (input : List Char) : Option (List Char × List Char) :=
  let negative := input.head? = some '-'
  (scanWhole (if negative then input.tail else input)).bind fun whole =>
    (scanFraction whole.2).bind fun fraction =>
      (scanExponent fraction.2).map fun exponent =>
        ((if negative then ['-'] else []) ++ whole.1 ++ fraction.1 ++ exponent.1, exponent.2)

/-- Whether `strtod` reads a literal as a finite `double`: rounding to nearest gives infinity
from `2 ^ 1024 - 2 ^ 970` on. -/
def floatFinite (literal : List Char) : Bool :=
  let unsigned := match literal with
    | '-' :: rest => rest
    | _ => literal
  let whole := unsigned.takeWhile isDigit
  let (fraction, afterFraction) := match unsigned.dropWhile isDigit with
    | '.' :: rest => (rest.takeWhile isDigit, rest.dropWhile isDigit)
    | afterWhole => ([], afterWhole)
  let exponent : Int := match afterFraction with
    | _ :: rest => exponentValue rest
    | [] => 0
  let mantissa := digitsValue (whole ++ fraction)
  let scale := exponent - fraction.length
  if 0 ≤ scale then mantissa * 10 ^ scale.toNat < 2 ^ 1024 - 2 ^ 970
  else mantissa < (2 ^ 1024 - 2 ^ 970) * 10 ^ (-scale).toNat

/-- The token of a number literal: an integer literal that `strtoull` (unsigned) or `strtoll`
(negative) reads without overflow is an integer, any other is `value_float`. -/
def numberToken (literal : List Char) : Token :=
  if literal.any fun c => c = '.' ∨ c = 'e' ∨ c = 'E' then .valueFloat literal
  else
    match literal with
    | '-' :: digits =>
        if digitsValue digits ≤ 2 ^ 63 then .valueInteger (-(digitsValue digits : Int))
        else .valueFloat literal
    | digits =>
        if digitsValue digits < 2 ^ 64 then .valueUnsigned (digitsValue digits)
        else .valueFloat literal

/-- `scan_literal`: the rest of `true`, `false` or `null`. -/
def scanLiteral (expected : List Char) (token : Token) (input : List Char) : Token × List Char :=
  if expected.isPrefixOf input then (token, input.drop expected.length) else (.parseError, [])

/-- The case of `lexer::scan`'s `switch` on the first character of a token. -/
inductive TokenStart
  | endOfInput
  | structural (token : Token)
  /-- The first letter of `true`, `false` or `null`, with the letters that must follow. -/
  | literal (expected : List Char) (token : Token)
  | string
  | number
  | invalid

/-- `lexer::scan`'s `switch`: a NUL character ends the input like its end does. -/
def tokenStart (c : Char) : TokenStart :=
  if c = '\x00' then .endOfInput
  else if c = '[' then .structural .beginArray
  else if c = ']' then .structural .endArray
  else if c = '{' then .structural .beginObject
  else if c = '}' then .structural .endObject
  else if c = ':' then .structural .nameSeparator
  else if c = ',' then .structural .valueSeparator
  else if c = 't' then .literal "rue".toList .literalTrue
  else if c = 'f' then .literal "alse".toList .literalFalse
  else if c = 'n' then .literal "ull".toList .literalNull
  else if c = '"' then .string
  else if c = '-' ∨ isDigit c then .number
  else .invalid

/-- One token of `lexer::scan` at a character that is not blank, and the input after it. -/
def scanToken : List Char → Token × List Char
  | [] => (.endOfInput, [])
  | c :: rest =>
      match tokenStart c with
      | .endOfInput => (.endOfInput, [])
      | .structural token => (token, rest)
      | .literal expected token => scanLiteral expected token rest
      | .string =>
          match scanString rest with
          | some (value, after) => (.valueString value, after)
          | none => (.parseError, [])
      | .number =>
          match scanNumber (c :: rest) with
          | some (literal, after) => (numberToken literal, after)
          | none => (.parseError, [])
      | .invalid => (.parseError, [])

/-- The tokens up to the end of the input or the first `parse_error`, with fuel. -/
def tokenize : Nat → List Char → List Token
  | 0, _ => [.parseError]
  | fuel + 1, input =>
      match scanToken (skipWhitespace input) with
      | (.endOfInput, _) => [.endOfInput]
      | (.parseError, _) => [.parseError]
      | (token, rest) => token :: tokenize fuel rest

/-- The tokens of a text: each token takes at least one character, so its length is enough
fuel. -/
def tokens (input : List Char) : List Token :=
  tokenize (input.length + 1) input

/-! ## Every token takes a character -/

theorem pushChar_eq_some {c : Char} {scanned : Option (List Char × List Char)}
    {value after : List Char} (pushed : pushChar c scanned = some (value, after)) :
    ∃ rest, scanned = some (rest, after) ∧ value = c :: rest := by
  cases scanned with
  | none => cases pushed
  | some scanned => cases pushed; exact ⟨scanned.1, rfl, rfl⟩

/-- `scan_string` stops after the quote that closes the string. -/
theorem scanFrom_shorter {after : List Char} :
    ∀ {state : StringState} {input value : List Char},
      scanFrom state input = some (value, after) → after.length < input.length
  | _, [], _, scanned => nomatch scanned
  | state, c :: rest, value, scanned => by
      unfold scanFrom at scanned
      split at scanned
      · cases scanned; simp
      · cases scanned
      · exact Nat.lt_succ_of_lt (scanFrom_shorter scanned)
      · obtain ⟨_, scannedRest, -⟩ := pushChar_eq_some scanned
        exact Nat.lt_succ_of_lt (scanFrom_shorter scannedRest)

theorem stringStep_plain {c : Char} (plain : plainChar c = true) :
    stringStep .text c = .next .text (some c) := by
  simp only [plainChar, Bool.and_eq_true, decide_eq_true_eq] at plain
  simp only [stringStep, plain.1.1, plain.1.2, if_false]
  rw [if_neg (by omega)]

theorem skipWhitespace_suffix : ∀ input : List Char, skipWhitespace input <:+ input
  | [] => List.suffix_refl _
  | c :: rest => by
      rw [skipWhitespace]
      split
      · exact (skipWhitespace_suffix rest).trans (List.suffix_cons c rest)
      · exact List.suffix_refl _

theorem scanDigits_suffix {input digits after : List Char}
    (scanned : scanDigits input = some (digits, after)) : after <:+ input := by
  unfold scanDigits at scanned
  split at scanned
  · cases scanned
  · cases scanned; exact List.dropWhile_suffix _

theorem scanWhole_shorter {input whole after : List Char}
    (scanned : scanWhole input = some (whole, after)) : after.length < input.length := by
  cases input with
  | nil => cases scanned
  | cons c rest =>
      simp only [scanWhole] at scanned
      split_ifs at scanned
      · cases scanned; simp
      · cases scanned; simpa using Nat.lt_succ_of_le (List.dropWhile_suffix _).length_le

theorem scanFraction_suffix {input fraction after : List Char}
    (scanned : scanFraction input = some (fraction, after)) : after <:+ input := by
  cases input with
  | nil => cases scanned; exact List.suffix_refl _
  | cons c rest =>
      simp only [scanFraction] at scanned
      split_ifs at scanned
      · obtain ⟨run, digits, same⟩ := Option.map_eq_some'.mp scanned
        rw [← (Prod.mk.inj same).2]
        exact (scanDigits_suffix digits).trans (List.suffix_cons c rest)
      · cases scanned; exact List.suffix_refl _

theorem scanExponent_suffix {input exponent after : List Char}
    (scanned : scanExponent input = some (exponent, after)) : after <:+ input := by
  cases input with
  | nil => cases scanned; exact List.suffix_refl _
  | cons e rest =>
      simp only [scanExponent] at scanned
      split_ifs at scanned
      · split at scanned
        · split_ifs at scanned
          · obtain ⟨run, digits, same⟩ := Option.map_eq_some'.mp scanned
            rw [← (Prod.mk.inj same).2]
            exact (scanDigits_suffix digits).trans ((List.suffix_cons _ _).trans (List.suffix_cons e _))
          · obtain ⟨run, digits, same⟩ := Option.map_eq_some'.mp scanned
            rw [← (Prod.mk.inj same).2]
            exact (scanDigits_suffix digits).trans (List.suffix_cons e _)
        · cases scanned
      · cases scanned; exact List.suffix_refl _

theorem scanNumber_shorter {input literal after : List Char}
    (scanned : scanNumber input = some (literal, after)) : after.length < input.length := by
  simp only [scanNumber, Option.bind_eq_some, Option.map_eq_some'] at scanned
  obtain ⟨whole, wholeScanned, fraction, fractionScanned, exponent, exponentScanned, same⟩ := scanned
  have unsigned : (if input.head? = some '-' then input.tail else input).length ≤ input.length := by
    split
    · simp
    · exact le_rfl
  calc after.length
      = exponent.2.length := by rw [(Prod.mk.inj same).2]
    _ ≤ fraction.2.length := (scanExponent_suffix exponentScanned).length_le
    _ ≤ whole.2.length := (scanFraction_suffix fractionScanned).length_le
    _ < _ := scanWhole_shorter wholeScanned
    _ ≤ input.length := unsigned

theorem scanLiteral_length_le (expected : List Char) (token : Token) (input : List Char) :
    (scanLiteral expected token input).2.length ≤ input.length := by
  unfold scanLiteral
  split <;> simp

/-- Every token but the end of the input and `parse_error` takes at least one character. -/
theorem scanToken_shorter {input rest : List Char} {token : Token}
    (scanned : scanToken input = (token, rest)) (notEnd : token ≠ .endOfInput)
    (notError : token ≠ .parseError) : rest.length < input.length := by
  cases input with
  | nil => cases scanned; exact absurd rfl notEnd
  | cons c after =>
      simp only [scanToken] at scanned
      split at scanned
      · cases scanned; exact absurd rfl notEnd
      · cases scanned; exact Nat.lt_succ_self _
      · rename_i expected literal _
        have taken := scanLiteral_length_le expected literal after
        rw [scanned] at taken
        exact Nat.lt_succ_of_le taken
      · split at scanned
        · cases scanned; rename_i scannedString; exact Nat.lt_succ_of_lt (scanFrom_shorter scannedString)
        · cases scanned; exact absurd rfl notError
      · split at scanned
        · cases scanned; rename_i scannedNumber; exact scanNumber_shorter scannedNumber
        · cases scanned; exact absurd rfl notError
      · cases scanned; exact absurd rfl notError
theorem tokenize_fuel :
    ∀ (fuel other : Nat) (input : List Char), input.length < fuel → input.length < other →
      tokenize fuel input = tokenize other input
  | 0, _, _, short, _ => absurd short (Nat.not_lt_zero _)
  | _, 0, _, _, short => absurd short (Nat.not_lt_zero _)
  | fuel + 1, other + 1, input, short, short' => by
      simp only [tokenize]
      split
      · rfl
      · rfl
      · rename_i token rest notEnd notError scanned
        have shorter := scanToken_shorter scanned notEnd notError
        have skipped := (skipWhitespace_suffix input).length_le
        rw [tokenize_fuel fuel other rest (by omega) (by omega)]

/-- With more fuel than characters, the tokens are those of the text. -/
theorem tokenize_enough {fuel : Nat} {input : List Char} (short : input.length < fuel) :
    tokenize fuel input = tokens input :=
  tokenize_fuel fuel _ input short (Nat.lt_succ_self _)

/-- A token that is neither the end of the input nor an error is followed by the tokens of the
rest. -/
theorem tokens_of_scanToken {input rest : List Char} {token : Token}
    (scanned : scanToken (skipWhitespace input) = (token, rest)) (notEnd : token ≠ .endOfInput)
    (notError : token ≠ .parseError) : tokens input = token :: tokens rest := by
  have shorter := scanToken_shorter scanned notEnd notError
  have skipped := (skipWhitespace_suffix input).length_le
  rw [tokens, tokenize, scanned]
  cases token <;> first | exact absurd rfl notEnd | exact absurd rfl notError |
    exact congrArg _ (tokenize_enough (by omega))

/-- A character that stands for a token by itself is followed by the tokens of the rest. -/
theorem tokens_structural {c : Char} {token : Token} (start : tokenStart c = .structural token)
    (notBlank : ¬(c = ' ' ∨ c = '\t' ∨ c = '\n' ∨ c = '\r')) (notEnd : token ≠ .endOfInput)
    (notError : token ≠ .parseError) (rest : List Char) :
    tokens (c :: rest) = token :: tokens rest :=
  tokens_of_scanToken (by rw [skipWhitespace, if_neg notBlank, scanToken, start]) notEnd notError

/-- The token a quote starts: the string up to the closing quote. -/
theorem scanToken_quote (rest : List Char) :
    scanToken ('"' :: rest) =
      match scanString rest with
      | some (value, after) => (.valueString value, after)
      | none => (.parseError, []) :=
  rfl

/-- The first letter of `true`, `false` or `null` and the rest of it are one token. -/
theorem tokens_literal {c : Char} {expected : List Char} {token : Token}
    (start : tokenStart c = .literal expected token)
    (notBlank : ¬(c = ' ' ∨ c = '\t' ∨ c = '\n' ∨ c = '\r')) (notEnd : token ≠ .endOfInput)
    (notError : token ≠ .parseError) (rest : List Char) :
    tokens (c :: (expected ++ rest)) = token :: tokens rest :=
  tokens_of_scanToken (by
    rw [skipWhitespace, if_neg notBlank, scanToken, start]
    show scanLiteral expected token (expected ++ rest) = _
    rw [scanLiteral, if_pos (List.isPrefixOf_iff_prefix.mpr (List.prefix_append _ _)), List.drop_left])
    notEnd notError

/-! ## The parser -/

/-- A container `sax_parse_internal` has open: an array with its items so far, or an object
with its members so far and the key of the value being read. -/
inductive Open
  | array (items : List Json)
  | object (members : List (List Char × Json)) (key : List Char)

mutual
/-- `sax_parse_internal` at a token that must start a value, with the open containers
innermost first: the value, and the tokens after it. -/
def parseValue : List Open → List Token → Except JsonException (Json × List Token)
  | stack, .beginObject :: .endObject :: rest => endValue stack (.object []) rest
  | stack, .beginObject :: .valueString key :: .nameSeparator :: rest =>
      parseValue (.object [] key :: stack) rest
  | stack, .beginArray :: .endArray :: rest => endValue stack (.array []) rest
  | stack, .beginArray :: rest => parseValue (.array [] :: stack) rest
  | stack, .valueFloat literal :: rest =>
      if floatFinite literal then endValue stack (.numberFloat literal) rest
      else .error .numberOverflow
  | stack, .literalFalse :: rest => endValue stack (.boolean false) rest
  | stack, .literalNull :: rest => endValue stack .null rest
  | stack, .literalTrue :: rest => endValue stack (.boolean true) rest
  | stack, .valueInteger value :: rest => endValue stack (.numberInteger value) rest
  | stack, .valueString value :: rest => endValue stack (.string value) rest
  | stack, .valueUnsigned value :: rest => endValue stack (.numberUnsigned value) rest
  | _, _ => .error .parseError

/-- The state evaluation of `sax_parse_internal` after a value: the value goes into the
innermost open container, which is continued or closed. -/
def endValue : List Open → Json → List Token → Except JsonException (Json × List Token)
  | [], value, rest => .ok (value, rest)
  | .array items :: stack, value, .valueSeparator :: rest =>
      parseValue (.array (items ++ [value]) :: stack) rest
  | .array items :: stack, value, .endArray :: rest =>
      endValue stack (.array (items ++ [value])) rest
  | .object members key :: stack, value,
      .valueSeparator :: .valueString next :: .nameSeparator :: rest =>
      parseValue (.object (setKey members key value) next :: stack) rest
  | .object members key :: stack, value, .endObject :: rest =>
      endValue stack (.object (setKey members key value)) rest
  | _, _, _ => .error .parseError
end

/-- `json::parse`: one value, then the end of the input. -/
def parse (input : List Char) : Except JsonException Json := do
  let (value, rest) ← parseValue [] (tokens (skipBom input))
  match rest with
  | .endOfInput :: _ => return value
  | _ => throw .parseError

example : tokens " [1, -2, 3.5e1, \"x\"] ".toList =
    [.beginArray, .valueUnsigned 1, .valueSeparator, .valueInteger (-2), .valueSeparator,
      .valueFloat "3.5e1".toList, .valueSeparator, .valueString ['x'], .endArray, .endOfInput] := by
  decide

end Json

end StreamServer
