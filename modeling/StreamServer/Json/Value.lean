import StreamServer.Cpp.Basic

/-! # JSON values

A `nlohmann::json` value is a null, a boolean, a number (signed, unsigned or floating), a
string, an array or an object, and an object is a `std::map`: its members are in key order,
one per key (`StreamServer.Json`). The signaling code builds values with `operator[]`, which
adds a member or replaces the one of the same key (`StreamServer.Json.setKey`), reads them with
`value(key, default)`, which throws `type_error` on a value that is not an object or on a member
of another type (`StreamServer.Json.valueString`), and writes them with `dump()`
(`StreamServer.Json.dump`): compact, members in key order, and in strings `"`, `\` and the
control characters escaped. A string made of plain characters is written as it is
(`StreamServer.Json.escapeString_of_plain`).

Text is modelled by its characters, so the UTF-8 checks of `dump` and of the lexer cannot fail,
and a floating number is kept as the literal `strtod` reads (`StreamServer.Json.numberFloat`).
-/

namespace StreamServer

/-- The `json::exception`s that the signaling code can meet. -/
inductive JsonException
  /-- `parse_error.101`: the text is not one JSON value. -/
  | parseError
  /-- `out_of_range.406`: a number literal too large for a `double`. -/
  | numberOverflow
  /-- `type_error.302`: `value` found its key holding another type. -/
  | typeMismatch
  /-- `type_error.306`: `value` on a value that is not an object. -/
  | notAnObject
deriving DecidableEq, Repr

/-- A `nlohmann::json` value; the members of an object are in key order, one per key. -/
inductive Json
  | null
  | boolean (value : Bool)
  /-- `number_integer_t`: `parse` gives it to a negative integer literal. -/
  | numberInteger (value : Int)
  | numberUnsigned (value : Nat)
  /-- `number_float_t`, kept as the literal `strtod` reads. -/
  | numberFloat (literal : List Char)
  | string (value : List Char)
  | array (items : List Json)
  | object (members : List (List Char × Json))
deriving Repr

namespace Json

/-- `std::less<std::string>`, the order of an object's keys: the first character where two keys
differ decides, and a key that is a proper prefix of the other comes first. Characters compare
by code point, as their UTF-8 bytes do. -/
def keyLess : List Char → List Char → Bool
  | _, [] => false
  | [], _ :: _ => true
  | a :: rest, b :: other => if a = b then keyLess rest other else decide (a < b)

theorem keyLess_irrefl (key : List Char) : keyLess key key = false := by
  induction key with
  | nil => rfl
  | cons c rest ih => simpa [keyLess] using ih

theorem keyLess_asymm : ∀ {key other : List Char}, keyLess key other = true →
    keyLess other key = false
  | [], [], _ => rfl
  | _ :: _, [], less => by simp [keyLess] at less
  | [], _ :: _, _ => rfl
  | a :: rest, b :: more, less => by
      by_cases same : a = b
      · subst same
        simp only [keyLess, if_true] at less ⊢
        exact keyLess_asymm less
      · simp only [keyLess, same, if_false, decide_eq_true_eq] at less
        simp only [keyLess, Ne.symm same, if_false, decide_eq_false_iff_not]
        exact Char.lt_asymm less

/-- `object_t::operator[](key) = value`: the member of the key is replaced, or a member is
inserted in key order. -/
def setKey : List (List Char × Json) → List Char → Json → List (List Char × Json)
  | [], key, value => [(key, value)]
  | (other, old) :: rest, key, value =>
      if key = other then (key, value) :: rest
      else if keyLess key other then (key, value) :: (other, old) :: rest
      else (other, old) :: setKey rest key value

/-- A key above every key of the object is added at its end. -/
theorem setKey_of_above {members : List (List Char × Json)} {key : List Char}
    (above : ∀ other ∈ members.map Prod.fst, keyLess other key = true) (value : Json) :
    setKey members key value = members ++ [(key, value)] := by
  induction members with
  | nil => rfl
  | cons member rest ih =>
      obtain ⟨other, old⟩ := member
      simp only [List.map_cons, List.forall_mem_cons] at above
      have differ : key ≠ other := fun same => by
        have first := above.1
        rw [same, keyLess_irrefl] at first
        exact Bool.false_ne_true first
      simp only [setKey, differ, keyLess_asymm above.1, if_false, Bool.false_eq_true, ih above.2,
        List.cons_append]

/-- The object with these members, set in order. -/
def ofMembers (members : List (List Char × Json)) : Json :=
  .object (members.foldl (fun acc member => setKey acc member.1 member.2) [])

/-- `object_t::find`: the member of a key. -/
def find : List (List Char × Json) → List Char → Option Json
  | [], _ => none
  | (other, value) :: rest, key => if other = key then some value else find rest key

/-- `value(key, default)` with a string default: the member's string, the default when the key
is absent. -/
def valueString (j : Json) (key default : List Char) : Except JsonException (List Char) :=
  match j with
  | .object members =>
      match find members key with
      | none => .ok default
      | some (.string value) => .ok value
      | some _ => .error .typeMismatch
  | _ => .error .notAnObject

/-- `value(key, default)` with a `json` default: the member whatever its type. -/
def valueJson (j : Json) (key : List Char) (default : Json) : Except JsonException Json :=
  match j with
  | .object members => .ok ((find members key).getD default)
  | _ => .error .notAnObject

/-- The lower-case hex digit of `serializer::dump_escaped`'s `\u%04x`. -/
def hexDigit (n : Nat) : Char :=
  "0123456789abcdef".toList.getD n '0'

/-- How `dump_escaped` writes one character when `ensure_ascii` is off. -/
def escapeChar (c : Char) : List Char :=
  match c with
  | '\x08' => ['\\', 'b']
  | '\t' => ['\\', 't']
  | '\n' => ['\\', 'n']
  | '\x0c' => ['\\', 'f']
  | '\r' => ['\\', 'r']
  | '"' => ['\\', '"']
  | '\\' => ['\\', '\\']
  | c =>
      if c.toNat < 0x20 then ['\\', 'u', '0', '0', hexDigit (c.toNat / 16), hexDigit (c.toNat % 16)]
      else [c]

/-- `dump_escaped`. -/
def escapeString (s : List Char) : List Char :=
  s.flatMap escapeChar

/-- A character that JSON allows in a string as it is: no quote, no backslash, no control
character. -/
def plainChar (c : Char) : Bool :=
  c ≠ '"' && c ≠ '\\' && 0x20 ≤ c.toNat

theorem escapeChar_of_plain {c : Char} (plain : plainChar c = true) : escapeChar c = [c] := by
  simp only [plainChar, Bool.and_eq_true, decide_eq_true_eq] at plain
  obtain ⟨⟨quote, backslash⟩, printable⟩ := plain
  unfold escapeChar
  split <;> simp_all

/-- A string of plain characters is written as it is. -/
theorem escapeString_of_plain {s : List Char} (plain : ∀ c ∈ s, plainChar c = true) :
    escapeString s = s := by
  induction s with
  | nil => rfl
  | cons c rest ih =>
      simp only [List.forall_mem_cons] at plain
      simp only [escapeString, List.flatMap_cons, escapeChar_of_plain plain.1]
      exact congrArg (c :: ·) (ih plain.2)

/-- `dump()`: no indentation, members in key order. -/
def dump : Json → List Char
  | .null => "null".toList
  | .boolean value => if value then "true".toList else "false".toList
  | .numberInteger value =>
      if value < 0 then '-' :: Nat.toDigits 10 value.natAbs else Nat.toDigits 10 value.natAbs
  | .numberUnsigned value => Nat.toDigits 10 value
  | .numberFloat literal => literal
  | .string value => '"' :: escapeString value ++ ['"']
  | .array items => '[' :: dumpItems items ++ [']']
  | .object members => '{' :: dumpMembers members ++ ['}']
where
  /-- The items of an array, separated by commas. -/
  dumpItems : List Json → List Char
    | [] => []
    | [item] => dump item
    | item :: rest => dump item ++ ',' :: dumpItems rest
  /-- The members of an object, separated by commas. -/
  dumpMembers : List (List Char × Json) → List Char
    | [] => []
    | [(key, value)] => '"' :: escapeString key ++ '"' :: ':' :: dump value
    | (key, value) :: rest =>
        '"' :: escapeString key ++ '"' :: ':' :: dump value ++ ',' :: dumpMembers rest

example : dump (ofMembers [("type".toList, .string "pong".toList)]) =
    "\x7b\"type\":\"pong\"\x7d".toList := by
  decide

end Json

end StreamServer
