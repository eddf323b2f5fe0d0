import StreamServer.Json.Parse

/-! # Reading back what `dump` writes

`json::parse` reads back every value `dump` writes that holds no number and keeps the members
of its objects in key order, one per key, as a `std::map` does (`StreamServer.Json.parse_dump`).
The lexer reads each escaped string back, whatever characters it holds
(`StreamServer.Json.scanString_escapeString`), and the parser, given the text of such a value,
reads the value and goes on with the containers it has open (`StreamServer.Json.ReadsBack`). The
signaling server relies on it for the frames of local candidates
(`StreamServer.SignalingServer.localCandidate_frame_reads_back`).
-/

namespace StreamServer

namespace Json

theorem hexValue_hexDigit : ∀ digit < 16, hexValue (hexDigit digit) = some digit := by
  decide

/-- `scan_string` reads back one character as `dump_escaped` writes it. -/
theorem scanFrom_escapeChar (c : Char) (rest : List Char) :
    scanFrom .text (escapeChar c ++ rest) = pushChar c (scanFrom .text rest) := by
  unfold escapeChar
  split
  any_goals rfl
  rename_i quote backslash
  split
  · rename_i control
    have high := hexValue_hexDigit (c.toNat / 16) (by omega)
    have low := hexValue_hexDigit (c.toNat % 16) (by omega)
    have code : c.toNat / 16 * 16 + c.toNat % 16 = c.toNat := by omega
    have unpaired : c.toNat < 0xD800 := by omega
    show scanFrom (.hex none 0 2) (hexDigit (c.toNat / 16) :: hexDigit (c.toNat % 16) :: rest) = _
    simp [scanFrom, stringStep, high, low, code, unpaired]
  · rename_i printable
    have plain : plainChar c = true := by
      simp only [plainChar, Bool.and_eq_true, decide_eq_true_eq]
      exact ⟨⟨quote, backslash⟩, by omega⟩
    rw [List.singleton_append, scanFrom, stringStep_plain plain]

/-- `scan_string` reads back what `dump_escaped` writes, up to the quote after it. -/
theorem scanString_escapeString (s rest : List Char) :
    scanString (escapeString s ++ '"' :: rest) = some (s, rest) := by
  induction s with
  | nil => rfl
  | cons c s ih =>
      show scanFrom .text ((escapeChar c ++ escapeString s) ++ '"' :: rest) = _
      rw [List.append_assoc, scanFrom_escapeChar]
      show pushChar c (scanString (escapeString s ++ '"' :: rest)) = _
      rw [ih]
      rfl

theorem tokens_string (s rest : List Char) :
    tokens ('"' :: (escapeString s ++ '"' :: rest)) = .valueString s :: tokens rest :=
  tokens_of_scanToken (by rw [skipWhitespace, if_neg (by decide), scanToken_quote,
    scanString_escapeString]) nofun nofun

theorem tokens_dump_null (rest : List Char) :
    tokens (dump .null ++ rest) = .literalNull :: tokens rest :=
  tokens_literal (by rfl) (by decide) (by nofun) (by nofun) rest

theorem tokens_dump_boolean (value : Bool) (rest : List Char) :
    tokens (dump (.boolean value) ++ rest) =
      (if value then .literalTrue else .literalFalse) :: tokens rest := by
  cases value <;> exact tokens_literal (by rfl) (by decide) (by nofun) (by nofun) rest

theorem tokens_beginArray (rest : List Char) : tokens ('[' :: rest) = .beginArray :: tokens rest :=
  tokens_structural (by rfl) (by decide) (by nofun) (by nofun) rest

theorem tokens_endArray (rest : List Char) : tokens (']' :: rest) = .endArray :: tokens rest :=
  tokens_structural (by rfl) (by decide) (by nofun) (by nofun) rest

theorem tokens_beginObject (rest : List Char) : tokens ('{' :: rest) = .beginObject :: tokens rest :=
  tokens_structural (by rfl) (by decide) (by nofun) (by nofun) rest

theorem tokens_endObject (rest : List Char) : tokens ('}' :: rest) = .endObject :: tokens rest :=
  tokens_structural (by rfl) (by decide) (by nofun) (by nofun) rest

theorem tokens_comma (rest : List Char) : tokens (',' :: rest) = .valueSeparator :: tokens rest :=
  tokens_structural (by rfl) (by decide) (by nofun) (by nofun) rest

/-- A member of an object as `dump` writes it: the quoted key, a colon and the value. -/
def memberText (member : List Char × Json) : List Char :=
  '"' :: escapeString member.1 ++ '"' :: ':' :: dump member.2

theorem tokens_memberText (key : List Char) (value : Json) (rest : List Char) :
    tokens (memberText (key, value) ++ rest) =
      .valueString key :: .nameSeparator :: tokens (dump value ++ rest) := by
  simp only [memberText, List.cons_append, List.append_assoc, tokens_string]
  exact congrArg _ (tokens_structural (by rfl) (by decide) (by nofun) (by nofun) _)

theorem dumpItems_cons (item : Json) :
    ∀ items, dump.dumpItems (item :: items) = dump item ++ items.flatMap (',' :: dump ·)
  | [] => by simp [dump.dumpItems]
  | next :: items => by
      show dump item ++ ',' :: dump.dumpItems (next :: items) = _
      rw [dumpItems_cons next items]
      simp

theorem dumpMembers_cons (member : List Char × Json) :
    ∀ members, dump.dumpMembers (member :: members) =
      memberText member ++ members.flatMap (',' :: memberText ·)
  | [] => by simp [dump.dumpMembers, memberText]
  | next :: members => by
      show memberText member ++ ',' :: dump.dumpMembers (next :: members) = _
      rw [dumpMembers_cons next members]
      simp

/-! ## The parser reads back what `dump` writes -/

/-- A value that `dump` writes and `parse` reads back as it was: no numbers, whose text the
parser may read as another kind of number, and the members of each object in strictly
increasing key order, one per key, as `std::map` holds them. -/
inductive Canonical : Json → Prop
  | null : Canonical .null
  | boolean (value : Bool) : Canonical (.boolean value)
  | string (value : List Char) : Canonical (.string value)
  | array {items : List Json} (each : ∀ item ∈ items, Canonical item) : Canonical (.array items)
  | object {members : List (List Char × Json)}
      (sorted : (members.map Prod.fst).Pairwise (fun key other => keyLess key other))
      (each : ∀ member ∈ members, Canonical member.2) : Canonical (.object members)

/-- An object of two members in key order, each canonical. -/
theorem Canonical.object_pair {key other : List Char} {value next : Json}
    (less : keyLess key other = true) (first : Canonical value) (second : Canonical next) :
    Canonical (.object [(key, value), (other, next)]) :=
  .object (by simp [less]) (by simp [first, second])

/-- `sax_parse_internal` reads the value back from its `dump`, whatever containers are open and
whatever text follows. -/
def ReadsBack (value : Json) : Prop :=
  ∀ (stack : List Open) (rest : List Char),
    parseValue stack (tokens (dump value ++ rest)) = endValue stack value (tokens rest)

theorem endValue_nil (value : Json) (rest : List Token) : endValue [] value rest = .ok (value, rest) := by
  cases rest <;> rfl

/-- The text of a value read back never starts with `]`, so `[` followed by it opens an array
with an item. -/
theorem ReadsBack.parseValue_beginArray {item : Json} (reads : ReadsBack item)
    (stack : List Open) (rest : List Char) :
    parseValue stack (.beginArray :: tokens (dump item ++ rest)) =
      parseValue (.array [] :: stack) (tokens (dump item ++ rest)) := by
  have alone := reads [] rest
  cases h : tokens (dump item ++ rest) with
  | nil => rfl
  | cons token more =>
      rw [h, endValue_nil] at alone
      cases token
      case endArray => exact nomatch alone
      all_goals rfl

theorem endValue_items {stack : List Open} {rest : List Char} :
    ∀ (items done : List Json) (item : Json), (∀ next ∈ items, ReadsBack next) →
      endValue (.array done :: stack) item (tokens (items.flatMap (',' :: dump ·) ++ ']' :: rest)) =
        endValue stack (.array (done ++ item :: items)) (tokens rest)
  | [], done, item, _ => by
      rw [List.flatMap_nil, List.nil_append, tokens_endArray]
      rfl
  | next :: items, done, item, reads => by
      rw [List.forall_mem_cons] at reads
      simp only [List.flatMap_cons, List.cons_append, List.append_assoc, tokens_comma]
      show parseValue (.array (done ++ [item]) :: stack) _ = _
      rw [reads.1, endValue_items items (done ++ [item]) next reads.2, List.append_assoc]
      rfl

theorem endValue_members {stack : List Open} {rest : List Char} :
    ∀ (members done : List (List Char × Json)) (key : List Char) (value : Json),
      ((done ++ (key, value) :: members).map Prod.fst).Pairwise (fun key other => keyLess key other) →
      (∀ next ∈ members, ReadsBack next.2) →
      endValue (.object done key :: stack) value
          (tokens (members.flatMap (',' :: memberText ·) ++ '}' :: rest)) =
        endValue stack (.object (done ++ (key, value) :: members)) (tokens rest)
  | members, done, key, value, sorted, reads => by
      have above : ∀ other ∈ done.map Prod.fst, keyLess other key = true := by
        rw [List.map_append, List.pairwise_append] at sorted
        exact fun other member => sorted.2.2 other member key (List.mem_cons_self _ _)
      cases members with
      | nil =>
          rw [List.flatMap_nil, List.nil_append, tokens_endObject]
          show endValue stack (.object (setKey done key value)) _ = _
          rw [setKey_of_above above]
      | cons next members =>
          obtain ⟨nextKey, nextValue⟩ := next
          rw [List.forall_mem_cons] at reads
          simp only [List.flatMap_cons, List.cons_append, List.append_assoc, tokens_comma,
            tokens_memberText]
          show parseValue (.object (setKey done key value) nextKey :: stack) _ = _
          rw [setKey_of_above above, reads.1,
            endValue_members members _ nextKey nextValue (by simpa using sorted) reads.2]
          simp

/-- Every canonical value is read back from its `dump`. -/
theorem Canonical.readsBack {value : Json} (canonical : Canonical value) : ReadsBack value := by
  induction canonical with
  | null => intro stack rest; rw [tokens_dump_null]; rfl
  | boolean value =>
      intro stack rest
      rw [tokens_dump_boolean]
      cases value <;> rfl
  | string value =>
      intro stack rest
      rw [show dump (.string value) ++ rest = '"' :: (escapeString value ++ '"' :: rest) by
        simp [dump], tokens_string]
      rfl
  | @array items _ ih =>
      intro stack rest
      cases items with
      | nil => rw [show dump (.array []) ++ rest = '[' :: ']' :: rest from rfl, tokens_beginArray,
          tokens_endArray]; rfl
      | cons item items =>
          rw [List.forall_mem_cons] at ih
          rw [show dump (.array (item :: items)) ++ rest =
              '[' :: (dump item ++ (items.flatMap (',' :: dump ·) ++ ']' :: rest)) by
            simp [dump, dumpItems_cons], tokens_beginArray, ih.1.parseValue_beginArray, ih.1,
            endValue_items items [] item ih.2]
          rfl
  | @object members sorted _ ih =>
      intro stack rest
      cases members with
      | nil => rw [show dump (.object []) ++ rest = '{' :: '}' :: rest from rfl, tokens_beginObject,
          tokens_endObject]; rfl
      | cons member members =>
          obtain ⟨key, value⟩ := member
          rw [List.forall_mem_cons] at ih
          rw [show dump (.object ((key, value) :: members)) ++ rest =
              '{' :: (memberText (key, value) ++ (members.flatMap (',' :: memberText ·) ++ '}' :: rest)) by
            simp [dump, dumpMembers_cons], tokens_beginObject, tokens_memberText]
          show parseValue (.object [] key :: stack) _ = _
          rw [ih.1, endValue_members members [] key value sorted ih.2]
          rfl

/-- `json::parse` reads back every canonical value `dump` writes. -/
theorem parse_dump {value : Json} (canonical : Canonical value) : parse (dump value) = .ok value := by
  have noBom : skipBom (dump value) = dump value := by
    cases canonical with
    | boolean value => cases value <;> rfl
    | _ => rfl
  have read : parseValue [] (tokens (dump value)) = .ok (value, [.endOfInput]) := by
    rw [← List.append_nil (dump value), canonical.readsBack [] []]
    rfl
  simp only [parse, noBom, read]
  rfl

end Json

end StreamServer
