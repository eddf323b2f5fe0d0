import Mathlib.Data.List.Basic
import Mathlib.Tactic.Ring

/-! # The C++ values the servers compute with

A `std::string` is its list of bytes. `find` and `substr` follow the standard library:
a failed search returns `npos`, and `substr` raises `std::out_of_range` when its start
lies past the end of the string (`StreamServer.substr`). The two exception classes that
reach this model, `std::out_of_range` and `std::filesystem::filesystem_error`, are the
constructors of `StreamServer.CppException`.

An `int` is a value of the 32-bit range (`StreamServer.CInt`); `static_cast<int>` and
unsigned arithmetic reduce modulo the width.
-/

namespace StreamServer

/-- Failure codes of the POSIX calls behind `std::filesystem`. -/
inductive Errno
  | noent
  | notdir
  | loop
  | inval
deriving DecidableEq, Repr

/-- The exceptions the modelled code can raise. -/
inductive CppException
  /-- `std::out_of_range` from `basic_string::substr`: the position asked for and the
  string's size. -/
  | outOfRange (pos size : Nat)
  /-- `std::filesystem::filesystem_error` with its error code. -/
  | filesystemError (code : Errno)
deriving DecidableEq, Repr

instance exceptDecidableEq {ε α : Type} [DecidableEq ε] [DecidableEq α] :
    DecidableEq (Except ε α)
  | .ok a, .ok b => decidable_of_iff (a = b) (by simp)
  | .error a, .error b => decidable_of_iff (a = b) (by simp)
  | .ok _, .error _ => isFalse (by simp)
  | .error _, .ok _ => isFalse (by simp)

@[simp] theorem except_pure_eq_ok {ε α : Type} (a : α) : (pure a : Except ε α) = .ok a := rfl

@[simp] theorem except_ok_bind {ε α β : Type} (a : α) (f : α → Except ε β) :
    (Except.ok a >>= f) = f a := rfl

@[simp] theorem except_error_bind {ε α β : Type} (e : ε) (f : α → Except ε β) :
    (Except.error e >>= f) = .error e := rfl

theorem except_bind_ok_eq_error_iff {ε α β : Type} (x : Except ε α) (f : α → β) (e : ε) :
    (x >>= fun a => Except.ok (f a)) = .error e ↔ x = .error e := by
  cases x <;> simp

/-- `try { body } catch (...) {}` followed by `return fallback`. -/
def catchAll {α : Type} (body : Except CppException α) (fallback : α) : α :=
  match body with
  | .ok value => value
  | .error _ => fallback

/-- `std::string::npos`, the largest `size_t`. -/
def npos : Nat := 2 ^ 64 - 1

/-- A `size_t` result: arithmetic modulo `2 ^ 64`. -/
def sizeT (n : Nat) : Nat := n % 2 ^ 64

/-- Offset of the first occurrence of `pattern` in a string. -/
def searchFrom (pattern : List Char) : List Char → Option Nat
  | [] => if pattern = [] then some 0 else none
  | c :: rest =>
      if pattern.isPrefixOf (c :: rest) then some 0 else (searchFrom pattern rest).map (· + 1)

/-- `std::string::find(pattern, pos)`: the first position at or after `pos` where
`pattern` occurs, or `npos`. -/
def find (text pattern : List Char) (pos : Nat) : Nat :=
  if text.length < pos then npos
  else
    match searchFrom pattern (text.drop pos) with
    | some offset => pos + offset
    | none => npos

/-- `std::string::substr(pos, count)`. -/
def substr (text : List Char) (pos count : Nat) : Except CppException (List Char) :=
  if text.length < pos then .error (.outOfRange pos text.length)
  else .ok ((text.drop pos).take count)

theorem substr_of_le {text : List Char} {pos : Nat} (count : Nat) (inside : pos ≤ text.length) :
    substr text pos count = .ok ((text.drop pos).take count) := by
  simp [substr, Nat.not_lt.mpr inside]

@[simp] theorem substr_zero (text : List Char) (count : Nat) :
    substr text 0 count = .ok (text.take count) :=
  substr_of_le count (Nat.zero_le _)

theorem substr_eq_error_iff {text : List Char} {pos count : Nat} {e : CppException} :
    substr text pos count = .error e ↔ text.length < pos ∧ e = .outOfRange pos text.length := by
  unfold substr
  split <;> simp_all [eq_comm]

theorem substr_one_eq_error_iff {text : List Char} {count : Nat} {e : CppException} :
    substr text 1 count = .error e ↔ text = [] ∧ e = .outOfRange 1 0 := by
  rw [substr_eq_error_iff]
  cases text <;> simp

@[simp] theorem searchFrom_single_cons_self (c : Char) (rest : List Char) :
    searchFrom [c] (c :: rest) = some 0 := by
  simp [searchFrom, List.isPrefixOf]

/-- A C++ `int`: a value of the 32-bit two's-complement range. -/
structure CInt where
  val : Int
  inRange : -2 ^ 31 ≤ val ∧ val < 2 ^ 31
deriving DecidableEq, Repr

/-- Two's-complement reduction into the `int` range. -/
def wrapInt (i : Int) : Int := (i + 2 ^ 31) % 2 ^ 32 - 2 ^ 31

theorem wrapInt_inRange (i : Int) : -2 ^ 31 ≤ wrapInt i ∧ wrapInt i < 2 ^ 31 := by
  unfold wrapInt
  omega

theorem wrapInt_of_inRange {i : Int} (inside : -2 ^ 31 ≤ i ∧ i < 2 ^ 31) : wrapInt i = i := by
  unfold wrapInt
  omega

/-- `static_cast<int>` of a `size_t`: the value modulo `2 ^ 32`, read as two's complement. -/
def intOfSize (n : Nat) : Int :=
  if n % 2 ^ 32 < 2 ^ 31 then ((n % 2 ^ 32 : Nat) : Int) else ((n % 2 ^ 32 : Nat) : Int) - 2 ^ 32

theorem intOfSize_of_lt {n : Nat} (small : n < 2 ^ 31) : intOfSize n = n := by
  unfold intOfSize
  rw [if_pos (by omega)]
  omega

/-- The conversion of an `int` to a 32-bit unsigned type: the value modulo `2 ^ 32`. -/
def uint32Of (i : Int) : Int := i % 2 ^ 32

theorem uint32Of_of_lt {i : Int} (nonneg : 0 ≤ i) (small : i < 2 ^ 32) : uint32Of i = i :=
  Int.emod_eq_of_lt nonneg small

/-- `static_cast<int>` of an integer value. -/
def CInt.ofInt (i : Int) : CInt := ⟨wrapInt i, wrapInt_inRange i⟩

@[simp] theorem CInt.ofInt_val_of_inRange {i : Int} (inside : -2 ^ 31 ≤ i ∧ i < 2 ^ 31) :
    (CInt.ofInt i).val = i :=
  wrapInt_of_inRange inside

end StreamServer
