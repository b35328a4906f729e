/-!
# TOML values

Values of a TOML document and the rules by which statements add to a table. A table remembers how
it came to be, since that decides what may still be added: a header may open a table that so far
was only passed through, a dotted key may extend tables that dotted keys made, and a table written
between braces is complete. Every rule fails instead of replacing what is there.
-/

namespace DnsHealth

/-- How a table came to be. -/
inductive Toml.Origin where
  /-- A header of its own opened the table. -/
  | header
  /-- The table lies on the path of a header or of a dotted key, and no header opened it. -/
  | implied
  /-- A dotted key made the table. -/
  | dotted
  /-- The table was written between braces. -/
  | braces
  deriving DecidableEq, Repr

/-- A number with a fraction or an exponent, up to its sign. -/
inductive Toml.Real where
  /-- The number `digits * 10 ^ exponent`. -/
  | decimal (digits : Nat) (exponent : Int)
  | infinity
  | notANumber
  deriving DecidableEq, Repr

/-- A value of a document. -/
inductive Toml where
  | string (value : String)
  /-- A whole number. It has no value if it was recognized as a number and yet is none. -/
  | integer (value : Option Int)
  | real (value : Toml.Real)
  | boolean (value : Bool)
  /-- A date, a time of day, or both, with or without an offset. -/
  | moment
  /-- Values between brackets. -/
  | array (elements : List Toml)
  /-- A table with its entries. -/
  | table (origin : Toml.Origin) (entries : List (String × Toml))
  /-- The tables that headers in doubled brackets opened under one name. -/
  | tables (elements : List (List (String × Toml)))
  deriving Repr, Inhabited

namespace Toml

/-- The keys of a table with their values, each key once. -/
abbrev Entries := List (String × Toml)

namespace Entries

/-- Replaces the value of a key by what `change` makes of it, which is told when there is none. -/
def alter (key : String) (change : Option Toml → Option Toml) : Entries → Option Entries
  | [] => do return [(key, ← change none)]
  | (name, value) :: entries =>
    if name = key then do return (name, ← change (some value)) :: entries
    else do return (name, value) :: (← alter key change entries)

/-- Changes the table that the path of a header leads to. Missing tables are made on the way, and a
list of tables is entered at its last one. -/
def descend (change : Entries → Option Entries) : List String → Entries → Option Entries
  | [], entries => change entries
  | key :: path, entries => entries.alter key fun
    | none => do return table .implied (← descend change path [])
    | some (table .braces _) => none
    | some (table origin inner) => do return table origin (← descend change path inner)
    | some (tables elements) => do
      return tables (elements.dropLast ++ [← descend change path (← elements.getLast?)])
    | some _ => none

/-- Opens a table, which may have been passed through before but not opened. -/
def openTable (key : String) (entries : Entries) : Option Entries :=
  entries.alter key fun
    | none => some (table .header [])
    | some (table .implied inner) => some (table .header inner)
    | some _ => none

/-- Opens one more table in a list of tables. -/
def appendTable (key : String) (entries : Entries) : Option Entries :=
  entries.alter key fun
    | none => some (tables [[]])
    | some (tables elements) => some (tables (elements ++ [[]]))
    | some _ => none

/-- Gives a value to a new key below a path of dotted keys. The path may pass through tables that no
header opened and through the last table of a list, and the table that gets the key has to be one
that dotted keys made. -/
def assign (key : String) (value : Toml) : List String → Entries → Option Entries
  | [], entries => entries.alter key fun
    | none => some value
    | some _ => none
  | step :: path, entries => entries.alter step fun
    | none => do return table .dotted (← assign key value path [])
    | some (table .dotted inner) => do return table .dotted (← assign key value path inner)
    | some (table .implied inner) =>
      if path.isEmpty then none else do return table .implied (← assign key value path inner)
    | some (tables elements) =>
      if path.isEmpty then none
      else do
        return tables (elements.dropLast ++ [← assign key value path (← elements.getLast?)])
    | some _ => none

/-- A key has a value after it got one, and every other key keeps its own. -/
theorem lookup_assign {key : String} {value : Toml} {entries after : Entries}
    (h : assign key value [] entries = some after) (name : String) :
    after.lookup name = if name = key then some value else entries.lookup name := by
  unfold assign at h
  induction entries generalizing after with
  | nil =>
    obtain rfl : [(key, value)] = after := by simpa [alter] using h
    by_cases hn : name = key
    · simp [hn]
    · have hb : (name == key) = false := by simpa using hn
      simp [List.lookup_cons, hb, hn]
  | cons entry entries ih =>
    obtain ⟨k, v⟩ := entry
    by_cases hk : k = key
    · simp [alter, hk] at h
    · obtain ⟨rest, hrest, rfl⟩ : ∃ rest, alter key _ entries = some rest ∧
          (k, v) :: rest = after := by simpa [alter, hk, Option.bind_eq_some_iff] using h
      by_cases hn : name = k
      · subst hn
        simp [hk]
      · have hb : (name == k) = false := by simpa using hn
        simp [List.lookup_cons, hb, ih hrest]

end Entries

/-- The least number that no floating-point number of sixty-four bits is nearest to. -/
def Real.limit : Nat := 1 <<< 1024 - 1 <<< 970

/-- Ten, multiplied with itself a number of times. -/
def powerOfTen (n : Nat) : Nat := Nat.repeat (· * 10) n 1

/-- Tells whether a number rounds to a floating-point number of sixty-four bits. -/
def Real.inRange : Real → Bool
  | decimal digits exponent =>
    let length : Int := (Nat.toDigits 10 digits).length
    if digits = 0 || length + exponent < 300 then true
    else if length + exponent > 310 then false
    else digits * powerOfTen exponent.toNat < limit * powerOfTen (-exponent).toNat
  | infinity | notANumber => true

mutual

/-- Tells whether every number within a value fits some machine number: whole ones, which have to
have a value, in 128 bits with or without a sign, others in a floating-point number. -/
def inRange : Toml → Bool
  | integer n => n.any fun n => decide (-170141183460469231731687303715884105728 ≤ n ∧
      n < 340282366920938463463374607431768211456)
  | real x => x.inRange
  | string _ | boolean _ | moment => true
  | array elements => elementsInRange elements
  | table _ entries => entriesInRange entries
  | tables elements => tablesInRange elements

/-- Tells whether every number within the elements fits. -/
def elementsInRange : List Toml → Bool
  | [] => true
  | x :: xs => inRange x && elementsInRange xs

/-- Tells whether every number within the entries fits. -/
def entriesInRange : List (String × Toml) → Bool
  | [] => true
  | (_, x) :: xs => inRange x && entriesInRange xs

/-- Tells whether every number within the tables fits. -/
def tablesInRange : List (List (String × Toml)) → Bool
  | [] => true
  | x :: xs => entriesInRange x && tablesInRange xs

end

end Toml

end DnsHealth
