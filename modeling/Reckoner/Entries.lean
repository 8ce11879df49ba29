/-!
# Entries

Values under names, in the order in which the names first came.  A name has one value: entering
another one replaces it where it stands.
-/

namespace Reckoner

/-- Values under names. -/
abbrev Entries (α : Type) := List (String × α)

namespace Entries

variable {α : Type}

/-- The value of a name. -/
def value? (entries : Entries α) (name : String) : Option α := entries.lookup name

/-- The names, in order. -/
def names (entries : Entries α) : List String := entries.map Prod.fst

/-- The name has a value. -/
def has (entries : Entries α) (name : String) : Bool := (entries.value? name).isSome

/-- Enters a value, replacing an earlier one of the name. -/
def enter : Entries α → String → α → Entries α
  | [], name, a => [(name, a)]
  | (n, b) :: rest, name, a =>
    if n = name then (name, a) :: rest else (n, b) :: enter rest name a

/-- Enters values one after the other. -/
def ofList (values : List (String × α)) : Entries α :=
  values.foldl (fun entries (name, a) => entries.enter name a) []

theorem value?_cons (n name : String) (a : α) (rest : Entries α) :
    value? ((n, a) :: rest) name = if name = n then some a else value? rest name := by
  unfold value?
  rw [List.lookup_cons]
  by_cases h : name = n
  · simp [h]
  · simp [h, beq_eq_false_iff_ne.2 h]

theorem value?_enter (entries : Entries α) (name other : String) (a : α) :
    (entries.enter name a).value? other =
      if other = name then some a else entries.value? other := by
  induction entries with
  | nil => rw [enter, value?_cons]
  | cons entry rest ih =>
    obtain ⟨n, b⟩ := entry
    unfold enter
    split
    · rename_i same
      subst same
      simp only [value?_cons]
      split <;> rfl
    · rename_i different
      simp only [value?_cons, ih]
      by_cases h : other = n
      · subst h
        simp [different]
      · simp [h]

end Entries

end Reckoner
