/-!
# Dictionaries

A `Dictionary` maps names to values. Its entries stand in the order in which their names were first
inserted; inserting a name again replaces the value in place. `names` lists the names in the order
of their characters' code points.
-/

namespace XslLowering

/-- Values by name, in the order in which the names were first inserted. -/
structure Dictionary (α : Type) where
  entries : List (String × α)

namespace Dictionary

variable {α : Type}

def empty : Dictionary α := ⟨[]⟩

instance : EmptyCollection (Dictionary α) := ⟨empty⟩

instance : Inhabited (Dictionary α) := ⟨empty⟩

/-- The value of the first entry with this name. -/
def findIn (name : String) : List (String × α) → Option α
  | [] => none
  | (n, v) :: rest => if n == name then some v else findIn name rest

def get? (d : Dictionary α) (name : String) : Option α := findIn name d.entries

def contains (d : Dictionary α) (name : String) : Bool := (d.get? name).isSome

def size (d : Dictionary α) : Nat := d.entries.length

/-- Replaces the value of the first entry with this name, or appends an entry. -/
def insertInto (name : String) (value : α) : List (String × α) → List (String × α)
  | [] => [(name, value)]
  | (n, v) :: rest => if n == name then (n, value) :: rest else (n, v) :: insertInto name value rest

def insert (d : Dictionary α) (name : String) (value : α) : Dictionary α :=
  ⟨insertInto name value d.entries⟩

/-- Inserts a value unless the name has one. -/
def insertIfNew (d : Dictionary α) (name : String) (value : α) : Dictionary α :=
  if d.contains name then d else d.insert name value

/-- The names, sorted. -/
def names (d : Dictionary α) : List String :=
  (d.entries.map Prod.fst).mergeSort fun a b => decide (a ≤ b)

@[simp] theorem get?_empty (name : String) : (∅ : Dictionary α).get? name = none := rfl

theorem findIn_insertInto (name m : String) (value : α) (l : List (String × α)) :
    findIn m (insertInto name value l) = if name == m then some value else findIn m l := by
  induction l with
  | nil => rfl
  | cons entry rest ih =>
    obtain ⟨n, v⟩ := entry
    by_cases hn : n = name
    · subst hn
      by_cases h : n = m <;> simp [insertInto, findIn, h]
    · by_cases h : n = m
      · subst h
        simp [insertInto, findIn, hn, Ne.symm hn]
      · simp [insertInto, findIn, hn, h, ih]

@[simp] theorem get?_insert (d : Dictionary α) (name m : String) (value : α) :
    (d.insert name value).get? m = if name == m then some value else d.get? m :=
  findIn_insertInto name m value d.entries

end Dictionary

end XslLowering
