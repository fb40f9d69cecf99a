/-!
# Tables

Values by name.  The view of a table is `get?`: what an operation does to a table is what it
does to the values of names.
-/

namespace RecipeRunner

/-- Values by name, in the order in which the names came up. -/
structure Table (α : Type) where
  entries : List (String × α) := []
  deriving Repr

namespace Table

variable {α : Type}

/-- The table without names. -/
def empty : Table α := {}

instance : Inhabited (Table α) := ⟨empty⟩

/-- The value in the first entry of a name. -/
def find? (name : String) : List (String × α) → Option α
  | [] => none
  | (key, value) :: rest => if name = key then some value else find? name rest

/-- The value of a name. -/
def get? (t : Table α) (name : String) : Option α :=
  find? name t.entries

/-- Replaces the value in the first entry of a name, or adds an entry at the end. -/
private def put (name : String) (value : α) : List (String × α) → List (String × α)
  | [] => [(name, value)]
  | (key, old) :: rest =>
    if name = key then (name, value) :: rest else (key, old) :: put name value rest

/-- Gives a name a value. -/
def set (t : Table α) (name : String) (value : α) : Table α :=
  ⟨put name value t.entries⟩

/-- Takes the value of a name away. -/
def erase (t : Table α) (name : String) : Table α :=
  ⟨t.entries.filter fun e => e.1 ≠ name⟩

/-- Gives a name a value, or takes its value away. -/
def restore (t : Table α) (name : String) : Option α → Table α
  | some value => t.set name value
  | none => t.erase name

/-- Gives several names their values, one after the other. -/
def setAll (t : Table α) (entries : List (String × α)) : Table α :=
  entries.foldl (fun t e => t.set e.1 e.2) t

/-- The table of several names; of equal names the last one counts. -/
def ofList (entries : List (String × α)) : Table α :=
  empty.setAll entries

/-- The entries of a table. -/
def toList (t : Table α) : List (String × α) :=
  t.entries

@[simp] theorem get?_empty (name : String) : (empty : Table α).get? name = none := rfl

private theorem find?_put (name : String) (value : α) (entries : List (String × α))
    (other : String) :
    find? other (put name value entries) =
      if other = name then some value else find? other entries := by
  induction entries with
  | nil => simp [put, find?]
  | cons e rest ih =>
    obtain ⟨key, old⟩ := e
    by_cases hk : name = key
    · subst hk
      by_cases h : other = name <;> simp [put, find?, h]
    · by_cases h : other = key
      · subst h
        simp [put, find?, hk, Ne.symm hk]
      · simp [put, find?, hk, h, ih]

theorem get?_set (t : Table α) (name : String) (value : α) (other : String) :
    (t.set name value).get? other = if other = name then some value else t.get? other :=
  find?_put name value t.entries other

@[simp] theorem get?_set_self (t : Table α) (name : String) (value : α) :
    (t.set name value).get? name = some value := by
  simp [get?_set]

theorem get?_erase (t : Table α) (name other : String) :
    (t.erase name).get? other = if other = name then none else t.get? other := by
  simp only [get?, erase]
  induction t.entries with
  | nil => simp [find?]
  | cons e rest ih =>
    obtain ⟨key, old⟩ := e
    by_cases hk : key = name
    · subst hk
      rw [List.filter_cons_of_neg (by simp), ih]
      by_cases h : other = key <;> simp [find?, h]
    · rw [List.filter_cons_of_pos (by simp [hk]), find?, find?, ih]
      by_cases h : other = key
      · subst h
        simp [hk]
      · simp [h]

theorem get?_restore (t : Table α) (name : String) (value : Option α) (other : String) :
    (t.restore name value).get? other = if other = name then value else t.get? other := by
  cases value
  · exact get?_erase t name other
  · exact get?_set t name _ other

theorem find?_append (name : String) (front back : List (String × α)) :
    find? name (front ++ back) = (find? name front).or (find? name back) := by
  induction front with
  | nil => rfl
  | cons e front ih =>
    rw [List.cons_append, find?, find?, ih]
    split <;> rfl

/-- The last one of the values that a name is given counts. -/
theorem get?_setAll (t : Table α) (entries : List (String × α)) (name : String) :
    (t.setAll entries).get? name = (find? name entries.reverse).or (t.get? name) := by
  induction entries generalizing t with
  | nil => rfl
  | cons e entries ih =>
    have hfirst : (t.setAll (e :: entries)).get? name =
        ((t.set e.1 e.2).setAll entries).get? name := rfl
    rw [hfirst, ih, get?_set, List.reverse_cons, find?_append, Option.or_assoc, find?]
    split <;> rfl

theorem get?_ofList (entries : List (String × α)) (name : String) :
    (ofList entries).get? name = find? name entries.reverse := by
  rw [ofList, get?_setAll, get?_empty, Option.or_none]

theorem find?_eq_none {name : String} {entries : List (String × α)}
    (h : ∀ e ∈ entries, e.1 ≠ name) : find? name entries = none := by
  induction entries with
  | nil => rfl
  | cons e entries ih =>
    obtain ⟨he, hrest⟩ := List.forall_mem_cons.1 h
    rw [find?, if_neg (Ne.symm he), ih hrest]

theorem get?_setAll_of_last (t : Table α) {front back : List (String × α)} {name : String}
    {value : α} (h : ∀ e ∈ back, e.1 ≠ name) :
    (t.setAll (front ++ (name, value) :: back)).get? name = some value := by
  have hback : find? name back.reverse = none :=
    find?_eq_none fun e he => h e (List.mem_reverse.1 he)
  rw [get?_setAll, List.reverse_append, List.reverse_cons, find?_append, find?_append, hback]
  simp [find?]

end Table

end RecipeRunner
