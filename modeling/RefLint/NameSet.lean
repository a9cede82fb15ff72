/-!
# Sets of names

A finite set of strings, held in increasing order of code points. That is also
the order of the UTF-8 bytes, in which the program lists every set it reports.
-/

namespace RefLint

set_option autoImplicit false

/-- Put a name into its place of an increasing list, unless it is there. -/
def insertIncreasing (name : String) : List String → List String
  | [] => [name]
  | first :: rest =>
      if name < first then name :: first :: rest
      else if name = first then first :: rest
      else first :: insertIncreasing name rest

theorem mem_insert_increasing {name other : String} {names : List String} :
    other ∈ insertIncreasing name names ↔ other = name ∨ other ∈ names := by
  induction names with
  | nil => simp [insertIncreasing]
  | cons first rest ih =>
      simp only [insertIncreasing]
      split
      · simp
      · split
        · rename_i same
          subst same
          simp
        · simp only [List.mem_cons, ih]
          grind

theorem pairwise_insert_increasing {name : String} {names : List String}
    (increasing : names.Pairwise (· < ·)) : (insertIncreasing name names).Pairwise (· < ·) := by
  induction names with
  | nil => simp [insertIncreasing]
  | cons first rest ih =>
      have tail := List.pairwise_cons.1 increasing
      simp only [insertIncreasing]
      split
      · rename_i before
        refine List.pairwise_cons.2 ⟨?_, increasing⟩
        intro other present
        rcases List.mem_cons.1 present with rfl | later
        · exact before
        · exact String.lt_trans before (tail.1 other later)
      · split
        · exact increasing
        · rename_i notBefore different
          refine List.pairwise_cons.2 ⟨?_, ih tail.2⟩
          intro other present
          rcases mem_insert_increasing.1 present with rfl | later
          · grind
          · exact tail.1 other later

structure NameSet where
  toList : List String
  increasing : toList.Pairwise (· < ·)

namespace NameSet

def empty : NameSet := ⟨[], List.Pairwise.nil⟩

def insert (names : NameSet) (name : String) : NameSet :=
  ⟨insertIncreasing name names.toList, pairwise_insert_increasing names.increasing⟩

def ofList (names : List String) : NameSet := names.foldl insert empty

def union (names more : NameSet) : NameSet := more.toList.foldl insert names

def filter (names : NameSet) (keep : String → Bool) : NameSet :=
  ⟨names.toList.filter keep, names.increasing.filter _⟩

def erase (names : NameSet) (name : String) : NameSet := names.filter fun other => other ≠ name

instance : Membership String NameSet := ⟨fun names name => name ∈ names.toList⟩

instance (name : String) (names : NameSet) : Decidable (name ∈ names) :=
  inferInstanceAs (Decidable (name ∈ names.toList))

def contains (names : NameSet) (name : String) : Bool := decide (name ∈ names)

theorem mem_def {name : String} {names : NameSet} : name ∈ names ↔ name ∈ names.toList := Iff.rfl

@[simp] theorem not_mem_empty (name : String) : name ∉ empty := by
  simp [mem_def, empty]

theorem eq_empty {names : NameSet} (nothing : ∀ name, name ∉ names) : names = empty := by
  obtain ⟨listed, increasing⟩ := names
  obtain rfl : listed = [] := List.eq_nil_iff_forall_not_mem.2 nothing
  rfl

@[simp] theorem mem_insert {name other : String} {names : NameSet} :
    other ∈ names.insert name ↔ other = name ∨ other ∈ names := mem_insert_increasing

@[simp] theorem mem_filter {name : String} {names : NameSet} {keep : String → Bool} :
    name ∈ names.filter keep ↔ name ∈ names ∧ keep name := List.mem_filter

@[simp] theorem mem_erase {name other : String} {names : NameSet} :
    other ∈ names.erase name ↔ other ∈ names ∧ other ≠ name := by
  simp [erase]

theorem mem_foldl_insert {name : String} {names : NameSet} (more : List String) :
    name ∈ more.foldl insert names ↔ name ∈ names ∨ name ∈ more := by
  induction more generalizing names with
  | nil => simp
  | cons first rest ih =>
      rw [List.foldl_cons, ih, mem_insert, List.mem_cons, or_assoc, or_left_comm]

theorem mem_foldl_erase {name : String} {names : NameSet} (more : List String) :
    name ∈ more.foldl erase names ↔ name ∈ names ∧ name ∉ more := by
  induction more generalizing names with
  | nil => simp
  | cons first rest ih =>
      rw [List.foldl_cons, ih, mem_erase, List.mem_cons, not_or, and_assoc]

@[simp] theorem mem_of_list {name : String} {names : List String} :
    name ∈ ofList names ↔ name ∈ names := by
  simp [ofList, mem_foldl_insert]

@[simp] theorem mem_union {name : String} {names more : NameSet} :
    name ∈ names.union more ↔ name ∈ names ∨ name ∈ more := mem_foldl_insert more.toList

end NameSet

end RefLint
