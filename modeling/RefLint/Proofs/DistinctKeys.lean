import Mathlib.Data.List.Nodup
import RefLint.Proofs.Removal

/-!
# Mappings without a key twice

A mapping is a list of members here, so nothing in its type keeps a key from occurring
twice. No mapping of a document has one, though, and neither removing a member nor
inserting one brings it about.
-/

namespace RefLint

set_option autoImplicit false

section Entries

variable {Entry : Type} {name : String} {entry : Entry} {entries : List (String × Entry)}

theorem lookup_eq_some_iff (distinct : (entries.map (·.1)).Nodup) :
    entries.lookup name = some entry ↔ (name, entry) ∈ entries := by
  induction entries with
  | nil => simp
  | cons first rest ih =>
      obtain ⟨other, held⟩ := first
      obtain ⟨absent, distinctRest⟩ := List.nodup_cons.1 distinct
      rw [List.lookup_cons, List.mem_cons]
      by_cases same : name = other
      · subst same
        have elsewhere : (name, entry) ∉ rest := fun listed =>
          absent (List.mem_map.2 ⟨_, listed, rfl⟩)
        simp [elsewhere, eq_comm]
      · simp [same, beq_false_of_ne same, ih distinctRest]

end Entries

/-- No mapping in a value has a key twice. -/
def Value.KeysDistinct : Value → Prop := AllMappings fun members => (Members.keys members).Nodup

namespace Members

variable {key : String} {value : Value} {members : Members}

theorem keys_erase_nodup (key : String) (distinct : (keys members).Nodup) :
    (keys (erase key members)).Nodup :=
  distinct.sublist (List.filter_sublist.map _)

theorem keys_insert_of_get {old : Value} (found : get? key members = some old) :
    keys (insert key value members) = keys members := by
  induction members with
  | nil => simp [get?] at found
  | cons first rest ih =>
      obtain ⟨name, other⟩ := first
      simp only [get?] at found
      simp only [insert]
      split
      · rfl
      · rename_i different
        rw [if_neg different] at found
        exact congrArg (name :: ·) (ih found)

theorem keys_insert_of_absent (absent : key ∉ keys members) :
    keys (insert key value members) = keys members ++ [key] := by
  induction members with
  | nil => rfl
  | cons first rest ih =>
      obtain ⟨name, other⟩ := first
      obtain ⟨different, absent⟩ := not_or.1 (mt List.mem_cons.2 absent)
      simp only [insert, if_neg (Ne.symm different)]
      exact congrArg (name :: ·) (ih absent)

theorem keys_insert_nodup (key : String) (value : Value) (distinct : (keys members).Nodup) :
    (keys (insert key value members)).Nodup := by
  by_cases present : key ∈ keys members
  · obtain ⟨old, found⟩ := Option.ne_none_iff_exists'.1 (mt get_eq_none_iff.1 (not_not.2 present))
    rwa [keys_insert_of_get found]
  · rw [keys_insert_of_absent present]
    exact distinct.append (List.nodup_singleton key) (List.disjoint_singleton.2 present)

theorem get_eq_lookup (key : String) (members : Members) :
    get? key members = members.lookup key := by
  induction members with
  | nil => rfl
  | cons first rest ih =>
      obtain ⟨name, value⟩ := first
      rw [get?, List.lookup_cons, ih]
      by_cases same : name = key
      · simp [same]
      · simp [same, beq_false_of_ne (Ne.symm same)]

theorem get_of_mem (distinct : (keys members).Nodup) (present : (key, value) ∈ members) :
    get? key members = some value := by
  rw [get_eq_lookup]
  exact (lookup_eq_some_iff distinct).2 present

theorem mem_of_mem_insert {name : String} {other : Value}
    (present : (name, other) ∈ insert key value members) :
    name = key ∧ other = value ∨ (name, other) ∈ members := by
  induction members with
  | nil => simpa [insert] using present
  | cons first rest ih =>
      obtain ⟨firstName, old⟩ := first
      simp only [insert] at present
      split at present
      · rename_i same
        rcases List.mem_cons.1 present with here | later
        · obtain ⟨rfl, rfl⟩ := Prod.mk.inj here
          exact .inl ⟨same, rfl⟩
        · exact .inr (List.mem_cons_of_mem _ later)
      · rcases List.mem_cons.1 present with here | later
        · exact .inr (here ▸ List.mem_cons_self)
        · exact (ih later).imp_right (List.mem_cons_of_mem _)

theorem mem_insert_self (key : String) (value : Value) {members : Members} :
    (key, value) ∈ insert key value members :=
  mem_of_get (by rw [get_insert, if_pos rfl])

theorem mem_insert_of_ne {name : String} {other : Value} (value : Value) (different : name ≠ key)
    (present : (name, other) ∈ members) : (name, other) ∈ insert key value members := by
  induction members with
  | nil => simp at present
  | cons first rest ih =>
      obtain ⟨firstName, old⟩ := first
      simp only [insert]
      split
      · rename_i same
        rcases List.mem_cons.1 present with here | later
        · exact absurd ((Prod.mk.inj here).1.trans same) different
        · exact List.mem_cons_of_mem _ later
      · rcases List.mem_cons.1 present with here | later
        · exact here ▸ List.mem_cons_self
        · exact List.mem_cons_of_mem _ (ih later)

end Members

section Builders

variable {members : Members} {key : String} {value : Value}

theorem Value.KeysDistinct.erase (key : String) (distinct : Value.KeysDistinct (.object members)) :
    Value.KeysDistinct (.object (members.erase key)) := by
  obtain ⟨own, parts⟩ := Value.all_mappings_object.1 distinct
  refine Value.all_mappings_object.2 ⟨Members.keys_erase_nodup key own, fun part present => ?_⟩
  obtain ⟨entry, kept, rfl⟩ := List.mem_map.1 present
  exact parts entry.2 (List.mem_map_of_mem (List.mem_of_mem_filter kept))

theorem Value.KeysDistinct.insert (key : String) (distinct : Value.KeysDistinct (.object members))
    (new : value.KeysDistinct) : Value.KeysDistinct (.object (members.insert key value)) := by
  obtain ⟨own, parts⟩ := Value.all_mappings_object.1 distinct
  refine Value.all_mappings_object.2 ⟨Members.keys_insert_nodup key value own, fun part present => ?_⟩
  obtain ⟨⟨name, _⟩, kept, rfl⟩ := List.mem_map.1 present
  rcases Members.mem_of_mem_insert kept with ⟨_, rfl⟩ | old
  · exact new
  · exact parts _ (List.mem_map_of_mem old)

theorem keys_distinct_empty : Value.KeysDistinct (.object []) := by
  simp [Value.KeysDistinct, Value.all_mappings_object, Members.keys]

end Builders

end RefLint
