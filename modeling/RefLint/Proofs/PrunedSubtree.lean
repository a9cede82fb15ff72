import RefLint.Proofs.DeletedMembers
import RefLint.Proofs.NeededDefinitions
import RefLint.Proofs.ResolverOptions

/-!
# Pruning stays inside the subtree of definitions

What is pruned is chosen by comparing texts: a pointer is a definition if it starts with
the normalised prefix. What is removed is found by following keys. The two agree, whatever
text the prefix is made from, because the prefix ends at a slash and slashes part keys. So
nothing at the place of the prefix, above it or beside it is touched.
-/

namespace RefLint

set_option autoImplicit false

open Pointer

section Prefix

/-- The path that the normalised prefix spells: the prefix without its final slash. -/
def definitionsPath (text : String) : String :=
  String.ofList (normalizePrefix text).toList.dropLast

def Pointer.StrictlyBelow (root : Value) (path : String) (leaf : Route) : Prop :=
  ∃ place, route? root (segments path) = some place ∧ place <+: leaf ∧ place ≠ leaf

theorem normal_prefix (text : String) : ∃ trimmed : List Char,
    (normalizePrefix text).toList = '#' :: '/' :: trimmed ++ ['/'] ∧
      (definitionsPath text).toList = '#' :: '/' :: trimmed := by
  have marks : ("#/" : String).toList = ['#', '/'] := rfl
  have slash : ("/" : String).toList = ['/'] := rfl
  have written : ∃ trimmed : List Char,
      (normalizePrefix text).toList = '#' :: '/' :: trimmed ++ ['/'] :=
    ⟨_, by
      simp only [normalizePrefix, String.toList_append, String.toList_ofList, marks, slash]
      rfl⟩
  obtain ⟨trimmed, written⟩ := written
  refine ⟨trimmed, written, ?_⟩
  rw [definitionsPath, written, List.dropLast_concat, String.toList_ofList]

/-- The keys of a pointer with the prefix are those of the path and at least one more. -/
theorem segments_of_definition {text pointer : String}
    (definition : (normalizePrefix text).toList <+: pointer.toList) :
    ∃ key more, segments pointer = segments (definitionsPath text) ++ key :: more := by
  obtain ⟨trimmed, written, spelled⟩ := normal_prefix text
  obtain ⟨behind, split⟩ := definition
  have parts : writtenSegments pointer.toList =
      writtenSegments (definitionsPath text).toList ++ splitAt '/' behind := by
    rw [← split, written, spelled, List.append_assoc]
    exact split_at_parts '/' trimmed behind
  cases later : splitAt '/' behind with
  | nil => exact absurd later (split_at_ne_nil '/' behind)
  | cons key more =>
      rw [later] at parts
      exact ⟨_, _, by rw [segments, segments, parts, List.map_append, List.map_cons]⟩

theorem length_of_route {value : Value} {path : List String} {route : Route}
    (routed : route? value path = some route) : route.length = path.length := by
  induction path generalizing value route with
  | nil =>
      obtain rfl := Option.some.inj routed
      rfl
  | cons segment rest ih =>
      obtain ⟨_, _, _, _, _, further, rfl⟩ := route_cons_iff.1 routed
      rw [List.length_cons, List.length_cons, ih further]

theorem strictly_below_of_definition {root : Value} {text pointer : String} {leaf : Route}
    (definition : (normalizePrefix text).toList <+: pointer.toList)
    (routed : route? root (segments pointer) = some leaf) :
    StrictlyBelow root (definitionsPath text) leaf := by
  obtain ⟨key, more, split⟩ := segments_of_definition definition
  have starts : segments (definitionsPath text) <+: segments pointer := ⟨_, split.symm⟩
  obtain ⟨place, placed, before⟩ := route_of_prefix starts routed
  refine ⟨place, placed, before, ?_⟩
  rintro rfl
  have longer := congrArg List.length split
  rw [List.length_append, List.length_cons, ← length_of_route routed,
    ← length_of_route placed] at longer
  omega

end Prefix

section Resolved

variable {root value : Value} {options : RefOptions} {resolution : Resolution}

def CacheDistinct (progress : Progress) : Prop :=
  ∀ pointer resolved, progress.cached? pointer = some resolved → resolved.KeysDistinct

def DistinctRun : GoodRun := fun before value result after =>
  value.KeysDistinct → CacheDistinct before → result.KeysDistinct ∧ CacheDistinct after

theorem distinct_walk {before after : Progress} {values results : List Value}
    (walked : Threaded DistinctRun before values results after)
    (distinct : ∀ value ∈ values, value.KeysDistinct) (cache : CacheDistinct before) :
    (∀ result ∈ results, result.KeysDistinct) ∧ CacheDistinct after := by
  induction walked with
  | nil => exact ⟨by simp, cache⟩
  | cons first _ _ ih =>
      obtain ⟨head, middle⟩ := first (distinct _ List.mem_cons_self) cache
      have later := fun value listed => distinct value (List.mem_cons_of_mem _ listed)
      obtain ⟨tail, last⟩ := ih later middle
      exact ⟨List.forall_mem_cons.2 ⟨head, tail⟩, last⟩

theorem resolver_keeps_distinct (rootDistinct : root.KeysDistinct) :
    StepRule root options DistinctRun Unconstrained where
  scalar := fun _ distinct cache => ⟨distinct, cache⟩
  external := fun _ _ distinct cache => ⟨distinct, cache⟩
  cached := fun _ found _ cache => ⟨cache _ _ found, cache⟩
  kept := fun _ _ _ _ distinct cache => ⟨distinct, cache⟩
  followed := by
    intro progress after members pointer target result _ _ reached inner _ _ cache
    have targetDistinct := rootDistinct.inside (inside_of_navigate reached)
    obtain ⟨resultDistinct, cacheAfter⟩ := inner targetDistinct cache
    refine ⟨resultDistinct, fun other resolved found => ?_⟩
    obtain ⟨rfl, rfl⟩ | earlier := Progress.cached_of_finish found
    · exact resultDistinct
    · exact cacheAfter other resolved earlier
  sequence := by
    intro progress after items results walked distinct cache
    obtain ⟨all, cacheAfter⟩ := distinct_walk walked (Value.all_mappings_array.1 distinct) cache
    exact ⟨Value.all_mappings_array.2 all, cacheAfter⟩
  mapping := by
    intro progress after members resolved _ sameKeys walked distinct cache
    obtain ⟨keys, parts⟩ := Value.all_mappings_object.1 distinct
    obtain ⟨all, cacheAfter⟩ := distinct_walk walked parts cache
    exact ⟨Value.all_mappings_object.2 ⟨sameKeys ▸ keys, all⟩, cacheAfter⟩

theorem resolved_keys_distinct (distinct : value.KeysDistinct) (rootDistinct : root.KeysDistinct)
    (resolved : resolveRefs value root options = .ok resolution) :
    resolution.value.KeysDistinct := by
  obtain ⟨done, finished, rfl⟩ := resolve_refs_eq_ok resolved
  have run := (resolver_keeps_distinct rootDistinct).of_finished finished
  exact (run distinct fun _ _ found => nomatch found).1

end Resolved

section InPlace

variable {value root document : Value} {options : RefOptions}

/-- Resolve a value against the root in hand, which may lose inlined definitions. -/
def resolveInPlace (value : Value) (options : RefOptions) : EStateM ReferenceError Value Value := do
  let resolution ← ofExcept (resolveRefs value (← get) options)
  if options.prune then
    modify fun root => (resolution.prune root).1
  return resolution.value

def dereferenceInPlace (options : RefOptions) : EStateM ReferenceError Value Unit := do
  let document ← get
  let resolution ← ofExcept (resolveRefs document document options)
  set resolution.value
  if options.prune then
    modify fun resolved => (resolution.prune resolved).1

theorem resolve_in_place (value root : Value) (options : RefOptions) :
    (resolveInPlace value options).run root =
      match resolve value root options with
      | .ok (inlined, pruned) => .ok inlined pruned
      | .error error => .error error root := by
  unfold resolveInPlace resolve
  simp only [EStateM.run_bind, EStateM.run_get]
  cases resolveRefs value root options with
  | error error => rfl
  | ok resolution =>
      cases prunes : options.prune with
      | true => rfl
      | false => rfl

theorem dereference_in_place (document : Value) (options : RefOptions) :
    (dereferenceInPlace options).run document =
      match dereference document options with
      | .ok result => .ok () result
      | .error error => .error error document := by
  unfold dereferenceInPlace dereference
  simp only [EStateM.run_bind, EStateM.run_get]
  cases resolveRefs document document options with
  | error error => rfl
  | ok resolution =>
      cases prunes : options.prune with
      | true => rfl
      | false => rfl

end InPlace

section Subtree

variable {value root smaller : Value} {options : RefOptions} {resolution : Resolution}
  {text pointer : String}

/-- The second value is the first without some members that stood strictly below the place
of the path. -/
def PrunedBelow (root smaller : Value) (path : String) : Prop :=
  ∃ leaves : List Route, smaller = root.without (fun place => place ∈ leaves) ∧
    ∀ leaf ∈ leaves, leaf.EndsAtMember ∧ root.at? leaf ≠ none ∧ StrictlyBelow root path leaf

def subtreeOptions (text : String) (policy : CyclePolicy) (prune : Bool) : RefOptions :=
  RefOptions.withDefinitionsPrefix { prune := prune, onCycle := policy } text

theorem pruned_below (distinct : root.KeysDistinct)
    (definitions : ∀ pointer ∈ resolution.consumed,
      (normalizePrefix text).toList <+: pointer.toList) :
    PrunedBelow root (resolution.prune root).1 (definitionsPath text) := by
  obtain ⟨leaves, taken, named⟩ := removed_members resolution.prunable.toList distinct
  refine ⟨leaves, taken, fun leaf listed => ?_⟩
  obtain ⟨pointer, prunable, routed, member⟩ := named leaf listed
  obtain ⟨part, found⟩ := at_of_route routed
  have definition := definitions pointer (mem_prunable_iff.1 prunable).1
  exact ⟨member, by simp [found], strictly_below_of_definition definition routed⟩

theorem consumed_definition {policy : CyclePolicy} {prune : Bool}
    (resolved : resolveRefs value root (subtreeOptions text policy prune) = .ok resolution)
    (consumed : pointer ∈ resolution.consumed) :
    (normalizePrefix text).toList <+: pointer.toList := by
  obtain ⟨_, definition⟩ := ((searched_of_resolved resolved).consumed pointer).1 consumed
  rwa [is_definition_iff, subtreeOptions, RefOptions.withDefinitionsPrefix] at definition

/-- Pruning deletes members strictly below the place of the prefix and changes nothing else,
in the root or in the dereferenced document; and a call that fails leaves both alone. -/
theorem pruning_stays_strictly_below (value root : Value) (text : String) (policy : CyclePolicy)
    (distinct : root.KeysDistinct) :
    (∀ inlined pruned,
      resolve value root (subtreeOptions text policy true) = .ok (inlined, pruned) →
        PrunedBelow root pruned (definitionsPath text)) ∧
    ((∃ off, dereference root (subtreeOptions text policy false) = .ok off) ↔
      ∃ on, dereference root (subtreeOptions text policy true) = .ok on) ∧
    (∀ off on, dereference root (subtreeOptions text policy false) = .ok off →
      dereference root (subtreeOptions text policy true) = .ok on →
        PrunedBelow off on (definitionsPath text)) ∧
    ∀ options error,
      (resolve value root options = .error error →
        (resolveInPlace value options).run root = .error error root) ∧
      (dereference root options = .error error →
        (dereferenceInPlace options).run root = .error error root) := by
  have same : resolveRefs root root (subtreeOptions text policy false) =
      resolveRefs root root (subtreeOptions text policy true) :=
    resolve_refs_prune root root (subtreeOptions text policy true) false
  refine ⟨?_, ?_, ?_, ?_⟩
  · intro inlined pruned succeeded
    obtain ⟨resolution, resolved, _, rfl⟩ := resolve_eq_ok.1 succeeded
    exact pruned_below distinct fun _ => consumed_definition resolved
  · simp only [dereference_eq_ok, same]
    constructor
    · rintro ⟨_, resolution, resolved, _⟩
      exact ⟨_, resolution, resolved, rfl⟩
    · rintro ⟨_, resolution, resolved, _⟩
      exact ⟨_, resolution, resolved, rfl⟩
  · intro off on unpruned pruned
    obtain ⟨resolution, resolved, rfl⟩ := dereference_eq_ok.1 pruned
    obtain ⟨again, resolvedAgain, rfl⟩ := dereference_eq_ok.1 unpruned
    obtain rfl := Except.ok.inj (resolvedAgain.symm.trans (same.trans resolved))
    have valueDistinct := resolved_keys_distinct distinct distinct resolved
    exact pruned_below valueDistinct fun _ => consumed_definition resolved
  · intro options error
    constructor
    · intro failed
      rw [resolve_in_place, failed]
    · intro failed
      rw [dereference_in_place, failed]

end Subtree

section OddPrefix

def oddDocument : Value := .object [
  ("", .object [("a", .string "text"), ("b", .object (referenceTo "#//a"))]),
  ("a", .string "other")]

def oddPruned : Value := .object [
  ("", .object [("b", .object (referenceTo "#//a"))]), ("a", .string "other")]

/-- A prefix that is only a mark leads to the member under the empty key. -/
theorem odd_prefix_pruned :
    oddDocument.KeysDistinct ∧
    resolve (.object (referenceTo "#//a")) oddDocument (subtreeOptions "#" .refuse true) =
      .ok (.string "text", oddPruned) ∧
    segments (definitionsPath "#") = [""] ∧
    PrunedBelow oddDocument oddPruned (definitionsPath "#") := by
  have distinct : oddDocument.KeysDistinct := by
    simp [oddDocument, Value.KeysDistinct, Value.all_mappings_object, Value.all_mappings_scalar,
      Members.keys, Value.kind]
  have target : navigate oddDocument "#//a" = .ok (.string "text") := rfl
  have definition : (subtreeOptions "#" .refuse true).isDefinition "#//a" = true := by decide
  have resolved : resolve (.object (referenceTo "#//a")) oddDocument
      (subtreeOptions "#" .refuse true) = .ok (.string "text", oddPruned) := by
    have run : resolveRefs (.object (referenceTo "#//a")) oddDocument
        (subtreeOptions "#" .refuse true) =
          .ok ⟨.string "text", NameSet.empty.insert "#//a", .empty⟩ := by
      simp [resolveRefs, resolve_local_reference (node_of_reference_to "#//a" rfl), target,
        definition, resolveValue, Progress.start, Progress.enter, Progress.cached?, Members.get?,
        Progress.finish]
    rw [resolve, run]
    rfl
  exact ⟨distinct, resolved, rfl,
    (pruning_stays_strictly_below _ oddDocument "#" .refuse distinct).1 _ _ resolved⟩

end OddPrefix

end RefLint
