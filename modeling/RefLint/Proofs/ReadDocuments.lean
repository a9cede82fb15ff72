import RefLint.Document
import RefLint.Proofs.DistinctKeys

/-!
# Documents that were read

A document has no key twice, whatever its text: in JSON a later member takes the place of
an earlier one with its key, and in YAML two keys may become the same text, and then they
are merged in the same way.
-/

namespace RefLint

set_option autoImplicit false

theorem bind_eq_ok_iff {ε α β : Type} {first : Except ε α} {next : α → Except ε β} {result : β} :
    first >>= next = .ok result ↔ ∃ middle, first = .ok middle ∧ next middle = .ok result := by
  cases first <;> simp [bind, Except.bind]

namespace Json

variable {cursor later : Cursor} {holds : Value → Prop} {depth : Nat}

/-- What a reader answers, if it answers a value, has the property. -/
def Yields (holds : Value → Prop) : Reading cursor Value → Prop
  | .ok (value, _) => holds value
  | .error _ => True

theorem of_yields {reading : Reading cursor Value} {value : Value} {after : Advanced cursor}
    (finished : reading = .ok (value, after)) (yields : Yields holds reading) : holds value := by
  rw [finished] at yields
  exact yields

theorem yields_from {reading : Reading later Value} (le : later.size ≤ cursor.size)
    (yields : Yields holds reading) : Yields holds (reading.from le) := by
  cases reading with
  | ok => exact yields
  | error => trivial

theorem yields_map {α : Type} {reading : Except SyntaxError α} {make : α → Value × Advanced cursor}
    (yields : ∀ read, reading = .ok read → holds (make read).1) : Yields holds (reading.map make) := by
  cases reading with
  | ok read => exact yields read rfl
  | error => trivial

theorem read_letters_value {value read : Value} {letters : List Char} {next : Cursor}
    {after : { last : Cursor // last.size ≤ next.size }}
    (finished : readLetters next value letters = .ok (read, after)) : read = value := by
  induction letters generalizing next with
  | nil => exact (Prod.mk.inj (Except.ok.inj finished)).1.symm
  | cons letter letters ih =>
      -- The definition carries bounds on sizes, so its branches are opened by computation.
      obtain ⟨position, text⟩ := next
      cases text with
      | nil =>
          change Except.error _ = _ at finished
          contradiction
      | cons c rest =>
          change (if c = letter then _ else Except.error _) = _ at finished
          split at finished
          · split at finished
            · contradiction
            · rename_i inner
              obtain ⟨rfl, _⟩ := Prod.mk.inj (Except.ok.inj finished)
              exact ih inner
          · contradiction

theorem size_behind {c : Char} {rest : List Char} (next : cursor.skipBlanks.rest = c :: rest)
    (position : Position) : Cursor.size ⟨position, rest⟩ < cursor.size :=
  Nat.lt_of_lt_of_le (Cursor.size_lt_of_rest next position) cursor.skip_blanks_size_le

def ItemsDistinct (depth : Nat) (cursor : Cursor) : Prop :=
  ∀ (first : Bool) (read : List Value), (∀ item ∈ read, item.KeysDistinct) →
    Yields Value.KeysDistinct (readItems depth cursor first read)

def MembersDistinct (depth : Nat) (cursor : Cursor) : Prop :=
  ∀ (first : Bool) (read : Members), Value.KeysDistinct (.object read) →
    Yields Value.KeysDistinct (readMembers depth cursor first read)

theorem read_value_step
    (items : ∀ depth later, later.size < cursor.size → ItemsDistinct depth later)
    (members : ∀ depth later, later.size < cursor.size → MembersDistinct depth later) :
    Yields Value.KeysDistinct (readValue depth cursor) := by
  have scalar {value : Value} (isScalar : value.kind ≠ .array ∧ value.kind ≠ .object) :
      value.KeysDistinct := Value.all_mappings_scalar isScalar
  have letters {next : Cursor} {value : Value} {text : List Char}
      {make : Value × { last : Cursor // last.size ≤ next.size } → Value × Advanced cursor}
      (isScalar : value.kind ≠ .array ∧ value.kind ≠ .object)
      (same : ∀ read, (make read).1 = read.1) :
      Yields Value.KeysDistinct ((readLetters next value text).map make) := by
    apply yields_map
    rintro ⟨read, after⟩ finished
    rw [same, read_letters_value finished]
    exact scalar isScalar
  unfold readValue
  dsimp only
  split
  · trivial
  · rename_i c rest next
    split
    · exact letters (by simp [Value.kind]) (fun _ => rfl)
    split
    · exact letters (by simp [Value.kind]) (fun _ => rfl)
    split
    · exact letters (by simp [Value.kind]) (fun _ => rfl)
    split
    · exact yields_map fun read _ => scalar (by simp [Value.kind])
    split
    · split
      · trivial
      · exact yields_from _ (items _ _ (size_behind next _) true [] (by simp))
    split
    · split
      · trivial
      · exact yields_from _ (members _ _ (size_behind next _) true [] keys_distinct_empty)
    split
    · exact yields_map fun read _ => scalar (by simp [Value.kind])
    split
    · exact yields_map fun read _ => scalar (by simp [Value.kind])
    · trivial

theorem read_items_step
    (values : ∀ later : Cursor, later.size ≤ cursor.size →
      Yields Value.KeysDistinct (readValue depth later))
    (onward : ∀ later : Cursor, later.size < cursor.size → ItemsDistinct depth later) :
    ItemsDistinct depth cursor := by
  intro first read distinct
  unfold readItems
  dsimp only
  split
  · trivial
  · rename_i c rest next
    split
    · exact Value.all_mappings_array.2 fun item present => distinct item (List.mem_reverse.1 present)
    · split
      · split
        · trivial
        · rename_i value after finished
          have reached := cursor.skip_blanks_size_le
          have own := of_yields finished (values _ reached)
          have shorter := Nat.lt_of_lt_of_le after.advanced reached
          exact yields_from _ (onward _ shorter _ _ (List.forall_mem_cons.2 ⟨own, distinct⟩))
      · split
        · split
          · trivial
          · trivial
          · split
            · trivial
            · rename_i value after finished
              have behind := size_behind next (cursor.skipBlanks.position.after c)
              have reached := Nat.le_trans (Cursor.skip_blanks_size_le _) (Nat.le_of_lt behind)
              have own := of_yields finished (values _ reached)
              have shorter := Nat.lt_of_lt_of_le after.advanced reached
              exact yields_from _ (onward _ shorter _ _ (List.forall_mem_cons.2 ⟨own, distinct⟩))
        · trivial

theorem read_members_onward {start : Cursor} {key : String} {value : Value} {read : Members}
    (values : ∀ later : Cursor, later.size < cursor.size →
      Yields Value.KeysDistinct (readValue depth later))
    (onward : ∀ later : Cursor, later.size < cursor.size → MembersDistinct depth later)
    (distinct : Value.KeysDistinct (.object read)) (behind : start.size < cursor.size)
    {atColon : Advanced start} {atValue : Advanced atColon.cursor}
    {after : Advanced atValue.cursor}
    (finished : readValue depth atValue.cursor = .ok (value, after)) :
    Yields Value.KeysDistinct
      (readMembers depth after.cursor false (Members.insert key value read)) := by
  have reached := Nat.lt_trans atValue.advanced (Nat.lt_trans atColon.advanced behind)
  have own := of_yields finished (values _ reached)
  exact onward _ (Nat.lt_trans after.advanced reached) false _ (distinct.insert key own)

theorem read_members_step
    (values : ∀ later : Cursor, later.size < cursor.size →
      Yields Value.KeysDistinct (readValue depth later))
    (onward : ∀ later : Cursor, later.size < cursor.size → MembersDistinct depth later) :
    MembersDistinct depth cursor := by
  intro first read distinct
  unfold readMembers
  dsimp only
  split
  · trivial
  · rename_i c rest next
    have behind := size_behind next (cursor.skipBlanks.position.after c)
    split
    · exact distinct
    -- The first member comes at once, a later one behind a comma.
    split
    · split
      · split
        · trivial
        · split
          · trivial
          · split
            · trivial
            · rename_i finished
              exact yields_from _ (read_members_onward values onward distinct behind finished)
      · trivial
    split
    · split
      · trivial
      · trivial
      · rename_i keyRest atKey
        let between : Cursor := ⟨cursor.skipBlanks.position.after c, rest⟩
        have inKey := Nat.lt_trans (size_behind atKey (between.skipBlanks.position.after '"')) behind
        split
        · trivial
        · split
          · trivial
          · split
            · trivial
            · rename_i finished
              exact yields_from _ (read_members_onward values onward distinct inKey finished)
      · trivial
    · trivial

/-- By induction on what is left of the text; at one place a value is read before the
items and members that begin with it. -/
theorem readers_distinct (size : Nat) : ∀ cursor : Cursor, cursor.size < size →
    (∀ depth, Yields Value.KeysDistinct (readValue depth cursor)) ∧
      (∀ depth, ItemsDistinct depth cursor) ∧ ∀ depth, MembersDistinct depth cursor := by
  induction size with
  | zero => intro cursor bound; contradiction
  | succ size ih =>
      have items : ∀ depth (later : Cursor), later.size < size → ItemsDistinct depth later :=
        fun depth later bound => (ih later bound).2.1 depth
      have members : ∀ depth (later : Cursor), later.size < size → MembersDistinct depth later :=
        fun depth later bound => (ih later bound).2.2 depth
      have values : ∀ depth (cursor : Cursor), cursor.size < size + 1 →
          Yields Value.KeysDistinct (readValue depth cursor) := by
        intro depth cursor bound
        exact read_value_step (fun depth later less => items depth later (by omega))
          (fun depth later less => members depth later (by omega))
      intro cursor bound
      refine ⟨fun depth => values depth cursor bound, fun depth => ?_, fun depth => ?_⟩
      · exact read_items_step (fun later le => values depth later (by omega))
          (fun later less => items depth later (by omega))
      · exact read_members_step (fun later less => values depth later (by omega))
          (fun later less => members depth later (by omega))

theorem read_keys_distinct {text : String} {value : Value} (finished : read text = .ok value) :
    value.KeysDistinct := by
  have distinct := (readers_distinct _ (Cursor.ofString text) (Nat.lt_succ_self _)).1
  obtain ⟨⟨first, after⟩, firstRead, rest⟩ := bind_eq_ok_iff.1 finished
  dsimp only at rest
  split at rest
  · obtain rfl := Except.ok.inj rest
    exact of_yields firstRead (distinct _)
  · contradiction

end Json

namespace Yaml

theorem scalar_distinct (scalar : Scalar) : scalar.toValue.KeysDistinct := by
  apply Value.all_mappings_scalar
  cases scalar with
  | float value =>
      rw [Scalar.toValue]
      split <;> simp [Value.kind]
  | null | bool | integer | string => simp [Scalar.toValue, Value.kind]

mutual

theorem to_value_distinct {datum : Datum} {value : Value} (converted : datum.toValue = .ok value) :
    value.KeysDistinct := by
  match datum with
  | .scalar scalar =>
      rw [Datum.toValue] at converted
      obtain rfl := Except.ok.inj converted
      exact scalar_distinct scalar
  | .sequence items =>
      rw [Datum.toValue] at converted
      obtain ⟨values, read, made⟩ := bind_eq_ok_iff.1 converted
      obtain rfl := Except.ok.inj made
      exact Value.all_mappings_array.2 (items_to_values_distinct read)
  | .mapping pairs =>
      rw [Datum.toValue] at converted
      obtain ⟨members, read, made⟩ := bind_eq_ok_iff.1 converted
      obtain rfl := Except.ok.inj made
      exact pairs_to_members_distinct keys_distinct_empty read
  | .tagged tag content =>
      rw [Datum.toValue] at converted
      obtain ⟨inner, read, made⟩ := bind_eq_ok_iff.1 converted
      obtain rfl := Except.ok.inj made
      exact keys_distinct_empty.insert ("!" ++ tag) (to_value_distinct read)

theorem items_to_values_distinct {items : List Datum} {values : List Value}
    (converted : Datum.toValue.ofItems items = .ok values) :
    ∀ value ∈ values, value.KeysDistinct := by
  match items with
  | [] =>
      rw [Datum.toValue.ofItems] at converted
      obtain rfl := Except.ok.inj converted
      simp
  | item :: rest =>
      rw [Datum.toValue.ofItems] at converted
      obtain ⟨first, firstRead, more⟩ := bind_eq_ok_iff.1 converted
      obtain ⟨others, othersRead, made⟩ := bind_eq_ok_iff.1 more
      obtain rfl := Except.ok.inj made
      exact List.forall_mem_cons.2
        ⟨to_value_distinct firstRead, items_to_values_distinct othersRead⟩

theorem pairs_to_members_distinct {read members : Members} {pairs : List (Datum × Datum)}
    (distinct : Value.KeysDistinct (.object read))
    (converted : Datum.toValue.ofPairs read pairs = .ok members) :
    Value.KeysDistinct (.object members) := by
  match pairs with
  | [] =>
      rw [Datum.toValue.ofPairs] at converted
      obtain rfl := Except.ok.inj converted
      exact distinct
  | (key, value) :: rest =>
      rw [Datum.toValue.ofPairs] at converted
      obtain ⟨key, _, more⟩ := bind_eq_ok_iff.1 converted
      obtain ⟨value, valueRead, more⟩ := bind_eq_ok_iff.1 more
      exact pairs_to_members_distinct (distinct.insert key (to_value_distinct valueRead)) more

end

end Yaml

/-- A document that was read has no key twice, whatever its text. -/
theorem document_keys_distinct {text : String} {format : Format} {value : Value}
    (read : readDocument text format = .ok value) : value.KeysDistinct := by
  unfold readDocument at read
  split at read
  · split at read
    · rename_i finished
      obtain rfl := Except.ok.inj read
      exact Json.read_keys_distinct finished
    · contradiction
  · split at read
    · contradiction
    · split at read
      · rename_i converted
        obtain rfl := Except.ok.inj read
        exact Yaml.to_value_distinct converted
      · contradiction

end RefLint
