import Mathlib.Data.List.Induction
import Compliance.Value.Decode

/-!
# Records out of tables

A record is read entry by entry, and no entry undoes what another one did.  So the record that is
read depends on which entries there are and not on their order, and a field whose entry is left
out stays as it was at the start.
-/

namespace Compliance.Value

section Entries

variable {α : Type} {key : String} {entries : List (String × α)}

theorem mem_of_mem_insertEntry {value : α} {entry : String × α}
    (here : entry ∈ insertEntry key value entries) : entry = (key, value) ∨ entry ∈ entries := by
  induction entries with
  | nil => exact .inl (List.mem_singleton.mp here)
  | cons first entries ih =>
      rw [insertEntry] at here
      split at here
      · exact List.mem_cons.mp here
      · split at here
        · exact (List.mem_cons.mp here).imp_right (.tail first)
        · rcases List.mem_cons.mp here with rfl | here
          · exact .inr (.head entries)
          · exact (ih here).imp_right (.tail first)

theorem any_insertEntry (name : String) (value : α) :
    (insertEntry key value entries).any (fun entry => name == entry.1) =
      (name == key || entries.any fun entry => name == entry.1) := by
  induction entries with
  | nil => rfl
  | cons first entries ih =>
      rw [insertEntry]
      split
      · rfl
      · split
        · next same => simp [same]
        · rw [List.any_cons, List.any_cons, ih, Bool.or_left_comm]

theorem insertEntry_last {value : α} (above : ∀ entry ∈ entries, entry.1 < key) :
    insertEntry key value entries = entries ++ [(key, value)] := by
  induction entries with
  | nil => rfl
  | cons first entries ih =>
      have lower : first.1 < key := above first (.head entries)
      have differs : key ≠ first.1 := fun same => String.lt_irrefl _ (same ▸ lower)
      rw [insertEntry, if_neg (String.lt_asymm lower), if_neg differs,
        ih fun entry here => above entry (.tail first here)]
      rfl

theorem sortEntries_concat (entries : List (String × α)) (last : String × α) :
    sortEntries (entries ++ [last]) = insertEntry last.1 last.2 (sortEntries entries) := by
  rw [sortEntries, List.foldl_append]
  rfl

theorem mem_of_mem_sortEntries {entry : String × α} (here : entry ∈ sortEntries entries) :
    entry ∈ entries := by
  induction entries using List.reverseRecOn with
  | nil => exact here
  | append_singleton entries last ih =>
      rw [sortEntries_concat] at here
      rcases mem_of_mem_insertEntry here with rfl | here
      · exact List.mem_append_right _ (.head [])
      · exact List.mem_append_left _ (ih here)

theorem any_sortEntries (name : String) :
    (sortEntries entries).any (fun entry => name == entry.1) =
      entries.any fun entry => name == entry.1 := by
  induction entries using List.reverseRecOn with
  | nil => rfl
  | append_singleton entries last ih =>
      rw [sortEntries_concat, any_insertEntry, ih, List.any_append, Bool.or_comm]
      simp

theorem sortEntries_of_sorted (sorted : entries.Pairwise fun entry later => entry.1 < later.1) :
    sortEntries entries = entries := by
  induction entries using List.reverseRecOn with
  | nil => rfl
  | append_singleton entries last ih =>
      obtain ⟨earlier, -, above⟩ := List.pairwise_append.mp sorted
      rw [sortEntries_concat, ih earlier]
      exact insertEntry_last fun entry here => above entry here last (.head [])

end Entries

section Removal

mutual

/-- The JSON value of a value.  JSON has no numbers but the finite ones: another one is null. -/
def toJson : Value → Value
  | float value => if value.isFinite then float value else null
  | list items => list (toJsonItems items)
  | table entries => table (toJsonEntries entries)
  | value => value

def toJsonItems : List Value → List Value
  | [] => []
  | item :: items => item.toJson :: toJsonItems items

def toJsonEntries : List (String × Value) → List (String × Value)
  | [] => []
  | (key, value) :: entries => (key, value.toJson) :: toJsonEntries entries

end

mutual

/-- Leaves out the entries at the removed places; a place is the keys that lead there. -/
def prune (removed : List String → Bool) : Value → Value
  | table entries => table (pruneEntries removed entries)
  | value => value

def pruneEntries (removed : List String → Bool) : List (String × Value) → List (String × Value)
  | [] => []
  | (key, value) :: entries =>
      if removed [key] then pruneEntries removed entries
      else (key, value.prune fun place => removed (key :: place)) :: pruneEntries removed entries

end

def belowKey (removed : List String → Bool) (key : String) (place : List String) : Bool :=
  removed (key :: place)

def remnant (removed : List String → Bool) (value : Value) : Value := value.toJson.prune removed

def remnants (removed : List String → Bool) (entries : List (String × Value)) :
    List (String × Value) :=
  (entries.filter fun entry => !removed [entry.1]).map fun entry =>
    (entry.1, entry.2.remnant (belowKey removed entry.1))

variable (removed : List String → Bool) (entries : List (String × Value))

theorem remnant_table : (table entries).remnant removed = table (remnants removed entries) := by
  rw [remnant, toJson, prune, table.injEq, remnants]
  induction entries with
  | nil => rfl
  | cons first entries ih =>
      rw [toJsonEntries, pruneEntries, ih]
      cases gone : removed [first.1] with
      | false =>
          simp only [gone, Bool.false_eq_true, if_false, Bool.not_false, List.filter_cons_of_pos,
            List.map_cons]
          rfl
      | true => simp [gone]

theorem any_remnants (name : String) :
    (remnants removed entries).any (fun entry => name == entry.1) =
      (!removed [name] && entries.any fun entry => name == entry.1) := by
  rw [Bool.eq_iff_iff, Bool.and_eq_true, List.any_eq_true, List.any_eq_true]
  simp only [remnants, List.mem_map, List.mem_filter, beq_iff_eq]
  constructor
  · rintro ⟨_, ⟨entry, ⟨here, kept⟩, rfl⟩, rfl⟩
    exact ⟨kept, entry, here, rfl⟩
  · rintro ⟨kept, entry, here, rfl⟩
    exact ⟨_, ⟨entry, ⟨here, kept⟩, rfl⟩, rfl⟩

end Removal

/-! ## Plain values -/

section Plain

variable {removed : List String → Bool}

@[simp] theorem remnant_text (value : String) : (text value).remnant removed = text value := rfl

@[simp] theorem remnant_bool (value : Bool) : (bool value).remnant removed = bool value := rfl

@[simp] theorem remnant_nat (value : Nat) : (nat value).remnant removed = nat value := rfl

theorem remnant_float {value : Float} (finite : value.isFinite = true) :
    (float value).remnant removed = float value := by
  rw [remnant, toJson, if_pos finite]
  rfl

@[simp] theorem remnant_texts (values : List String) :
    (texts values).remnant removed = texts values := by
  have items : toJsonItems (values.map text) = values.map text := by
    induction values with
    | nil => rfl
    | cons value values ih =>
        rw [List.map_cons, toJsonItems, ih]
        rfl
  rw [remnant, texts, toJson, items]
  rfl

@[simp] theorem toNat_nat (value : Nat) : (nat value).toNat = .ok value := by
  rw [nat, toNat, if_neg (Int.not_lt.mpr (Int.natCast_nonneg value)), Int.toNat_natCast]

@[simp] theorem toText_text (value : String) : (text value).toText = .ok value := rfl

@[simp] theorem toBool_bool (value : Bool) : (bool value).toBool = .ok value := rfl

@[simp] theorem toOption_text (value : String) :
    (text value).toOption toText = .ok (some value) := rfl

@[simp] theorem toOption_bool (value : Bool) :
    (bool value).toOption toBool = .ok (some value) := rfl

@[simp] theorem toOption_float (value : Float) :
    (float value).toOption toFloat = .ok (some value) := rfl

@[simp] theorem toOption_nat (value : Nat) : (nat value).toOption toNat = .ok (some value) :=
  congrArg (Except.map some) (toNat_nat value)

@[simp] theorem toTexts_texts (values : List String) : (texts values).toTexts = .ok values := by
  have items (index : Nat) : decodeItems toText index (values.map text) = .ok values := by
    induction values generalizing index with
    | nil => rfl
    | cons value values ih =>
        rw [List.map_cons, decodeItems, ih]
        rfl
  exact items 0

end Plain

section Records

variable {α : Type} {withEntry : α → String → Value → Decoded α} {keeping : (String → Bool) → α}
  {entries : List (String × Value)} {removed : List String → Bool}

/-- If each entry gives its own field, whatever fields are given already, then the entries give
their fields. -/
theorem fillByKey_eq_ok
    (step : ∀ given, ∀ entry ∈ entries, withEntry (keeping given) entry.1 entry.2 =
      .ok (keeping fun key => key == entry.1 || given key)) (given : String → Bool) :
    fillByKey withEntry (keeping given) entries =
      .ok (keeping fun key => given key || entries.any fun entry => key == entry.1) := by
  induction entries generalizing given with
  | nil => simp [fillByKey]
  | cons first entries ih =>
      obtain ⟨key, value⟩ := first
      have read := step given (key, value) (.head entries)
      have rest := ih (fun given entry here => step given entry (.tail _ here))
        fun name => name == key || given name
      rw [fillByKey, read]
      refine rest.trans (congrArg (Except.ok ∘ keeping) (funext fun name => ?_))
      rw [List.any_cons, Bool.or_comm (name == key), Bool.or_assoc]

theorem toRecord_remnant (format : Format) (names : List String) (keeping : (String → Bool) → α)
    (step : ∀ given, ∀ entry ∈ entries,
      withEntry (keeping given) entry.1 (entry.2.remnant (belowKey removed entry.1)) =
        .ok (keeping fun key => key == entry.1 || given key)) :
    toRecord format names withEntry (keeping fun _ => false) ((table entries).remnant removed) =
      .ok (keeping fun key => !removed [key] && entries.any fun entry => key == entry.1) := by
  have filled : fillByKey withEntry (keeping fun _ => false)
      (sortEntries (remnants removed entries)) = .ok (keeping fun key =>
        false || (sortEntries (remnants removed entries)).any fun entry => key == entry.1) := by
    refine fillByKey_eq_ok (fun given entry here => ?_) fun _ => false
    obtain ⟨entry, listed, rfl⟩ := List.mem_map.mp (mem_of_mem_sortEntries here)
    exact step given entry (List.mem_filter.mp listed).1
  rw [remnant_table, toRecord, filled]
  simp only [any_sortEntries, any_remnants, Bool.false_or]

end Records

section Maps

variable {α β : Type} {decode : Value → Decoded β} {removed : List String → Bool}

theorem decodeEntries_eq_ok {items : List (String × α)} {encode : String × α → Value}
    {read : String × α → β} (each : ∀ item ∈ items, decode (encode item) = .ok (read item)) :
    decodeEntries decode (items.map fun item => (item.1, encode item)) =
      .ok (items.map fun item => (item.1, read item)) := by
  induction items with
  | nil => rfl
  | cons item items ih =>
      rw [List.map_cons, decodeEntries, each item (.head items),
        ih fun other here => each other (.tail item here)]
      rfl

theorem toMap_remnant {items : List (String × α)} {encode : α → Value}
    {read : (List String → Bool) → α → β}
    (sorted : items.Pairwise fun item later => item.1 < later.1)
    (each : ∀ item ∈ items, decode ((encode item.2).remnant (belowKey removed item.1)) =
      .ok (read (belowKey removed item.1) item.2)) :
    ((table (items.map fun (key, item) => (key, encode item))).remnant removed).toMap decode =
      .ok ((items.filter fun item => !removed [item.1]).map fun (key, item) =>
        (key, read (belowKey removed key) item)) := by
  have left : remnants removed (items.map fun (key, item) => (key, encode item)) =
      (items.filter fun item => !removed [item.1]).map fun item =>
        (item.1, (encode item.2).remnant (belowKey removed item.1)) := by
    rw [remnants, List.filter_map, List.map_map]
    rfl
  have inOrder : (remnants removed (items.map fun (key, item) => (key, encode item))).Pairwise
      fun entry later => entry.1 < later.1 := by
    rw [left]
    exact List.pairwise_map.mpr (sorted.filter _)
  rw [remnant_table, toMap, sortEntries_of_sorted inOrder, left]
  exact decodeEntries_eq_ok fun item here => each item (List.mem_filter.mp here).1

end Maps

mutual

theorem prune_none : ∀ value : Value, value.prune (fun _ => false) = value
  | table entries => by rw [prune, pruneEntries_none]
  | null => rfl
  | bool _ => rfl
  | int _ => rfl
  | float _ => rfl
  | text _ => rfl
  | list _ => rfl

theorem pruneEntries_none : ∀ entries : List (String × Value),
    pruneEntries (fun _ => false) entries = entries
  | [] => rfl
  | (key, value) :: entries => by
      rw [pruneEntries, if_neg Bool.false_ne_true, prune_none, pruneEntries_none]

end

theorem remnant_none (value : Value) : value.remnant (fun _ => false) = value.toJson :=
  prune_none value.toJson

end Compliance.Value
