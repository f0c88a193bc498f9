import SchemaCheck.Fields

/-!
Looking up entries by name, and keeping them in order.
-/

namespace SchemaCheck.Fields

variable {α : Type}

instance (fields : Fields α) : Decidable (Sorted fields) :=
  inferInstanceAs (Decidable (List.Pairwise _ _))

theorem get?_cons (name other : String) (value : α) (rest : Fields α) :
    get? ((other, value) :: rest) name = if name = other then some value else get? rest name := by
  unfold get?
  rw [List.lookup_cons]
  by_cases same : name = other
  · simp [same]
  · simp only [beq_eq_false_iff_ne.mpr same, if_neg same]

theorem insert_nil (name : String) (value : α) : insert name value [] = [(name, value)] := by
  rw [insert]

theorem insert_before {name other : String} (before : name < other) (value old : α)
    (rest : Fields α) :
    insert name value ((other, old) :: rest) = (name, value) :: (other, old) :: rest := by
  rw [insert, if_pos before]

theorem insert_past {name other : String} (past : other < name) (value old : α) (rest : Fields α) :
    insert name value ((other, old) :: rest) = (other, old) :: insert name value rest := by
  have different : name ≠ other := fun same => String.lt_irrefl other (same ▸ past)
  rw [insert, if_neg (String.lt_asymm past), if_neg different]

theorem get?_insert (name other : String) (value : α) (fields : Fields α) :
    get? (insert other value fields) name = if name = other then some value
      else get? fields name := by
  induction fields with
  | nil => rw [insert, get?_cons]
  | cons entry rest ih =>
    obtain ⟨first, old⟩ := entry
    unfold insert
    split
    · rw [get?_cons]
    · split
      next same =>
        subst same
        simp only [get?_cons]
        split <;> rfl
      next different =>
        rw [get?_cons, get?_cons, ih]
        by_cases here : name = first
        · subst here
          rw [if_pos rfl, if_pos rfl, if_neg fun same => different same.symm]
        · rw [if_neg here, if_neg here]

theorem has_insert (name other : String) (value : α) (fields : Fields α) :
    has (insert other value fields) name = (decide (name = other) || has fields name) := by
  unfold has
  rw [get?_insert]
  by_cases same : name = other <;> simp [same]

theorem insert_ne_nil (name : String) (value : α) (fields : Fields α) :
    insert name value fields ≠ [] := by
  cases fields with
  | nil => simp [insert]
  | cons entry rest =>
    obtain ⟨first, old⟩ := entry
    unfold insert
    split
    · simp
    · split <;> simp

theorem mem_insert {name : String} {value : α} {fields : Fields α} {entry : String × α}
    (member : entry ∈ insert name value fields) : entry = (name, value) ∨ entry ∈ fields := by
  induction fields with
  | nil => simpa [insert] using member
  | cons first rest ih =>
    obtain ⟨other, old⟩ := first
    unfold insert at member
    split at member
    · simpa using member
    · split at member
      · rcases List.mem_cons.mp member with here | later
        · exact .inl here
        · exact .inr (List.mem_cons_of_mem _ later)
      · rcases List.mem_cons.mp member with here | later
        · exact .inr (here ▸ List.mem_cons_self)
        · exact (ih later).imp id (List.mem_cons_of_mem _)

/-- A name that does not come before another one and is not the same comes behind it. -/
theorem behind_of_passed {name other : String} (notBefore : ¬name < other)
    (different : ¬name = other) : other < name := by
  refine Decidable.byContradiction fun notBehind => different ?_
  exact String.le_antisymm (String.not_lt.mp notBehind) (String.not_lt.mp notBefore)

theorem sorted_insert {fields : Fields α} (sorted : Sorted fields) (name : String) (value : α) :
    Sorted (insert name value fields) := by
  unfold Sorted at *
  induction fields with
  | nil => simp [insert]
  | cons first rest ih =>
    obtain ⟨other, old⟩ := first
    simp only [List.map_cons, List.pairwise_cons] at sorted
    unfold insert
    split
    next before =>
      simp only [List.map_cons, List.pairwise_cons]
      refine ⟨fun later member => ?_, sorted⟩
      rcases List.mem_cons.mp member with rfl | behind
      · exact before
      · exact String.lt_trans before (sorted.1 later behind)
    next notBefore =>
      split
      next same =>
        subst same
        simpa only [List.map_cons, List.pairwise_cons] using sorted
      next different =>
        simp only [List.map_cons, List.pairwise_cons]
        refine ⟨fun later member => ?_, ih sorted.2⟩
        obtain ⟨entry, inserted, rfl⟩ := List.mem_map.mp member
        rcases mem_insert inserted with rfl | old
        · exact behind_of_passed notBefore different
        · exact sorted.1 _ (List.mem_map_of_mem old)

theorem mem_of_get? {name : String} {value : α} {fields : Fields α}
    (found : get? fields name = some value) : (name, value) ∈ fields := by
  induction fields with
  | nil => cases found
  | cons entry rest ih =>
    obtain ⟨other, old⟩ := entry
    rw [get?_cons] at found
    split at found
    next same =>
      obtain rfl := Option.some.inj found
      exact same ▸ List.mem_cons_self
    next => exact List.mem_cons_of_mem _ (ih found)

theorem mem_ofList {entries : List (String × α)} {entry : String × α}
    (member : entry ∈ ofList entries) : entry ∈ entries := by
  suffices inserted : ∀ fields : Fields α,
      entry ∈ entries.foldl (fun fields entry => fields.insert entry.1 entry.2) fields →
        entry ∈ fields ∨ entry ∈ entries by
    exact (inserted [] member).resolve_left List.not_mem_nil
  clear member
  induction entries with
  | nil => exact fun _ member => .inl member
  | cons first rest ih =>
    intro fields member
    rcases ih _ member with here | later
    · rcases mem_insert here with rfl | old
      · exact .inr List.mem_cons_self
      · exact .inl old
    · exact .inr (List.mem_cons_of_mem _ later)

theorem sorted_ofList (entries : List (String × α)) : Sorted (ofList entries) := by
  suffices inserted : ∀ fields : Fields α, Sorted fields →
      Sorted (entries.foldl (fun fields entry => fields.insert entry.1 entry.2) fields) by
    exact inserted [] List.Pairwise.nil
  induction entries with
  | nil => exact fun _ sorted => sorted
  | cons first rest ih => exact fun fields sorted => ih _ (sorted_insert sorted first.1 first.2)

theorem insert_behind {name : String} (value : α) {fields : Fields α}
    (behind : ∀ entry ∈ fields, entry.1 < name) :
    insert name value fields = fields ++ [(name, value)] := by
  induction fields with
  | nil => rfl
  | cons first rest ih =>
    obtain ⟨other, old⟩ := first
    have before : other < name := behind _ List.mem_cons_self
    rw [insert, if_neg (String.lt_asymm before), if_neg (String.ne_of_lt before).symm,
      ih fun entry later => behind entry (List.mem_cons_of_mem _ later)]
    rfl

theorem ofList_sorted {entries : List (String × α)} (sorted : Sorted entries) :
    ofList entries = entries := by
  suffices appended : ∀ fields : Fields α, Sorted (fields ++ entries) →
      entries.foldl (fun fields entry => fields.insert entry.1 entry.2) fields =
        fields ++ entries by
    exact appended [] sorted
  clear sorted
  induction entries with
  | nil => exact fun fields _ => (List.append_nil fields).symm
  | cons first rest ih =>
    intro fields sorted
    obtain ⟨name, value⟩ := first
    have behind : ∀ entry ∈ fields, entry.1 < name := by
      intro entry member
      simp only [Sorted, List.map_append, List.map_cons, List.pairwise_append] at sorted
      exact sorted.2.2 entry.1 (List.mem_map_of_mem member) name List.mem_cons_self
    have shift : fields ++ (name, value) :: rest = (fields ++ [(name, value)]) ++ rest := by simp
    rw [List.foldl_cons, insert_behind value behind, shift, ih _ (shift ▸ sorted)]

section Placed

/-- Inserting under the name comes upon an entry of that name: all names in front of it are less. -/
def Placed (name : String) : Fields α → Prop
  | [] => False
  | (other, _) :: rest => name = other ∨ (other < name ∧ Placed name rest)

variable {name other : String} {value : α} {fields : Fields α}

theorem placed_insert_self (name : String) (value : α) (fields : Fields α) :
    Placed name (insert name value fields) := by
  induction fields with
  | nil => exact .inl rfl
  | cons entry rest ih =>
    obtain ⟨first, old⟩ := entry
    unfold insert
    split
    · exact .inl rfl
    · split
      · exact .inl rfl
      next notBefore different =>
        exact .inr ⟨behind_of_passed notBefore different, ih⟩

theorem Sorted.placed (sorted : Sorted fields) (present : has fields name = true) :
    Placed name fields := by
  induction fields with
  | nil => cases present
  | cons entry rest ih =>
    obtain ⟨first, old⟩ := entry
    obtain ⟨ahead, behind⟩ := List.pairwise_cons.mp sorted
    by_cases same : name = first
    · exact .inl same
    · have later : has rest name = true := by
        rwa [has, get?_cons, if_neg same] at present
      obtain ⟨value, found⟩ := Option.isSome_iff_exists.mp later
      have member : name ∈ rest.map Prod.fst := List.mem_map_of_mem (mem_of_get? found)
      exact .inr ⟨ahead name member, ih behind later⟩

theorem Placed.insert (placed : Placed name fields) (other : String) (value : α) :
    Placed name (insert other value fields) := by
  induction fields with
  | nil => cases placed
  | cons entry rest ih =>
    obtain ⟨first, old⟩ := entry
    unfold Fields.insert
    split
    next before =>
      refine .inr ⟨?_, placed⟩
      rcases placed with rfl | ⟨behind, _⟩
      · exact before
      · exact String.lt_trans before behind
    · split
      next same =>
        subst same
        exact placed
      next => exact placed.imp id fun later => ⟨later.1, ih later.2⟩

theorem insert_found (placed : Placed name fields) (found : get? fields name = some value) :
    insert name value fields = fields := by
  induction fields with
  | nil => cases placed
  | cons entry rest ih =>
    obtain ⟨first, old⟩ := entry
    rw [get?_cons] at found
    rcases placed with rfl | ⟨behind, later⟩
    · rw [if_pos rfl] at found
      obtain rfl := Option.some.inj found
      rw [insert, if_neg (String.lt_irrefl name), if_pos rfl]
    · have different : name ≠ first := (String.ne_of_lt behind).symm
      rw [if_neg different] at found
      rw [insert, if_neg (String.lt_asymm behind), if_neg different, ih later found]

end Placed

end SchemaCheck.Fields
