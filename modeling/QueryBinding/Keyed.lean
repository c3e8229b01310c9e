-- Lists of entries under text keys, in the order in which keys first appeared.

namespace QueryBinding.Keyed

variable {α : Type}

/-- Puts a value under a key: in the place of the old value, or at the end. -/
def put (key : String) (value : α) : List (String × α) → List (String × α)
  | [] => [(key, value)]
  | (k, v) :: rest => if k == key then (k, value) :: rest else (k, v) :: put key value rest

/-- Puts a value under a key that is not taken yet. -/
def putNew (key : String) (value : α) (entries : List (String × α)) : List (String × α) :=
  if (entries.lookup key).isSome then entries else entries ++ [(key, value)]

/-- Takes away what is under a key. -/
def remove (key : String) (entries : List (String × α)) : List (String × α) :=
  entries.filter (·.1 != key)

/-! ## The laws -/

theorem lookup_put_self (key : String) (value : α) (entries : List (String × α)) :
    (put key value entries).lookup key = some value := by
  induction entries with
  | nil => simp [put]
  | cons e rest ih =>
    obtain ⟨k, v⟩ := e
    by_cases h : k = key
    · subst h; simp [put]
    · have hk : (key == k) = false := by simpa using fun e => h e.symm
      simp [put, h, List.lookup_cons, hk, ih]

theorem lookup_put_ne {key other : String} (h : other ≠ key) (value : α)
    (entries : List (String × α)) :
    (put key value entries).lookup other = entries.lookup other := by
  induction entries with
  | nil =>
    have : (other == key) = false := by simpa using h
    simp [put, List.lookup_cons, this]
  | cons e rest ih =>
    obtain ⟨k, v⟩ := e
    by_cases hk : k = key
    · subst hk
      have : (other == k) = false := by simpa using h
      simp [put, List.lookup_cons, this]
    · by_cases ho : other = k
      · subst ho; simp [put, hk]
      · have : (other == k) = false := by simpa using ho
        simp [put, hk, List.lookup_cons, this, ih]

theorem lookup_remove_self (key : String) (entries : List (String × α)) :
    (remove key entries).lookup key = none := by
  simp only [remove, List.lookup_eq_none_iff, List.mem_filter]
  rintro ⟨k, v⟩ ⟨-, hk⟩
  exact bne_iff_ne.2 fun h => bne_iff_ne.1 hk h.symm

theorem lookup_remove_ne {key other : String} (h : other ≠ key) (entries : List (String × α)) :
    (remove key entries).lookup other = entries.lookup other := by
  induction entries with
  | nil => rfl
  | cons e rest ih =>
    obtain ⟨k, v⟩ := e
    by_cases hk : k = key
    · subst hk
      have : (other == k) = false := by simpa using h
      rw [List.lookup_cons, this, ← ih]
      simp [remove]
    · have : remove key ((k, v) :: rest) = (k, v) :: remove key rest := by simp [remove, hk]
      rw [this, List.lookup_cons, List.lookup_cons, ih]

/-- What is new comes last. -/
theorem put_of_lookup_eq_none {key : String} {entries : List (String × α)}
    (h : entries.lookup key = none) (value : α) :
    put key value entries = entries ++ [(key, value)] := by
  induction entries with
  | nil => rfl
  | cons e rest ih =>
    obtain ⟨k, v⟩ := e
    by_cases hk : key = k
    · subst hk
      simp at h
    · have hne : (key == k) = false := by simpa using hk
      rw [List.lookup_cons, hne] at h
      simp [put, Ne.symm hk, ih h]

theorem remove_of_lookup_eq_none {key : String} {entries : List (String × α)}
    (h : entries.lookup key = none) : remove key entries = entries := by
  rw [remove, List.filter_eq_self]
  intro e he
  have hne := bne_iff_ne.1 (List.lookup_eq_none_iff.1 h e he)
  exact bne_iff_ne.2 hne.symm

theorem remove_cons {key : String} (k : String) (value : α) (entries : List (String × α)) :
    remove key ((k, value) :: entries) =
      if k = key then remove key entries else (k, value) :: remove key entries := by
  by_cases hk : k = key <;> simp [remove, hk]

theorem remove_append (key : String) (entries more : List (String × α)) :
    remove key (entries ++ more) = remove key entries ++ remove key more :=
  List.filter_append entries more

theorem remove_put_ne {key other : String} (h : other ≠ key) (value : α)
    (entries : List (String × α)) :
    remove key (put other value entries) = put other value (remove key entries) := by
  induction entries with
  | nil => simp [put, remove, h]
  | cons e rest ih =>
    obtain ⟨k, u⟩ := e
    by_cases hother : k = other
    · subst hother
      simp [put, remove_cons, h]
    · by_cases hk : k = key
      · subst hk
        simp [put, remove_cons, hother, ih]
      · simp [put, remove_cons, hother, hk, ih]

theorem put_put (key : String) (value new : α) (entries : List (String × α)) :
    put key new (put key value entries) = put key new entries := by
  induction entries with
  | nil => simp [put]
  | cons e rest ih =>
    obtain ⟨k, v⟩ := e
    by_cases hk : k = key
    · subst hk
      simp [put]
    · simp [put, hk, ih]

theorem put_of_lookup_eq_some {key : String} {value : α} {entries : List (String × α)}
    (h : entries.lookup key = some value) : put key value entries = entries := by
  induction entries with
  | nil => cases h
  | cons e rest ih =>
    obtain ⟨k, v⟩ := e
    by_cases hk : key = k
    · subst hk
      rw [List.lookup_cons, beq_self_eq_true] at h
      cases h
      simp [put]
    · have hne : (key == k) = false := by simpa using hk
      rw [List.lookup_cons, hne] at h
      simp [put, Ne.symm hk, ih h]

/-- Entries keep their places, so what is there already can be put before or after what is new. -/
theorem put_comm {key other : String} (h : other ≠ key) (value new : α)
    {entries : List (String × α)} (hin : (entries.lookup key).isSome) :
    put key value (put other new entries) = put other new (put key value entries) := by
  induction entries with
  | nil => cases hin
  | cons e rest ih =>
    obtain ⟨k, v⟩ := e
    by_cases hk : k = key
    · subst hk
      simp [put, h.symm]
    · have hne : (key == k) = false := by simpa using Ne.symm hk
      rw [List.lookup_cons, hne] at hin
      by_cases hother : k = other
      · subst hother
        simp [put, hk]
      · simp [put, hk, hother, ih hin]

theorem remove_put_self (key : String) (value : α) (entries : List (String × α)) :
    remove key (put key value entries) = remove key entries := by
  induction entries with
  | nil => simp [put, remove]
  | cons e rest ih =>
    obtain ⟨k, v⟩ := e
    by_cases hk : k = key
    · subst hk
      simp [put, remove_cons]
    · simp [put, remove_cons, hk, ih]

theorem remove_comm (key other : String) (entries : List (String × α)) :
    remove key (remove other entries) = remove other (remove key entries) := by
  unfold remove
  rw [List.filter_filter, List.filter_filter]
  exact List.filter_congr fun e _ => Bool.and_comm _ _

end QueryBinding.Keyed
