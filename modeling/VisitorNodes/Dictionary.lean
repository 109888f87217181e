/-!
# Dictionaries as lists of pairs

A dictionary is a list of keys with their values. Reading a key gives the value where it stands
first. Setting a key keeps the order of the others: its value is replaced where it stands first, and
a new key is added at the end. What a reader sees of this is `get?_set`.
-/

namespace VisitorNodes.Dictionary

variable {K V : Type} [DecidableEq K]

/-- The value of a key. -/
def get? (key : K) : List (K × V) → Option V
  | [] => none
  | (other, value) :: rest => if other = key then some value else get? key rest

/-- The dictionary with a key set to a value. -/
def set (key : K) (value : V) : List (K × V) → List (K × V)
  | [] => [(key, value)]
  | (other, old) :: rest =>
    if other = key then (key, value) :: rest else (other, old) :: set key value rest

/-- **Setting a key is seen when it is read, and no other key changes.** -/
theorem get?_set (key other : K) (value : V) (entries : List (K × V)) :
    get? other (set key value entries) =
      if key = other then some value else get? other entries := by
  induction entries with
  | nil => rfl
  | cons e entries ih =>
    obtain ⟨k, v⟩ := e
    unfold set
    by_cases hk : k = key
    · subst hk
      by_cases h : k = other <;> simp [get?, h]
    · rw [if_neg hk]
      by_cases h : k = other
      · subst h
        simp [get?, Ne.symm hk]
      · simp [get?, h, ih]

end VisitorNodes.Dictionary
