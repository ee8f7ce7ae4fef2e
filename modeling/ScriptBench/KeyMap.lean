/-!
Maps from strings, kept as lists of entries in the order of their keys, each key once.
-/
namespace ScriptBench

/-- Entries in the order of their keys. -/
abbrev KeyMap (α : Type) := List (String × α)

namespace KeyMap

variable {α : Type}

/-- The map with one more entry; an earlier entry of the same key is replaced. -/
def insert (key : String) (value : α) : KeyMap α → KeyMap α
  | [] => [(key, value)]
  | (k, v) :: rest =>
    if key = k then (key, value) :: rest
    else if key < k then (key, value) :: (k, v) :: rest
    else (k, v) :: insert key value rest

/-- The map of a list of entries; of two with the same key the later one stays. -/
def ofList (entries : List (String × α)) : KeyMap α :=
  entries.foldl (fun m e => insert e.1 e.2 m) []

/-- The value of a key. -/
def get? (key : String) : KeyMap α → Option α
  | [] => none
  | (k, v) :: rest => if k = key then some v else get? key rest

theorem get?_insert (key k : String) (value : α) (m : KeyMap α) :
    get? k (insert key value m) = if key = k then some value else get? k m := by
  induction m with
  | nil => simp [insert, get?]
  | cons e rest ih =>
    obtain ⟨k', v⟩ := e
    by_cases h : key = k'
    · subst h
      by_cases hk : key = k <;> simp [insert, get?, hk]
    · by_cases hlt : key < k'
      · by_cases hk : key = k
        · subst hk
          simp [insert, get?, h, hlt]
        · simp [insert, get?, h, hlt, hk]
      · by_cases hk : k' = k
        · subst hk
          simp [insert, get?, h, hlt]
        · simp [insert, get?, h, hlt, hk, ih]

@[simp] theorem get?_insert_self (key : String) (value : α) (m : KeyMap α) :
    get? key (insert key value m) = some value := by
  simp [get?_insert]

end KeyMap

end ScriptBench
