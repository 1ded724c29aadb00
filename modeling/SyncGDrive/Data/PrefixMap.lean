import Mathlib.Data.List.Induction

/-! Partial maps from lists to values, such as trees whose nodes are named by their way down: a
value put at a list, everything from a list on removed, and the nearest value above a list.
-/

/-- A partial map on lists. -/
def PrefixMap (κ ν : Type*) : Type _ := List κ → Option ν

namespace PrefixMap

variable {κ ν : Type*}

def empty : PrefixMap κ ν := fun _ => none

section Changes

variable [DecidableEq κ]

/-- One value is put, and any other stays. -/
def insert (map : PrefixMap κ ν) (key : List κ) (value : ν) : PrefixMap κ ν :=
  fun other => if other = key then some value else map other

/-- The values at a list and at its extensions are removed. -/
def removeFrom (map : PrefixMap κ ν) (key : List κ) : PrefixMap κ ν :=
  fun other => if key <+: other then none else map other

/-- The values of a list of entries, where later ones hide earlier ones. -/
def ofEntries (entries : List (List κ × ν)) : PrefixMap κ ν :=
  fun key => (entries.reverse.find? (fun entry => entry.1 = key)).map Prod.snd

/-- The values of the first map hide those of the second. -/
def overlay (first second : PrefixMap κ ν) : PrefixMap κ ν := fun key => (first key).or (second key)

-----------------------------------------------------------------------------------------
-- Entries one after another
-----------------------------------------------------------------------------------------

/-- One entry more is put over the others. -/
theorem ofEntries_concat (entries : List (List κ × ν)) (entry : List κ × ν)
    : ofEntries (entries ++ [entry]) = (ofEntries entries).insert entry.1 entry.2 := by
  funext key
  simp only [ofEntries, insert, List.reverse_append, List.reverse_singleton,
    List.singleton_append, List.find?_cons]
  by_cases same : key = entry.1
  · simp [same]
  · simp [same, Ne.symm same]

/-- Putting a value over two maps puts it over the first. -/
theorem overlay_insert (first second : PrefixMap κ ν) (key : List κ) (value : ν)
    : (first.insert key value).overlay second = (first.overlay second).insert key value := by
  funext other
  simp only [overlay, insert]
  split <;> simp

@[simp] theorem overlay_empty (map : PrefixMap κ ν) : (ofEntries []).overlay map = map := by
  funext key
  simp [overlay, ofEntries]

end Changes

-----------------------------------------------------------------------------------------
-- The nearest value
-----------------------------------------------------------------------------------------

/-- The longest proper prefix that has a value. -/
structure Nearest (map : PrefixMap κ ν) (key above : List κ) (value : ν) : Prop where
  isPrefix : above <+: key
  proper : above ≠ key
  found : map above = some value
  longest
    : ∀ other, other <+: key → other ≠ key → (map other).isSome → other <+: above

variable {map : PrefixMap κ ν} {key above above' : List κ} {last : κ} {value value' : ν}

/-- Above the empty list there is nothing. -/
theorem not_nearest_nil : ¬ map.Nearest [] above value := by
  intro nearest
  exact nearest.proper (List.prefix_nil.mp nearest.isPrefix)

/-- A prefix of a longer list is one of the list without its end, or the whole. -/
theorem proper_concat : above <+: key ++ [last] ∧ above ≠ key ++ [last] ↔ above <+: key := by
  constructor
  · rintro ⟨isPrefix, proper⟩
    exact (List.prefix_concat_iff.mp isPrefix).resolve_left proper
  · intro isPrefix
    refine ⟨isPrefix.trans (List.prefix_append _ _), ?_⟩
    rintro rfl
    have shorter := isPrefix.length_le
    rw [List.length_append, List.length_singleton] at shorter
    omega

/-- A value directly above is the nearest one. -/
theorem nearest_here (found : map key = some value)
    : map.Nearest (key ++ [last]) above value' ↔ above = key ∧ value' = value := by
  constructor
  · rintro ⟨isPrefix, proper, found', longest⟩
    have shorter := proper_concat.mp ⟨isPrefix, proper⟩
    have back :=
      longest key (List.prefix_append _ _) (by simp) (by rw [found]; rfl)
    obtain rfl := shorter.eq_of_length_le back.length_le
    exact ⟨rfl, Option.some.inj (found'.symm.trans found)⟩
  · rintro ⟨rfl, rfl⟩
    refine ⟨List.prefix_append _ _, by simp, found, ?_⟩
    intro other isPrefix proper _
    exact proper_concat.mp ⟨isPrefix, proper⟩

/-- Where nothing is directly above, the nearest value is that of the list above. -/
theorem nearest_further (missing : map key = none)
    : map.Nearest (key ++ [last]) above value ↔ map.Nearest key above value := by
  have different {other : List κ} (present : (map other).isSome) : other ≠ key := by
    rintro rfl
    rw [missing] at present
    cases present
  constructor
  · rintro ⟨isPrefix, proper, found, longest⟩
    refine ⟨proper_concat.mp ⟨isPrefix, proper⟩, different (by rw [found]; rfl), found, ?_⟩
    intro other isPrefix' _ present
    obtain ⟨further, proper'⟩ := proper_concat.mpr isPrefix'
    exact longest other further proper' present
  · rintro ⟨isPrefix, -, found, longest⟩
    obtain ⟨further, proper⟩ := proper_concat.mpr isPrefix
    refine ⟨further, proper, found, ?_⟩
    intro other isPrefix' proper' present
    exact longest other (proper_concat.mp ⟨isPrefix', proper'⟩) (different present) present

/-- There is a nearest value, or none at all above, by induction from the end of the list. -/
theorem nearest_or_none (map : PrefixMap κ ν) (key : List κ)
    : (∃ above value, map.Nearest key above value)
      ∨ ∀ above, above <+: key → above ≠ key → map above = none := by
  induction key using List.reverseRecOn with
  | nil => exact .inr (fun above isPrefix proper => absurd (List.prefix_nil.mp isPrefix) proper)
  | append_singleton key last ih =>
      cases here : map key with
      | some value => exact .inl ⟨key, value, (nearest_here here).mpr ⟨rfl, rfl⟩⟩
      | none =>
          simp only [nearest_further here]
          refine ih.imp_right (fun nothing above isPrefix proper => ?_)
          have shorter := proper_concat.mp ⟨isPrefix, proper⟩
          by_cases same : above = key
          · rw [same, here]
          · exact nothing above shorter same

end PrefixMap
