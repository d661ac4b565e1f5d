/-!
JSON values. Whole numbers are exact and differ from fractional ones; the fields of an object keep
the order in which their keys first came.
-/

namespace Dialogue

inductive Json where
  | null
  | bool (b : Bool)
  | whole (n : Int)
  | real (x : Float)
  | text (s : String)
  | list (items : List Json)
  | object (fields : List (String × Json))
deriving Inhabited

abbrev Fields := List (String × Json)

namespace Fields

def get? (fs : Fields) (key : String) : Option Json := List.lookup key fs

def has (fs : Fields) (key : String) : Bool := (fs.get? key).isSome

def set (key : String) (v : Json) : Fields → Fields
  | [] => [(key, v)]
  | (k, w) :: rest => if k = key then (k, v) :: rest else (k, w) :: set key v rest

def without (fs : Fields) (keys : List String) : Fields :=
  fs.filter fun f => !keys.contains f.1

theorem get?_set_self (fs : Fields) (key : String) (v : Json) :
    get? (set key v fs) key = some v := by
  induction fs with
  | nil => simp [set, get?]
  | cons f rest ih =>
    obtain ⟨k, w⟩ := f
    simp only [set]
    split
    · next h => simp [get?, h]
    · next h =>
      have : (key == k) = false := by simpa using fun e => h e.symm
      simpa [get?, List.lookup_cons, this] using ih

theorem get?_set_of_ne {key other : String} (h : other ≠ key) (fs : Fields) (v : Json) :
    get? (set key v fs) other = get? fs other := by
  have ho : (other == key) = false := by simpa using h
  induction fs with
  | nil => simp [set, get?, h]
  | cons f rest ih =>
    obtain ⟨k, w⟩ := f
    simp only [set]
    split
    · next e => subst e; simp [get?, List.lookup_cons, ho]
    · cases e : (other == k) with
      | true => simp [get?, List.lookup_cons, e]
      | false => simpa [get?, List.lookup_cons, e] using ih

end Fields

namespace Json

def fields? : Json → Option Fields
  | object fs => some fs
  | _ => none

def text? : Json → Option String
  | text s => some s
  | _ => none

def isNull : Json → Bool
  | null => true
  | _ => false

def get? (v : Json) (key : String) : Option Json := v.fields?.bind (Fields.get? · key)

def counts : Json → Bool
  | null => false
  | bool b => b
  | whole n => n ≠ 0
  | real x => !(x == 0.0)
  | text s => !s.isEmpty
  | list items => !items.isEmpty
  | object fs => !fs.isEmpty

def ofText? : Option String → Json
  | some s => text s
  | none => null

def ofReal? : Option Float → Json
  | some x => real x
  | none => null

def ofTexts (ss : List String) : Json := list (ss.map text)

mutual

def finite : Json → Json
  | real x => if x.isFinite then real x else null
  | list items => list (finiteItems items)
  | object fs => object (finiteFields fs)
  | v => v

def finiteItems : List Json → List Json
  | [] => []
  | v :: rest => v.finite :: finiteItems rest

def finiteFields : Fields → Fields
  | [] => []
  | (k, v) :: rest => (k, v.finite) :: finiteFields rest

end

mutual

/-- How many lists and objects stand inside one another, the value itself among them. -/
def nesting : Json → Nat
  | list items => nestingOfItems items + 1
  | object fs => nestingOfFields fs + 1
  | _ => 0

def nestingOfItems : List Json → Nat
  | [] => 0
  | v :: rest => max v.nesting (nestingOfItems rest)

def nestingOfFields : Fields → Nat
  | [] => 0
  | (_, v) :: rest => max v.nesting (nestingOfFields rest)

end

mutual

/-- How many values stand inside one another below the value itself. -/
def height : Json → Nat
  | list items => heightOfItems items
  | object fs => heightOfFields fs
  | _ => 0

def heightOfItems : List Json → Nat
  | [] => 0
  | v :: rest => max (v.height + 1) (heightOfItems rest)

def heightOfFields : Fields → Nat
  | [] => 0
  | (_, v) :: rest => max (v.height + 1) (heightOfFields rest)

end

mutual

theorem height_le_nesting : ∀ v : Json, v.height ≤ v.nesting
  | list items => heightOfItems_le items
  | object fs => heightOfFields_le fs
  | null | bool _ | whole _ | real _ | text _ => Nat.le_refl 0

theorem heightOfItems_le : ∀ items, heightOfItems items ≤ nestingOfItems items + 1
  | [] => Nat.zero_le _
  | v :: rest => by
    have first := height_le_nesting v
    have later := heightOfItems_le rest
    simp only [heightOfItems, nestingOfItems]
    omega

theorem heightOfFields_le : ∀ fs, heightOfFields fs ≤ nestingOfFields fs + 1
  | [] => Nat.zero_le _
  | (_, v) :: rest => by
    have first := height_le_nesting v
    have later := heightOfFields_le rest
    simp only [heightOfFields, nestingOfFields]
    omega

end

theorem nesting_le_of_mem_items {v : Json} {items : List Json} (h : v ∈ items) :
    v.nesting ≤ nestingOfItems items := by
  induction items with
  | nil => cases h
  | cons w rest ih =>
    rcases List.mem_cons.mp h with rfl | later
    · exact Nat.le_max_left _ _
    · exact Nat.le_trans (ih later) (Nat.le_max_right _ _)

theorem nesting_le_of_mem_fields {v : Json} {fs : Fields} {key : String} (h : (key, v) ∈ fs) :
    v.nesting ≤ nestingOfFields fs := by
  induction fs with
  | nil => cases h
  | cons e rest ih =>
    rcases List.mem_cons.mp h with rfl | later
    · exact Nat.le_max_left _ _
    · exact Nat.le_trans (ih later) (Nat.le_max_right _ _)

theorem nesting_le_of_get? {v w : Json} {key : String} (h : v.get? key = some w) :
    w.nesting ≤ v.nesting := by
  cases v with
  | object fs =>
    obtain ⟨before, after, rfl, -⟩ := List.lookup_eq_some_iff.mp h
    have listed : (key, w) ∈ before ++ (key, w) :: after :=
      List.mem_append_right _ List.mem_cons_self
    exact Nat.le_succ_of_le (nesting_le_of_mem_fields listed)
  | _ => cases h

end Json

end Dialogue
