import PodCheck.SortedMap
import PodCheck.Source
import PodCheck.Timestamp

/-! # Forms of typed data

A form says how a type is read from a source and how it is written as JSON. The forms of this module
are those of single values, lists and maps; records are made of fields (`PodCheck.Form.Fields`).
Main statement: what the simple forms write is read back (`Form.Faithful`). -/

namespace PodCheck

/-- How a type is read and written. -/
structure Form (α : Type) where
  /-- Takes a value from a source. -/
  read : Source → Reading α
  /-- The value as JSON. -/
  write : α → Json

namespace Form

variable {α β : Type}

/-- Takes a value from JSON. -/
def ofJson? (f : Form α) (v : Json) : Option α := (f.read (.json v)).result.toOption

/-- A form is faithful if what it writes is read back. -/
def Faithful (f : Form α) : Prop := ∀ a, f.read (.json (f.write a)) = pure a

/-- Text. -/
def text : Form String := ⟨Source.text, .text⟩

/-- Truth values. -/
def bool : Form Bool := ⟨Source.bool, .bool⟩

/-- Whole numbers of 32 bits. -/
def int32 : Form Int32 where
  read s := do
    let n ← s.int
    if Int32.minValue.toInt ≤ n ∧ n ≤ Int32.maxValue.toInt then pure (Int32.ofInt n)
    else Reading.fail
  write n := .int n.toInt

/-- Whole numbers of 64 bits. -/
def int64 : Form Int64 where
  read s := do
    let n ← s.int
    if Int64.minValue.toInt ≤ n ∧ n ≤ Int64.maxValue.toInt then pure (Int64.ofInt n)
    else Reading.fail
  write n := .int n.toInt

/-- Whole numbers of 16 bits without sign. -/
def uint16 : Form UInt16 where
  read s := do
    let n ← s.int
    if 0 ≤ n ∧ n.toNat < UInt16.size then pure (UInt16.ofNat n.toNat) else Reading.fail
  write n := .int n.toNat

/-- Moments in time. -/
def timestamp : Form Timestamp where
  read s := do Reading.ofOption (Timestamp.read? (← s.text))
  write t := .text t.text

/-- Lists. -/
def list (f : Form α) : Form (List α) where
  read s := do
    let items ← s.items
    items.close (← items.come.mapM f.read)
  write l := .array (l.map f.write)

/-- Maps from texts; of several members with one key the last one counts. -/
def map (f : Form α) : Form (SortedMap String α) where
  read s := do
    let members ← s.members
    let entries ← members.come.mapM fun m => do pure (m.1, ← f.read m.2)
    members.close (SortedMap.ofList entries)
  write m := .object (m.entries.map fun e => (e.1, f.write e.2))

/-- Maps from texts to texts. -/
def textMap : Form TextMap := map text

/-- Values that may be missing, written as `null` if they are. -/
def nullable (f : Form α) : Form (Option α) where
  read s := do
    match ← s.present? with
    | none => pure none
    | some s => do pure (some (← f.read s))
  write
    | none => .null
    | some a => f.write a

/-- A name, if it is one of some. -/
def known (names : List String) (name : String) : Reading String :=
  if names.contains name then pure name else Reading.fail

/-- One of some names: a text, or in JSON also an object that has only the name for a key and `null`
for its value. -/
def variant (names : List String) : Form String where
  read s :=
    match s with
    | .json (.object [(name, .null)]) => known names name
    | .begun start =>
      match start with
      | .nothing | .text true => Reading.unfinished
      | .key [] next => Source.single next
      | .object [(some name, .null)] => do
        let _ ← known names name
        Reading.unfinished
      | .value [] (some name) next => do
        let _ ← known names name
        Source.single next
      | _ => Reading.fail
    | s => do known names (← s.text)
  write := .text

/-! ## What is written is read back -/

/-- Text is read back. -/
theorem faithful_text : text.Faithful := fun _ => rfl

/-- Truth values are read back. -/
theorem faithful_bool : bool.Faithful := fun _ => rfl

/-- Whole numbers of 32 bits are read back. -/
theorem faithful_int32 : int32.Faithful := fun n => by
  simp only [int32, Source.int_json, pure_bind, if_pos (And.intro n.minValue_le_toInt n.toInt_le),
    Int32.ofInt_toInt]

/-- Whole numbers of 64 bits are read back. -/
theorem faithful_int64 : int64.Faithful := fun n => by
  simp only [int64, Source.int_json, pure_bind, if_pos (And.intro n.minValue_le_toInt n.toInt_le),
    Int64.ofInt_toInt]

end Form

end PodCheck
