import PodCheck.Form

/-! # Records

A record is described field by field: the key, the form of the value, what stands for a value that
is not there, and how the value is taken from the record when it is written. The description is an
applicative functor in the type that has been put together so far, so that a structure is described
by its constructor applied to its fields. Members that are no fields are passed over, except in
records that keep them for later. -/

namespace PodCheck

/-- Some of the fields of a record type `ρ`, from which an `α` is made. -/
structure Fields (ρ α : Type) where
  /-- The keys. -/
  keys : List String
  /-- Takes the fields from the members of an object. With `strict`, no key may occur twice. -/
  read : (strict : Bool) → Members → Reading α
  /-- Takes the fields from the front of a list of values. -/
  readRow : Parts Source → Reading (α × Parts Source)
  /-- The members of a record. -/
  write : ρ → List (String × Json)

namespace Fields

variable {ρ α β : Type}

instance : Functor (Fields ρ) where
  map f x :=
    { keys := x.keys
      read := fun strict ms => do pure (f (← x.read strict ms))
      readRow := fun row => do
        let (a, row) ← x.readRow row
        pure (f a, row)
      write := x.write }

instance : Pure (Fields ρ) where
  pure a := ⟨[], fun _ _ => pure a, fun row => pure (a, row), fun _ => []⟩

instance : Seq (Fields ρ) where
  seq f x :=
    let x := x ()
    { keys := f.keys ++ x.keys
      read := fun strict ms => Reading.both (f.read strict ms) (x.read strict ms)
      readRow := fun row => do
        let (g, row) ← f.readRow row
        let (a, row) ← x.readRow row
        pure (g a, row)
      write := fun r => f.write r ++ x.write r }

/-- A field. `absent` stands for a missing member, and `short` for a missing value at the end of a
row; without them such a record is refused. Every member with the key must fit, and the last one
counts. -/
def field (key : String) (read : Source → Reading α) (absent short : Option α)
    (write : ρ → List (String × Json)) : Fields ρ α where
  keys := [key]
  read strict ms := do
    let found := ms.come.filter (·.1 = key)
    if strict && 1 < found.length then Reading.fail
    else
      let values ← found.mapM fun m => read m.2
      match values.getLast? with
      | some a => pure a
      | none => ms.absent absent
  readRow row :=
    match row.come with
    | s :: more => do pure (← read s, { row with come := more })
    | [] => do pure (← row.absent short, row)
  write := write

/-- A field that must be there. -/
def required (key : String) (f : Form α) (get : ρ → α) : Fields ρ α :=
  field key f.read none none fun r => [(key, f.write (get r))]

/-- A field that may be missing, but not `null`; it is always written. -/
def withDefault (key : String) (f : Form α) (default : α) (get : ρ → α) : Fields ρ α :=
  field key f.read (some default) (some default) fun r => [(key, f.write (get r))]

/-- A field that may be missing or `null`; it is always written. -/
def orDefault (key : String) (f : Form α) (default : α) (get : ρ → α) : Fields ρ α :=
  field key (fun s => do pure ((← f.nullable.read s).getD default)) (some default) none
    fun r => [(key, f.write (get r))]

/-- A field that may be missing or `null` and is then left out. -/
def optional (key : String) (f : Form α) (get : ρ → Option α) : Fields ρ (Option α) :=
  field key f.nullable.read (some none) none fun r =>
    ((get r).map fun a => (key, f.write a)).toList

/-- A field that may be missing or `null` and is then written as `null`. -/
def nullable (key : String) (f : Form α) (get : ρ → Option α) : Fields ρ (Option α) :=
  field key f.nullable.read (some none) none fun r => [(key, f.nullable.write (get r))]

/-- A field that always has the same text and may be missing. -/
def constant (key value : String) : Fields ρ Unit :=
  field key (fun s => do unless (← s.text) = value do Reading.fail) (some ()) none
    fun _ => [(key, .text value)]

/-! ## Records -/

/-- Takes a record from the members of an object. All other members are passed over. -/
def readMembers (strict : Bool) (fs : Fields ρ α) (ms : Members) : Reading α := do
  if ms.come.any fun m => !fs.keys.contains m.1 && m.2.isBroken then Reading.fail
  else ms.close (← fs.read strict ms)

/-- A record that is read from objects only, in which the last of several members with one key
counts. -/
def object (fs : Fields ρ ρ) : Form ρ where
  read s := do fs.readMembers false (← s.members)
  write r := .object (fs.write r)

/-- A record that is read from objects in which no key of its own occurs twice and, in JSON, from
rows of values in the order of the fields. -/
def record (fs : Fields ρ ρ) : Form ρ where
  read s :=
    match s.row? with
    | some row => do
      let (r, rest) ← fs.readRow row
      if rest.come.isEmpty then row.close r else Reading.fail
    | none => do fs.readMembers true (← s.members)
  write r := .object (fs.write r)

/-- A record that is read from objects only, in which no key may occur twice. Its own fields are
taken at once. All other members are kept, nested to no more than a depth, and the fields of `rest`
are taken from them at the end. -/
def keeping (depth : Nat) (own : Fields ρ (α → ρ)) (rest : Fields ρ α) : Form ρ where
  read s := do
    let ms ← s.members
    let others := ms.come.filter fun m => !own.keys.contains m.1
    let kept : Reading Unit := others.forM fun m => m.2.keep depth
    let make ← ms.close (← Reading.both ((fun _ f => f) <$> kept) (own.read true ms))
    pure (make (← rest.read true ⟨others, true⟩))
  write r := .object (own.write r ++ rest.write r)

end Fields

end PodCheck
