/-! # Tags

A tag names the type of a node. It is made of bytes and not of characters, because it may be written
by its bytes and nobody asks whether they make up a text. Its end is marked by a zero byte, so
nothing behind one belongs to it. Main statement: a tag holds no zero byte (`Tag.zero_notMem`). -/

namespace PodCheck.Yaml

/-- The name of a type, or a part of one. -/
structure Tag where
  /-- Its bytes. -/
  bytes : List UInt8
  /-- None of them is zero. -/
  zero_notMem : 0 ∉ bytes
deriving DecidableEq

namespace Tag

/-- The tag without bytes. -/
def empty : Tag := ⟨[], List.not_mem_nil⟩

/-- The tag at the front of some bytes, up to the first zero. -/
def ofBytes (bs : List UInt8) : Tag where
  bytes := bs.takeWhile (· ≠ 0)
  zero_notMem h := by simpa using List.all_eq_true.1 List.all_takeWhile 0 h

/-- The bytes of a character. -/
def charBytes (c : Char) : List UInt8 := String.utf8EncodeChar c

/-- The tag of a text. -/
def ofText (s : String) : Tag := ofBytes (s.toList.flatMap charBytes)

instance : Append Tag where
  append a b := ⟨a.bytes ++ b.bytes, by simp [a.zero_notMem, b.zero_notMem]⟩

/-- The tag of one of the language's own types. -/
def core (type : String) : Tag := ofText "tag:yaml.org,2002:" ++ ofText type

/-- Whether a tag names a type of an application: it begins with an exclamation mark. -/
def isLocal (t : Tag) : Bool := t.bytes.head? = some 0x21

/-- Whether a tag is a text. -/
def isText (t : Tag) : Bool := (ByteArray.mk t.bytes.toArray).validateUTF8

end Tag

end PodCheck.Yaml
