import Courier.Bytes

/-! # Recursive length prefix: what is read

An item is a piece of the input, cut into its header and its payload. A list is read item by
item from the front: the items before the first unreadable one count, and the reason why
reading stopped is kept beside them.

The formats leave this to the `rlp` library. What is assumed of it: lengths have 64 bits; a length
in more octets than needed is refused, and so is an item that ends behind the input; the items of a
list are counted up to the first one that cannot be read, without an error; and whoever asks for an
item behind that gets the reason why it cannot be read.
-/

namespace Courier.Rlp

/-- Why an item cannot be read as what is asked for. -/
inductive Error where
  /-- The input ends before the item does. -/
  | tooShort
  /-- A number or string has more octets than its type holds. -/
  | tooBig
  | expectedList
  /-- A list stands where a string should. -/
  | expectedData
  | lengthWithLeadingZero
  /-- The item is not written in its shortest form. -/
  | invalidIndirection
  /-- A format's own complaint. -/
  | custom (complaint : String)
  deriving DecidableEq

def Error.name : Error → String
  | .tooShort => "RlpIsTooShort"
  | .tooBig => "RlpIsTooBig"
  | .expectedList => "RlpExpectedToBeList"
  | .expectedData => "RlpExpectedToBeData"
  | .lengthWithLeadingZero => "RlpDataLenWithZeroPrefix"
  | .invalidIndirection => "RlpInvalidIndirection"
  | .custom complaint => "Custom(\"" ++ complaint ++ "\")"

/-- A piece of the input that is one item. -/
structure Item where
  /-- The octets of the header; a single octet below `0x80` has none. -/
  head : Bytes
  /-- The octets of the payload. -/
  body : Bytes
  deriving DecidableEq

/-- Whether the octets begin like a list. -/
def startsList : Bytes → Bool
  | [] => false
  | mark :: _ => 0xc0 ≤ mark

/-- The lengths of a header and its payload, when the length stands in the `count` octets after
the mark. -/
def readLongHeader (count : Nat) (rest : Bytes) : Except Error (Nat × Nat) :=
  match rest with
  | [] => .error .tooShort
  | first :: _ =>
    if first = 0 then .error .lengthWithLeadingZero
    else if rest.length < count then .error .tooShort
    else
      let length := Bytes.value (rest.take count)
      if length ≤ 55 then .error .invalidIndirection else .ok (1 + count, length)

/-- The lengths of the header and the payload that the octets announce. -/
def readHeader : Bytes → Except Error (Nat × Nat)
  | [] => .error .tooShort
  | mark :: rest =>
    if mark ≤ 0x7f then .ok (0, 1)
    else if mark ≤ 0xb7 then .ok (1, mark.toNat - 0x80)
    else if mark ≤ 0xbf then readLongHeader (mark.toNat - 0xb7) rest
    else if mark ≤ 0xf7 then .ok (1, mark.toNat - 0xc0)
    else readLongHeader (mark.toNat - 0xf7) rest

/-- The first item of the octets and what follows it. -/
def splitItem (bytes : Bytes) : Except Error (Item × Bytes) :=
  match readHeader bytes with
  | .error e => .error e
  | .ok (head, body) =>
    if head + body ≤ bytes.length then
      .ok (⟨bytes.take head, (bytes.drop head).take body⟩, bytes.drop (head + body))
    else .error .tooShort

/-- The items of a list as far as they can be read. -/
structure Listing where
  /-- The readable items, in order. -/
  items : List Item
  /-- Why there is no further one. -/
  stop : Error
  deriving DecidableEq

namespace Listing

/-- Read at most `count` items. -/
def readUpTo : (count : Nat) → Bytes → Listing
  | 0, _ => ⟨[], .tooShort⟩
  | count + 1, bytes =>
    match splitItem bytes with
    | .error e => ⟨[], e⟩
    | .ok (item, rest) =>
      let listing := readUpTo count rest
      ⟨item :: listing.items, listing.stop⟩

/-- Read the items of a payload; each takes at least one octet. -/
def read (payload : Bytes) : Listing := readUpTo payload.length payload

def size (listing : Listing) : Nat := listing.items.length

def get (listing : Listing) (index : Nat) : Except Error Item :=
  match listing.items[index]? with
  | some item => .ok item
  | none => .error listing.stop

end Listing

namespace Item

def raw (item : Item) : Bytes := item.head ++ item.body

def isList (item : Item) : Bool := startsList item.raw

def listing (item : Item) : Except Error Listing :=
  if item.isList then .ok (.read item.body) else .error .expectedList

/-- The octets of a string; one octet that needs no header must have none. -/
def octets (item : Item) : Except Error Bytes :=
  if item.isList then .error .expectedData
  else
    match item.head, item.body with
    | [0x81], [octet] => if octet < 0x80 then .error .invalidIndirection else .ok [octet]
    | _, body => .ok body

/-- A number of at most `width` octets, without leading zero; too many octets are noticed first. -/
def nat (width : Nat) (item : Item) : Except Error Nat :=
  match item.octets with
  | .error e => .error e
  | .ok bytes =>
    if width < bytes.length then .error .tooBig
    else if bytes.head? = some 0 then .error .invalidIndirection
    else .ok bytes.value

/-- A number of at most 32 octets, without leading zero; the zero is noticed first. -/
def word (item : Item) : Except Error Word :=
  match item.octets with
  | .error e => .error e
  | .ok bytes =>
    if bytes.head? = some 0 then .error .invalidIndirection
    else if 32 < bytes.length then .error .tooBig
    else .ok (.ofNat 256 bytes.value)

end Item

end Courier.Rlp
