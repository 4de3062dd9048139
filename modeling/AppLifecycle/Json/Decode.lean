import AppLifecycle.Json.Node
import AppLifecycle.Text.Quoted

/-!
# Decoding JSON into typed values

A decoder walks a `Node` in the order of the text and stops at the first thing that is wrong: a
fault of the text, or a mismatch between the text and the type.

A record is written as an object; it may also be written as an array of its fields in order. A value
out of a fixed set of names is written as the name; it may also be written as an object whose only
member is the name with the value `null`. A tagged value is an object with a `type` member. Members
without meaning are passed over.
-/

namespace AppLifecycle.Json

/-- What stands where something else is wanted. -/
inductive Found where
  | null
  | bool (b : Bool)
  | number (n : Number)
  | string (s : String)
  | array
  | object
  /-- A bare name where a name with a payload is wanted. -/
  | bareName

/-- A wrong type, value or shape. -/
inductive Mismatch where
  | invalidType (found : Found) (expected : String)
  | invalidValue (found : Found) (expected : String)
  | invalidLength (found : Nat) (expected : String)
  | missingField (name : String)
  | duplicateField (name : String)
  | unknownVariant (found : String) (known : List String)
  /-- A text that is no value of its type; the reason is in words. -/
  | invalidText (reason : String)

/-- Why decoding stopped. -/
inductive Failure where
  | fault (fault : Fault)
  | mismatch (mismatch : Mismatch)

namespace Found

/-- A thing found, in words. -/
def describe : Found → String
  | .null => "null"
  | .bool b => s!"boolean `{b}`"
  | .number (.integer n) => s!"integer `{n}`"
  | .number (.real x) => s!"floating point `{Decimal.floatText x}`"
  | .string s => s!"string {Text.quote s}"
  | .array => "sequence"
  | .object => "map"
  | .bareName => "unit variant"

end Found

namespace Mismatch

/-- The names that would have been right, in words. -/
def describeNames : List String → String
  | [] => "there are no variants"
  | [a] => s!"expected `{a}`"
  | [a, b] => s!"expected `{a}` or `{b}`"
  | names =>
    let list := ", ".intercalate (names.map fun name => s!"`{name}`")
    s!"expected one of {list}"

/-- A mismatch in words. -/
def message : Mismatch → String
  | .invalidType found expected => s!"invalid type: {found.describe}, expected {expected}"
  | .invalidValue found expected => s!"invalid value: {found.describe}, expected {expected}"
  | .invalidLength found expected => s!"invalid length {found}, expected {expected}"
  | .missingField name => s!"missing field `{name}`"
  | .duplicateField name => s!"duplicate field `{name}`"
  | .unknownVariant found known => s!"unknown variant `{found}`, {describeNames known}"
  | .invalidText reason => reason

end Mismatch

/-- A failure in words. -/
def Failure.message : Failure → String
  | .fault .malformed => "malformed text"
  | .fault .truncated => "the text ends too early"
  | .mismatch m => m.message

/-- Where a node comes from. -/
structure Site where
  /-- How many levels of nesting are left. -/
  depth : Nat
  /-- The node belongs to a value that was read through before its type was known. -/
  buffered : Bool
  /-- Items of an array behind the last field of a record are passed over. -/
  surplus : Bool

/-- Reads a value of type `α` out of a node. -/
abbrev Decoder (α : Type) := Site → Node → Except Failure α

/-- Stops with a mismatch. -/
def fail {α : Type} (m : Mismatch) : Except Failure α := .error (.mismatch m)

/-- Stops with a fault of the text. -/
def failFault {α : Type} (f : Fault) : Except Failure α := .error (.fault f)

/-- A reading of the text as a step of decoding. -/
def ofRead {α : Type} : Except Fault α → Except Failure α
  | .ok a => .ok a
  | .error f => failFault f

/-- Goes one level down. A value that was read through has been measured before. -/
def Site.enter (site : Site) : Except Failure Site :=
  if site.buffered then .ok site
  else ofRead ((Json.enter site.depth).map fun depth => { site with depth })

/-- What is found in a node. -/
def Node.found : Node → Except Fault Found
  | .absent => .error .truncated
  | .broken f => .error f
  | .null => .ok .null
  | .bool b => .ok (.bool b)
  | .number token => token.read.map .number
  | .string token => token.read.map .string
  | .array _ _ => .ok .array
  | .object _ _ => .ok .object
  | .keyless _ => .ok .object

/-- Stops because something else was wanted. -/
def wrongType {α : Type} (expected : String) (node : Node) : Except Failure α := do
  let found ← ofRead node.found
  fail (.invalidType found expected)

/-! ## Plain values -/

def text : Decoder String
  | _, .string token => ofRead token.read
  | _, node => wrongType "a string" node

def boolean : Decoder Bool
  | _, .bool b => .ok b
  | _, node => wrongType "a boolean" node

/-- A natural number below `bound`, of the type called `name`. -/
def natural (bound : Nat) (name : String) : Decoder Nat
  | _, .number token => do
    match ← ofRead token.read with
    | .integer n =>
      if 0 ≤ n ∧ n < bound then .ok n.toNat else fail (.invalidValue (.number (.integer n)) name)
    | .real x => fail (.invalidType (.number (.real x)) name)
  | _, node => wrongType name node

/-- A number of 32 bits. -/
def word32 : Decoder Nat := natural (Nat.pow 2 32) "u32"

/-- A number of 64 bits. -/
def word64 : Decoder Nat := natural (Nat.pow 2 64) "u64"

/-- A count or an index. -/
def count : Decoder Nat := natural (Nat.pow 2 64) "usize"

/-- `null` for none. -/
def option {α : Type} (d : Decoder α) : Decoder (Option α)
  | _, .null => .ok none
  | site, node => some <$> d site node

/-- The items of an array in turn. -/
def decodeItems {α : Type} (d : Decoder α) (site : Site) : List Node → Except Failure (List α)
  | [] => .ok []
  | n :: ns => do
    let a ← d site n
    let as ← decodeItems d site ns
    return a :: as

def list {α : Type} (d : Decoder α) : Decoder (List α)
  | site, .array items ending => do
    let site ← site.enter
    let as ← decodeItems d site items
    ofRead (Fault.check ending)
    return as
  | _, node => wrongType "a sequence" node

/-! ## Names -/

/-- The value that a name stands for. -/
def lookupName {α : Type} (names : List (String × α)) (name : String) : Except Failure α :=
  match names.find? (·.1 = name) with
  | some (_, a) => .ok a
  | none => fail (.unknownVariant name (names.map (·.1)))

/-- What a key of an object has to be for the object to stand for a name. -/
def variantName : String := "variant identifier"

/-- A name as the value of a member. -/
def identifier {α : Type} (names : List (String × α)) : Decoder α
  | _, .string token => do lookupName names (← ofRead token.read)
  | _, node => wrongType variantName node

/-- The end of an object that may have one member only. -/
def endSingle (rest : List (Token String × Node)) (ending : Option Fault) : Except Failure Unit :=
  if rest.isEmpty then ofRead (Fault.check ending) else failFault .malformed

/-- The payload of a bare name. -/
def unit : Decoder Unit
  | _, .null => .ok ()
  | site, .object members ending =>
    if site.buffered ∧ members.isEmpty ∧ ending.isNone then .ok ()
    else wrongType "unit" (.object members ending)
  | _, node => wrongType "unit" node

/-- A name with a payload, as the only member of an object, or a bare name. -/
def variant {α β : Type} (names : List (String × α)) (bare : α → Except Failure β)
    (payload : α → Decoder β) : Decoder β
  | _, .string token => do bare (← lookupName names (← ofRead token.read))
  | site, .object members ending => do
    let site ← site.enter
    if site.buffered ∧ members.length ≠ 1 then
      fail (.invalidValue .object "map with a single key")
    match members with
    | [] => failFault (ending.getD .malformed)
    | (key, value) :: rest =>
      let a ← lookupName names (← ofRead key.read)
      let b ← payload a site value
      endSingle rest ending
      return b
  | site, .keyless first => do
    let _ ← site.enter
    wrongType variantName first
  | _, .absent => failFault .truncated
  | site, node => if site.buffered then wrongType "string or map" node else failFault .malformed

/-- One of a fixed set of names. -/
def name {α : Type} (names : List (String × α)) : Decoder α :=
  variant names .ok fun a site node => do
    unit site node
    return a

/-! ## Records -/

/-- A field that a record knows. -/
structure Slot where
  name : String
  /-- Refuses a value that is no value of the field. -/
  check : Site → Node → Except Failure Unit
  /-- An array may end before this field. -/
  hasDefault : Bool

/-- How a record is put together from its fields. -/
structure Fields (α : Type) where
  slots : List Slot
  build : Site → (String → Option Node) → Except Failure α

namespace Fields

variable {α β : Type}

protected def pure (a : α) : Fields α := ⟨[], fun _ _ => .ok a⟩

protected def map (f : α → β) (fields : Fields α) : Fields β :=
  ⟨fields.slots, fun site get => f <$> fields.build site get⟩

protected def seq (f : Fields (α → β)) (fields : Unit → Fields α) : Fields β :=
  ⟨f.slots ++ (fields ()).slots, fun site get => do
    let g ← f.build site get
    let a ← (fields ()).build site get
    return g a⟩

instance : Applicative Fields where
  pure := Fields.pure
  map := Fields.map
  seq := Fields.seq

/-- Runs a decoder for its verdict only. -/
def verdict (d : Decoder α) : Site → Node → Except Failure Unit :=
  fun site node => (d site node).map fun _ => ()

/-- A field that has to be there. -/
def required (name : String) (d : Decoder α) : Fields α where
  slots := [⟨name, verdict d, false⟩]
  build site get :=
    match get name with
    | some node => d site node
    | none => fail (.missingField name)

/-- A field that may be missing from an object. -/
def optional (name : String) (d : Decoder α) : Fields (Option α) where
  slots := [⟨name, verdict (option d), false⟩]
  build site get :=
    match get name with
    | some node => option d site node
    | none => .ok none

/-- A field that has a value even where it is missing. -/
def defaulted (name : String) (value : α) (d : Decoder α) : Fields α where
  slots := [⟨name, verdict d, true⟩]
  build site get :=
    match get name with
    | some node => d site node
    | none => .ok value

/-- The fields of an object, those without meaning left out, in the order of the text. -/
def ofMembers (slots : List Slot) (site : Site) :
    List (Token String × Node) → List (String × Node) → Except Failure (List (String × Node))
  | [], seen => .ok seen
  | (key, value) :: rest, seen => do
    let k ← ofRead key.read
    match slots.find? (·.name = k) with
    | none => do
      ofRead (Fault.check value.skip)
      ofMembers slots site rest seen
    | some slot => do
      if seen.any (·.1 = k) then fail (.duplicateField k)
      slot.check site value
      ofMembers slots site rest ((k, value) :: seen)

/-- A number of things. -/
def things (n : Nat) (thing : String) : String :=
  if n = 1 then s!"1 {thing}" else s!"{n} {thing}s"

/-- The fields of an array, and the items left over. -/
def ofArray (slots : List Slot) (expected : String) (size : Nat) (ending : Option Fault)
    (site : Site) : List Slot → List Node → Nat → List (String × Node) →
    Except Failure (List (String × Node) × List Node)
  | [], items, _, seen => .ok (seen, items)
  | slot :: rest, item :: items, index, seen => do
    slot.check site item
    ofArray slots expected size ending site rest items (index + 1) ((slot.name, item) :: seen)
  | slot :: rest, [], index, seen => do
    ofRead (Fault.check ending)
    if slot.hasDefault then ofArray slots expected size ending site rest [] (index + 1) seen
    else fail (.invalidLength index (expected ++ " with " ++ things size "element"))

/-- The end of an array whose first `used` items were the fields of a record. -/
def endArray (site : Site) (used : Nat) (left : List Node) (ending : Option Fault) :
    Except Failure Unit :=
  if left.isEmpty then ofRead (Fault.check ending)
  else if site.surplus then .ok ()
  else if site.buffered then
    fail (.invalidLength (used + left.length) (things used "element" ++ " in sequence"))
  else failFault .malformed

/-- Looks a field up. -/
def lookup (seen : List (String × Node)) (name : String) : Option Node :=
  (seen.find? (·.1 = name)).map (·.2)

/-- A record out of the members of an object. -/
def decodeMembers (fields : Fields α) (site : Site) (members : List (Token String × Node))
    (ending : Option Fault) : Except Failure α := do
  let seen ← ofMembers fields.slots site members []
  ofRead (Fault.check ending)
  fields.build site (lookup seen)

/-- A record out of the items of an array. -/
def decodeArray (fields : Fields α) (expected : String) (site : Site) (items : List Node)
    (ending : Option Fault) : Except Failure α := do
  let (seen, left) ←
    ofArray fields.slots expected fields.slots.length ending site fields.slots items 0 []
  let record ← fields.build site (lookup seen)
  endArray site (items.length - left.length) left ending
  return record

end Fields

/-- A record; `expected` says in words what it is. -/
def record {α : Type} (expected : String) (fields : Fields α) : Decoder α
  | site, .object members ending => do
    fields.decodeMembers (← site.enter) members ending
  | site, .array items ending => do
    fields.decodeArray expected (← site.enter) items ending
  | site, .keyless _ => do
    let _ ← site.enter
    failFault .malformed
  | _, node => wrongType expected node

/-! ## Tagged values -/

/-- The body of a tagged value: what stands beside the tag, and how it is read. -/
inductive Body (α : Type) where
  /-- Nothing is wanted beside the tag. -/
  | bare (a : α)
  /-- The fields stand beside the tag; `expected` says what they make up. -/
  | fields (expected : String) (fields : Fields α)

/-- Reads the members of a tagged object through: the tag, if there is one, and the others. -/
def tagOfMembers {α : Type} (tagKey : String) (names : List (String × Body α)) (site : Site) :
    List (Token String × Node) → Option (Body α) → List (String × Value) →
    Except Failure (Option (Body α) × List (String × Value))
  | [], tag, seen => .ok (tag, seen.reverse)
  | (key, value) :: rest, tag, seen => do
    let k ← ofRead key.read
    if k = tagKey then
      if tag.isSome then fail (.duplicateField tagKey)
      let body ← identifier names site value
      tagOfMembers tagKey names site rest (some body) seen
    else do
      let v ← ofRead (value.value site.depth)
      tagOfMembers tagKey names site rest tag ((k, v) :: seen)

/-- Reads the body of a tagged value whose tag stands in an object. -/
def bodyOfMembers {α : Type} (site : Site) (members : List (String × Value)) :
    Body α → Except Failure α
  | .bare a => .ok a
  | .fields _ fields => fields.decodeMembers { site with buffered := true } (ofMembers members) none

/-- Reads the body of a tagged value whose tag heads an array. -/
def bodyOfItems {α : Type} (site : Site) (items : List Value) : Body α → Except Failure α
  | .bare a => do
    Fields.endArray { site with buffered := true } 0 (ofItems items) none
    return a
  | .fields expected fields =>
    fields.decodeArray expected { site with buffered := true } (ofItems items) none

/-- A value whose tag stands under a key; `expected` says in words what it is. -/
def taggedBy {α : Type} (tagKey expected : String) (names : List (String × Body α)) : Decoder α
  | site, .object members ending => do
    let site ← site.enter
    let (tag, others) ← tagOfMembers tagKey names site members none []
    ofRead (Fault.check ending)
    match tag with
    | none => fail (.missingField tagKey)
    | some body => bodyOfMembers site others body
  | site, .array items ending => do
    let site ← site.enter
    match items with
    | [] => do
      ofRead (Fault.check ending)
      fail (.missingField tagKey)
    | item :: items => do
      let body ← identifier names site item
      let others ← ofRead (itemValues items site.depth)
      ofRead (Fault.check ending)
      bodyOfItems site others body
  | site, .keyless _ => do
    let _ ← site.enter
    failFault .malformed
  | _, node => wrongType expected node

/-- A tagged value with its tag under `type`. -/
def tagged {α : Type} (expected : String) (names : List (String × Body α)) : Decoder α :=
  taggedBy "type" expected names

/-! ## Whole texts -/

/-- Decodes a text that holds one value and nothing else. -/
def decodeText {α : Type} (d : Decoder α) (s : String) : Except Failure α := do
  let (node, rest) := Node.ofChars s.toList
  let a ← d ⟨maxDepth, false, false⟩ node
  match rest.map skipBlanks with
  | some [] => return a
  | _ => failFault .malformed

/-- Decodes a value that has been read already. -/
def decodeValue {α : Type} (d : Decoder α) (v : Value) : Except Failure α :=
  d ⟨maxDepth, true, false⟩ (Node.ofValue v)

/-- Decodes a value of a document, in which arrays may have surplus items. -/
def decodeDocument {α : Type} (d : Decoder α) (v : Value) : Except Failure α :=
  d ⟨maxDepth, true, true⟩ (Node.ofValue v)

end AppLifecycle.Json
