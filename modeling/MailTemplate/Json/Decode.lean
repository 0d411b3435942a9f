import MailTemplate.Json.Ordered
import MailTemplate.Json.Tree

/-! Taking a tree apart as a value of a given form. Of several things that are wrong with a text,
the first one is reported. Containers that are needed may be 127 deep; those that are passed over
may have any depth. -/

namespace MailTemplate.Json

abbrev Decoded := Except Error

/-- A decoder is given one more than the number of containers that may still be opened. -/
abbrev Decoder (α : Type) := Nat → Tree → Decoded α

namespace Tree

def failure {α : Type} (fault : Fault) : Decoded α :=
  .error (.malformed fault)

def checked {α : Type} : Except Fault α → Decoded α
  | .ok a => .ok a
  | .error fault => failure fault

/-- The depth inside of a container. -/
def descend (depth : Nat) : Decoded Nat :=
  if depth ≤ 1 then failure .tooDeep else .ok (depth - 1)

/-- The error for a tree that is not of the form `wanted`. A value that is no container is read
to its end first. -/
def mismatch {α : Type} (wanted : String) : Tree → Decoded α
  | null => .error (.wrongType .null wanted)
  | bool b => .error (.wrongType (.bool b) wanted)
  | number n => do throw (.wrongType (.number (← checked n)) wanted)
  | string quoted => do throw (.wrongType (.string (← checked quoted.text)) wanted)
  | array _ => .error (.wrongType .array wanted)
  | object _ => .error (.wrongType .object wanted)
  | broken fault => failure fault

/-! ## Values that are passed over -/

/-- A number that is only passed over may be out of range. -/
def passNumber : Except Fault Number → Except Fault Unit
  | .ok _ | .error .numberOutOfRange => .ok ()
  | .error _ => .error .invalidNumber

def passQuoted (quoted : Quoted) : Except Fault Unit :=
  match quoted.fault with
  | none => .ok ()
  | some fault => .error fault

def passItemStop : Stop → Except Fault Unit
  | .closed => .ok ()
  | .endOfText | .endAfterComma => .error .endInList
  | .trailingComma => .error .valueExpected
  | .unseparated => .error .listSeparatorExpected

def passMemberStop : Stop → Except Fault Unit
  | .closed => .ok ()
  | .endOfText | .endAfterComma => .error .endInObject
  | .trailingComma => .error .keyExpected
  | .unseparated => .error .objectSeparatorExpected

mutual

def pass : Tree → Except Fault Unit
  | null | bool _ => .ok ()
  | number n => passNumber n
  | string quoted => passQuoted quoted
  | array items => passItems items
  | object members => passMembers members
  | broken fault => .error fault

def passItems : ItemTrees → Except Fault Unit
  | .stop stop => passItemStop stop
  | .item value rest => do
    pass value
    passItems rest

def passMembers : MemberTrees → Except Fault Unit
  | .stop stop => passMemberStop stop
  | .noKey => .error .keyExpected
  | .keyOnly key fault => do
    passQuoted key
    throw fault
  | .member key value rest => do
    passQuoted key
    pass value
    passMembers rest

end

/-! ## Simple values -/

def decodeBool : Decoder Bool
  | _, bool b => .ok b
  | _, tree => tree.mismatch "a boolean"

def decodeString (wanted : String) : Decoder String
  | _, string quoted => checked quoted.text
  | _, tree => tree.mismatch wanted

/-- A whole number below `bound`. -/
def decodeNat (wanted : String) (bound : Nat) : Decoder Nat
  | _, number n => do
    match ← checked n with
    | .natural n => if n.toNat < bound then return n.toNat
                    else throw (.wrongValue (.number (.natural n)) wanted)
    | .negSucc n => throw (.wrongValue (.number (.negSucc n)) wanted)
    | .float x => throw (.wrongType (.number (.float x)) wanted)
  | _, tree => tree.mismatch wanted

def decodeOption {α : Type} (decode : Decoder α) : Decoder (Option α)
  | _, null => .ok none
  | depth, tree => (decode depth tree).map some

/-! ## Arbitrary values -/

def itemStop {α : Type} (result : α) : Stop → Decoded α
  | .closed => .ok result
  | .endOfText | .endAfterComma => failure .endInList
  | .trailingComma => failure .trailingComma
  | .unseparated => failure .listSeparatorExpected

def memberStop {α : Type} (result : α) : Stop → Decoded α
  | .closed => .ok result
  | .endOfText => failure .endInObject
  | .endAfterComma => failure .endInValue
  | .trailingComma => failure .trailingComma
  | .unseparated => failure .objectSeparatorExpected

mutual

def decodeValue (depth : Nat) : Tree → Decoded OrderedValue
  | null => .ok ⟨.null, .null⟩
  | bool b => .ok ⟨.bool b, .bool⟩
  | number n => do return ⟨.number (← checked n), .number⟩
  | string quoted => do return ⟨.string (← checked quoted.text), .string⟩
  | array items => do
    let depth ← descend depth
    return .array (← decodeItems depth items)
  | object members => do
    let depth ← descend depth
    return .object (← decodeMembers depth [] members)
  | broken fault => failure fault

def decodeItems (depth : Nat) : ItemTrees → Decoded (List OrderedValue)
  | .stop stop => itemStop [] stop
  | .item value rest => do
    let value ← decodeValue depth value
    return value :: (← decodeItems depth rest)

/-- The last of several members with one key counts. -/
def decodeMembers (depth : Nat) (found : OrderedMembers) : MemberTrees → Decoded OrderedMembers
  | .stop stop => memberStop found stop
  | .noKey => failure .keyExpected
  | .keyOnly key fault => do
    let _ ← checked key.text
    failure fault
  | .member key value rest => do
    let key ← checked key.text
    let value ← decodeValue depth value
    decodeMembers depth (found.insert key value) rest

end

def decodeObject (depth : Nat) : Tree → Decoded OrderedMembers
  | object members => do decodeMembers (← descend depth) [] members
  | tree => tree.mismatch "a map"

/-! ## Records -/

/-- A part of a record: the value of the field `name` changes a record that has been read so
far. -/
structure RecordField (α : Type) where
  name : String
  read : Nat → Tree → α → Decoded α

namespace RecordField

def of {α β : Type} (name : String) (decode : Decoder β) (set : β → α → α) : RecordField α where
  name := name
  read depth tree record := (decode depth tree).map (set · record)

end RecordField

/-- A record as an array of its fields, of which the last ones may be missing. -/
def decodeFields {α : Type} (depth : Nat) : List (RecordField α) → α → ItemTrees → Decoded α
  | [], record, .stop .closed => .ok record
  | [], _, .stop .endOfText => failure .endInList
  | [], _, .stop .trailingComma => failure .trailingComma
  | [], _, _ => failure .trailingCharacters
  | _ :: _, record, .stop stop => itemStop record stop
  | field :: fields, record, .item value rest => do
    let record ← field.read depth value record
    decodeFields depth fields record rest

/-- A record as an object. A field stands in it once at most; members with other names are passed
over. -/
def decodeNamed {α : Type} (depth : Nat) (fields : List (RecordField α)) (seen : List String)
    (record : α) : MemberTrees → Decoded α
  | .stop stop => memberStop record stop
  | .noKey => failure .keyExpected
  | .keyOnly key fault => do
    let name ← checked key.text
    if seen.contains name then throw (.duplicateField name)
    failure fault
  | .member key value rest => do
    let name ← checked key.text
    match fields.find? (·.name == name) with
    | some field =>
      if seen.contains name then throw (.duplicateField name)
      let record ← field.read depth value record
      decodeNamed depth fields (name :: seen) record rest
    | none =>
      checked value.pass
      decodeNamed depth fields seen record rest

/-- What is missing keeps the value that it has in `start`. -/
def decodeRecord {α : Type} (wanted : String) (fields : List (RecordField α)) (start : α) :
    Decoder α
  | depth, array items => do decodeFields (← descend depth) fields start items
  | depth, object members => do decodeNamed (← descend depth) fields [] start members
  | _, tree => tree.mismatch wanted

/-! ## Names out of a list -/

def variant {α : Type} (known : List (String × α)) (quoted : Quoted) : Decoded α := do
  let name ← checked quoted.text
  match known.lookup name with
  | some a => return a
  | none => throw (.unknownVariant name (known.map Prod.fst))

/-- A name, or an object with the name as its only key and `null` as its value. -/
def decodeVariant {α : Type} (known : List (String × α)) : Decoder α
  | _, string quoted => variant known quoted
  | depth, object members => do
    let _ ← descend depth
    match members with
    | .stop .closed => failure .valueExpected
    | .stop _ => failure .endInObject
    | .noKey => failure .keyExpected
    | .keyOnly key fault => do
      let _ ← variant known key
      failure fault
    | .member key value rest => do
      let a ← variant known key
      match value with
      | null =>
        match rest with
        | .stop .closed => return a
        | .stop .endOfText => failure .endInObject
        | _ => failure .valueExpected
      | value => value.mismatch "unit"
  | _, broken .endInValue => failure .endInValue
  | _, _ => failure .valueExpected

/-! ## Texts -/

/-- So 127 containers may be open. -/
def maxDepth : Nat := 128

/-- Nothing but blanks may follow the value. -/
def decodeText {α : Type} (decode : Decoder α) (text : String) : Decoded α := do
  let (tree, rest) := ofChars text.toList
  let a ← decode maxDepth tree
  if (skipBlanks rest).isEmpty then return a else failure .trailingCharacters

end Tree

export Tree (RecordField)

end MailTemplate.Json
