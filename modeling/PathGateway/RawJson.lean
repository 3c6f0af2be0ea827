import PathGateway.GoMap
import PathGateway.JsonRPC

/-! JSON texts whose parts are kept as they are spelled. Decoding a text yields its outermost
layer only, with the texts of its parts, so that a part can be compared byte by byte and put into
another text. -/

namespace PathGateway

inductive RawValue (β : Type) where
  | null
  | string (s : String)
  | array (values : List β)
  | object (fields : List (String × β))
  | other

def RawValue.map {β : Type} (f : β → β) : RawValue β → RawValue β
  | .null => .null
  | .string s => .string s
  | .array values => .array (values.map f)
  | .object fields => .object (fields.map (fun field => (field.1, f field.2)))
  | .other => .other

/-- Texts, the standard decoder and the encoder. The encoder writes parts that are texts without
white space. Every result of the development holds for any such library. -/
structure RawJSON (β : Type) where
  text : β → String
  value : β → Option (RawValue β)
  compact : β → β
  marshalString : String → β
  marshalArray : List β → β
  marshalObject : List (String × β) → β
  value_compact : ∀ b, value (compact b) = (value b).map (RawValue.map compact)
  value_marshalString : ∀ s, value (marshalString s) = some (.string s)
  value_marshalObject : ∀ fields, (∀ field ∈ fields, (value field.2).isSome = true) →
    value (marshalObject fields) =
      some (.object (fields.map (fun field => (field.1, compact field.2))))
  value_field : ∀ b fields, value b = some (.object fields) →
    ∀ field ∈ fields, (value field.2).isSome = true
  text_object : ∀ b fields, value b = some (.object fields) → (text b).toList.head? = some '{'

namespace RawJSON

variable {β : Type} (json : RawJSON β)

variable (name : String) (raw : Option β) (fields : List (String × β))

def isName (field : String × β) : Bool := Json.isField name (field.1, .null)

def rawField : Option β := (fields.filter (isName name)).getLast?.map (·.2)

def stringField : Option String :=
  (fields.filter (isName name)).foldlM (fun current field =>
    match json.value field.2 with
    | some (.string s) => some s
    | some .null => some current
    | _ => none) ""

def decodeMap (b : β) : Option (GoMap String β) :=
  match json.value b with
  | some .null => some ∅
  | some (.object fields) => some (fields.foldl (fun m field => m.insert field.1 field.2) ∅)
  | _ => none

def marshalMap (m : GoMap String β) : β :=
  json.marshalObject
    ((m.entries.insertionSort (fun e e' => e.1 ≤ e'.1)).map (fun e => (e.1, e.2)))

def rawString : Option String :=
  raw.bind (fun b =>
    match json.value b with
    | some (.string s) => some s
    | some .null => some ""
    | _ => none)

def decodeArray : Option (List β) :=
  raw.bind (fun b =>
    match json.value b with
    | some (.array values) => some values
    | some .null => some []
    | _ => none)

end RawJSON

/-- Texts as far as the decoder tells them apart, for worked inputs. -/
inductive RawTree where
  | null
  | atom (text : String)
  | string (s : String)
  | array (values : List RawTree)
  | object (fields : List (String × RawTree))

def RawTree.text : RawTree → String
  | null => "null"
  | atom text => text
  | string s => "\"" ++ s ++ "\""
  | array _ => "[]"
  | object _ => "\x7b\x7d"

def RawTree.value : RawTree → RawValue RawTree
  | null => .null
  | atom _ => .other
  | string s => .string s
  | array values => .array values
  | object fields => .object fields

def RawJSON.tree : RawJSON RawTree where
  text := RawTree.text
  value b := some b.value
  compact := id
  marshalString := .string
  marshalArray := .array
  marshalObject := .object
  value_compact b := by cases b <;> simp [RawTree.value, RawValue.map]
  value_marshalString _ := rfl
  value_marshalObject fields _ := by simp [RawTree.value]
  value_field _ _ _ _ _ := rfl
  text_object b fields h := by
    cases b with
    | object =>
      rw [RawTree.text]
      decide
    | _ => cases h

end PathGateway
