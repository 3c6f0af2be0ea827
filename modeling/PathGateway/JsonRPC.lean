import Mathlib

/-! JSON values as the standard decoder sees them, the texts they stand in, and the ids of
JSON-RPC requests and responses. -/

namespace PathGateway

/-- A number is kept apart by its spelling: an integer literal, or one with a fraction or an
exponent. An object keeps its fields in order, repeated names included. -/
inductive Json where
  | null
  | bool (b : Bool)
  | int (n : Int)
  | decimal (text : String)
  | string (s : String)
  | array (values : List Json)
  | object (fields : List (String × Json))

namespace Json

def isObject : Json → Bool
  | object _ => true
  | _ => false

def fold (c : Char) : Char :=
  if c = '\u017f' then 's' else if c = '\u212a' then 'k' else c.toLower

def isField (name : String) (field : String × Json) : Bool :=
  field.1.toList.map fold == name.toList

end Json

/-- Texts and the JSON decoder and encoder on them. A text that is not valid JSON has no
value. Every result of the development holds for any such library. -/
structure JSONLib (β : Type) where
  parse : β → Option Json
  render : Json → β
  joinArray : List β → β
  isEmpty : β → Bool
  trimNewline : β → β
  trimSpace : β → β
  startsArray : β → Bool
  parse_render : ∀ v, parse (render v) = some v
  parse_joinArray : ∀ texts, (∀ t ∈ texts, (parse t).isSome) →
    parse (joinArray texts) = some (.array (texts.filterMap parse))

/-- Texts as far as the decoder tells them apart, for worked inputs. -/
inductive RawText where
  | empty
  | junk
  | json (v : Json)

def RawText.value : RawText → Option Json
  | json v => some v
  | _ => none

def JSONLib.raw : JSONLib RawText where
  parse := RawText.value
  render := .json
  joinArray texts := .json (.array (texts.filterMap RawText.value))
  isEmpty t := match t with
    | .empty => true
    | _ => false
  trimNewline := id
  trimSpace := id
  startsArray t := match t with
    | .json (.array _) => true
    | _ => false
  parse_render _ := rfl
  parse_joinArray _ _ := rfl

namespace JsonRPC

def InInt64 (n : Int) : Prop := -2 ^ 63 ≤ n ∧ n < 2 ^ 63

instance (n : Int) : Decidable (InInt64 n) :=
  inferInstanceAs (Decidable (-2 ^ 63 ≤ n ∧ n < 2 ^ 63))

/-- An id is unset, a machine integer, or a string; the empty string reads as unset. -/
inductive ID where
  | unset
  | int (n : Int) (hrange : InInt64 n)
  | str (s : String) (hne : s ≠ "")
  deriving DecidableEq, Repr

namespace ID

/-- `String()`. An unset id and the string id "null" look the same. -/
def string : ID → String
  | unset => "null"
  | int n _ => n.repr
  | str s _ => s

def isEmpty : ID → Bool
  | unset => true
  | _ => false

def equal : ID → ID → Bool
  | unset, unset => true
  | unset, _ => false
  | _, unset => false
  | int n _, int m _ => n == m
  | str s _, str t _ => s == t
  | int n _, str t _ => n.repr == t
  | str s _, int m _ => s == m.repr

def marshal : ID → Json
  | unset => .null
  | int n _ => .int n
  | str s _ => .string s

def unmarshal : Json → Option ID
  | .null => some unset
  | .int n => if h : InInt64 n then some (int n h) else none
  | .string s => if h : s = "" then some unset else some (str s h)
  | _ => none

def ofFields (fields : List (String × Json)) : Option ID :=
  (fields.filter (Json.isField "id")).foldlM (fun _ field => unmarshal field.2) unset

theorem unmarshal_marshal (id : ID) : unmarshal id.marshal = some id := by
  cases id with
  | unset => rfl
  | int n hrange => simp [marshal, unmarshal, hrange]
  | str s hne => simp [marshal, unmarshal, hne]

theorem equal_iff {id other : ID} (hid : id.isEmpty = false) (hother : other.isEmpty = false) :
    id.equal other = true ↔ id.string = other.string := by
  cases id with
  | unset => cases hid
  | int =>
    cases other with
    | unset => cases hother
    | int => simp [equal, string, Int.repr_inj]
    | str => simp [equal, string]
  | str =>
    cases other with
    | unset => cases hother
    | int | str => simp [equal, string]

theorem isEmpty_of_equal {id other : ID} (h : id.equal other = true) :
    id.isEmpty = other.isEmpty := by
  cases id <;> cases other <;> first | rfl | cases h

theorem isEmpty_eq_true {id : ID} : id.isEmpty = true ↔ id = unset := by
  cases id <;> simp [isEmpty]

end ID

def responseID : Json → Option ID
  | .object fields => ID.ofFields fields
  | .null => some .unset
  | _ => none

def errResponseNoEndpointResponse (id : ID) : Json :=
  .object [("id", id.marshal), ("jsonrpc", .string "2.0"), ("error", .object
    [("code", .int (-31001)), ("message", .string ("Failed to receive any response from " ++
      "endpoints. This could be due to network issues or high load. Please try again.")),
      ("data", .object [("retryable", .string "true")])])]

theorem responseID_errResponse (id : ID) :
    responseID (errResponseNoEndpointResponse id) = some id := by
  have hfields : [("id", id.marshal), ("jsonrpc", Json.string "2.0"), ("error", Json.object
      [("code", .int (-31001)), ("message", .string ("Failed to receive any response from " ++
        "endpoints. This could be due to network issues or high load. Please try again.")),
        ("data", .object [("retryable", .string "true")])])].filter (Json.isField "id") =
      [("id", id.marshal)] := by
    simp [Json.isField, Json.fold]
  rw [errResponseNoEndpointResponse, responseID, ID.ofFields, hfields]
  simp [ID.unmarshal_marshal]

end JsonRPC

end PathGateway
