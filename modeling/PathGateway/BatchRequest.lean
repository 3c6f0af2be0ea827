import PathGateway.GoMap
import PathGateway.JsonRPC

/-! How a request body becomes a map of JSON-RPC requests. The keys are structs of pointers,
so two requests share a key only if neither of them has an id. -/

namespace PathGateway

open List GoMap

namespace JsonRPC

structure Pointer (α : Type) where
  address : Nat
  value : α
  deriving DecidableEq, Repr

/-- An id as the decoder leaves it, and as it serves for a key of a map. -/
structure IDRef where
  intID : Option (Pointer Int)
  strID : Option (Pointer String)
  deriving DecidableEq, Repr

namespace IDRef

def empty : IDRef := ⟨none, none⟩

def marshal (ref : IDRef) : Json :=
  match ref.intID, ref.strID with
  | some p, _ => .int p.value
  | none, some p => .string p.value
  | none, none => .null

def unmarshal (next : Nat) : Json → Option (IDRef × Nat)
  | .null => some (empty, next)
  | .int n => if InInt64 n then some (⟨some ⟨next, n⟩, none⟩, next + 1) else none
  | .string s =>
    if s = "" then some (empty, next) else some (⟨none, some ⟨next + 1, s⟩⟩, next + 2)
  | _ => none

end IDRef

structure Request where
  id : IDRef
  jsonrpc : String
  method : String
  params : Option Json

namespace Request

def zero : Request := ⟨.empty, "", "", none⟩

def content (r : Request) : Json × String × String × Option Json :=
  (r.id.marshal, r.jsonrpc, r.method, r.params)

def decodeString (old : String) : Json → Option String
  | .string s => some s
  | .null => some old
  | _ => none

def decodeParams : Json → Option Json
  | .array values => some (.array values)
  | .object fields => some (.object fields)
  | _ => none

def decodeField (next : Nat) (r : Request) (field : String × Json) : Option (Request × Nat) :=
  if Json.isField "id" field then
    (IDRef.unmarshal next field.2).map (fun p => ({ r with id := p.1 }, p.2))
  else if Json.isField "jsonrpc" field then
    (decodeString r.jsonrpc field.2).map (fun s => ({ r with jsonrpc := s }, next))
  else if Json.isField "method" field then
    (decodeString r.method field.2).map (fun s => ({ r with method := s }, next))
  else if Json.isField "params" field then
    (decodeParams field.2).map (fun v => ({ r with params := some v }, next))
  else some (r, next)

def decodeFields : Nat → Request → List (String × Json) → Option (Request × Nat)
  | next, r, [] => some (r, next)
  | next, r, field :: fields =>
    (decodeField next r field).bind (fun p => decodeFields p.2 p.1 fields)

def decode (next : Nat) : Json → Option (Request × Nat)
  | .object fields => decodeFields next zero fields
  | .null => some (zero, next)
  | _ => none

def decodeAll : Nat → List Json → Option (List Request × Nat)
  | next, [] => some ([], next)
  | next, v :: vs =>
    (decode next v).bind (fun p => (decodeAll p.2 vs).map (fun q => (p.1 :: q.1, q.2)))

end Request

inductive RequestError where
  | emptyBody
  | malformed
  | emptyBatch
  deriving DecidableEq, Repr

def RequestError.text : RequestError → Option String
  | emptyBody => some "empty request body"
  | malformed => none
  | emptyBatch => some "empty batch request not allowed"

section Parse

variable {β : Type} (lib : JSONLib β)

def tryUnmarshalAsBatch (body : β) : Except RequestError (List Request × Bool) :=
  match lib.parse body with
  | some (.array vs) =>
    match Request.decodeAll 0 vs with
    | some (requests, _) => .ok (requests, true)
    | none => .error .malformed
  | some .null => .ok ([], true)
  | _ => .error .malformed

def tryUnmarshalAsSingle (body : β) : Except RequestError (List Request × Bool) :=
  match (lib.parse body).bind (Request.decode 0) with
  | some (request, _) => .ok ([request], false)
  | none => .error .malformed

def parseRequestsFromBody (requestBody : β) : Except RequestError (List Request × Bool) :=
  let trimmedBody := lib.trimSpace requestBody
  if lib.isEmpty trimmedBody then .error .emptyBody
  else if lib.startsArray trimmedBody then tryUnmarshalAsBatch lib trimmedBody
  else tryUnmarshalAsSingle lib trimmedBody

def validateAndMapRequests (requests : List Request) : Except RequestError (GoMap IDRef Request) :=
  if requests.isEmpty then .error .emptyBatch
  else .ok (index Request.id requests)

def parseJSONRPCFromRequestBody (requestBody : β) :
    Except RequestError (GoMap IDRef Request × Bool) := do
  let (requests, isBatch) ← parseRequestsFromBody lib requestBody
  let requestsMap ← validateAndMapRequests requests
  return (requestsMap, isBatch)

end Parse

/-! ### The addresses of the ids -/

namespace IDRef

structure Within (ref : IDRef) (lo hi : Nat) : Prop where
  intID : ∀ p, ref.intID = some p → lo ≤ p.address ∧ p.address < hi
  strID : ∀ p, ref.strID = some p → lo ≤ p.address ∧ p.address < hi

variable {ref : IDRef} {lo mid hi : Nat}

theorem within_empty : empty.Within lo hi := ⟨by simp [empty], by simp [empty]⟩

theorem Within.mono {lo' hi' : Nat} (h : ref.Within lo hi) (hlo : lo' ≤ lo) (hhi : hi ≤ hi') :
    ref.Within lo' hi' where
  intID p hp := ⟨hlo.trans (h.intID p hp).1, (h.intID p hp).2.trans_le hhi⟩
  strID p hp := ⟨hlo.trans (h.strID p hp).1, (h.strID p hp).2.trans_le hhi⟩

theorem eq_empty_of_within (hbefore : ref.Within lo mid) (hafter : ref.Within mid hi) :
    ref = empty := by
  obtain ⟨intID, strID⟩ := ref
  cases intID with
  | some p => exact absurd (hbefore.intID p rfl).2 (Nat.not_lt.mpr (hafter.intID p rfl).1)
  | none =>
    cases strID with
    | some p => exact absurd (hbefore.strID p rfl).2 (Nat.not_lt.mpr (hafter.strID p rfl).1)
    | none => rfl

theorem unmarshal_within {next next' : Nat} {v : Json} (h : unmarshal next v = some (ref, next')) :
    next ≤ next' ∧ ref.Within next next' := by
  cases v with
  | null =>
    cases h
    exact ⟨le_rfl, within_empty⟩
  | int =>
    rw [unmarshal] at h
    split at h
    · cases h
      exact ⟨by omega, ⟨by simp, by simp⟩⟩
    · cases h
  | string =>
    rw [unmarshal] at h
    split at h
    · cases h
      exact ⟨le_rfl, within_empty⟩
    · cases h
      exact ⟨by omega, ⟨by simp, by simp⟩⟩
  | bool | decimal | array | object => cases h

theorem unmarshal_empty_iff {next next' : Nat}
    {v : Json} (h : unmarshal next v = some (ref, next')) :
    ∃ id, ID.unmarshal v = some id ∧ (ref = empty ↔ id = .unset) := by
  cases v with
  | null =>
    cases h
    exact ⟨.unset, rfl, by simp⟩
  | int n =>
    rw [unmarshal] at h
    split at h
    case isTrue hn =>
      cases h
      exact ⟨.int n hn, by simp [ID.unmarshal, hn], by simp [empty]⟩
    case isFalse => cases h
  | string s =>
    rw [unmarshal] at h
    split at h
    case isTrue hs =>
      cases h
      exact ⟨.unset, by simp [ID.unmarshal, hs], by simp⟩
    case isFalse hs =>
      cases h
      exact ⟨.str s hs, by simp [ID.unmarshal, hs], by simp [empty]⟩
  | bool | decimal | array | object => cases h

end IDRef

variable {vs : List Json}

namespace Request

variable {next next' lo : Nat} {r r' : Request}

theorem decodeField_cases {field : String × Json}
    (h : decodeField next r field = some (r', next')) :
    (Json.isField "id" field = true ∧ IDRef.unmarshal next field.2 = some (r'.id, next')) ∨
    (Json.isField "id" field = false ∧ r'.id = r.id ∧ next' = next) := by
  rw [decodeField] at h
  cases hid : Json.isField "id" field with
  | true =>
    rw [if_pos hid] at h
    obtain ⟨⟨ref, n⟩, href, heq⟩ := Option.map_eq_some_iff.mp h
    cases heq
    exact .inl ⟨rfl, href⟩
  | false =>
    rw [if_neg (Bool.eq_false_iff.mp hid)] at h
    refine .inr ⟨rfl, ?_⟩
    split_ifs at h
    · obtain ⟨s, -, heq⟩ := Option.map_eq_some_iff.mp h
      cases heq
      exact ⟨rfl, rfl⟩
    · obtain ⟨s, -, heq⟩ := Option.map_eq_some_iff.mp h
      cases heq
      exact ⟨rfl, rfl⟩
    · obtain ⟨v, -, heq⟩ := Option.map_eq_some_iff.mp h
      cases heq
      exact ⟨rfl, rfl⟩
    · cases h
      exact ⟨rfl, rfl⟩

theorem decodeField_within {field : String × Json} (h : decodeField next r field = some (r', next'))
    (hr : r.id.Within lo next) (hlo : lo ≤ next) : next ≤ next' ∧ r'.id.Within lo next' := by
  rcases decodeField_cases h with ⟨-, hid⟩ | ⟨-, hid, rfl⟩
  · obtain ⟨hle, hwithin⟩ := IDRef.unmarshal_within hid
    exact ⟨hle, hwithin.mono hlo le_rfl⟩
  · rw [hid]
    exact ⟨le_rfl, hr⟩

variable {fields : List (String × Json)}

theorem decodeFields_within (h : decodeFields next r fields = some (r', next'))
    (hr : r.id.Within lo next) (hlo : lo ≤ next) : next ≤ next' ∧ r'.id.Within lo next' := by
  induction fields generalizing next r with
  | nil =>
    cases h
    exact ⟨le_rfl, hr⟩
  | cons field fields ih =>
    obtain ⟨⟨r₁, next₁⟩, hfield, hrest⟩ := Option.bind_eq_some_iff.mp h
    obtain ⟨hle, hwithin⟩ := decodeField_within hfield hr hlo
    obtain ⟨hle', hwithin'⟩ := ih hrest hwithin (hlo.trans hle)
    exact ⟨hle.trans hle', hwithin'⟩

theorem decode_within {v : Json} (h : decode next v = some (r, next')) :
    next ≤ next' ∧ r.id.Within next next' := by
  cases v with
  | object => exact decodeFields_within h IDRef.within_empty le_rfl
  | null =>
    cases h
    exact ⟨le_rfl, IDRef.within_empty⟩
  | bool | int | decimal | string | array => cases h

variable {rs : List Request}

theorem decodeAll_cons {v : Json} (h : decodeAll next (v :: vs) = some (rs, next')) : ∃ r mid rest,
    decode next v = some (r, mid) ∧ decodeAll mid vs = some (rest, next') ∧ rs = r :: rest := by
  obtain ⟨⟨r, mid⟩, hr, hrest⟩ := Option.bind_eq_some_iff.mp h
  obtain ⟨⟨rest, last⟩, hrs, heq⟩ := Option.map_eq_some_iff.mp hrest
  cases heq
  exact ⟨r, mid, rest, hr, hrs, rfl⟩

theorem decodeAll_within (h : decodeAll next vs = some (rs, next')) :
    next ≤ next' ∧ ∀ r ∈ rs, r.id.Within next next' := by
  induction vs generalizing next rs with
  | nil =>
    cases h
    exact ⟨le_rfl, by simp⟩
  | cons v vs ih =>
    obtain ⟨r, mid, rest, hr, hrs, rfl⟩ := decodeAll_cons h
    obtain ⟨hle, hwithin⟩ := decode_within hr
    obtain ⟨hle', hwithin'⟩ := ih hrs
    refine ⟨hle.trans hle', forall_mem_cons.mpr ⟨hwithin.mono le_rfl hle', ?_⟩⟩
    exact fun r' hr' => (hwithin' r' hr').mono hle le_rfl

theorem decodeAll_pairwise (h : decodeAll next vs = some (rs, next')) :
    rs.Pairwise (fun r r' => r.id = r'.id → r.id = .empty) := by
  induction vs generalizing next rs with
  | nil =>
    cases h
    exact .nil
  | cons v vs ih =>
    obtain ⟨r, mid, rest, hr, hrs, rfl⟩ := decodeAll_cons h
    refine .cons (fun r' hr' hid => ?_) (ih hrs)
    -- a common id would lie both before and after the state the first request left
    have hafter := (decodeAll_within hrs).2 r' hr'
    rw [← hid] at hafter
    exact IDRef.eq_empty_of_within (decode_within hr).2 hafter

theorem nodup_ids_iff (h : rs.Pairwise (fun r r' => r.id = r'.id → r.id = .empty)) :
    (rs.map Request.id).Nodup ↔ rs.countP (fun r => r.id = .empty) ≤ 1 := by
  induction rs with
  | nil => simp
  | cons r rs ih =>
    obtain ⟨hr, hrs⟩ := pairwise_cons.mp h
    rw [map_cons, nodup_cons, ih hrs, countP_cons]
    by_cases hempty : r.id = .empty
    · have hnotin : r.id ∉ rs.map Request.id ↔ rs.countP (fun r => r.id = .empty) = 0 := by
        rw [hempty, countP_eq_zero]
        simp [eq_comm]
      rw [hnotin, if_pos (decide_eq_true hempty)]
      omega
    · have hnotin : r.id ∉ rs.map Request.id := by
        intro hmem
        obtain ⟨r', hr', heq⟩ := mem_map.mp hmem
        exact hempty (hr r' hr' heq.symm)
      simp [hnotin, hempty]

/-! ### The content of the requests -/

theorem unmarshal_marshal_eq (n n' : Nat) (v : Json) :
    (IDRef.unmarshal n v).map (fun p => p.1.marshal) =
      (IDRef.unmarshal n' v).map (fun p => p.1.marshal) := by
  cases v with
  | null | bool | decimal | array | object => rfl
  | int m => by_cases hm : InInt64 m <;> simp [IDRef.unmarshal, IDRef.marshal, hm]
  | string s => by_cases hs : s = "" <;> simp [IDRef.unmarshal, IDRef.marshal, hs]

theorem decodeField_content (n n' : Nat) (field : String × Json) (h : r.content = r'.content) :
    (decodeField n r field).map (fun p => p.1.content) =
      (decodeField n' r' field).map (fun p => p.1.content) := by
  obtain ⟨id, jsonrpc, method, params⟩ := r
  obtain ⟨id', jsonrpc', method', params'⟩ := r'
  simp only [content, Prod.mk.injEq] at h
  obtain ⟨hid, rfl, rfl, rfl⟩ := h
  rw [decodeField, decodeField]
  split_ifs
  · have hmarshal := unmarshal_marshal_eq n n' field.2
    cases hn : IDRef.unmarshal n field.2 <;> cases hn' : IDRef.unmarshal n' field.2 <;>
      simp_all [content]
  · cases decodeString jsonrpc field.2 <;> simp [content, hid]
  · cases decodeString method field.2 <;> simp [content, hid]
  · cases decodeParams field.2 <;> simp [content, hid]
  · simp [content, hid]

theorem decodeFields_content {n n' : Nat} (h : r.content = r'.content) :
    (decodeFields n r fields).map (fun p => p.1.content) =
      (decodeFields n' r' fields).map (fun p => p.1.content) :=
    by
  induction fields generalizing n n' r r' with
  | nil => exact congrArg some h
  | cons field fields ih =>
    have hfield := decodeField_content n n' field h
    rw [decodeFields, decodeFields]
    cases hn : decodeField n r field with
    | none =>
      cases hn' : decodeField n' r' field with
      | none => rfl
      | some => simp [hn, hn'] at hfield
    | some =>
      cases hn' : decodeField n' r' field with
      | none => simp [hn, hn'] at hfield
      | some =>
        rw [hn, hn', Option.map_some, Option.map_some, Option.some.injEq] at hfield
        exact ih hfield

theorem decode_content (n n' : Nat) (v : Json) :
    (decode n v).map (fun p => p.1.content) = (decode n' v).map (fun p => p.1.content) := by
  cases v with
  | object => exact decodeFields_content rfl
  | null | bool | int | decimal | string | array => rfl

theorem decodeAll_forall₂ (h : decodeAll next vs = some (rs, next')) :
    Forall₂ (fun v r => ∃ n n', decode n v = some (r, n')) vs rs := by
  induction vs generalizing next rs with
  | nil =>
    cases h
    exact .nil
  | cons v vs ih =>
    obtain ⟨r, mid, rest, hr, hrs, rfl⟩ := decodeAll_cons h
    exact .cons ⟨next, mid, hr⟩ (ih hrs)

theorem mapM_content (h : Forall₂ (fun v r => ∃ n n', decode n v = some (r, n')) vs rs) :
    vs.mapM (fun v => (decode 0 v).map (fun p => p.1.content)) = some (rs.map content) := by
  induction h with
  | nil => rfl
  | cons hr _ ih =>
    obtain ⟨n, n', hr⟩ := hr
    rw [mapM_cons, decode_content 0 n, hr, ih]
    rfl

/-- Whether an element of a batch has no id: none at all, null, or the empty string. -/
def lacksID : Json → Bool
  | .object fields => ID.ofFields fields == some .unset
  | .null => true
  | _ => false

theorem decodeFields_empty_iff {id : ID}
    (h : decodeFields next r fields = some (r', next')) (hid : r.id = .empty ↔ id = .unset) :
    ∃ id', (fields.filter (Json.isField "id")).foldlM (fun _ field => ID.unmarshal field.2) id =
      some id' ∧ (r'.id = .empty ↔ id' = .unset) := by
  induction fields generalizing next r id with
  | nil =>
    cases h
    exact ⟨id, rfl, hid⟩
  | cons field fields ih =>
    obtain ⟨⟨r₁, next₁⟩, hfield, hrest⟩ := Option.bind_eq_some_iff.mp h
    rcases decodeField_cases hfield with ⟨hname, hunmarshal⟩ | ⟨hname, heq, -⟩
    · obtain ⟨id₁, hid₁, hempty⟩ := IDRef.unmarshal_empty_iff hunmarshal
      obtain ⟨id', hfold, hid'⟩ := ih hrest hempty
      refine ⟨id', ?_, hid'⟩
      rw [filter_cons_of_pos hname, foldlM_cons, hid₁]
      exact hfold
    · rw [filter_cons_of_neg (Bool.eq_false_iff.mp hname)]
      exact ih hrest (by rw [heq, hid])

theorem decode_empty_iff {v : Json} (h : decode next v = some (r, next')) :
    r.id = .empty ↔ lacksID v = true := by
  cases v with
  | object =>
    have hzero : zero.id = .empty ↔ ID.unset = .unset := by simp [zero]
    obtain ⟨id, hid, hempty⟩ := decodeFields_empty_iff h hzero
    rw [lacksID, ID.ofFields, hid, hempty, beq_iff_eq, Option.some.injEq]
  | null =>
    cases h
    simp [zero, lacksID]
  | bool | int | decimal | string | array => cases h

theorem countP_empty (h : Forall₂ (fun v r => ∃ n n', decode n v = some (r, n')) vs rs) :
    rs.countP (fun r => r.id = .empty) = vs.countP lacksID := by
  induction h with
  | nil => rfl
  | cons hr _ ih =>
    obtain ⟨n, n', hr⟩ := hr
    rw [countP_cons, countP_cons, ih]
    simp only [decide_eq_true_eq, decode_empty_iff hr]

end Request

/-- The map has as many entries as the batch has elements, and they say what those say. -/
def KeepsBatch (vs : List Json) (m : GoMap IDRef Request) : Prop :=
  m.entries.length = vs.length ∧ ∃ contents,
    vs.mapM (fun v => (Request.decode 0 v).map (fun p => p.1.content)) = some contents ∧
      (m.entries.map (fun e => e.2.content)).Perm contents

theorem parseRequestsFromBody_batch {β : Type} {lib : JSONLib β} {body : β}
    {requests : List Request} (hbody : lib.parse (lib.trimSpace body) = some (.array vs))
    (h : parseRequestsFromBody lib body = .ok (requests, true)) :
    ∃ last, Request.decodeAll 0 vs = some (requests, last) := by
  simp only [parseRequestsFromBody] at h
  split_ifs at h
  · rw [tryUnmarshalAsBatch, hbody] at h
    cases hdecode : Request.decodeAll 0 vs with
    | none => simp [hdecode] at h
    | some p =>
      simp only [hdecode, Except.ok.injEq, Prod.mk.injEq] at h
      exact ⟨p.2, by rw [← h.1]⟩
  · rw [tryUnmarshalAsSingle] at h
    split at h <;> cases h

theorem parseJSONRPCFromRequestBody_batch {β : Type} {lib : JSONLib β} {body : β}
    {m : GoMap IDRef Request} (hbody : lib.parse (lib.trimSpace body) = some (.array vs))
    (h : parseJSONRPCFromRequestBody lib body = .ok (m, true)) : ∃ requests last,
    Request.decodeAll 0 vs = some (requests, last) ∧ m = index Request.id requests := by
  rw [parseJSONRPCFromRequestBody] at h
  cases hparse : parseRequestsFromBody lib body with
  | error => simp [hparse, bind, Except.bind] at h
  | ok p =>
    obtain ⟨requests, isBatch⟩ := p
    cases hmap : validateAndMapRequests requests with
    | error => simp [hparse, hmap, bind, Except.bind] at h
    | ok =>
      simp only [hparse, hmap, bind, Except.bind, pure, Except.pure, Except.ok.injEq,
        Prod.mk.injEq] at h
      obtain ⟨rfl, rfl⟩ := h
      obtain ⟨last, hdecode⟩ := parseRequestsFromBody_batch hbody hparse
      rw [validateAndMapRequests] at hmap
      split_ifs at hmap
      exact ⟨requests, last, hdecode, (Except.ok.inj hmap).symm⟩

theorem isBatch_of_array {β : Type} {lib : JSONLib β} {body : β} {m : GoMap IDRef Request}
    {isBatch : Bool} (hbody : lib.parse (lib.trimSpace body) = some (.array vs))
    (h : parseJSONRPCFromRequestBody lib body = .ok (m, isBatch)) : isBatch = true := by
  rw [parseJSONRPCFromRequestBody, parseRequestsFromBody] at h
  split_ifs at h
  · cases h
  · rw [tryUnmarshalAsBatch, hbody] at h
    dsimp only at h
    cases hdecode : Request.decodeAll 0 vs with
    | none => simp [hdecode, bind, Except.bind] at h
    | some p =>
      cases hmap : validateAndMapRequests p.1 with
      | error => simp [hdecode, hmap, bind, Except.bind] at h
      | ok =>
        simp only [hdecode, hmap, bind, Except.bind, pure, Except.pure, Except.ok.injEq,
          Prod.mk.injEq] at h
        exact h.2.symm
  · rw [tryUnmarshalAsSingle, hbody] at h
    cases h

/-- A batch that is accepted keeps all its requests exactly when at most one of them has no
id. Requests with the same id are never taken for one another. -/
theorem keepsBatch_iff {β : Type} {lib : JSONLib β} {body : β} {vs : List Json}
    {m : GoMap IDRef Request} (hbody : lib.parse (lib.trimSpace body) = some (.array vs))
    (hok : parseJSONRPCFromRequestBody lib body = .ok (m, true)) :
    KeepsBatch vs m ↔ vs.countP Request.lacksID ≤ 1 := by
  obtain ⟨requests, last, hdecode, rfl⟩ := parseJSONRPCFromRequestBody_batch hbody hok
  have helements := Request.decodeAll_forall₂ hdecode
  rw [← Request.countP_empty helements,
    ← Request.nodup_ids_iff (Request.decodeAll_pairwise hdecode)]
  constructor
  · rintro ⟨hlength, -⟩
    rw [helements.length_eq] at hlength
    exact length_index_eq_iff.mp hlength
  · intro hnodup
    refine ⟨(length_index_eq_iff.mpr hnodup).trans helements.length_eq.symm, _,
      Request.mapM_content helements, ?_⟩
    have hperm := (values_index_perm hnodup).map Request.content
    rwa [map_map] at hperm

def blockNumberRequest (id : List (String × Json)) : Json :=
  .object (("jsonrpc", .string "2.0") :: ("method", .string "eth_blockNumber") :: id)

def repeatedBatch : List Json :=
  [blockNumberRequest [("id", .int 1)], blockNumberRequest [("id", .int 1)],
    blockNumberRequest [("id", .string "1")], blockNumberRequest []]

theorem keepsBatch_iff_repeated :
    ∃ m, parseJSONRPCFromRequestBody JSONLib.raw (.json (.array repeatedBatch)) = .ok (m, true) ∧
    KeepsBatch repeatedBatch m := by
  have hbody : JSONLib.raw.parse (JSONLib.raw.trimSpace (.json (.array repeatedBatch))) =
      some (.array repeatedBatch) := rfl
  obtain ⟨m, hok⟩ : ∃ m, parseJSONRPCFromRequestBody JSONLib.raw
      (.json (.array repeatedBatch)) = .ok (m, true) := ⟨_, rfl⟩
  exact ⟨m, hok, (keepsBatch_iff hbody hok).mpr (by decide)⟩

def anonymousBatch : List Json :=
  [blockNumberRequest [], .object [("jsonrpc", .string "2.0"),
    ("method", .string "eth_chainId"), ("id", .null)]]

theorem request_without_id_dropped :
    ∃ m, parseJSONRPCFromRequestBody JSONLib.raw (.json (.array anonymousBatch)) =
      .ok (m, true) ∧ m.entries.map (fun e => e.2.method) = ["eth_chainId"] ∧
        ¬ KeepsBatch anonymousBatch m := by
  refine ⟨_, rfl, rfl, fun h => ?_⟩
  exact absurd h.1 (by decide)

end JsonRPC

end PathGateway
