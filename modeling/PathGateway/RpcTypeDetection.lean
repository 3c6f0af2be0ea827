import PathGateway.BatchRequest
import PathGateway.BlockedDomains
import PathGateway.ResponseCheck

/-! Detection of a request's RPC type. Where the headers and the service's types leave more
than one type open, the body is read for it, up to a limit, and what was read is put in its
place. -/

structure ByteReader (ε : Type) where
  bytes : List UInt8
  err : Option ε

namespace ByteReader

variable {ε : Type}

def ofBytes (bytes : List UInt8) : ByteReader ε := ⟨bytes, none⟩

def readAll (r : ByteReader ε) : Except ε (List UInt8) × ByteReader ε :=
  (match r.err with
    | none => .ok r.bytes
    | some err => .error err, ⟨[], r.err⟩)

def readLimited (limit : ℕ) (r : ByteReader ε) : Except ε (List UInt8) × ByteReader ε :=
  if limit ≤ r.bytes.length then (.ok (r.bytes.take limit), ⟨r.bytes.drop limit, r.err⟩)
  else r.readAll

def content (r : Option (ByteReader ε)) : Except ε (List UInt8) :=
  r.elim (.ok []) (fun r => r.readAll.1)

variable {r : ByteReader ε} {bytes : List UInt8} {limit : ℕ}

@[simp] theorem content_ofBytes : content (some (ofBytes bytes : ByteReader ε)) = .ok bytes := rfl

theorem readAll_eq_ok : r.readAll.1 = .ok bytes ↔ r.err = none ∧ r.bytes = bytes := by
  rw [readAll]
  cases r.err with
  | none | some => simp

theorem readLimited_ofBytes :
    ((ofBytes bytes : ByteReader ε).readLimited limit).1 = .ok (bytes.take limit) := by
  rw [readLimited]
  split_ifs with hlt
  · rfl
  · exact congrArg _ (List.take_of_length_le (Nat.le_of_not_le hlt)).symm

theorem readLimited_eq_content (h : (r.readLimited limit).1 = .ok bytes) :
    content (some r) = .ok bytes ↔ r.err = none ∧ r.bytes.length ≤ limit := by
  rw [content, Option.elim, readAll_eq_ok]
  rw [readLimited] at h
  split at h
  · rename_i hle
    rw [Except.ok.injEq] at h
    rw [← h, eq_comm (a := r.bytes), List.take_eq_self_iff]
  · rename_i hlt
    exact iff_of_true (readAll_eq_ok.mp h) ⟨(readAll_eq_ok.mp h).1, by omega⟩

end ByteReader

namespace PathGateway

open Option List

structure HTTPRequest where
  method : String
  urlPath : String
  header : String → String
  body : Option (ByteReader GoError)

/-- The library functions that the detection rests on. -/
structure DetectionLib where
  net : NetLib
  equalFold : String → String → Bool
  parse : List UInt8 → Option Json
  unknownTypeErr : String → String

def formatRPCType (t : RPCType) : String :=
  if t = .unknownRPC then "" else t.label

def isHTTPBasedRPCType (net : NetLib) (rpcTypeStr : String) : Bool :=
  ["json_rpc", "rest", "comet_bft"].contains (net.toLower rpcTypeStr)

def rpcTypeHeader : String := "RPC-Type"

def maxPayloadInspectionBytes : ℕ := 100 * 1024

inductive DetectionError where
  | invalidHeader (value : String)
  | headerNotSupported (value : String)
  | notSupported (t : RPCType)
  | bodyRead (err : GoError)
  | undetected

section Detect

variable (lib : DetectionLib) (serviceRPCTypes : List String)

def isTypeAllowed (rpcTypeStr : String) : Bool :=
  serviceRPCTypes.any (fun allowed => lib.equalFold allowed rpcTypeStr)

def isRPCTypeAllowed (t : RPCType) : Bool :=
  isTypeAllowed lib serviceRPCTypes (formatRPCType t)

variable (httpReq : HTTPRequest) (body : List UInt8)

def checkRPCTypeHeader : Except DetectionError (Option RPCType) :=
  let value := httpReq.header rpcTypeHeader
  if value = "" then .ok none
  else
    match parseRPCType lib.net value with
    | none => .error (.invalidHeader value)
    | some t =>
      if isRPCTypeAllowed lib serviceRPCTypes t then .ok (some t)
      else .error (.headerNotSupported value)

def isWebSocketUpgrade : Bool := lib.net.toLower (httpReq.header "Upgrade") = "websocket"

def isGRPCRequest : Bool := GoStrings.hasPrefix (httpReq.header "Content-Type") "application/grpc"

def easyDetection : Option RPCType :=
  if isWebSocketUpgrade lib httpReq then some .websocket
  else if isGRPCRequest httpReq then some .grpc
  else none

def processOfElimination : Option RPCType :=
  match serviceRPCTypes.filter (isHTTPBasedRPCType lib.net) with
  | [rpcTypeStr] =>
    (parseRPCType lib.net rpcTypeStr).filter
      (fun t => !(t = .jsonRPC && httpReq.method ≠ "POST"))
  | _ => none

def containsText (s : String) : Bool := body.tails.any (fun t => s.toUTF8.data.toList.isPrefixOf t)

def hasJSONRPCStructure : Bool :=
  !body.isEmpty && (containsText body "\"jsonrpc\"" || containsText body "\"method\"" ||
    containsText body "\"id\"")

def extractJSONRPCMethod : String :=
  match lib.parse body with
  | some (.object fields) =>
    ((fields.filter (Json.isField "method")).foldlM
      (fun method field => JsonRPC.Request.decodeString method field.2) "").getD ""
  | _ => ""

def cometBFTPrefixes : List String :=
  ["abci_", "block", "broadcast_", "consensus_", "commit", "genesis", "health", "net_", "status",
    "subscribe", "tx", "unconfirmed_", "validators"]

def cometBFTPaths : List String :=
  ["/abci_", "/block", "/broadcast_", "/commit", "/consensus_", "/genesis", "/health", "/net_",
    "/status", "/subscribe", "/tx", "/unconfirmed_", "/validators"]

def isCometBFTMethod (method : String) : Bool :=
  cometBFTPrefixes.any (GoStrings.hasPrefix (lib.net.toLower method))

def isCometBFTPath (path : String) : Bool :=
  cometBFTPaths.any (GoStrings.hasPrefix (lib.net.toLower path))

def classifyPayload (urlPath : String) (body : List UInt8) : Except DetectionError RPCType :=
  let named (rpcTypeStr : String) := (parseRPCType lib.net rpcTypeStr).getD .unknownRPC
  let allowed := isTypeAllowed lib serviceRPCTypes
  if hasJSONRPCStructure body && allowed "comet_bft" &&
      isCometBFTMethod lib (extractJSONRPCMethod lib body) then .ok (named "comet_bft")
  else if hasJSONRPCStructure body && allowed "json_rpc" then .ok (named "json_rpc")
  else if isCometBFTPath lib urlPath && allowed "comet_bft" then .ok (named "comet_bft")
  else if allowed "rest" then .ok (named "rest")
  else .error .undetected

def readBodySafely (maxBytes : ℕ) (req : HTTPRequest) :
    Except GoError (List UInt8) × HTTPRequest :=
  match req.body with
  | none => (.ok [], req)
  | some r => ((r.readLimited maxBytes).1, { req with body := some (r.readLimited maxBytes).2 })

def inspectPayload : Except DetectionError RPCType × HTTPRequest :=
  match readBodySafely maxPayloadInspectionBytes httpReq with
  | (.error err, httpReq) => (.error (.bodyRead err), httpReq)
  | (.ok body, httpReq) =>
    (classifyPayload lib serviceRPCTypes httpReq.urlPath body,
      { httpReq with body := some (.ofBytes body) })

def detectRPCType : Except DetectionError RPCType × HTTPRequest :=
  match checkRPCTypeHeader lib serviceRPCTypes httpReq with
  | .error err => (.error err, httpReq)
  | .ok (some t) => (.ok t, httpReq)
  | .ok none =>
    match easyDetection lib httpReq with
    | some t =>
      (if isRPCTypeAllowed lib serviceRPCTypes t then .ok t else .error (.notSupported t), httpReq)
    | none =>
      match processOfElimination lib serviceRPCTypes httpReq with
      | some t => (.ok t, httpReq)
      | none => inspectPayload lib serviceRPCTypes httpReq

end Detect

structure UnifiedRPCTypes where
  service : List String
  defaults : List String

def UnifiedRPCTypes.getServiceRPCTypes (c : UnifiedRPCTypes) : List String :=
  if c.service = [] then c.defaults else c.service

inductive RPCTypeError where
  | detectionFailed (err : DetectionError)
  | serviceNotConfigured
  | unsupported (t : RPCType)

def UnifiedRPCTypes.validate (c : UnifiedRPCTypes) (t : RPCType) : Except RPCTypeError Unit :=
  if c.getServiceRPCTypes = [] then .error .serviceNotConfigured
  else if c.getServiceRPCTypes.contains (formatRPCType t) then .ok ()
  else .error (.unsupported t)

/-- The validator and the protocol's configuration; either may be missing. -/
structure RPCTypeChecks where
  rpcTypeValidator : Option UnifiedRPCTypes
  unifiedConfig : Option UnifiedRPCTypes

def logBodySnippet (httpReq : HTTPRequest) : HTTPRequest :=
  match httpReq.body with
  | none => httpReq
  | some _ =>
    match readBodySafely 512 httpReq with
    | (.error _, httpReq) => httpReq
    | (.ok bytes, httpReq) => { httpReq with body := some (.ofBytes bytes) }

def validateRPCType (lib : DetectionLib) (checks : RPCTypeChecks) (httpReq : HTTPRequest) :
    Except RPCTypeError (Option RPCType) × HTTPRequest :=
  match checks.rpcTypeValidator, checks.unifiedConfig with
  | some validator, some config =>
    if config.getServiceRPCTypes = [] then (.ok none, httpReq)
    else
      match detectRPCType lib config.getServiceRPCTypes httpReq with
      | (.error err, httpReq) => (.error (.detectionFailed err), logBodySnippet httpReq)
      | (.ok t, httpReq) => ((validator.validate t).map (fun _ => some t), httpReq)
  | _, _ => (.ok none, httpReq)

/-- Before everything else the body is read for the observations, and put back. -/
def captureHTTPRequestMetadata (httpReq : HTTPRequest) : HTTPRequest :=
  match httpReq.body with
  | none => httpReq
  | some r =>
    match r.readAll with
    | (.error _, r) => { httpReq with body := some r }
    | (.ok bytes, _) => { httpReq with body := some (.ofBytes bytes) }

section Frame

open ByteReader

variable {lib : DetectionLib} {checks : RPCTypeChecks} {httpReq httpReq' : HTTPRequest}
  {serviceRPCTypes : List String} {limit : ℕ} {bytes : List UInt8}

def Fits (limit : ℕ) (httpReq : HTTPRequest) : Prop :=
  ∀ r, httpReq.body = some r → r.err = none ∧ r.bytes.length ≤ limit

theorem content_eq_read_iff (h : (readBodySafely limit httpReq).1 = .ok bytes) :
    content httpReq.body = .ok bytes ↔ Fits limit httpReq := by
  rw [readBodySafely] at h
  cases hbody : httpReq.body with
  | none =>
    rw [hbody, Except.ok.injEq] at h
    exact iff_of_true (congrArg _ h) fun r hr => by rw [hbody] at hr; cases hr
  | some r =>
    rw [hbody] at h
    rw [readLimited_eq_content h]
    constructor
    · intro hfits q hq
      rw [hbody, some.injEq] at hq
      exact hq ▸ hfits
    · exact fun hfits => hfits r hbody

structure Undecided (lib : DetectionLib) (serviceRPCTypes : List String)
    (httpReq : HTTPRequest) : Prop where
  header : httpReq.header rpcTypeHeader = ""
  easy : easyDetection lib httpReq = none
  elimination : processOfElimination lib serviceRPCTypes httpReq = none

/-- The body is read for the detection. -/
def Inspects (lib : DetectionLib) (checks : RPCTypeChecks) (httpReq : HTTPRequest) : Prop :=
  checks.rpcTypeValidator.isSome = true ∧ ∃ config, checks.unifiedConfig = some config ∧
    config.getServiceRPCTypes ≠ [] ∧ Undecided lib config.getServiceRPCTypes httpReq

structure Replaced (httpReq httpReq' : HTTPRequest) (bytes : List UInt8) : Prop where
  read : (readBodySafely maxPayloadInspectionBytes httpReq).1 = .ok bytes
  body : httpReq'.body = some (.ofBytes bytes)

theorem inspectPayload_eq_ok {t : RPCType}
    (h : inspectPayload lib serviceRPCTypes httpReq = (.ok t, httpReq')) :
    ∃ bytes, Replaced httpReq httpReq' bytes := by
  rw [inspectPayload] at h
  split at h
  · cases h
  · rename_i bytes _ hread
    rw [Prod.mk.injEq] at h
    exact ⟨bytes, by rw [hread], h.2 ▸ rfl⟩

theorem checkRPCTypeHeader_eq_none : checkRPCTypeHeader lib serviceRPCTypes httpReq = .ok none ↔
    httpReq.header rpcTypeHeader = "" := by
  rw [checkRPCTypeHeader]
  split
  · rename_i hempty
    exact iff_of_true rfl hempty
  · rename_i hgiven
    refine iff_of_false (fun h => ?_) hgiven
    split at h
    · cases h
    · split at h <;> cases h

theorem detectRPCType_of_undecided (h : Undecided lib serviceRPCTypes httpReq) :
    detectRPCType lib serviceRPCTypes httpReq = inspectPayload lib serviceRPCTypes httpReq := by
  rw [detectRPCType, checkRPCTypeHeader_eq_none.mpr h.header, h.easy, h.elimination]

theorem detectRPCType_eq_ok {t : RPCType}
    (h : detectRPCType lib serviceRPCTypes httpReq = (.ok t, httpReq')) :
    (Undecided lib serviceRPCTypes httpReq ∧ ∃ bytes, Replaced httpReq httpReq' bytes) ∨
    ¬Undecided lib serviceRPCTypes httpReq ∧ httpReq' = httpReq := by
  rw [detectRPCType] at h
  split at h
  · cases h
  · rename_i hheader
    refine .inr ⟨fun hopen => ?_, (Prod.mk.inj h).2.symm⟩
    rw [checkRPCTypeHeader_eq_none.mpr hopen.header] at hheader
    cases hheader
  · rename_i hheader
    split at h
    · rename_i heasy
      refine .inr ⟨fun hopen => ?_, (Prod.mk.inj h).2.symm⟩
      rw [hopen.easy] at heasy
      cases heasy
    · rename_i heasy
      split at h
      · rename_i helimination
        refine .inr ⟨fun hopen => ?_, (Prod.mk.inj h).2.symm⟩
        rw [hopen.elimination] at helimination
        cases helimination
      · rename_i helimination
        exact .inl ⟨⟨checkRPCTypeHeader_eq_none.mp hheader, heasy, helimination⟩,
          inspectPayload_eq_ok h⟩

variable {t : Option RPCType}

theorem validateRPCType_eq_ok (h : validateRPCType lib checks httpReq = (.ok t, httpReq')) :
    (Inspects lib checks httpReq ∧ ∃ bytes, Replaced httpReq httpReq' bytes) ∨
    ¬Inspects lib checks httpReq ∧ httpReq' = httpReq := by
  rw [validateRPCType] at h
  split at h
  · rename_i validator config hvalidator hconfig
    split at h
    · rename_i hempty
      refine .inr ⟨?_, (Prod.mk.inj h).2.symm⟩
      rintro ⟨-, c, hc, hne, -⟩
      rw [hconfig, some.injEq] at hc
      exact hne (hc ▸ hempty)
    · rename_i hne
      split at h
      · cases h
      · rename_i t' detected hdetect
        obtain rfl : detected = httpReq' := (Prod.mk.inj h).2
        rcases detectRPCType_eq_ok hdetect with ⟨hopen, hreplaced⟩ | ⟨hnot, hsame⟩
        · exact .inl ⟨⟨by rw [hvalidator, isSome_some], config, hconfig, hne, hopen⟩,
            hreplaced⟩
        · refine .inr ⟨?_, hsame⟩
          rintro ⟨-, c, hc, -, hopen⟩
          rw [hconfig, some.injEq] at hc
          exact hnot (hc ▸ hopen)
  · rename_i hskip
    refine .inr ⟨?_, (Prod.mk.inj h).2.symm⟩
    rintro ⟨hvalidator, c, hc, -⟩
    obtain ⟨validator, hvalidator⟩ := isSome_iff_exists.mp hvalidator
    exact hskip validator c hvalidator hc

theorem content_validateRPCType (h : validateRPCType lib checks httpReq = (.ok t, httpReq')) :
    content httpReq'.body = content httpReq.body ↔
    (Inspects lib checks httpReq → Fits maxPayloadInspectionBytes httpReq) := by
  rcases validateRPCType_eq_ok h with ⟨hinspects, bytes, hread, hbody⟩ | ⟨hnot, rfl⟩
  · rw [hbody, content_ofBytes, eq_comm, content_eq_read_iff hread]
    exact ⟨fun hfits _ => hfits, fun hfits => hfits hinspects⟩
  · exact iff_of_true rfl fun hinspects => absurd hinspects hnot

def bodyLength (httpReq : HTTPRequest) : ℕ :=
  (httpReq.body.elim [] ByteReader.bytes).length

theorem captureHTTPRequestMetadata_eq : captureHTTPRequestMetadata httpReq =
    { httpReq with body := httpReq.body.map (fun r =>
        ⟨if r.err.isNone then r.bytes else [], r.err⟩) } := by
  obtain ⟨method, urlPath, header, body⟩ := httpReq
  cases body with
  | none => rfl
  | some r =>
    obtain ⟨bytes, err⟩ := r
    cases err <;> rfl

theorem content_capture :
    content (captureHTTPRequestMetadata httpReq).body = content httpReq.body := by
  rw [captureHTTPRequestMetadata_eq]
  cases hbody : httpReq.body with
  | none => rfl
  | some r =>
    obtain ⟨bytes, err⟩ := r
    cases err <;> rfl

theorem inspects_capture :
    Inspects lib checks (captureHTTPRequestMetadata httpReq) ↔ Inspects lib checks httpReq := by
  rw [captureHTTPRequestMetadata_eq]
  refine and_congr_right fun _ => exists_congr fun config => and_congr_right fun _ =>
    and_congr_right fun _ => ?_
  -- the detection up to the payload reads the headers and the method only
  exact ⟨fun h => ⟨h.header, h.easy, h.elimination⟩, fun h => ⟨h.header, h.easy, h.elimination⟩⟩

theorem fits_capture (hread : (readBodySafely maxPayloadInspectionBytes
      (captureHTTPRequestMetadata httpReq)).1 = .ok bytes) :
    Fits maxPayloadInspectionBytes (captureHTTPRequestMetadata httpReq) ↔
      bodyLength httpReq ≤ maxPayloadInspectionBytes := by
  rw [captureHTTPRequestMetadata_eq] at hread ⊢
  rw [bodyLength]
  cases hbody : httpReq.body with
  | none => simp [Fits]
  | some r =>
    obtain ⟨content, err⟩ := r
    cases err with
    | none => simp [Fits]
    | some =>
      -- nothing is left to read but the error, so the inspection fails
      simp [readBodySafely, hbody, readLimited, maxPayloadInspectionBytes, readAll] at hread

/-- A request that passes the validation reaches the QoS parser with its body as it came exactly
if the payload is not inspected or is no longer than the inspection reads. -/
theorem bodyPreserved_iff
    (h : validateRPCType lib checks (captureHTTPRequestMetadata httpReq) = (.ok t, httpReq')) :
    content httpReq'.body = content httpReq.body ↔
    (Inspects lib checks httpReq → bodyLength httpReq ≤ maxPayloadInspectionBytes) := by
  have hcapture : content (captureHTTPRequestMetadata httpReq).body = content httpReq.body :=
    content_capture
  rw [← hcapture, content_validateRPCType h, inspects_capture]
  rcases validateRPCType_eq_ok h with ⟨-, bytes, hread, -⟩ | ⟨hnot, -⟩
  · rw [fits_capture hread]
  · rw [inspects_capture] at hnot
    exact iff_of_true (fun h => absurd h hnot) (fun h => absurd h hnot)

def DetectionLib.plain : DetectionLib where
  net := .ascii
  equalFold := (· == ·)
  parse _ := none
  unknownTypeErr := id

def httpTypes : List String := ["json_rpc", "rest"]

def twoTypes : RPCTypeChecks := ⟨some ⟨httpTypes, []⟩, some ⟨httpTypes, []⟩⟩

def postRequest (bytes : List UInt8) : HTTPRequest where
  method := "POST"
  urlPath := "/"
  header _ := ""
  body := some (.ofBytes bytes)

theorem inspects_postRequest (bytes : List UInt8) : Inspects .plain twoTypes (postRequest bytes) :=
  ⟨rfl, _, rfl, by decide, rfl, rfl, rfl⟩

theorem classifyPayload_httpTypes (urlPath : String) (body : List UInt8) :
    classifyPayload .plain httpTypes urlPath body = .ok (if hasJSONRPCStructure body then .jsonRPC
      else .rest) := by
  have hcomet : isTypeAllowed .plain httpTypes "comet_bft" = false := by decide
  have hjson : isTypeAllowed .plain httpTypes "json_rpc" = true := by decide
  have hrest : isTypeAllowed .plain httpTypes "rest" = true := by decide
  rw [classifyPayload]
  cases hasJSONRPCStructure body <;> simp [hcomet, hjson, hrest] <;> decide

theorem detectRPCType_postRequest (bytes : List UInt8) :
    ∃ t httpReq', detectRPCType .plain httpTypes (postRequest bytes) = (.ok t, httpReq') ∧
    (t = .jsonRPC ∨ t = .rest) := by
  rw [detectRPCType_of_undecided ⟨rfl, rfl, rfl⟩, inspectPayload]
  have hread : (readBodySafely maxPayloadInspectionBytes (postRequest bytes)).1 =
      .ok (bytes.take maxPayloadInspectionBytes) := readLimited_ofBytes
  generalize readBodySafely maxPayloadInspectionBytes (postRequest bytes) = read at hread
  obtain ⟨body, httpReq⟩ := read
  obtain rfl := hread
  dsimp only
  rw [classifyPayload_httpTypes]
  refine ⟨_, _, rfl, ?_⟩
  split
  · exact .inl rfl
  · exact .inr rfl

theorem validateRPCType_postRequest (bytes : List UInt8) :
    ∃ t httpReq', validateRPCType .plain twoTypes (captureHTTPRequestMetadata (postRequest bytes)) =
    (.ok t, httpReq') := by
  obtain ⟨t, httpReq', hdetect, ht⟩ := detectRPCType_postRequest bytes
  refine ⟨some t, httpReq', ?_⟩
  have hcapture : captureHTTPRequestMetadata (postRequest bytes) = postRequest bytes := rfl
  have htypes : UnifiedRPCTypes.getServiceRPCTypes ⟨httpTypes, []⟩ = httpTypes := rfl
  have hvalid : UnifiedRPCTypes.validate ⟨httpTypes, []⟩ t = .ok () := by
    rcases ht with rfl | rfl <;> rfl
  rw [hcapture, validateRPCType, twoTypes]
  dsimp only
  rw [htypes, if_neg (by decide), hdetect]
  dsimp only
  rw [hvalid]
  rfl

theorem bodyPreserved_iff_short : ∃ t httpReq', validateRPCType .plain twoTypes
      (captureHTTPRequestMetadata (postRequest [123, 125])) = (.ok t, httpReq') ∧
    content httpReq'.body = content (postRequest [123, 125]).body := by
  obtain ⟨t, httpReq', hval⟩ := validateRPCType_postRequest [123, 125]
  exact ⟨t, httpReq', hval, (bodyPreserved_iff hval).mpr fun _ => by decide⟩

theorem long_body_truncated : ∃ t httpReq', validateRPCType .plain twoTypes
      (captureHTTPRequestMetadata (postRequest (.replicate (maxPayloadInspectionBytes + 1) 0))) =
        (.ok t, httpReq') ∧
    content httpReq'.body ≠
      content (postRequest (.replicate (maxPayloadInspectionBytes + 1) 0)).body := by
  obtain ⟨t, httpReq', hval⟩ := validateRPCType_postRequest
    (.replicate (maxPayloadInspectionBytes + 1) 0)
  refine ⟨t, httpReq', hval, fun hsame => ?_⟩
  have hsame : content httpReq'.body = content (captureHTTPRequestMetadata
      (postRequest (.replicate (maxPayloadInspectionBytes + 1) 0))).body :=
    hsame.trans content_capture.symm
  have hfits := (content_validateRPCType hval).mp hsame
    (inspects_capture.mpr (inspects_postRequest _))
  have hlength : (replicate (maxPayloadInspectionBytes + 1) (0 : UInt8)).length ≤
      maxPayloadInspectionBytes := (hfits _ rfl).2
  rw [length_replicate] at hlength
  omega

end Frame

end PathGateway
