import PathGateway.BatchBalance
import PathGateway.GoStrings

/-! Ids read back from their string form. -/

namespace PathGateway

open List

namespace JsonRPC

/-- `fmt.Sscanf` with `%d`: blanks, a sign, then as many digits as there are. What comes after
them is not looked at. -/
def scanInt (s : String) : Option {n : ℤ // InInt64 n} :=
  let cs := s.toList.dropWhile (fun c => GoStrings.isSpace c && c != '\n')
  let negative := cs.head? == some '-'
  let digits := (if negative || cs.head? == some '+' then cs.tail else cs).takeWhile Char.isDigit
  let magnitude : ℤ := Nat.ofDigitChars 10 digits 0
  let n := if negative then -magnitude else magnitude
  if h : digits ≠ [] ∧ InInt64 n then some ⟨n, h.2⟩ else none

/-- `IDFromString`. -/
def ID.ofString (s : String) : ID :=
  if h : s = "" ∨ s = "null" then .unset
  else ((scanInt s).map (fun n => .int n.1 n.2)).getD (.str s (not_or.mp h).1)

theorem exists_digit (n : ℕ) : ∃ c cs, n.repr.toList = c :: cs ∧ c.isDigit = true ∧
    (c :: cs).takeWhile Char.isDigit = c :: cs ∧ Nat.ofDigitChars 10 (c :: cs) 0 = n := by
  have hdigits : ∀ c ∈ Nat.toDigits 10 n, c.isDigit = true := fun c =>
    Nat.isDigit_of_mem_toDigits (by decide) (by decide)
  have hvalue := @Nat.ofDigitChars_toDigits 10 n (by decide) (by decide)
  rw [Nat.toList_repr]
  cases hcs : Nat.toDigits 10 n with
  | nil => exact absurd hcs Nat.toDigits_ne_nil
  | cons c cs =>
    rw [hcs] at hdigits hvalue
    exact ⟨c, cs, rfl, hdigits c mem_cons_self, takeWhile_eq_self_iff.mpr hdigits, hvalue⟩

theorem not_blank_of_isDigit {c : Char} (h : c.isDigit = true) :
    GoStrings.isSpace c = false ∧ c ≠ '-' ∧ c ≠ '+' := by
  have hrange : 48 ≤ c.toNat ∧ c.toNat ≤ 57 := by
    simpa [Char.isDigit, UInt32.le_iff_toNat_le] using h
  refine ⟨?_, ?_, ?_⟩
  · refine Bool.eq_false_iff.mpr fun hspace => ?_
    simp [GoStrings.isSpace] at hspace
    omega
  · rintro rfl
    simp at hrange
  · rintro rfl
    simp at hrange

theorem scanInt_repr (n : ℤ) (h : InInt64 n) : scanInt n.repr = some ⟨n, h⟩ := by
  cases n with
  | ofNat m =>
    obtain ⟨c, cs, hcs, hc, htake, hvalue⟩ := exists_digit m
    obtain ⟨hspace, hminus, hplus⟩ := not_blank_of_isDigit hc
    simpa [scanInt, Int.repr, hcs, hspace, hminus, hplus, htake, hvalue] using h
  | negSucc m =>
    obtain ⟨c, cs, hcs, -, htake, hvalue⟩ := exists_digit (m + 1)
    have hminus : GoStrings.isSpace '-' = false := by decide
    have hneg : -1 + -(m : ℤ) = Int.negSucc m := by omega
    simp [scanInt, Int.repr, hcs, hminus, htake, hvalue, hneg, h]

theorem ofString_of_ne {s : String} (hne : s ≠ "") (hnull : s ≠ nullKey) :
    (ID.ofString s).isEmpty = false ∧
    (ID.ofString s).string = ((scanInt s).map (fun n => n.1.repr)).getD s := by
  rw [nullKey, ID.string] at hnull
  rw [ID.ofString, dif_neg (not_or.mpr ⟨hne, hnull⟩)]
  cases scanInt s with
  | none | some => exact ⟨rfl, rfl⟩

/-- An id comes back from its string form unless it is a string that begins with a number and
is not that number's own spelling. -/
theorem equal_ofString_iff (id : ID) (hnull : id.string ≠ nullKey) :
    (ID.ofString id.string).equal id = true ↔
      ∀ s hne, id = .str s hne → ∀ n, scanInt s = some n → n.1.repr = s := by
  have hset := isEmpty_eq_false_of_string hnull
  have hne : id.string ≠ "" := by
    cases id with
    | unset => cases hset
    | str s hne => exact hne
    | int n h =>
      intro hempty
      have hscan := scanInt_repr n h
      rw [show n.repr = "" from hempty] at hscan
      cases hscan
  obtain ⟨hofString, hstring⟩ := ofString_of_ne hne hnull
  rw [ID.equal_iff hofString hset, hstring]
  cases id with
  | unset => cases hset
  | int n h => simp [ID.string, scanInt_repr n h]
  | str s hs =>
    constructor
    · intro h _ _ heq n hn
      cases heq
      simpa [ID.string, hn] using h
    · intro h
      cases hscan : scanInt s with
      | none => simp [ID.string, hscan]
      | some n => simpa [ID.string, hscan] using h s hs rfl n hscan

theorem word_comes_back :
    (ID.ofString "abc12").equal (.str "abc12" (by decide)) = true :=
  (equal_ofString_iff (.str "abc12" (by decide)) (by decide)).mpr fun s hne heq n hn => by
    cases heq
    cases hn

theorem padded_number_lost :
    ID.ofString "12abc" = .int 12 (by decide) ∧
      (ID.ofString "12abc").equal (.str "12abc" (by decide)) = false ∧
      ID.ofString "007" = .int 7 (by decide) :=
  ⟨rfl, rfl, rfl⟩

section Equality

/-- The unset id and the string id "null", which look the same. -/
def ID.NullPair : ID → ID → Prop
  | .unset, .str s _ | .str s _, .unset => s = "null"
  | _, _ => False

theorem repr_ne_null {n : ℤ} (h : InInt64 n) : "null" ≠ n.repr := by
  intro hnull
  have hscan := scanInt_repr n h
  rw [← hnull] at hscan
  cases hscan

theorem nullPair_iff (a b : ID) : a.NullPair b ↔ a.string = b.string ∧ a.isEmpty ≠ b.isEmpty := by
  cases a <;> cases b <;>
    simp_all [ID.string, ID.isEmpty, ID.NullPair, repr_ne_null, eq_comm]

theorem equal_iff_same (a b : ID) :
    a.equal b = true ↔ a.string = b.string ∧ a.isEmpty = b.isEmpty := by
  cases a <;> cases b <;> simp [ID.equal, ID.string, ID.isEmpty, Int.repr_inj]

variable {β : Type} (lib : JSONLib β) (rs : List β) (ids : List ID)

/-- Requests and responses are alike by `Equal` exactly if they are by `String`. -/
def Agree : Prop :=
  ∀ r ∈ rs, ∀ id, responseIDOf lib r = some id →
    ∀ q ∈ ids, q.equal id = true ↔ q.string = id.string

def NoNullPair : Prop :=
  ∀ r ∈ rs, ∀ id, responseIDOf lib r = some id → ∀ q ∈ ids, ¬q.NullPair id

variable {lib rs ids}

theorem equal_iff_string (a b : ID) :
    a.equal b = true ↔ a.string = b.string ∧ ¬a.NullPair b := by
  rw [equal_iff_same, nullPair_iff]
  tauto

theorem agree_iff : Agree lib rs ids ↔ NoNullPair lib rs ids := by
  refine forall₂_congr fun r _ => forall₂_congr fun id _ => forall₂_congr fun q _ => ?_
  rw [equal_iff_string]
  constructor
  · intro h hpair
    exact (h.mpr ((nullPair_iff q id).mp hpair).1).2 hpair
  · intro h
    exact and_iff_left h

theorem mem_matchedRequestIDs_of_noNullPair (hpair : NoNullPair lib rs ids) (key : String) :
    key ∈ matchedRequestIDs lib rs ids ↔
      ∃ r ∈ rs, ∃ id, responseIDOf lib r = some id ∧ id.isEmpty = false ∧ id.string = key ∧
        0 < (read lib ids rs).pending key := by
  rw [mem_matchedRequestIDs, pending_read, count_pos_iff, mem_map]
  constructor
  · rintro ⟨⟨q, hq, -, hstring⟩, r, hr, id, hid, hset, hkey⟩
    exact ⟨r, hr, id, hid, hset, hkey, q, hq, hstring⟩
  · rintro ⟨r, hr, id, hid, hset, rfl, q, hq, hstring⟩
    have hne := hpair r hr id hid q hq
    rw [nullPair_iff, not_and, not_not] at hne
    exact ⟨⟨q, hq, (hne hstring).trans hset, hstring⟩, r, hr, id, hid, hset, rfl⟩

theorem nullKey_counted_unmatched (hmissing : ∃ q ∈ ids, q.isEmpty = true)
    (hunset : ∀ q ∈ ids, q.string = nullKey → q.isEmpty = true) :
    0 < (read lib ids rs).pending nullKey ∧ nullKey ∉ matchedRequestIDs lib rs ids := by
  rw [mem_matchedRequestIDs, pending_read, count_pos_iff, mem_map]
  constructor
  · obtain ⟨q, hq, hempty⟩ := hmissing
    exact ⟨q, hq, string_eq_nullKey hempty⟩
  · rintro ⟨⟨q, hq, hset, hstring⟩, -⟩
    rw [hunset q hq hstring] at hset
    cases hset

variable (lib rs ids)

/-- Equality of ids is an equivalence, that of the string forms but for one pair. It agrees with
the grouping by string forms exactly if that pair is not among requests and responses. Then the
keys that validation matches are those of the responses under which reconciliation counts a
request. A response with the id "null" is counted for a request without an id and matched to
none. -/
theorem equal_textual :
    (∀ a : ID, a.equal a = true) ∧
    (∀ a b : ID, a.equal b = b.equal a) ∧
    (∀ a b c : ID, a.equal b = true → b.equal c = true → a.equal c = true) ∧
    (∀ a b : ID, a.equal b = true ↔ a.string = b.string ∧ ¬a.NullPair b) ∧
    (Agree lib rs ids ↔ NoNullPair lib rs ids) ∧
    (NoNullPair lib rs ids → ∀ key, key ∈ matchedRequestIDs lib rs ids ↔
      ∃ r ∈ rs, ∃ id, responseIDOf lib r = some id ∧ id.isEmpty = false ∧ id.string = key ∧
        0 < (read lib ids rs).pending key) ∧
    ((∃ q ∈ ids, q.isEmpty = true) → (∀ q ∈ ids, q.string = nullKey → q.isEmpty = true) →
      0 < (read lib ids rs).pending nullKey ∧ nullKey ∉ matchedRequestIDs lib rs ids) := by
  refine ⟨fun a => (equal_iff_same a a).mpr ⟨rfl, rfl⟩, fun a b => ?_, fun a b c hab hbc => ?_,
    equal_iff_string, agree_iff, mem_matchedRequestIDs_of_noNullPair, nullKey_counted_unmatched⟩
  · rw [Bool.eq_iff_iff, equal_iff_same, equal_iff_same, eq_comm, @eq_comm _ a.isEmpty]
  · rw [equal_iff_same] at hab hbc ⊢
    exact ⟨hab.1.trans hbc.1, hab.2.trans hbc.2⟩

theorem number_matches_word : "7" ∈ matchedRequestIDs JSONLib.raw
    [.json (.object [("jsonrpc", .string "2.0"), ("id", .string "7")])] [.int 7 (by decide)] := by
  obtain ⟨-, -, -, -, -, hmatched, -⟩ := equal_textual JSONLib.raw
    [.json (.object [("jsonrpc", .string "2.0"), ("id", .string "7")])] [.int 7 (by decide)]
  refine (hmatched ?_ "7").mpr
    ⟨_, mem_singleton_self _, .str "7" (by decide), rfl, rfl, rfl, by decide⟩
  intro r _ id _ q hq
  cases mem_singleton.mp hq
  exact not_false

/-- The response is counted for the request without an id, and matches none. -/
theorem null_word_unmatched :
    let word : RawText := .json (.object [("jsonrpc", .string "2.0"), ("id", .string "null"),
      ("result", .string "0x1")])
    (read JSONLib.raw [.unset] [word]).slots = [.answers "null"] ∧
      (read JSONLib.raw [.unset] [word]).pending "null" = 1 ∧
      matchedRequestIDs JSONLib.raw [word] [.unset] = [] ∧
      validateAndBuildBatchResponse JSONLib.raw [word] [.unset] = .error (.missingIDs 1 0) :=
  ⟨rfl, rfl, rfl, rfl⟩

end Equality

end JsonRPC

end PathGateway
