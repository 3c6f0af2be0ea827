import Mathlib.Data.List.Infix
import Mathlib.Data.List.TakeWhile

/-! String operations over the characters of a string, and the library functions
whose tables (Unicode case folding, URL grammar, public suffixes) stay abstract. -/

namespace GoStrings

open List

variable (sep : Char) (s p : String)

def hasPrefix : Bool := p.toList.isPrefixOf s.toList

def hasSuffix : Bool := p.toList.isSuffixOf s.toList

def contains (sub : String) : Bool := s.toList.tails.any (fun t => sub.toList.isPrefixOf t)

def before : String := String.ofList (s.toList.takeWhile (· ≠ sep))

def after : Option String :=
  match s.toList.dropWhile (· ≠ sep) with
  | [] => none
  | _ :: rest => some (String.ofList rest)

def trimPrefix : String :=
  if hasPrefix s p then String.ofList (s.toList.drop p.toList.length) else s

def splitLast : Option (String × String) :=
  match s.toList.reverse.dropWhile (· ≠ sep) with
  | [] => none
  | _ :: rest =>
    some (String.ofList rest.reverse,
      String.ofList (s.toList.reverse.takeWhile (· ≠ sep)).reverse)

def split : List String := (s.toList.splitOn sep).map String.ofList

def isSpace (c : Char) : Bool :=
  (9 ≤ c.toNat && c.toNat ≤ 13) || (0x2000 ≤ c.toNat && c.toNat ≤ 0x200A) ||
    [0x20, 0x85, 0xA0, 0x1680, 0x2028, 0x2029, 0x202F, 0x205F, 0x3000].contains c.toNat

def trimSpace : String :=
  String.ofList ((s.toList.dropWhile isSpace).reverse.dropWhile isSpace).reverse

theorem split_append (sep : Char) (s t : String) :
    split sep (s ++ String.singleton sep ++ t) = split sep s ++ split sep t := by
  simp [split, splitOn, splitOnP_append_cons]

theorem split_ne_nil (sep : Char) (s : String) : split sep s ≠ [] := by
  simp [split, splitOn, splitOnP_ne_nil]

theorem intercalate_split (sep : Char) (s : String) :
    [sep].intercalate ((split sep s).map String.toList) = s.toList := by
  rw [split, map_map, Function.comp_def]
  simp [intercalate_splitOn]

theorem eq_of_split_eq_singleton {sep : Char} {s t : String} (h : split sep s = [t]) : s = t := by
  have hjoin := intercalate_split sep s
  rw [h] at hjoin
  exact String.toList_inj.mp (by simpa using hjoin.symm)

theorem not_mem_before (sep : Char) (s : String) : sep ∉ (before sep s).toList := by
  rw [before, String.toList_ofList]
  intro hmem
  simpa using mem_takeWhile_imp hmem

theorem toList_eq_of_after {sep : Char} {s rest : String} (h : after sep s = some rest) :
    s.toList = (before sep s).toList ++ sep :: rest.toList := by
  rw [after] at h
  split at h
  · cases h
  · rename_i c cs hdrop
    cases h
    have hc : c = sep := by
      have hhead := head?_dropWhile_not (fun c => decide (c ≠ sep)) s.toList
      rw [hdrop] at hhead
      simpa using hhead
    rw [before, String.toList_ofList, String.toList_ofList, ← hc, ← hdrop, hc]
    exact takeWhile_append_dropWhile.symm

section Append

variable {sep : Char} {s t : String}

theorem ne_of_not_mem {l : List Char} (h : sep ∉ l) : ∀ c ∈ l, decide (c ≠ sep) = true := by
  intro c hc
  exact decide_eq_true fun heq => h (heq ▸ hc)

theorem takeWhile_append_sep {l : List Char} (r : List Char) (h : sep ∉ l) :
    (l ++ sep :: r).takeWhile (fun c => decide (c ≠ sep)) = l := by
  rw [takeWhile_append_of_pos (ne_of_not_mem h)]
  simp

theorem dropWhile_append_sep {l : List Char} (r : List Char) (h : sep ∉ l) :
    (l ++ sep :: r).dropWhile (fun c => decide (c ≠ sep)) = sep :: r := by
  rw [dropWhile_append_of_pos (ne_of_not_mem h)]
  simp

theorem toList_append_sep :
    (s ++ String.singleton sep ++ t).toList = s.toList ++ sep :: t.toList := by
  simp

theorem before_append (h : sep ∉ s.toList) : before sep (s ++ String.singleton sep ++ t) = s := by
  rw [before, toList_append_sep, takeWhile_append_sep _ h, String.ofList_toList]

theorem after_append (h : sep ∉ s.toList) :
    after sep (s ++ String.singleton sep ++ t) = some t := by
  rw [after, toList_append_sep, dropWhile_append_sep _ h]
  simp

theorem splitLast_append (h : sep ∉ t.toList) :
    splitLast sep (s ++ String.singleton sep ++ t) = some (s, t) := by
  have hreverse : (s.toList ++ sep :: t.toList).reverse =
      t.toList.reverse ++ sep :: s.toList.reverse := by simp
  have hmem : sep ∉ t.toList.reverse := by simpa using h
  rw [splitLast, toList_append_sep, hreverse, dropWhile_append_sep _ hmem,
    takeWhile_append_sep _ hmem]
  simp

theorem split_of_not_mem (h : sep ∉ s.toList) : split sep s = [s] := by
  have hne : ∀ c ∈ s.toList, (c == sep) = false := by
    intro c hc
    exact beq_eq_false_iff_ne.mpr fun heq => h (heq ▸ hc)
  rw [split, splitOn, splitOnP_eq_singleton hne]
  simp

theorem hasPrefix_append (p s : String) : hasPrefix (p ++ s) p = true := by
  rw [hasPrefix, String.toList_append, isPrefixOf_iff_prefix]
  exact prefix_append _ _

theorem trimPrefix_append (p s : String) : trimPrefix (p ++ s) p = s := by
  rw [trimPrefix, if_pos (hasPrefix_append p s), String.toList_append, drop_left,
    String.ofList_toList]

end Append

end GoStrings

/-- Case folding, URL parsing, IP literals and the public-suffix list. Every result of
the development holds for any such functions. -/
structure NetLib where
  toLower : String → String
  toUpper : String → String
  /-- The host name of a URL, `none` when the URL does not parse. -/
  hostname : String → Option String
  isIP : String → Bool
  effectiveTLDPlusOne : String → Option String

/-- The library functions on plain ASCII URLs, for worked inputs: the host stands between
the scheme and the next slash or colon, and two labels make a registrable domain. -/
def NetLib.ascii : NetLib where
  toLower s := String.ofList (s.toList.map Char.toLower)
  toUpper s := String.ofList (s.toList.map Char.toUpper)
  hostname url :=
    match (GoStrings.after ':' url).map String.toList with
    | some ('/' :: '/' :: rest) =>
      some (String.ofList (rest.takeWhile (fun c => c ≠ '/' && c ≠ ':')))
    | _ => some ""
  isIP host := host.toList.all (fun c => c.isDigit || c == '.')
  effectiveTLDPlusOne host :=
    let parts := GoStrings.split '.' host
    if parts.length < 2 then none
    else some (".".intercalate (parts.drop (parts.length - 2)))
