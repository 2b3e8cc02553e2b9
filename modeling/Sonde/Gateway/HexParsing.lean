import Mathlib
import Sonde.Lib.Bytes

/-!
# Hexadecimal strings of the configuration

`parse_hex` reads the program hashes of the handler file, `parse_hex_str` those of a state bundle. Both slice the string
into pairs and give each pair to `u8::from_str_radix`, which takes a sign.
-/

namespace Sonde.Gateway
open Lib List

def toDigit (c : Char) : Option Nat :=
  if '0' ≤ c ∧ c ≤ '9' then some (c.toNat - '0'.toNat)
  else if 'a' ≤ c ∧ c ≤ 'f' then some (c.toNat - 'a'.toNat + 10)
  else if 'A' ≤ c ∧ c ≤ 'F' then some (c.toNat - 'A'.toNat + 10)
  else none

-- A prefix of `n` bytes and the rest, unless the cut falls into a character or behind the end.
def splitAtByte : Nat → List Char → Option (List Char × List Char)
  | 0, s => some ([], s)
  | _ + 1, [] => none
  | n + 1, c :: s =>
    if c.utf8Size ≤ n + 1 then (splitAtByte (n + 1 - c.utf8Size) s).map fun (front, back) => (c :: front, back) else none

/-- The slice `s[i..j]`; there is none if the code panics. -/
def strSlice (s : List Char) (i j : Nat) : Option (List Char) :=
  (splitAtByte i s).bind fun (_, back) => (splitAtByte (j - i) back).map Prod.fst

def byteLen (s : List Char) : Nat := (s.map Char.utf8Size).sum

def fromDigits (digits : List Char) : Option (BitVec 8) :=
  if digits = [] then none
  else (digits.foldlM (fun acc c => do
    let digit ← toDigit c
    if 16 * acc + digit < 256 then some (16 * acc + digit) else none) 0).map (BitVec.ofNat 8)

/-- `u8::from_str_radix` with radix 16. -/
def fromStrRadix16 : List Char → Option (BitVec 8)
  | '+' :: digits => fromDigits digits
  | digits => fromDigits digits

/-! ## The two parsers -/

section
variable {ε : Type} (error : String → ε)

def collectHex (s : String) : List Nat → Option (Except ε Bytes)
  | [] => some (.ok [])
  | i :: rest =>
    (strSlice s.toList i (i + 2)).bind fun pair =>
      match fromStrRadix16 pair with
      | none => some (.error (error ("invalid hex character in: " ++ s)))
      | some byte => (collectHex s rest).map fun bytes => bytes.map (byte :: ·)

def parseHexWith (s : String) : Option (Except ε Bytes) :=
  if ¬∀ c ∈ s.toList, c.toNat < 128 then some (.error (error ("hex string contains non-ASCII characters: " ++ s)))
  else if byteLen s.toList % 2 ≠ 0 then some (.error (error ("hex string has odd length: " ++ s)))
  else collectHex error s ((range (byteLen s.toList / 2)).map (2 * ·))

end

structure HandlerConfigError where
  message : String

def parseHex : String → Option (Except HandlerConfigError Bytes) := parseHexWith .mk

def parseHexStr : String → Option (Except String Bytes) := parseHexWith id

/-! ## Strictness -/

/-- The bytes that pairs of hexadecimal digits denote. -/
def hexBytes : List Char → Option Bytes
  | [] => some []
  | [_] => none
  | high :: low :: rest => do
    let highDigit ← toDigit high
    let lowDigit ← toDigit low
    let bytes ← hexBytes rest
    return BitVec.ofNat 8 (16 * highDigit + lowDigit) :: bytes

def StrictAt {ε : Type} (parser : String → Option (Except ε Bytes)) (s : String) : Prop :=
  match hexBytes s.toList with
  | some bytes => parser s = some (.ok bytes)
  | none => ∃ e, parser s = some (.error e)

/-- The string is pairs of digits and signed digits, one at least with its sign. -/
def Signed (s : List Char) : Prop := '+' ∈ s ∧ go s where
  go : List Char → Prop
    | [] => True
    | [_] => False
    | high :: low :: rest => (high = '+' ∨ (toDigit high).isSome) ∧ (toDigit low).isSome ∧ go rest

open Signed

def readPairs : List Char → Option Bytes
  | [] => some []
  | [_] => none
  | high :: low :: rest => do
    let byte ← fromStrRadix16 [high, low]
    let bytes ← readPairs rest
    return byte :: bytes

theorem toDigit_lt {c : Char} {digit : Nat} (found : toDigit c = some digit) : digit < 16 ∧ c.toNat < 128 := by
  have ordered {a b : Char} : a ≤ b ↔ a.toNat ≤ b.toNat := Iff.rfl
  simp only [toDigit, ordered] at found
  split_ifs at found <;> cases found <;> simp_all <;> omega

theorem fromStrRadix16_pair (high low : Char) : fromStrRadix16 [high, low] =
    if high = '+' then (toDigit low).map (BitVec.ofNat 8)
    else do
      let highDigit ← toDigit high
      let lowDigit ← toDigit low
      return BitVec.ofNat 8 (16 * highDigit + lowDigit) := by
  by_cases plus : high = '+'
  · rw [if_pos plus, plus, fromStrRadix16, fromDigits]
    cases found : toDigit low with
    | none => simp [found]
    | some digit =>
      have room : digit < 256 := Nat.lt_trans (toDigit_lt found).1 (by decide)
      simp [found, room]
  · rw [if_neg plus, fromStrRadix16, fromDigits]
    · cases first : toDigit high with
      | none => simp [first]
      | some digit =>
        have below := (toDigit_lt first).1
        have room : digit < 256 := by omega
        cases second : toDigit low with
        | none => simp [first, second, room]
        | some digit' =>
          have := (toDigit_lt second).1
          have both : 16 * digit + digit' < 256 := by omega
          simp [first, second, room, both]
    · rintro digits ⟨⟩
      exact plus rfl

variable {s : List Char}

theorem readPairs_isSome (s : List Char) : (readPairs s).isSome ↔ go s := by
  fun_induction readPairs s with
  | case1 => simp [go]
  | case2 => simp [go]
  | case3 high low rest ih =>
    rw [fromStrRadix16_pair, go, ← ih]
    by_cases plus : high = '+'
    · cases toDigit low <;> cases readPairs rest <;> simp [plus]
    · cases toDigit high <;> cases toDigit low <;> cases readPairs rest <;> simp [plus]

theorem hexBytes_unsigned (unsigned : '+' ∉ s) : hexBytes s = readPairs s := by
  fun_induction readPairs s with
  | case1 => rfl
  | case2 => rfl
  | case3 high low rest ih =>
    simp only [mem_cons, not_or] at unsigned
    rw [fromStrRadix16_pair, if_neg (Ne.symm unsigned.1), hexBytes, ih unsigned.2.2]
    cases toDigit high <;> cases toDigit low <;> rfl

theorem hexBytes_signed (signed : '+' ∈ s) : hexBytes s = none := by
  have sign : toDigit '+' = none := by decide
  fun_induction hexBytes s with
  | case1 => cases signed
  | case2 => rfl
  | case3 high low rest ih =>
    rcases mem_cons.mp signed with rfl | signed
    · simp [sign]
    rcases mem_cons.mp signed with rfl | signed
    · cases toDigit high <;> simp [sign]
    · cases toDigit high <;> cases toDigit low <;> simp [ih signed]

theorem Signed.go_plain (accepted : go s) : (∀ c ∈ s, c.toNat < 128) ∧ s.length % 2 = 0 := by
  fun_induction go s with
  | case1 => simp
  | case2 => cases accepted
  | case3 high low rest ih =>
    obtain ⟨first, second, later⟩ := accepted
    obtain ⟨ascii, even⟩ := ih later
    have plain {c : Char} (digit : (toDigit c).isSome) : c.toNat < 128 := by
      obtain ⟨_, found⟩ := Option.isSome_iff_exists.mp digit
      exact (toDigit_lt found).2
    refine ⟨?_, by simpa [Nat.add_assoc] using even⟩
    simp only [forall_mem_cons]
    exact ⟨first.elim (fun plus => plus ▸ by decide) plain, plain second, ascii⟩

theorem utf8Size_ascii {c : Char} (ascii : c.toNat < 128) : c.utf8Size = 1 := by
  have small : c.val ≤ 0x7f := UInt32.le_iff_toNat_le.mpr (Nat.le_of_lt_succ ascii)
  simp [Char.utf8Size, small]

variable {front back : List Char}

theorem splitAtByte_ascii (ascii : ∀ c ∈ front, c.toNat < 128) :
    splitAtByte front.length (front ++ back) = some (front, back) := by
  induction front with
  | nil => cases back <;> rfl
  | cons c front ih =>
    obtain ⟨first, rest⟩ := forall_mem_cons.mp ascii
    rw [length_cons, cons_append, splitAtByte, utf8Size_ascii first, if_pos (by omega), Nat.add_sub_cancel, ih rest]
    rfl

theorem byteLen_ascii {s : List Char} (ascii : ∀ c ∈ s, c.toNat < 128) : byteLen s = s.length := by
  induction s with
  | nil => rfl
  | cons c s ih =>
    obtain ⟨first, rest⟩ := forall_mem_cons.mp ascii
    rw [byteLen, map_cons, sum_cons, utf8Size_ascii first, ← byteLen, ih rest, length_cons, Nat.add_comm]

section
variable {ε : Type} (error : String → ε)

def pairsOr (refused : ε) (s : List Char) : Except ε Bytes :=
  match readPairs s with
  | some bytes => .ok bytes
  | none => .error refused

theorem collectHex_pairs {s : String} {k n : Nat} (split : s.toList = front ++ back) (ascii : ∀ c ∈ s.toList, c.toNat < 128)
    (done : front.length = 2 * k) (left : back.length = 2 * n) :
    collectHex error s ((range' k n).map (2 * ·)) = some (pairsOr (error ("invalid hex character in: " ++ s)) back) := by
  induction n generalizing k front back with
  | zero =>
    obtain rfl := length_eq_zero_iff.mp left
    rfl
  | succ n ih =>
    obtain ⟨high, low, rest, rfl⟩ : ∃ high low rest, back = high :: low :: rest := by
      match back, left with
      | high :: low :: rest, _ => exact ⟨high, low, rest, rfl⟩
    have pair : strSlice s.toList (2 * k) (2 * k + 2) = some [high, low] := by
      rw [split, forall_mem_append] at ascii
      have both : ∀ c ∈ [high, low], c.toNat < 128 := fun c mem => ascii.2 c (mem_append_left rest mem)
      have cut : splitAtByte 2 ([high, low] ++ rest) = some ([high, low], rest) := splitAtByte_ascii both
      rw [strSlice, split, ← done, splitAtByte_ascii ascii.1, Nat.add_sub_cancel_left]
      exact congrArg (Option.map Prod.fst) cut
    have next : s.toList = (front ++ [high, low]) ++ rest := by simp [split]
    have later := ih next (k := k + 1) (by simp [done]; omega) (by simp at left; omega)
    rw [range'_succ, map_cons, collectHex, pair, later, Option.bind_some]
    simp only [pairsOr, readPairs]
    cases fromStrRadix16 [high, low] with
    | none => rfl
    | some byte => cases readPairs rest <;> rfl

theorem parseHexWith_pairs (s : String) : ∃ refused, parseHexWith error s = some (pairsOr refused s.toList) := by
  have unread (refusal : ¬((∀ c ∈ s.toList, c.toNat < 128) ∧ s.toList.length % 2 = 0)) : readPairs s.toList = none := by
    rw [← Option.not_isSome_iff_eq_none, readPairs_isSome]
    exact mt go_plain refusal
  unfold parseHexWith
  split
  · rename_i foreign
    exact ⟨_, by rw [pairsOr, unread fun plain => foreign plain.1]⟩
  rename_i plain
  have ascii := not_not.mp plain
  rw [byteLen_ascii ascii]
  split
  · rename_i odd
    exact ⟨_, by rw [pairsOr, unread fun plain => odd plain.2]⟩
  · rename_i even
    rw [range_eq_range']
    exact ⟨_, collectHex_pairs error (nil_append _).symm ascii rfl (by omega)⟩

theorem parseHexWith_strict_iff (s : String) : StrictAt (parseHexWith error) s ↔ ¬Signed s.toList := by
  obtain ⟨refused, parsed⟩ := parseHexWith_pairs error s
  unfold StrictAt Signed
  rw [parsed, ← readPairs_isSome, pairsOr]
  by_cases signed : '+' ∈ s.toList
  · rw [hexBytes_signed signed]
    cases readPairs s.toList <;> simp [signed]
  · rw [hexBytes_unsigned signed]
    cases readPairs s.toList <;> simp [signed]

end

/-- Both parsers are strict except on the strings with signed digits, which they take. -/
theorem hex_parsers_strict_iff (s : String) :
    (StrictAt parseHex s ↔ ¬Signed s.toList) ∧ (StrictAt parseHexStr s ↔ ¬Signed s.toList) :=
  ⟨parseHexWith_strict_iff _ s, parseHexWith_strict_iff _ s⟩

theorem sign_taken : parseHex "+f" = some (.ok [15]) ∧ parseHexStr "+f" = some (.ok [15]) := by
  have parsed {ε : Type} (error : String → ε) : parseHexWith error "+f" = some (.ok [15]) := by
    obtain ⟨refused, parsed⟩ := parseHexWith_pairs error "+f"
    exact parsed
  exact ⟨parsed _, parsed _⟩

end Sonde.Gateway
