import Sonde.Lib.Bytes

namespace Sonde.Lib
open List

/-- A CBOR data item. A text is its UTF-8 bytes; floats, tags and the simple values other than the booleans stand
as `null`. -/
inductive Cbor where
  | unsigned (n : Nat)
  | negative (n : Nat)
  | bytes (data : Bytes)
  | text (utf8 : Bytes)
  | array (items : List Cbor)
  | map (entries : List (Cbor × Cbor))
  | bool (b : Bool)
  | null

namespace Cbor

def head (major n : Nat) : Bytes :=
  if n < 24 then [BitVec.ofNat 8 (32 * major + n)]
  else if n < 2 ^ 8 then BitVec.ofNat 8 (32 * major + 24) :: toBigEndian 1 n
  else if n < 2 ^ 16 then BitVec.ofNat 8 (32 * major + 25) :: toBigEndian 2 n
  else if n < 2 ^ 32 then BitVec.ofNat 8 (32 * major + 26) :: toBigEndian 4 n
  else BitVec.ofNat 8 (32 * major + 27) :: toBigEndian 8 n

mutual
def encode : Cbor → Bytes
  | .unsigned n => head 0 n
  | .negative n => head 1 n
  | .bytes data => head 2 data.length ++ data
  | .text utf8 => head 3 utf8.length ++ utf8
  | .array items => head 4 items.length ++ encodeItems items
  | .map entries => head 5 entries.length ++ encodeEntries entries
  | .bool b => if b then [0xf5] else [0xf4]
  | .null => [0xf6]

def encodeItems : List Cbor → Bytes
  | [] => []
  | item :: items => item.encode ++ encodeItems items

def encodeEntries : List (Cbor × Cbor) → Bytes
  | [] => []
  | (key, value) :: entries => key.encode ++ (value.encode ++ encodeEntries entries)
end

def argumentWidth (info : Nat) : Option Nat :=
  match info with
  | 24 => some 1
  | 25 => some 2
  | 26 => some 4
  | 27 => some 8
  | _ => none

def readHead : Bytes → Option (Nat × Nat × Bytes)
  | [] => none
  | initial :: rest =>
    let major := initial.toNat / 32
    let info := initial.toNat % 32
    if info < 24 then some (major, info, rest)
    else do
      let width ← argumentWidth info
      if width ≤ rest.length then some (major, ofBigEndian (rest.take width), rest.drop width) else none

def isAscii (data : Bytes) : Bool := data.all (· < 128)

def within (low high byte : BitVec 8) : Bool := low ≤ byte && byte ≤ high

def isUtf8 : Bytes → Bool
  | [] => true
  | [a] => a < 0x80
  | [a, b] => if a < 0x80 then isUtf8 [b] else within 0xc2 0xdf a && within 0x80 0xbf b
  | [a, b, c] =>
    if a < 0x80 then isUtf8 [b, c]
    else if a < 0xe0 then within 0xc2 0xdf a && within 0x80 0xbf b && isUtf8 [c]
    else triple a b c
  | a :: b :: c :: d :: rest =>
    if a < 0x80 then isUtf8 (b :: c :: d :: rest)
    else if a < 0xe0 then within 0xc2 0xdf a && within 0x80 0xbf b && isUtf8 (c :: d :: rest)
    else if a < 0xf0 then triple a b c && isUtf8 (d :: rest)
    else
      within 0xf0 0xf4 a && within (if a = 0xf0 then 0x90 else 0x80) (if a = 0xf4 then 0x8f else 0xbf) b &&
        within 0x80 0xbf c && within 0x80 0xbf d && isUtf8 rest
where
  triple (a b c : BitVec 8) : Bool :=
    within 0xe0 0xef a && within (if a = 0xe0 then 0xa0 else 0x80) (if a = 0xed then 0x9f else 0xbf) b && within 0x80 0xbf c

theorem isUtf8_cons {a : BitVec 8} {rest : Bytes} (ascii : a < 128) : isUtf8 (a :: rest) = isUtf8 rest := by
  rcases rest with _ | ⟨b, _ | ⟨c, _ | ⟨d, rest⟩⟩⟩ <;> simp [isUtf8, show a < 128#8 from ascii]

theorem isUtf8_of_isAscii {data : Bytes} (ascii : isAscii data) : isUtf8 data := by
  induction data with
  | nil => rfl
  | cons a rest ih =>
    simp only [isAscii, all_cons, Bool.and_eq_true, decide_eq_true_eq] at ascii
    rw [isUtf8_cons ascii.1]
    exact ih ascii.2

mutual
def read : Nat → Bytes → Option (Cbor × Bytes)
  | 0, _ => none
  | fuel + 1, input => do
    let (major, n, rest) ← readHead input
    match major with
    | 0 => some (.unsigned n, rest)
    | 1 => some (.negative n, rest)
    | 2 => if n ≤ rest.length then some (.bytes (rest.take n), rest.drop n) else none
    | 3 =>
      if n ≤ rest.length ∧ isUtf8 (rest.take n) then some (.text (rest.take n), rest.drop n) else none
    | 4 => do
      let (items, rest) ← readItems fuel n rest
      some (.array items, rest)
    | 5 => do
      let (entries, rest) ← readEntries fuel n rest
      some (.map entries, rest)
    | 7 =>
      match n with
      | 20 => some (.bool false, rest)
      | 21 => some (.bool true, rest)
      | _ => some (.null, rest)
    | _ => none

def readItems : Nat → Nat → Bytes → Option (List Cbor × Bytes)
  | _, 0, input => some ([], input)
  | 0, _ + 1, _ => none
  | fuel + 1, count + 1, input => do
    let (item, rest) ← read fuel input
    let (items, rest) ← readItems fuel count rest
    some (item :: items, rest)

def readEntries : Nat → Nat → Bytes → Option (List (Cbor × Cbor) × Bytes)
  | _, 0, input => some ([], input)
  | 0, _ + 1, _ => none
  | fuel + 1, count + 1, input => do
    let (key, rest) ← read fuel input
    let (value, rest) ← read fuel rest
    let (entries, rest) ← readEntries fuel count rest
    some ((key, value) :: entries, rest)
end

/-! ## Reading back -/

/-! The heads have room for the numbers, and arrays and maps are nested at most `levels` deep. -/

mutual
def FitsIn (levels : Nat) : Cbor → Prop
  | .unsigned n => n < 2 ^ 64
  | .negative n => n < 2 ^ 64
  | .bytes data => data.length < 2 ^ 64
  | .text utf8 => utf8.length < 2 ^ 64 ∧ isUtf8 utf8
  | .array items => 0 < levels ∧ items.length < 2 ^ 64 ∧ FitItems (levels - 1) items
  | .map entries => 0 < levels ∧ entries.length < 2 ^ 64 ∧ FitEntries (levels - 1) entries
  | .bool _ => True
  | .null => True

def FitItems (levels : Nat) : List Cbor → Prop
  | [] => True
  | item :: items => item.FitsIn levels ∧ FitItems levels items

def FitEntries (levels : Nat) : List (Cbor × Cbor) → Prop
  | [] => True
  | (key, value) :: entries => key.FitsIn levels ∧ value.FitsIn levels ∧ FitEntries levels entries
end

theorem readHead_wide {major info width n : Nat} (rest : Bytes) (small : major < 8) (info24 : 24 ≤ info)
    (info32 : info < 32) (known : argumentWidth info = some width) (fits : n < 256 ^ width) :
    readHead (BitVec.ofNat 8 (32 * major + info) :: (toBigEndian width n ++ rest)) = some (major, n, rest) := by
  have initial : (BitVec.ofNat 8 (32 * major + info)).toNat = 32 * major + info := by
    rw [BitVec.toNat_ofNat, Nat.mod_eq_of_lt (by omega)]
  have quotient : (32 * major + info) / 32 = major := by omega
  have remainder : (32 * major + info) % 32 = info := by omega
  have wide : ¬info < 24 := by omega
  simp [readHead, initial, quotient, remainder, wide, known, ofBigEndian_toBigEndian fits]

theorem readHead_head {major n : Nat} (rest : Bytes) (small : major < 8) (fits : n < 2 ^ 64) :
    readHead (head major n ++ rest) = some (major, n, rest) := by
  unfold head
  split
  · next short =>
      have initial : (BitVec.ofNat 8 (32 * major + n)).toNat = 32 * major + n := by
        rw [BitVec.toNat_ofNat, Nat.mod_eq_of_lt (by omega)]
      have quotient : (32 * major + n) / 32 = major := by omega
      have remainder : (32 * major + n) % 32 = n := by omega
      simp only [cons_append, nil_append, readHead, initial, quotient, remainder, if_pos short]
  · split_ifs <;> exact readHead_wide rest small (by decide) (by decide) rfl (by omega)

theorem head_length (major n : Nat) : (head major n).length =
    if n < 24 then 1 else if n < 2 ^ 8 then 2 else if n < 2 ^ 16 then 3 else if n < 2 ^ 32 then 5 else 9 := by
  unfold head
  split_ifs <;> simp

theorem head_length_pos (major n : Nat) : 0 < (head major n).length := by
  rw [head_length]
  split_ifs <;> decide

theorem head_length_le (major n : Nat) : (head major n).length ≤ 9 := by
  rw [head_length]
  split_ifs <;> decide

theorem head_length_small {major n : Nat} (small : n < 24) : (head major n).length = 1 := by
  rw [head_length, if_pos small]

theorem bytes_length {data : Bytes} (short : data.length < 2 ^ 8) : (bytes data).encode.length ≤ 2 + data.length := by
  have header : (head 2 data.length).length ≤ 2 := by
    rw [head_length]
    split_ifs <;> decide
  rw [encode, length_append]
  omega

theorem encode_length_pos : ∀ v : Cbor, 0 < v.encode.length
  | .unsigned n => head_length_pos 0 n
  | .negative n => head_length_pos 1 n
  | .bytes data => by have := head_length_pos 2 data.length; simp [encode]; omega
  | .text utf8 => by have := head_length_pos 3 utf8.length; simp [encode]; omega
  | .array items => by have := head_length_pos 4 items.length; simp [encode]; omega
  | .map entries => by have := head_length_pos 5 entries.length; simp [encode]; omega
  | .bool b => by cases b <;> simp [encode]
  | .null => by simp [encode]

-- Each level of nesting spends one unit of fuel on itself and one on the list of its parts, and writes a head.
mutual
theorem read_encode : ∀ (v : Cbor) (levels fuel : Nat) (rest : Bytes), v.FitsIn levels → 2 * v.encode.length ≤ fuel →
    read fuel (v.encode ++ rest) = some (v, rest)
  | v, _, 0, rest, _, enough => by
    have := encode_length_pos v
    omega
  | .unsigned n, _, fuel + 1, rest, fits, _ => by
    have opened := readHead_head rest (show 0 < 8 by decide) fits
    simp [encode, read, opened]
  | .negative n, _, fuel + 1, rest, fits, _ => by
    have opened := readHead_head rest (show 1 < 8 by decide) fits
    simp [encode, read, opened]
  | .bytes data, _, fuel + 1, rest, fits, _ => by
    have opened := readHead_head (data ++ rest) (show 2 < 8 by decide) fits
    simp [encode, read, opened]
  | .text utf8, _, fuel + 1, rest, ⟨fits, valid⟩, _ => by
    have opened := readHead_head (utf8 ++ rest) (show 3 < 8 by decide) fits
    simp [encode, read, opened, valid]
  | .array items, levels, fuel + 1, rest, ⟨_, fits, each⟩, enough => by
    have := head_length_pos 4 items.length
    rw [encode, length_append] at enough
    have opened := readHead_head (encodeItems items ++ rest) (show 4 < 8 by decide) fits
    have parts := readItems_encodeItems items (levels - 1) fuel rest each (by omega)
    simp [encode, read, opened, parts]
  | .map entries, levels, fuel + 1, rest, ⟨_, fits, each⟩, enough => by
    have := head_length_pos 5 entries.length
    rw [encode, length_append] at enough
    have opened := readHead_head (encodeEntries entries ++ rest) (show 5 < 8 by decide) fits
    have parts := readEntries_encodeEntries entries (levels - 1) fuel rest each (by omega)
    simp [encode, read, opened, parts]
  | .bool b, _, fuel + 1, rest, _, _ => by
    cases b <;> rfl
  | .null, _, fuel + 1, rest, _, _ => rfl

theorem readItems_encodeItems : ∀ (items : List Cbor) (levels fuel : Nat) (rest : Bytes), FitItems levels items →
    2 * (encodeItems items).length < fuel → readItems fuel items.length (encodeItems items ++ rest) = some (items, rest)
  | [], _, fuel, rest, _, _ => by simp [encodeItems, readItems]
  | item :: items, levels, fuel + 1, rest, ⟨fits, each⟩, enough => by
    have := encode_length_pos item
    rw [encodeItems, length_append] at enough
    have first := read_encode item levels fuel (encodeItems items ++ rest) fits (by omega)
    have others := readItems_encodeItems items levels fuel rest each (by omega)
    simp [encodeItems, readItems, first, others]

theorem readEntries_encodeEntries : ∀ (entries : List (Cbor × Cbor)) (levels fuel : Nat) (rest : Bytes), FitEntries levels entries →
    2 * (encodeEntries entries).length < fuel →
    readEntries fuel entries.length (encodeEntries entries ++ rest) = some (entries, rest)
  | [], _, fuel, rest, _, _ => by simp [encodeEntries, readEntries]
  | (key, value) :: entries, levels, fuel + 1, rest, ⟨fitsKey, fitsValue, each⟩, enough => by
    have := encode_length_pos key
    rw [encodeEntries, length_append, length_append] at enough
    have first := read_encode key levels fuel (value.encode ++ (encodeEntries entries ++ rest)) fitsKey (by omega)
    have second := read_encode value levels fuel (encodeEntries entries ++ rest) fitsValue (by omega)
    have others := readEntries_encodeEntries entries levels fuel rest each (by omega)
    simp [encodeEntries, readEntries, first, second, others]
end

theorem items_length_le (items : List Cbor) : items.length ≤ (encodeItems items).length := by
  induction items with
  | nil => exact Nat.zero_le _
  | cons item items ih =>
    have := encode_length_pos item
    rw [encodeItems, length_append, length_cons]
    omega

theorem entries_length_le (entries : List (Cbor × Cbor)) : entries.length ≤ (encodeEntries entries).length := by
  induction entries with
  | nil => exact Nat.zero_le _
  | cons entry entries ih =>
    have := encode_length_pos entry.1
    rw [encodeEntries, length_append, length_append, length_cons]
    omega

mutual
def PlainIn (levels : Nat) : Cbor → Prop
  | .unsigned n => n < 2 ^ 64
  | .negative n => n < 2 ^ 64
  | .text utf8 => isUtf8 utf8
  | .array items => 0 < levels ∧ PlainItems (levels - 1) items
  | .map entries => 0 < levels ∧ PlainEntries (levels - 1) entries
  | .bytes _ => True
  | .bool _ => True
  | .null => True

def PlainItems (levels : Nat) : List Cbor → Prop
  | [] => True
  | item :: items => item.PlainIn levels ∧ PlainItems levels items

def PlainEntries (levels : Nat) : List (Cbor × Cbor) → Prop
  | [] => True
  | (key, value) :: entries => key.PlainIn levels ∧ value.PlainIn levels ∧ PlainEntries levels entries
end

mutual
theorem fits_of_plain : ∀ (v : Cbor) (levels : Nat), v.PlainIn levels → v.encode.length < 2 ^ 64 → v.FitsIn levels
  | .unsigned _, _, plain, _ => plain
  | .negative _, _, plain, _ => plain
  | .bytes data, _, _, short => by
    rw [encode, length_append] at short
    exact (Nat.le_add_left _ _).trans_lt short
  | .text utf8, _, plain, short => by
    rw [encode, length_append] at short
    exact ⟨(Nat.le_add_left _ _).trans_lt short, plain⟩
  | .array items, levels, ⟨nested, plain⟩, short => by
    rw [encode, length_append] at short
    exact ⟨nested, fitItems_of_plain items _ plain ((Nat.le_add_left _ _).trans_lt short)⟩
  | .map entries, levels, ⟨nested, plain⟩, short => by
    rw [encode, length_append] at short
    exact ⟨nested, fitEntries_of_plain entries _ plain ((Nat.le_add_left _ _).trans_lt short)⟩
  | .bool _, _, _, _ => trivial
  | .null, _, _, _ => trivial

theorem fitItems_of_plain : ∀ (items : List Cbor) (levels : Nat), PlainItems levels items →
    (encodeItems items).length < 2 ^ 64 → items.length < 2 ^ 64 ∧ FitItems levels items
  | [], _, _, _ => ⟨by decide, trivial⟩
  | item :: items, levels, plain, short => by
    rw [encodeItems, length_append] at short
    have first := fits_of_plain item levels plain.1 ((Nat.le_add_right _ _).trans_lt short)
    obtain ⟨-, rest⟩ := fitItems_of_plain items levels plain.2 ((Nat.le_add_left _ _).trans_lt short)
    exact ⟨(items_length_le (item :: items)).trans_lt (by rwa [encodeItems, length_append]), first, rest⟩

theorem fitEntries_of_plain : ∀ (entries : List (Cbor × Cbor)) (levels : Nat), PlainEntries levels entries →
    (encodeEntries entries).length < 2 ^ 64 → entries.length < 2 ^ 64 ∧ FitEntries levels entries
  | [], _, _, _ => ⟨by decide, trivial⟩
  | (key, value) :: entries, levels, plain, short => by
    have count := (entries_length_le ((key, value) :: entries)).trans_lt short
    rw [encodeEntries, length_append, length_append] at short
    have first := fits_of_plain key levels plain.1 (by omega)
    have second := fits_of_plain value levels plain.2.1 (by omega)
    obtain ⟨-, rest⟩ := fitEntries_of_plain entries levels plain.2.2 (by omega)
    exact ⟨count, first, second, rest⟩
end

/-- The nesting that a reader accepts: that of `ciborium::from_reader`. -/
def recursionLimit : Nat := 256

/-! `Fits` and `Plain` are for the values of a map that is read. -/

abbrev Fits (v : Cbor) : Prop := v.FitsIn (recursionLimit - 1)

abbrev Plain (v : Cbor) : Prop := v.PlainIn (recursionLimit - 1)

/-- A reader that reads back what `encode` wrote, from the start of its input. -/
structure Reader where
  fromReader : Bytes → Except String Cbor
  fromReader_encode : ∀ v : Cbor, v.FitsIn recursionLimit → fromReader v.encode = .ok v

def Reader.definite : Reader where
  fromReader input :=
    match read (2 * input.length) input with
    | some (v, _) => .ok v
    | none => .error "not a definite-length item"
  fromReader_encode := by
    intro v fits
    have whole := read_encode v _ (2 * v.encode.length) [] fits (le_refl _)
    rw [append_nil] at whole
    rw [whole]

structure ItemReader where
  readItem : Bytes → Except String (Cbor × Bytes)
  readItem_encode : ∀ (v : Cbor) (rest : Bytes), v.FitsIn recursionLimit → readItem (v.encode ++ rest) = .ok (v, rest)

def ItemReader.definite : ItemReader where
  readItem input :=
    match read (2 * input.length) input with
    | some item => .ok item
    | none => .error "not a definite-length item"
  readItem_encode := by
    intro v rest fits
    rw [read_encode v _ (2 * (v.encode ++ rest).length) rest fits (by simp)]

end Cbor

end Sonde.Lib
