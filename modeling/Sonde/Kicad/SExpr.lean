import Mathlib

/-!
# S-expressions of the KiCad files

The serializer breaks a list over lines when it has lists in it; the parser cuts the text into tokens first.
-/

namespace Sonde.Kicad

inductive SExpr where
  | atom (s : List Char)
  | quoted (s : List Char)
  | list (items : List SExpr)

open SExpr List

def SExpr.isList : SExpr → Bool
  | .list _ => true
  | _ => false

/-! ## Serialization -/

def escape (c : Char) : List Char := if c = '"' then ['\\', '"'] else if c = '\\' then ['\\', '\\'] else [c]

def newline (indent : Nat) : List Char := '\n' :: replicate (2 * indent) ' '

mutual
def serializeNode (indent : Nat) (topLevel : Bool) : SExpr → List Char
  | .atom s => s
  | .quoted s => '"' :: s.flatMap escape ++ ['"']
  | .list [] => ['(', ')']
  | .list (first :: items) =>
    let hasNestedList := items.any isList
    let text := '(' :: serializeNode (indent + 1) false first ++
      serializeItems (indent + 1) (if hasNestedList then newline (indent + 1) else [' ']) items ++
      (if hasNestedList then newline indent else []) ++ [')']
    if topLevel then text ++ ['\n'] else text

def serializeItems (indent : Nat) (separator : List Char) : List SExpr → List Char
  | [] => []
  | item :: items => separator ++ serializeNode indent false item ++ serializeItems indent separator items
end

def SExpr.serialize (node : SExpr) : List Char :=
  let buf := serializeNode 0 true node
  if buf.getLast? = some '\n' then buf else buf ++ ['\n']

/-! ## Parsing -/

inductive Token where
  | opening
  | closing
  | atom (s : List Char)
  | quoted (s : List Char)

/-- The characters with the property White_Space. -/
def isWhitespace (c : Char) : Bool :=
  let n := c.toNat
  9 ≤ n && n ≤ 13 || n == 0x20 || n == 0x85 || n == 0xa0 || n == 0x1680 || 0x2000 ≤ n && n ≤ 0x200a || n == 0x2028 ||
    n == 0x2029 || n == 0x202f || n == 0x205f || n == 0x3000

def endsAtom (c : Char) : Bool := c == '(' || c == ')' || c == '"' || isWhitespace c

/-- The string up to the closing quote, and what follows it. -/
def readQuoted (s : List Char) : List Char → Except String (List Char × List Char)
  | [] => .error "unexpected end of input in string"
  | ['\\'] => .error "unexpected end of input in escape"
  | '\\' :: c :: rest => readQuoted (if c = '"' ∨ c = '\\' then s ++ [c] else s ++ ['\\', c]) rest
  | c :: rest => if c = '"' then .ok (s, rest) else readQuoted (s ++ [c]) rest

theorem readQuoted_shorter {s chars found rest : List Char} (read : readQuoted s chars = .ok (found, rest)) :
    rest.length < chars.length := by
  fun_induction readQuoted s chars with
  | case1 => cases read
  | case2 => cases read
  | case3 s c chars ih =>
    have := ih read
    simp only [List.length_cons]
    omega
  | case4 s chars =>
    cases read
    simp
  | case5 s c chars _ _ _ ih =>
    have := ih read
    simp only [List.length_cons]
    omega

def tokenize (chars : List Char) : Except String (List Token) :=
  match chars with
  | [] => .ok []
  | c :: rest =>
    if c = '(' then (tokenize rest).map (.opening :: ·)
    else if c = ')' then (tokenize rest).map (.closing :: ·)
    else if c = '"' then
      match _read : readQuoted [] rest with
      | .error e => .error e
      | .ok (s, rest') => (tokenize rest').map (.quoted s :: ·)
    else if c = '#' then tokenize ((rest.dropWhile (· ≠ '\n')).drop 1)
    else if isWhitespace c then tokenize rest
    else (tokenize (rest.dropWhile fun c => !endsAtom c)).map (.atom (c :: rest.takeWhile fun c => !endsAtom c) :: ·)
termination_by chars.length
decreasing_by
  all_goals simp only [length_cons, length_drop]
  · omega
  · omega
  · have := readQuoted_shorter _read
    omega
  · have := (dropWhile_suffix (l := rest) fun c => decide (c ≠ '\n')).length_le
    omega
  · omega
  · have := (dropWhile_suffix (l := rest) fun c => !endsAtom c).length_le
    omega

mutual
def parseExpr : Nat → List Token → Except String (SExpr × List Token)
  | 0, _ => .error "out of fuel"
  | _ + 1, [] => .error "unexpected end of input"
  | fuel + 1, .opening :: tokens => parseItems fuel [] tokens
  | _ + 1, .closing :: _ => .error "unexpected ')'"
  | _ + 1, .atom s :: tokens => .ok (.atom s, tokens)
  | _ + 1, .quoted s :: tokens => .ok (.quoted s, tokens)

def parseItems : Nat → List SExpr → List Token → Except String (SExpr × List Token)
  | 0, _, _ => .error "out of fuel"
  | _ + 1, _, [] => .error "unexpected end of input, expected ')'"
  | _ + 1, items, .closing :: tokens => .ok (.list items, tokens)
  | fuel + 1, items, tokens => do
    let (item, tokens) ← parseExpr fuel tokens
    parseItems fuel (items ++ [item]) tokens
end

-- Every other call takes a token, so that the fuel does not run out.
def parse (input : List Char) : Except String SExpr := do
  let tokens ← tokenize input
  let (result, rest) ← parseExpr (2 * tokens.length + 1) tokens
  if rest = [] then .ok result
  else .error ("unexpected trailing tokens after position " ++ toString (tokens.length - rest.length) ++
    " (parsed 1 expression, " ++ toString rest.length ++ " tokens remain)")

/-! ## The way back -/

structure PlainAtom (s : List Char) : Prop where
  nonempty : s ≠ []
  plain : ∀ c ∈ s, endsAtom c = false
  uncommented : s.head? ≠ some '#'

inductive WellFormed : SExpr → Prop
  | atom {s : List Char} (plain : PlainAtom s) : WellFormed (.atom s)
  | quoted (s : List Char) : WellFormed (.quoted s)
  | list {items : List SExpr} (each : ∀ item ∈ items, WellFormed item) : WellFormed (.list items)

mutual
def SExpr.tokens : SExpr → List Token
  | .atom s => [.atom s]
  | .quoted s => [.quoted s]
  | .list items => .opening :: itemTokens items ++ [.closing]

def itemTokens : List SExpr → List Token
  | [] => []
  | item :: items => item.tokens ++ itemTokens items
end

theorem readQuoted_escaped (read s rest : List Char) :
    readQuoted read (s.flatMap escape ++ '"' :: rest) = .ok (read ++ s, rest) := by
  induction s generalizing read with
  | nil => simp [readQuoted]
  | cons c s ih =>
    rw [List.flatMap_cons, List.append_assoc, escape]
    split_ifs with quote backslash
    · simp [readQuoted, quote, ih]
    · simp [readQuoted, backslash, ih]
    · rw [List.singleton_append, readQuoted, if_neg quote, ih]
      · simp
      · simp [backslash]
      · simp [backslash]

/-- An atom that stands before `rest` ends there. -/
def Delimited (rest : List Char) : Prop := ∀ c ∈ rest.head?, endsAtom c = true

def White (space : List Char) : Prop := ∀ c ∈ space, isWhitespace c

structure Separates (space : List Char) : Prop where
  white : White space
  nonempty : space ≠ []

variable {rest space : List Char}

theorem tokenize_whitespace (white : White space) : tokenize (space ++ rest) = tokenize rest := by
  induction space with
  | nil => rfl
  | cons c space ih =>
    obtain ⟨first, later⟩ := List.forall_mem_cons.mp white
    have plain : c ≠ '(' ∧ c ≠ ')' ∧ c ≠ '"' ∧ c ≠ '#' := by
      refine ⟨?_, ?_, ?_, ?_⟩ <;> rintro rfl <;> cases first
    rw [cons_append, tokenize, if_neg plain.1, if_neg plain.2.1, if_neg plain.2.2.1, if_neg plain.2.2.2, if_pos first,
      ih later]

theorem tokenize_atom {s : List Char} (plain : PlainAtom s) (delimited : Delimited rest) :
    tokenize (s ++ rest) = (tokenize rest).map (.atom s :: ·) := by
  obtain ⟨nonempty, plain, uncommented⟩ := plain
  cases s with
  | nil => exact absurd rfl nonempty
  | cons c s =>
    obtain ⟨first, later⟩ := forall_mem_cons.mp plain
    have unmarked : c ≠ '#' := fun same => uncommented (congrArg some same)
    simp only [endsAtom, Bool.or_eq_false_iff, beq_eq_false_iff_ne] at first
    obtain ⟨⟨⟨notOpening, notClosing⟩, notQuote⟩, notWhite⟩ := first
    have kept : ∀ c ∈ s, (!endsAtom c) = true := fun c mem => by rw [later c mem, Bool.not_false]
    have taken : rest.takeWhile (fun c => !endsAtom c) = [] ∧ rest.dropWhile (fun c => !endsAtom c) = rest := by
      cases rest with
      | nil => exact ⟨rfl, rfl⟩
      | cons c rest => simp [delimited c rfl]
    rw [cons_append, tokenize, if_neg notOpening, if_neg notClosing, if_neg notQuote, if_neg unmarked,
      if_neg (by simp [notWhite]), dropWhile_append_of_pos kept, takeWhile_append_of_pos kept, taken.1, taken.2,
      append_nil]

theorem tokenize_quoted (s : List Char) : tokenize ('"' :: s.flatMap escape ++ ['"'] ++ rest) =
    (tokenize rest).map (.quoted s :: ·) := by
  rw [append_assoc, cons_append, singleton_append, tokenize, if_neg (by decide), if_neg (by decide), if_pos rfl]
  split
  · rename_i read
    rw [readQuoted_escaped] at read
    cases read
  · rename_i read
    rw [readQuoted_escaped] at read
    cases read
    rfl

theorem tokenize_closing : tokenize (')' :: rest) = (tokenize rest).map (.closing :: ·) := by
  rw [tokenize, if_neg (by decide), if_pos rfl]

theorem newline_separates (indent : Nat) : Separates (newline indent) := by
  refine ⟨fun c mem => ?_, cons_ne_nil _ _⟩
  rcases mem_cons.mp mem with rfl | mem
  · decide
  · rw [eq_of_mem_replicate mem]
    decide

theorem delimited_white (white : White space) (delimited : Delimited rest) : Delimited (space ++ rest) := by
  cases space with
  | nil => exact delimited
  | cons c space =>
    rintro _ ⟨⟩
    simp [endsAtom, white c mem_cons_self]

theorem delimited_closing : Delimited (')' :: rest) := by
  rintro _ ⟨⟩
  rfl

theorem delimited_items {items : List SExpr} {indent : Nat} (separates : Separates space) (delimited : Delimited rest) :
    Delimited (serializeItems indent space items ++ rest) := by
  cases items with
  | nil => exact delimited
  | cons item items =>
    rw [serializeItems, append_assoc, append_assoc]
    cases space with
    | nil => exact absurd rfl separates.nonempty
    | cons c space => exact fun d same => by simp [endsAtom, ← (Option.some.inj same), separates.white c]

mutual
theorem tokenize_node {node : SExpr} {rest : List Char} (formed : WellFormed node) (indent : Nat)
    (delimited : Delimited rest) :
    tokenize (serializeNode indent false node ++ rest) = (tokenize rest).map (node.tokens ++ ·) := by
  match node, formed with
  | .atom s, .atom plain => exact tokenize_atom plain delimited
  | .quoted s, _ => exact tokenize_quoted s
  | .list [], _ =>
    rw [serializeNode, cons_append, singleton_append, tokenize, if_pos rfl, tokenize_closing]
    cases tokenize rest <;> rfl
  | .list (first :: items), .list each =>
    obtain ⟨formed, later⟩ := forall_mem_cons.mp each
    have closes {before space : List Char} (separates : Separates before) (white : White space) :
        tokenize ('(' :: serializeNode (indent + 1) false first ++ serializeItems (indent + 1) before items ++ space ++ [')'] ++
          rest) = (tokenize rest).map ((list (first :: items)).tokens ++ ·) := by
      have ending : Delimited (space ++ ')' :: rest) := delimited_white white delimited_closing
      simp only [append_assoc, cons_append, nil_append]
      rw [tokenize, if_pos rfl, tokenize_node formed (indent + 1) (delimited_items separates ending),
        tokenize_items later (indent + 1) separates ending, tokenize_whitespace white, tokenize_closing]
      cases tokenize rest <;> simp [Except.map, tokens, itemTokens]
    rw [serializeNode, if_neg Bool.false_ne_true]
    cases items.any isList
    · have single : Separates [' '] := ⟨forall_mem_singleton.mpr rfl, cons_ne_nil _ _⟩
      have empty : White [] := nofun
      exact closes single empty
    · exact closes (newline_separates (indent + 1)) (newline_separates indent).white

theorem tokenize_items {items : List SExpr} {space rest : List Char} (formed : ∀ item ∈ items, WellFormed item) (indent : Nat)
    (separates : Separates space) (delimited : Delimited rest) :
    tokenize (serializeItems indent space items ++ rest) = (tokenize rest).map (itemTokens items ++ ·) := by
  match items with
  | [] =>
    rw [serializeItems, nil_append]
    cases tokenize rest <;> rfl
  | item :: items =>
    obtain ⟨formed, later⟩ := forall_mem_cons.mp formed
    rw [serializeItems, append_assoc, append_assoc, tokenize_whitespace separates.white,
      tokenize_node formed indent (delimited_items separates delimited), tokenize_items later indent separates delimited]
    cases tokenize rest <;> simp [Except.map, itemTokens]

end

mutual
theorem parseExpr_tokens {node : SExpr} {fuel : Nat} {rest : List Token} (enough : 2 * node.tokens.length ≤ fuel) :
    parseExpr fuel (node.tokens ++ rest) = .ok (node, rest) := by
  match node, fuel, enough with
  | .atom s, fuel + 1, _ => rfl
  | .quoted s, fuel + 1, _ => rfl
  | .list items, fuel + 1, enough =>
    simp only [tokens, length_cons, length_append, length_nil] at enough
    rw [tokens, cons_append, cons_append, append_assoc, parseExpr]
    exact parseItems_tokens (by omega)

theorem parseItems_tokens {read items : List SExpr} {fuel : Nat} {rest : List Token}
    (enough : 2 * (itemTokens items).length + 1 ≤ fuel) :
    parseItems fuel read (itemTokens items ++ .closing :: rest) = .ok (.list (read ++ items), rest) := by
  match items, fuel, enough with
  | [], fuel + 1, _ => simp [itemTokens, parseItems]
  | item :: items, fuel + 1, enough =>
    have positive : 0 < item.tokens.length := by cases item <;> simp [tokens]
    have reads (more : List Token) : parseItems (fuel + 1) read (item.tokens ++ more) =
        parseExpr fuel (item.tokens ++ more) >>= fun (item, more) => parseItems fuel (read ++ [item]) more := by
      cases item <;> rfl
    simp only [itemTokens, length_append] at enough
    rw [itemTokens, append_assoc, reads, parseExpr_tokens (by omega)]
    have later : parseItems fuel (read ++ [item]) (itemTokens items ++ .closing :: rest) = _ := parseItems_tokens (by omega)
    rwa [append_assoc] at later
end

theorem serialize_eq {node : SExpr} (formed : WellFormed node) : node.serialize = serializeNode 0 false node ++ ['\n'] := by
  unfold serialize
  cases formed with
  | atom plain =>
    rename_i s
    refine if_neg fun ends => ?_
    have broken := plain.plain '\n' (mem_of_getLast? ends)
    cases broken
  | quoted s => exact if_neg (by rw [serializeNode, getLast?_concat]; decide)
  | list each =>
    rename_i items
    cases items with
    | nil => rfl
    | cons first items =>
      rw [serializeNode, serializeNode, if_pos rfl, if_neg Bool.false_ne_true]
      exact if_pos getLast?_concat

/-- Parsing gives back every tree that the serializer writes. -/
theorem parse_serialize {node : SExpr} (formed : WellFormed node) : parse node.serialize = .ok node := by
  have tokens : tokenize node.serialize = .ok node.tokens := by
    have ended : Delimited ['\n'] := by
      rintro _ ⟨⟩
      rfl
    have none : tokenize (['\n'] ++ []) = tokenize [] := tokenize_whitespace (forall_mem_singleton.mpr rfl)
    rw [serialize_eq formed, tokenize_node formed 0 ended, show ['\n'] = ['\n'] ++ [] from rfl, none, tokenize]
    simp [Except.map]
  have parsed : parseExpr (2 * node.tokens.length + 1) (node.tokens ++ []) = .ok (node, []) := parseExpr_tokens (by omega)
  rw [append_nil] at parsed
  unfold parse
  rw [tokens]
  simp [bind, Except.bind, parsed]

theorem parse_serialize_pair :
    parse (SExpr.list [.atom ['a'], .quoted ['"']]).serialize = .ok (.list [.atom ['a'], .quoted ['"']]) :=
  parse_serialize (.list fun item mem => by
    rcases mem_pair.mp mem with rfl | rfl
    · exact .atom ⟨cons_ne_nil _ _, forall_mem_singleton.mpr rfl, by decide⟩
    · exact .quoted _)

end Sonde.Kicad
