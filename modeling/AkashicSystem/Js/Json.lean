/-!
# JSON texts

`JSON.stringify` and `JSON.parse`: a string is written between quotes with its controls
escaped, and a reading passes over the blanks between tokens.  How the engine writes a
number and words a syntax error are parameters.
-/

set_option autoImplicit false

namespace AkashicSystem.Js

open List

inductive Json (ν : Type) where
  | null
  | bool (b : Bool)
  | number (n : ν)
  | text (s : String)
  | array (items : List (Json ν))
  /-- Of two members of one name the later counts. -/
  | object (members : List (String × Json ν))

namespace Json

def isNumeric (c : Char) : Bool :=
  c.isDigit || c == '-' || c == '+' || c == '.' || c == 'e' || c == 'E'

/-- A finite number is written so that the text reads back as the number. -/
structure Engine (ν : Type) where
  text : ν → List Char
  read : List Char → Option ν
  syntaxError : String → String
  numeric : ∀ n, ∀ c ∈ text n, isNumeric c = true
  nonempty : ∀ n, text n ≠ []
  read_text : ∀ n, read (text n) = some n

def escapes : List (Char × Char) :=
  [('"', '"'), ('\\', '\\'), ('\x08', 'b'), ('\x0c', 'f'), ('\n', 'n'), ('\r', 'r'), ('\t', 't')]

def escape (c : Char) : List Char :=
  match escapes.lookup c with
  | some letter => ['\\', letter]
  | none =>
    if c.toNat < 32 then
      ['\\', 'u', '0', '0', (c.toNat / 16).digitChar, (c.toNat % 16).digitChar]
    else [c]

def quote (s : String) : List Char := '"' :: (s.toList.flatMap escape ++ ['"'])

def unescapes : List (Char × Nat) :=
  [('"', 34), ('\\', 92), ('/', 47), ('b', 8), ('f', 12), ('n', 10), ('r', 13), ('t', 9)]

def hexDigit (c : Char) : Option Nat :=
  (range 16).find? fun n => n.digitChar == c.toLower

/-- The code unit that the text after a backslash stands for. -/
def escaped : List Char → Option (Nat × List Char)
  | 'u' :: a :: b :: c :: d :: rest => do
    return (((← hexDigit a) * 16 + (← hexDigit b)) * 256 + (← hexDigit c) * 16 + (← hexDigit d),
      rest)
  | letter :: rest => (unescapes.lookup letter).map fun unit => (unit, rest)
  | [] => none

/-- The code units up to the closing quote. -/
def readUnits : Nat → List Char → Option (List Nat × List Char)
  | 0, _ => none
  | _, [] => none
  | fuel + 1, c :: rest =>
    if c = '"' then some ([], rest)
    else if c.toNat < 32 then none
    else do
      let (unit, rest) ← if c = '\\' then escaped rest else some (c.toNat, rest)
      let (units, rest) ← readUnits fuel rest
      return (unit :: units, rest)

/-- Half of a surrogate pair alone is no character. -/
def character (unit : Nat) : Char := if unit.isValidChar then Char.ofNat unit else '\ufffd'

def characters : List Nat → List Char
  | high :: low :: rest =>
    if 0xd800 ≤ high ∧ high < 0xdc00 ∧ 0xdc00 ≤ low ∧ low < 0xe000 then
      Char.ofNat (0x10000 + (high - 0xd800) * 0x400 + (low - 0xdc00)) :: characters rest
    else character high :: characters (low :: rest)
  | [unit] => [character unit]
  | [] => []

def readString (input : List Char) : Option (String × List Char) :=
  (readUnits input.length input).map fun (units, rest) => (String.ofList (characters units), rest)

variable {ν : Type} (engine : Engine ν)

/-- What follows the first item of a list. -/
def rejoined (close : Char) : List (List Char) → List Char
  | [] => [close]
  | next :: texts => ',' :: (next ++ rejoined close texts)

variable (close : Char)

def joined : List (List Char) → List Char
  | [] => [close]
  | first :: texts => first ++ rejoined close texts

mutual

def write : Json ν → List Char
  | .null => "null".toList
  | .bool b => if b then "true".toList else "false".toList
  | .number n => engine.text n
  | .text s => quote s
  | .array items => '[' :: joined ']' (writeItems items)
  | .object members => '\x7b' :: joined '\x7d' (writeMembers members)

def writeItems : List (Json ν) → List (List Char)
  | [] => []
  | item :: items => write item :: writeItems items

def writeMembers : List (String × Json ν) → List (List Char)
  | [] => []
  | (name, value) :: members => (quote name ++ ':' :: write value) :: writeMembers members

end

def stringify (value : Json ν) : String := String.ofList (write engine value)

def skip (input : List Char) : List Char :=
  input.dropWhile fun c => c == ' ' || c == '\t' || c == '\n' || c == '\r'

def literals : List (String × Json ν) :=
  [("null", .null), ("true", .bool true), ("false", .bool false)]

def readLiteral (input : List Char) : Option (Json ν × List Char) :=
  literals.findSome? fun (name, value) =>
    if name.toList.isPrefixOf input then some (value, input.drop name.length) else none

section Lists

variable {α : Type} (close : Char) (read : List Char → Option (α × List Char))

def readAll : Nat → List Char → Option (List α × List Char)
  | 0, _ => none
  | fuel + 1, input => do
    let (item, rest) ← read input
    match skip rest with
    | [] => none
    | c :: rest =>
      if c = close then return ([item], rest)
      else if c = ',' then
        let (items, rest) ← readAll fuel rest
        return (item :: items, rest)
      else none

def readList (fuel : Nat) (input : List Char) : Option (List α × List Char) :=
  match skip input with
  | [] => none
  | c :: rest => if c = close then some ([], rest) else readAll close read fuel (c :: rest)

def readMember (input : List Char) : Option ((String × α) × List Char) :=
  match skip input with
  | [] => none
  | c :: rest => do
    if c ≠ '"' then none
    let (name, rest) ← readString rest
    match skip rest with
    | [] => none
    | c :: rest =>
      if c ≠ ':' then none
      let (value, rest) ← read rest
      return ((name, value), rest)

end Lists

def readValue : Nat → List Char → Option (Json ν × List Char)
  | 0, _ => none
  | fuel + 1, input =>
    match skip input with
    | [] => none
    | c :: rest =>
      if isNumeric c then do
        return (.number (← engine.read ((c :: rest).takeWhile isNumeric)), rest.dropWhile isNumeric)
      else if c = '"' then do
        let (s, rest) ← readString rest
        return (.text s, rest)
      else if c = '[' then do
        let (items, rest) ← readList ']' (readValue fuel) fuel rest
        return (.array items, rest)
      else if c = '\x7b' then do
        let (members, rest) ← readList '\x7d' (readMember (readValue fuel)) fuel rest
        return (.object members, rest)
      else readLiteral (c :: rest)

/-- `JSON.parse(text)`, which reads an absent text as "null". -/
def parse (text : Option String) : Except String (Json ν) :=
  let text := text.getD "null"
  match readValue engine text.length text.toList with
  | none => .error (engine.syntaxError text)
  | some (value, rest) =>
    if skip rest = [] then .ok value else .error (engine.syntaxError text)

theorem unescapes_escapes :
    ∀ pair ∈ escapes, pair.2 ≠ 'u' ∧ unescapes.lookup pair.2 = some pair.1.toNat := by
  decide

theorem hexDigit_digitChar : ∀ n < 16, hexDigit n.digitChar = some n := by
  decide

theorem escaped_letter {c letter : Char} (there : escapes.lookup c = some letter)
    (rest : List Char) : escaped (letter :: rest) = some (c.toNat, rest) := by
  obtain ⟨before, after, split, -⟩ := lookup_eq_some_iff.mp there
  obtain ⟨other, found⟩ := unescapes_escapes (c, letter) (by simp [split])
  rw [escaped, found]
  · rfl
  · intro _ _ _ _ _ isU
    exact absurd isU other

theorem escaped_control {n : Nat} (control : n < 32) (rest : List Char) :
    escaped ('u' :: '0' :: '0' :: (n / 16).digitChar :: (n % 16).digitChar :: rest) =
      some (n, rest) := by
  have zero : hexDigit '0' = some 0 := by decide
  have value : n / 16 * 16 + n % 16 = n := by omega
  simp [escaped, zero, hexDigit_digitChar (n / 16) (by omega),
    hexDigit_digitChar (n % 16) (by omega), value]

theorem readUnits_escape (c : Char) (fuel : Nat) (rest : List Char) :
    readUnits (fuel + 1) (escape c ++ rest) =
      (readUnits fuel rest).bind fun read => some (c.toNat :: read.1, read.2) := by
  unfold escape
  cases there : escapes.lookup c with
  | some letter =>
    simp [readUnits, escaped_letter there]
  | none =>
    have plain : c ≠ '"' ∧ c ≠ '\\' := by
      constructor <;>
        · rintro rfl
          cases there
    dsimp only
    split
    · next control =>
      simp [readUnits, escaped_control control]
    · next control =>
      simp [readUnits, plain, control]

variable (text : List Char)

theorem readUnits_quote (fuel : Nat) (rest : List Char)
    (enough : text.length < fuel) :
    readUnits fuel (text.flatMap escape ++ '"' :: rest) = some (text.map Char.toNat, rest) := by
  induction text generalizing fuel with
  | nil =>
    cases fuel with
    | zero => cases enough
    | succ fuel => simp [readUnits]
  | cons c text ih =>
    cases fuel with
    | zero => cases enough
    | succ fuel =>
      rw [length_cons] at enough
      rw [flatMap_cons, append_assoc, readUnits_escape, ih fuel (by omega)]
      rfl

theorem length_le_flatMap : text.length ≤ (text.flatMap escape).length := by
  induction text with
  | nil => simp
  | cons c text ih =>
    have some : 0 < (escape c).length := by
      unfold escape
      split
      · simp
      · split <;> simp
    rw [flatMap_cons, length_append, length_cons]
    omega

theorem character_toNat (c : Char) : character c.toNat = c := by
  have valid : c.toNat.isValidChar := c.valid
  rw [character, if_pos valid]
  exact Char.ofNat_toNat c

theorem characters_toNat : characters (text.map Char.toNat) = text := by
  induction text with
  | nil => rfl
  | cons c text ih =>
    cases text with
    | nil => simp [characters, character_toNat]
    | cons next text =>
      have whole : ¬ (0xd800 ≤ c.toNat ∧ c.toNat < 0xdc00 ∧ 0xdc00 ≤ next.toNat ∧
          next.toNat < 0xe000) := by
        rintro ⟨lower, upper, -⟩
        rcases c.valid with below | above
        · have bound : c.toNat < 0xd800 := below
          omega
        · have bound : 0xdfff < c.toNat := above.1
          omega
      rw [map_cons, map_cons, characters, if_neg whole, character_toNat]
      rw [map_cons] at ih
      rw [ih]

theorem quote_append (s : String) (rest : List Char) :
    quote s ++ rest = '"' :: (s.toList.flatMap escape ++ '"' :: rest) := by
  simp [quote]

theorem readString_quote (s : String) (rest : List Char) :
    readString (s.toList.flatMap escape ++ '"' :: rest) = some (s, rest) := by
  have enough := length_le_flatMap s.toList
  rw [readString, readUnits_quote _ _ _ (by rw [length_append, length_cons]; omega)]
  simp [characters_toNat]

def Ended (rest : List Char) : Prop := ∀ c ∈ rest.head?, isNumeric c = false

theorem skip_numeric {c : Char} (numeric : isNumeric c = true) (rest : List Char) :
    skip (c :: rest) = c :: rest := by
  have solid : (c == ' ' || c == '\t' || c == '\n' || c == '\r') = false := by
    cases blank : c == ' ' || c == '\t' || c == '\n' || c == '\r' with
    | false => rfl
    | true =>
      simp only [Bool.or_eq_true, beq_iff_eq] at blank
      rcases blank with ((rfl | rfl) | rfl) | rfl <;> cases numeric
  simp only [skip, dropWhile_cons, solid]
  rfl

/-- The texts of a list start as no blank and no end does. -/
def Starts : Prop :=
  ∃ c tail, text = c :: tail ∧ (∀ rest, skip (c :: rest) = c :: rest) ∧ c ≠ close

theorem starts_write (value : Json ν) : Starts ']' (write engine value) := by
  cases value with
  | null => exact ⟨'n', _, rfl, fun _ => rfl, by decide⟩
  | bool b =>
    cases b with
    | false => exact ⟨'f', _, rfl, fun _ => rfl, by decide⟩
    | true => exact ⟨'t', _, rfl, fun _ => rfl, by decide⟩
  | number n =>
    rw [write]
    cases text : engine.text n with
    | nil => exact absurd text (engine.nonempty n)
    | cons c tail =>
      have numeric : isNumeric c = true := engine.numeric n c (by simp [text])
      refine ⟨c, tail, rfl, skip_numeric numeric, ?_⟩
      rintro rfl
      cases numeric
  | text s => exact ⟨'"', _, rfl, fun _ => rfl, by decide⟩
  | array items => exact ⟨'[', _, rfl, fun _ => rfl, by decide⟩
  | object members => exact ⟨'\x7b', _, rfl, fun _ => rfl, by decide⟩

theorem length_rejoined (texts : List (List Char)) :
    texts.length < (rejoined close texts).length ∧
      ∀ text ∈ texts, text.length < (rejoined close texts).length := by
  induction texts with
  | nil => simp [rejoined]
  | cons next texts ih =>
    obtain ⟨shorter, each⟩ := ih
    simp only [rejoined, length_cons, length_append, mem_cons]
    refine ⟨by omega, ?_⟩
    rintro text (rfl | there)
    · omega
    · have bound := each text there
      omega

theorem length_le_joined {text : List Char} {texts : List (List Char)}
    (there : text ∈ texts) : text.length ≤ (joined close texts).length := by
  cases texts with
  | nil => cases there
  | cons first texts =>
    rw [joined, length_append]
    rcases mem_cons.mp there with rfl | more
    · omega
    · have bound := (length_rejoined close texts).2 text more
      omega

theorem ended_rejoined {close : Char} (closes : close = ']' ∨ close = '\x7d')
    (texts : List (List Char)) (rest : List Char) : Ended (rejoined close texts ++ rest) := by
  intro c first
  rcases closes with rfl | rfl <;> cases texts <;> cases first <;> rfl

section Lists

variable {α : Type} {close : Char} {read : List Char → Option (α × List Char)} {w : α → List Char}

theorem readAll_joined (closes : close = ']' ∨ close = '\x7d') (item : α) (items : List α)
    (each : ∀ other ∈ item :: items, ∀ rest, Ended rest →
      read (w other ++ rest) = some (other, rest))
    (fuel : Nat) (enough : items.length < fuel) (rest : List Char) :
    readAll close read fuel (w item ++ (rejoined close (items.map w) ++ rest)) =
      some (item :: items, rest) := by
  obtain ⟨solid, other⟩ : (∀ rest, skip (close :: rest) = close :: rest) ∧ ¬ ',' = close := by
    rcases closes with rfl | rfl <;> exact ⟨fun _ => rfl, by decide⟩
  induction items generalizing item fuel with
  | nil =>
    cases fuel with
    | zero => cases enough
    | succ fuel =>
      rw [readAll, each item (mem_singleton_self item) _ (ended_rejoined closes _ rest)]
      simp [rejoined, solid]
  | cons next items ih =>
    cases fuel with
    | zero => cases enough
    | succ fuel =>
      have comma (tail : List Char) : skip (',' :: tail) = ',' :: tail := rfl
      have more := ih next (fun other there => each other (mem_cons_of_mem _ there)) fuel
        (Nat.lt_of_succ_lt_succ enough)
      rw [readAll, each item mem_cons_self _ (ended_rejoined closes _ rest)]
      simp [rejoined, comma, other, more]

theorem readList_joined (read : List Char → Option (α × List Char)) (w : α → List Char)
    (closes : close = ']' ∨ close = '\x7d') (items : List α)
    (starts : ∀ item ∈ items, Starts close (w item))
    (each : ∀ item ∈ items, ∀ rest, Ended rest → read (w item ++ rest) = some (item, rest))
    (fuel : Nat) (enough : (joined close (items.map w)).length ≤ fuel) (rest : List Char) :
    readList close read fuel (joined close (items.map w) ++ rest) = some (items, rest) := by
  cases items with
  | nil =>
    rcases closes with rfl | rfl <;> rfl
  | cons item items =>
    obtain ⟨c, tail, text, solid, open'⟩ := starts item mem_cons_self
    rw [map_cons, joined, length_append] at enough
    have length := (length_rejoined close (items.map w)).1
    rw [length_map] at length
    have all := readAll_joined closes item items each fuel (by omega) rest
    rw [text, cons_append] at all
    rw [map_cons, joined, append_assoc, text, cons_append, readList, solid]
    simp only [if_neg open', all]

theorem readMember_write (name : String) (item : α) (rest : List Char)
    (reads : read (w item ++ rest) = some (item, rest)) :
    readMember read (quote name ++ ':' :: (w item ++ rest)) = some ((name, item), rest) := by
  have quotation (tail : List Char) : skip ('"' :: tail) = '"' :: tail := rfl
  have colon (tail : List Char) : skip (':' :: tail) = ':' :: tail := rfl
  rw [quote_append, readMember, quotation]
  simp [readString_quote, colon, reads]

end Lists

theorem writeItems_eq (items : List (Json ν)) :
    writeItems engine items = items.map (write engine) := by
  induction items with
  | nil => rfl
  | cons item items ih => rw [writeItems, ih, map_cons]

def writeMember (member : String × Json ν) : List Char :=
  quote member.1 ++ ':' :: write engine member.2

theorem writeMembers_eq (members : List (String × Json ν)) :
    writeMembers engine members = members.map (writeMember engine) := by
  induction members with
  | nil => rfl
  | cons member members ih => rw [writeMembers, ih, map_cons, writeMember]

theorem readValue_number (n : ν) (fuel : Nat) (rest : List Char) (ended : Ended rest) :
    readValue engine (fuel + 1) (engine.text n ++ rest) = some (.number n, rest) := by
  have stop : rest.takeWhile isNumeric = [] ∧ rest.dropWhile isNumeric = rest := by
    cases rest with
    | nil => exact ⟨rfl, rfl⟩
    | cons c rest => simp [ended c rfl]
  have taken : (engine.text n ++ rest).takeWhile isNumeric = engine.text n := by
    rw [takeWhile_append_of_pos (engine.numeric n), stop.1, append_nil]
  have dropped : (engine.text n ++ rest).dropWhile isNumeric = rest := by
    rw [dropWhile_append_of_pos (engine.numeric n), stop.2]
  cases text : engine.text n with
  | nil => exact absurd text (engine.nonempty n)
  | cons c tail =>
    have numeric : isNumeric c = true := engine.numeric n c (by simp [text])
    rw [text] at taken dropped
    rw [cons_append] at taken dropped ⊢
    rw [dropWhile_cons, if_pos numeric] at dropped
    have read : engine.read (c :: tail) = some n := text ▸ engine.read_text n
    simp only [readValue, skip_numeric numeric, numeric, if_true, taken, dropped, read]
    rfl

theorem readValue_string (s : String) (fuel : Nat) (rest : List Char) :
    readValue engine (fuel + 1) (quote s ++ rest) = some (.text s, rest) := by
  have solid (tail : List Char) : skip ('"' :: tail) = '"' :: tail := rfl
  have notNumeric : ¬ isNumeric '"' = true := by decide
  rw [quote_append, readValue, solid]
  simp only [if_neg notNumeric, if_true, readString_quote]
  rfl

theorem readValue_write (value : Json ν) (fuel : Nat) (rest : List Char)
    (enough : (write engine value).length ≤ fuel) (ended : Ended rest) :
    readValue engine fuel (write engine value ++ rest) = some (value, rest) := by
  induction fuel generalizing value rest with
  | zero =>
    obtain ⟨c, tail, starts, -⟩ := starts_write engine value
    rw [starts] at enough
    cases enough
  | succ fuel ih =>
    cases value with
    | null => rfl
    | bool b => cases b <;> rfl
    | number n => exact readValue_number engine n fuel rest ended
    | text s => exact readValue_string engine s fuel rest
    | array items =>
      rw [write, writeItems_eq, length_cons] at enough
      have all := readList_joined (readValue engine fuel) (write engine)
        (.inl rfl) items (fun item _ => starts_write engine item)
        (fun item there rest ended => ih item rest
          (Nat.le_trans (length_le_joined ']' (mem_map_of_mem there)) (by omega)) ended)
        fuel (by omega) rest
      have bracket (tail : List Char) : skip ('[' :: tail) = '[' :: tail := rfl
      have other : ¬ isNumeric '[' = true ∧ ¬ '[' = '"' := by decide
      rw [write, writeItems_eq, cons_append, readValue, bracket]
      simp only [if_neg other.1, if_neg other.2, if_true, all]
      rfl
    | object members =>
      rw [write, writeMembers_eq, length_cons] at enough
      have each (member) (there : member ∈ members) (rest : List Char) (ended : Ended rest) :
          readMember (readValue engine fuel) (writeMember engine member ++ rest) =
            some (member, rest) := by
        have bound := length_le_joined '\x7d' (mem_map_of_mem (f := writeMember engine) there)
        rw [writeMember, length_append, length_cons] at bound
        rw [writeMember, append_assoc, cons_append]
        exact readMember_write member.1 member.2 rest (ih member.2 rest (by omega) ended)
      have all := readList_joined _ (writeMember engine) (.inr rfl) members
        (fun member _ => ⟨'"', _, rfl, fun _ => rfl, by decide⟩) each fuel (by omega) rest
      have brace (tail : List Char) : skip ('\x7b' :: tail) = '\x7b' :: tail := rfl
      have other : ¬ isNumeric '\x7b' = true ∧ ¬ '\x7b' = '"' ∧ ¬ '\x7b' = '[' := by decide
      rw [write, writeMembers_eq, cons_append, readValue, brace]
      simp only [if_neg other.1, if_neg other.2.1, if_neg other.2.2, if_true, all]
      rfl

/-- What was written is read as it was; an absent value was not written, and is read as null. -/
theorem parse_stringify (value : Option (Json ν)) :
    parse engine (value.map (stringify engine)) = .ok (value.getD .null) := by
  cases value with
  | none =>
    have read := readValue_write engine .null _ [] (Nat.le_refl _) (by simp [Ended])
    simp only [write, append_nil] at read
    simp only [parse, Option.map_none, Option.getD_none]
    rw [show "null".length = "null".toList.length by rfl, read]
    rfl
  | some value =>
    have read := readValue_write engine value _ [] (Nat.le_refl _) (by simp [Ended])
    rw [append_nil] at read
    simp only [parse, Option.map_some, Option.getD_some, stringify, String.length_ofList,
      String.toList_ofList, read]
    rfl

/-- An engine that knows the whole numbers alone, which every engine writes in decimal. -/
def decimal : Engine Nat where
  text := Nat.toDigits 10
  read input :=
    let n := Nat.ofDigitChars 10 input 0
    if Nat.toDigits 10 n = input then some n else none
  syntaxError _ := "Unexpected token"
  numeric n c there := by
    rw [isNumeric, Nat.isDigit_of_mem_toDigits (by decide) (by decide) there]
    rfl
  nonempty _ := Nat.toDigits_ne_nil
  read_text n := by simp [Nat.ofDigitChars_ten_toDigits]

end Json
end AkashicSystem.Js
