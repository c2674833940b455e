import FloatingIp.Json.Reader
import FloatingIp.Proofs.Digits
import FloatingIp.Proofs.Json.Spelling

/-!
# JSON values and their texts

A JSON value is a `Tree`.  Its texts are those that the grammar admits: `Writes` says which tokens
make up a tree, and with `Laid` which bytes these tokens may be (`Text`).  A string may be written
with any of its characters escaped, as a code unit or a pair of them (`Denotes`).

A tree that nobody asks for is passed over, whatever it is (`skip_of_writes`), a string is read as
the text that it denotes, and a natural number below 2^64 as itself.
-/

namespace FloatingIp.Json

/-- A JSON value. -/
inductive Tree where
  | null
  | flag (value : Bool)
  | number (n : Numeral)
  | text (s : String)
  | list (items : List Tree)
  | map (fields : List (String × Tree))

/-- The decimal digits of a number. -/
def decimalDigits (n : Nat) : List Nat :=
  (Digits.text 10 n).map fun c => (Digits.value? 10 c).getD 0

/-- A natural number. -/
def Tree.natural (n : Nat) : Tree :=
  .number ⟨false, decimalDigits n, [], none⟩

/-- What the pieces of a string denote: bytes are those of characters, a unit outside the range of
surrogates is a character, and two of them, a high and a low one, are one character. -/
inductive Denotes : List Piece → List Char → Prop where
  | nil : Denotes [] []
  | char {c : Char} {ps : List Piece} {s : List Char} (others : Denotes ps s) :
      Denotes ((String.utf8EncodeChar c).map .byte ++ ps) (c :: s)
  | unit {n : Nat} {ps : List Piece} {s : List Char} (plain : n < 0xD800 ∨ 0xDFFF < n)
      (others : Denotes ps s) : Denotes (.unit n :: ps) (Char.ofNat n :: s)
  | pair {high low : Nat} {ps : List Piece} {s : List Char}
      (first : 0xD800 ≤ high ∧ high ≤ 0xDBFF) (second : 0xDC00 ≤ low ∧ low ≤ 0xDFFF)
      (others : Denotes ps s) :
      Denotes (.unit high :: .unit low :: ps)
        (Char.ofNat (0x10000 + (high - 0xD800) * 0x400 + (low - 0xDC00)) :: s)

/-- The bytes of a text denote it. -/
lemma denotes_encode (s : List Char) : Denotes ((Text.Utf8.encode s).map .byte) s := by
  induction s with
  | nil => exact .nil
  | cons c s ih =>
      rw [Text.Utf8.encode, List.flatMap_cons, List.map_append]
      exact .char ih

/-- The decimal digits of a number are below ten. -/
lemma lt_of_mem_decimalDigits {n d : Nat} (mem : d ∈ decimalDigits n) : d < 10 := by
  obtain ⟨c, inside, rfl⟩ := List.mem_map.mp mem
  obtain ⟨d, bound, rfl⟩ := Digits.exists_digit_of_mem_text (by decide) inside
  rw [Digits.value?_digit bound (by decide)]
  exact bound

/-- Only zero begins with the digit zero. -/
lemma eq_zero_of_head_decimalDigits {n : Nat} (zero : (decimalDigits n).head? = some 0) : n = 0 := by
  rw [decimalDigits, List.head?_map, Option.map_eq_some_iff] at zero
  obtain ⟨c, head, value⟩ := zero
  obtain ⟨d, bound, rfl⟩ :=
    Digits.exists_digit_of_mem_text (by decide) (List.mem_of_mem_head? head)
  rw [Digits.value?_digit bound (by decide)] at value
  obtain rfl : d = 0 := value
  exact Digits.eq_zero_of_head_text (by decide) (by decide) head

/-- A natural number is written with its digits. -/
lemma spells_natural (n : Nat) :
    Numeral.Spells ⟨false, decimalDigits n, [], none⟩ (digitBytes (decimalDigits n)) := by
  refine ⟨⟨?_, ?_⟩, ?_, [], .none, by simp [fractionBytes]⟩
  · rw [decimalDigits, ne_eq, List.map_eq_nil_iff]
    exact Digits.text_ne_nil n
  · intro zero
    obtain rfl := eq_zero_of_head_decimalDigits zero
    show (decimalDigits 0).length = 1
    rw [decimalDigits, Digits.text_of_lt (by decide)]
    rfl
  · rw [List.append_nil]
    exact fun _ => lt_of_mem_decimalDigits

/-! ### Tokens of a tree -/

/-- A part of a JSON text: a value, or what is left of the items of a list or the fields of a map,
from the first one on or behind others. -/
inductive Part where
  | value (t : Tree)
  | items (first : Bool) (ts : List Tree)
  | fields (first : Bool) (fs : List (String × Tree))

/-- What parts an item from the one before it. -/
def lead (first : Bool) : List Token :=
  if first then [] else [.comma]

/-- The tokens that make up a part. -/
inductive Writes : Part → List Token → Prop where
  | null : Writes (.value .null) [.null]
  | flag (value : Bool) : Writes (.value (.flag value)) [.flag value]
  | number (n : Numeral) : Writes (.value (.number n)) [.number n]
  | text {s : String} {ps : List Piece} (denotes : Denotes ps s.toList) :
      Writes (.value (.text s)) [.string ps]
  | list {ts : List Tree} {tokens : List Token} (items : Writes (.items true ts) tokens) :
      Writes (.value (.list ts)) (.listOpen :: tokens ++ [.listClose])
  | map {fs : List (String × Tree)} {tokens : List Token}
      (fields : Writes (.fields true fs) tokens) :
      Writes (.value (.map fs)) (.mapOpen :: tokens ++ [.mapClose])
  | noItem {first : Bool} : Writes (.items first []) []
  | item {first : Bool} {t : Tree} {ts : List Tree} {own rest : List Token}
      (value : Writes (.value t) own) (others : Writes (.items false ts) rest) :
      Writes (.items first (t :: ts)) (lead first ++ own ++ rest)
  | noField {first : Bool} : Writes (.fields first []) []
  | field {first : Bool} {name : String} {ps : List Piece} {t : Tree} {fs : List (String × Tree)}
      {own rest : List Token} (denotes : Denotes ps name.toList) (value : Writes (.value t) own)
      (others : Writes (.fields false fs) rest) :
      Writes (.fields first ((name, t) :: fs)) (lead first ++ .string ps :: .colon :: own ++ rest)

/-- The texts of a tree. -/
def Text (t : Tree) (body : List UInt8) : Prop :=
  ∃ tokens, Writes (.value t) tokens ∧ Laid tokens body

/-! ### Tokens of a text -/

/-- Tokens that may stand next to each other: not two numerals. -/
def Apart (ts : List Token) : Prop :=
  ts.IsChain fun s t => s.isNumber = false ∨ t.isNumber = false

/-- A token in front that is no numeral keeps tokens apart. -/
lemma Apart.cons {t : Token} {ts : List Token} (other : t.isNumber = false) (apart : Apart ts) :
    Apart (t :: ts) :=
  List.isChain_cons.mpr ⟨fun _ _ => .inl other, apart⟩

/-- Tokens behind others are apart from them if the first of them is no numeral. -/
lemma Apart.append {ts us : List Token} (apart : Apart ts) (others : Apart us)
    (other : ∀ u ∈ us.head?, u.isNumber = false) : Apart (ts ++ us) :=
  List.isChain_append.mpr ⟨apart, others, fun _ _ u head => .inr (other u head)⟩

/-- What is left of a list or a map begins with a comma. -/
lemma comma_of_writes {p : Part} {tokens : List Token} (writes : Writes p tokens)
    (left : (∃ ts, p = .items false ts) ∨ ∃ fs, p = .fields false fs) :
    ∀ t ∈ tokens.head?, t.isNumber = false := by
  cases writes with
  | noItem => nofun
  | noField => nofun
  | item _ _ =>
      obtain ⟨ts, same⟩ | ⟨fs, same⟩ := left <;> cases same
      rintro _ ⟨⟩
      rfl
  | field _ _ _ =>
      obtain ⟨ts, same⟩ | ⟨fs, same⟩ := left <;> cases same
      rintro _ ⟨⟩
      rfl
  | _ => obtain ⟨ts, same⟩ | ⟨fs, same⟩ := left <;> cases same

/-- The tokens of a part are apart. -/
lemma apart_of_writes {p : Part} {tokens : List Token} (writes : Writes p tokens) :
    Apart tokens := by
  induction writes with
  | null => exact .singleton _
  | flag _ => exact .singleton _
  | number _ => exact .singleton _
  | text _ => exact .singleton _
  | list _ ih =>
      refine Apart.cons rfl (ih.append (.singleton _) ?_)
      rintro _ ⟨⟩
      rfl
  | map _ ih =>
      refine Apart.cons rfl (ih.append (.singleton _) ?_)
      rintro _ ⟨⟩
      rfl
  | noItem => exact .nil
  | noField => exact .nil
  | @item first _ _ _ _ _ others ih ihOthers =>
      rw [List.append_assoc]
      have apart := ih.append ihOthers (comma_of_writes others (.inl ⟨_, rfl⟩))
      cases first with
      | true => exact apart
      | false => exact apart.cons rfl
  | @field first _ _ _ _ _ _ _ _ others ih ihOthers =>
      rw [List.append_assoc]
      have apart := ih.append ihOthers (comma_of_writes others (.inr ⟨_, rfl⟩))
      cases first with
      | true => exact (apart.cons rfl).cons rfl
      | false => exact ((apart.cons rfl).cons rfl).cons rfl

/-- **A text of a tree has the tokens of the tree.** -/
theorem writes_of_text {t : Tree} {body : List UInt8} (text : Text t body) :
    Writes (.value t) (Token.list body) := by
  obtain ⟨tokens, writes, laid⟩ := text
  rw [Token.list_of_laid laid (apart_of_writes writes)]
  exact writes

/-! ### Values that are passed over -/

namespace Reader

/-- How what is left of a part is passed over. -/
def Skips : Part → List Token → Prop
  | .value _, tokens => ∀ frames close rest,
      skipFrom frames (.value close) (tokens ++ rest) = skipFrom frames .separator rest
  | .items first _, tokens => ∀ frames rest,
      skipFrom (.list :: frames) (if first then .value true else .separator)
        (tokens ++ .listClose :: rest) = skipFrom frames .separator rest
  | .fields first _, tokens => ∀ frames rest,
      skipFrom (.map :: frames) (if first then .key true else .separator)
        (tokens ++ .mapClose :: rest) = skipFrom frames .separator rest

/-- Every part is passed over. -/
lemma skips_of_writes {p : Part} {tokens : List Token} (writes : Writes p tokens) :
    Skips p tokens := by
  induction writes with
  | null => exact fun _ _ _ => by simp [skipFrom]
  | flag _ => exact fun _ _ _ => by simp [skipFrom]
  | number _ => exact fun _ _ _ => by simp [skipFrom]
  | text _ => exact fun _ _ _ => by simp [skipFrom]
  | list _ ih =>
      intro frames close rest
      rw [List.cons_append, List.cons_append, List.append_assoc, List.singleton_append,
        ← ih frames rest]
      simp [skipFrom]
  | map _ ih =>
      intro frames close rest
      rw [List.cons_append, List.cons_append, List.append_assoc, List.singleton_append,
        ← ih frames rest]
      simp [skipFrom]
  | @noItem first =>
      intro frames rest
      cases first <;> simp [skipFrom]
  | @noField first =>
      intro frames rest
      cases first <;> simp [skipFrom]
  | @item first t ts own others value _ ih ihOthers =>
      intro frames rest
      -- a first item may stand where the list could end, another one stands behind a comma
      have item (close : Bool) : skipFrom (.list :: frames) (.value close)
          (own ++ (others ++ .listClose :: rest)) = skipFrom frames .separator rest :=
        (ih _ close _).trans (ihOthers frames rest)
      rw [List.append_assoc, List.append_assoc]
      cases first with
      | true => exact item true
      | false => simpa [skipFrom, lead] using item false
  | @field first name ps t fs own others denotes _ _ ih ihOthers =>
      intro frames rest
      have value : skipFrom (.map :: frames) (.value false)
          (own ++ (others ++ .mapClose :: rest)) = skipFrom frames .separator rest :=
        (ih _ false _).trans (ihOthers frames rest)
      cases first <;> simpa [skipFrom, lead] using value

/-- **A value that nobody asks for is passed over.** -/
theorem skip_of_writes {t : Tree} {tokens : List Token} (writes : Writes (.value t) tokens)
    (rest : List Token) : skip (tokens ++ rest) = .ok rest := by
  rw [skip, skips_of_writes writes]
  cases rest <;> rfl

end Reader

/-! ### Values that are read -/

/-- Bytes in front are content as they stand. -/
lemma contentBytes?_append (bytes : List UInt8) (ps : List Piece) :
    Token.contentBytes? (bytes.map .byte ++ ps) = (Token.contentBytes? ps).map (bytes ++ ·) := by
  induction bytes with
  | nil => simp
  | cons b bytes ih =>
      rw [List.map_cons, List.cons_append, Token.contentBytes?, ih, Option.map_map]
      rfl

/-- The content of a string are the bytes of the text that it denotes. -/
lemma contentBytes?_of_denotes {ps : List Piece} {s : List Char} (denotes : Denotes ps s) :
    Token.contentBytes? ps = some (Text.Utf8.encode s) := by
  induction denotes with
  | nil => rfl
  | char _ ih =>
      rw [contentBytes?_append, ih]
      rfl
  | unit plain _ ih =>
      rw [Token.contentBytes?.eq_def]
      dsimp only
      rw [if_neg (by omega), if_neg (by omega), ih]
      rfl
  | pair first second _ ih =>
      rw [Token.contentBytes?.eq_def]
      dsimp only
      rw [if_neg (by omega), if_pos first, if_pos second, ih]
      rfl

/-- **A string is read as the text that it denotes.** -/
theorem content?_of_denotes {ps : List Piece} {s : String} (denotes : Denotes ps s.toList) :
    Token.content? ps = some s := by
  rw [Token.content?, contentBytes?_of_denotes denotes, Option.bind_some,
    Text.Utf8.strict?_encode, Option.map_some, String.ofList_toList]

/-- The value of the decimal digits of a number is the number. -/
lemma digitsValue_decimalDigits (n : Nat) : Numeral.digitsValue (decimalDigits n) = n := by
  rw [Numeral.digitsValue, decimalDigits, List.foldl_map]
  exact Digits.value_text (by decide) (by decide) n

/-- **A natural number below 2^64 is read as itself.** -/
theorem number?_natural {n : Nat} (bound : n < Digits.twoTo 64) :
    (Numeral.mk false (decimalDigits n) [] none).number? = some (.natural n) := by
  simp [Numeral.number?, digitsValue_decimalDigits, bound]

end FloatingIp.Json
