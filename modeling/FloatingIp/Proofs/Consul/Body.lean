import FloatingIp.Consul.Body
import FloatingIp.Proofs.Base64
import FloatingIp.Proofs.Json.Tree

/-!
# Bodies and the markers in them

A body sends bytes under an index (`Sends`) if it is a text of a list of entries whose first one has
the Base64 text of the bytes for its value, and the index.  How the text is spaced and escaped, in
which order the fields stand, which others stand between them and which entries follow does not
matter: such a body is received as the marker of the bytes and the index, and a marker that is
received from a text was sent so (`received_iff_sent`).

Fields are read one by one, and what has been read of value and index is kept.  `ValueLeft` and
`IndexLeft` say what the fields to come have to bring, so that the induction over the fields does
not depend on their order.
-/

namespace FloatingIp.Consul

open Json (Token Tree Part Writes Reader Denotes)

/-- A text or null. -/
def optional : Option String → Tree
  | some s => .text s
  | none => .null

/-- The values of the fields of a name, in order. -/
def named (name : String) (fields : List (String × Tree)) : List Tree :=
  (fields.filter fun f => f.1 = name).map (·.2)

namespace Entry

/-- A text or null is read. -/
lemma string?_of_writes {s : Option String} {tokens : List Token}
    (writes : Writes (.value (optional s)) tokens) (rest : List Token) :
    Reader.string? (tokens ++ rest) = .ok (s, rest) := by
  cases s with
  | none =>
      cases writes with
      | null => rfl
  | some s =>
      cases writes with
      | text denotes =>
          simp [Reader.string?, Reader.string, Json.content?_of_denotes denotes, bind, Except.bind]

/-- A natural number below 2^64 is read. -/
lemma natural_of_writes {n : Nat} (bound : n < Digits.twoTo 64) {tokens : List Token}
    (writes : Writes (.value (.natural n)) tokens) (rest : List Token) :
    Reader.natural (tokens ++ rest) = .ok (n, rest) := by
  cases writes with
  | number => simp [Reader.natural, Json.number?_natural bound]

/-- The key of a field is read. -/
lemma nextKey_lead {ps : List Json.Piece} {name : String} (denotes : Denotes ps name.toList)
    (first : Bool) (rest : List Token) :
    nextKey first (Json.lead first ++ .string ps :: rest) = .ok (some name, rest) := by
  cases first <;> simp [nextKey, Json.lead, Json.content?_of_denotes denotes]

section

variable {most : Nat} {first : Bool} {value : Option (Option String)} {index : Option Nat}
  {ps : List Json.Piece} {own : List Token}

/-- At the end of its map an entry is made of the fields that were there. -/
lemma fields_mapClose {e : Entry} (made : ofFields value index = .ok e) (rest : List Token) :
    fields (most + 1) first value index (.mapClose :: rest) = .ok (e, rest) := by
  simp [fields, nextKey, made, bind, Except.bind]

/-- The value is read once. -/
lemma fields_value (denotes : Denotes ps "Value".toList) {v : Option String}
    (writes : Writes (.value (optional v)) own) (rest : List Token) :
    fields (most + 1) first none index
        (Json.lead first ++ .string ps :: .colon :: (own ++ rest)) =
      fields most false (some v) index rest := by
  rw [fields, nextKey_lead denotes]
  simp [bind, Except.bind, afterColon, string?_of_writes writes]

/-- The index is read once. -/
lemma fields_index (denotes : Denotes ps "ModifyIndex".toList) {n : Nat}
    (bound : n < Digits.twoTo 64) (writes : Writes (.value (.natural n)) own) (rest : List Token) :
    fields (most + 1) first value none
        (Json.lead first ++ .string ps :: .colon :: (own ++ rest)) =
      fields most false value (some n) rest := by
  rw [fields, nextKey_lead denotes]
  simp [bind, Except.bind, afterColon, natural_of_writes bound writes]

/-- Other fields are passed over. -/
lemma fields_other {name : String} (denotes : Denotes ps name.toList) (noValue : name ≠ "Value")
    (noIndex : name ≠ "ModifyIndex") {t : Tree} (writes : Writes (.value t) own)
    (rest : List Token) :
    fields (most + 1) first value index
        (Json.lead first ++ .string ps :: .colon :: (own ++ rest)) =
      fields most false value index rest := by
  rw [fields, nextKey_lead denotes]
  simp only [bind, Except.bind, afterColon, Reader.skip_of_writes writes]

end

/-- What is still to be read of the value: nothing once it was there, and else perhaps a field. -/
def ValueLeft : Option (Option String) → List Tree → Option String → Prop
  | some v, trees, result => trees = [] ∧ result = v
  | none, trees, result => trees = [] ∧ result = none ∨ trees = [optional result]

/-- What is still to be read of the index: nothing once it was there, and else a field. -/
def IndexLeft : Option Nat → List Tree → Nat → Prop
  | some n, trees, result => trees = [] ∧ result = n
  | none, trees, result => trees = [.natural result] ∧ result < Digits.twoTo 64

/-- A field for the value is the only one. -/
lemma ValueLeft.of_cons {value : Option (Option String)} {t : Tree} {trees : List Tree}
    {v : Option String} (left : ValueLeft value (t :: trees) v) :
    value = none ∧ t = optional v ∧ ValueLeft (some v) trees v := by
  cases value with
  | some _ => cases left.1
  | none =>
      rcases left with ⟨none, -⟩ | there
      · cases none
      · obtain ⟨rfl, none⟩ := List.cons.inj there
        exact ⟨rfl, rfl, none, rfl⟩

/-- A field for the index is the only one. -/
lemma IndexLeft.of_cons {index : Option Nat} {t : Tree} {trees : List Tree} {n : Nat}
    (left : IndexLeft index (t :: trees) n) :
    index = none ∧ t = .natural n ∧ n < Digits.twoTo 64 ∧ IndexLeft (some n) trees n := by
  cases index with
  | some _ => cases left.1
  | none =>
      obtain ⟨there, bound⟩ := left
      obtain ⟨rfl, none⟩ := List.cons.inj there
      exact ⟨rfl, rfl, bound, none, rfl⟩

/-- Where nothing more is to be read, the entry can be made. -/
lemma ofFields_of_left {value : Option (Option String)} {index : Option Nat} {e : Entry}
    (values : ValueLeft value [] e.value) (indices : IndexLeft index [] e.index) :
    ofFields value index = .ok e := by
  cases index with
  | none => cases indices.1
  | some n =>
      cases value with
      | none =>
          rcases values with ⟨-, none⟩ | there
          · simp [ofFields, ← indices.2, ← none]
          · cases there
      | some v => simp [ofFields, ← indices.2, ← values.2]

/-- The fields of a name that stands in front. -/
lemma named_cons_self (name : String) (t : Tree) (fs : List (String × Tree)) :
    named name ((name, t) :: fs) = t :: named name fs := by
  simp [named]

/-- A field of another name does not count. -/
lemma named_cons_of_ne {name other : String} (differ : other ≠ name) (t : Tree)
    (fs : List (String × Tree)) : named name ((other, t) :: fs) = named name fs := by
  simp [named, differ]

/-- Fields in any order are read, whatever stands between them. -/
lemma fields_of_writes {fs : List (String × Tree)} {tokens : List Token} {first : Bool}
    (writes : Writes (.fields first fs) tokens) {most : Nat} (enough : fs.length < most)
    {value : Option (Option String)} {index : Option Nat} {e : Entry}
    (values : ValueLeft value (named "Value" fs) e.value)
    (indices : IndexLeft index (named "ModifyIndex" fs) e.index) (rest : List Token) :
    fields most first value index (tokens ++ .mapClose :: rest) = .ok (e, rest) := by
  induction fs generalizing first tokens most value index with
  | nil =>
      cases writes
      cases most with
      | zero => cases enough
      | succ most => exact fields_mapClose (ofFields_of_left values indices) rest
  | cons f fs ih =>
      obtain ⟨name, t⟩ := f
      cases writes with
      | @field _ _ ps _ _ own others denotes value' more =>
      cases most with
      | zero => cases enough
      | succ most =>
          have fewer : fs.length < most := Nat.lt_of_succ_lt_succ enough
          simp only [List.append_assoc, List.cons_append]
          by_cases isValue : name = "Value"
          · subst isValue
            rw [named_cons_self] at values
            rw [named_cons_of_ne (by decide)] at indices
            obtain ⟨rfl, rfl, later⟩ := values.of_cons
            rw [fields_value denotes value']
            exact ih more fewer later indices
          rw [named_cons_of_ne isValue] at values
          by_cases isIndex : name = "ModifyIndex"
          · subst isIndex
            rw [named_cons_self] at indices
            obtain ⟨rfl, rfl, bound, later⟩ := indices.of_cons
            rw [fields_index denotes bound value']
            exact ih more fewer values later
          · rw [named_cons_of_ne isIndex] at indices
            rw [fields_other denotes isValue isIndex value']
            exact ih more fewer values indices

/-! ### Entries -/

/-- An entry of a body, as a tree: a map with at most one field for the value, one field for the
index and any others, or a list of the two. -/
inductive Stands : Tree → Entry → Prop where
  | map {fs : List (String × Tree)} {e : Entry}
      (value : named "Value" fs = [] ∧ e.value = none ∨ named "Value" fs = [optional e.value])
      (index : named "ModifyIndex" fs = [.natural e.index]) (bound : e.index < Digits.twoTo 64) :
      Stands (.map fs) e
  | list {e : Entry} (bound : e.index < Digits.twoTo 64) :
      Stands (.list [optional e.value, .natural e.index]) e

/-- There are no more fields than tokens. -/
lemma length_le_of_writes {fs : List (String × Tree)} {tokens : List Token} {first : Bool}
    (writes : Writes (.fields first fs) tokens) : fs.length ≤ tokens.length := by
  induction fs generalizing first tokens with
  | nil => exact Nat.zero_le _
  | cons f fs ih =>
      cases writes with
      | field _ _ others =>
          have := ih others
          simp only [List.length_cons, List.length_append]
          omega

/-- A list of value and index is read. -/
lemma listed_of_writes {v : Option String} {n : Nat} (bound : n < Digits.twoTo 64)
    {own others : List Token} (value : Writes (.value (optional v)) own)
    (index : Writes (.value (.natural n)) others) (rest : List Token) :
    listed (own ++ .comma :: (others ++ .listClose :: rest)) = .ok (⟨v, n⟩, rest) := by
  have string := string?_of_writes value (.comma :: (others ++ .listClose :: rest))
  have natural := natural_of_writes bound index (.listClose :: rest)
  cases v with
  | none =>
      cases value with
      | null => simp [listed, Reader.string?, natural, bind, Except.bind]
  | some s =>
      cases value with
      | text denotes =>
          rw [List.singleton_append] at string ⊢
          simp [listed, string, natural, bind, Except.bind]

/-- An entry is read. -/
lemma read_of_writes {t : Tree} {e : Entry} (stands : Stands t e) {tokens : List Token}
    (writes : Writes (.value t) tokens) (rest : List Token) :
    read (tokens ++ rest) = .ok (e, rest) := by
  cases stands with
  | map value index bound =>
      cases writes with
      | map writes =>
          rw [List.cons_append, List.cons_append, List.append_assoc, List.singleton_append, read]
          have values : ValueLeft none (named "Value" _) e.value := value
          have indices : IndexLeft none (named "ModifyIndex" _) e.index := ⟨index, bound⟩
          refine fields_of_writes writes ?_ values indices rest
          have := length_le_of_writes writes
          simp only [List.length_append, List.length_cons]
          omega
  | list bound =>
      cases writes with
      | list writes =>
      cases writes with
      | item value others =>
      cases others with
      | item index none =>
      cases none
      have listed := listed_of_writes bound value index rest
      simpa [read, Json.lead] using listed

/-! ### Lists of entries -/

/-- The entries that are left in a list are read. -/
lemma more_of_writes {ts : List Tree} {tokens : List Token}
    (writes : Writes (.items false ts) tokens) (stand : ∀ t ∈ ts, ∃ e, Stands t e) {most : Nat}
    (enough : ts.length < most) (rest : List Token) :
    ∃ es, more most (tokens ++ .listClose :: rest) = .ok (es, rest) := by
  induction ts generalizing tokens most with
  | nil =>
      cases writes
      cases most with
      | zero => cases enough
      | succ most => exact ⟨[], rfl⟩
  | cons t ts ih =>
      cases writes with
      | item value others =>
      cases most with
      | zero => cases enough
      | succ most =>
          rw [List.forall_mem_cons] at stand
          obtain ⟨e, first⟩ := stand.1
          obtain ⟨es, read⟩ := ih others stand.2 (Nat.lt_of_succ_lt_succ enough)
          refine ⟨e :: es, ?_⟩
          simp [Json.lead, more, read_of_writes first value, read, bind, Except.bind]

/-- There are no more items than tokens. -/
lemma length_le_of_writes_items {ts : List Tree} {tokens : List Token}
    (writes : Writes (.items false ts) tokens) : ts.length ≤ tokens.length := by
  induction ts generalizing tokens with
  | nil => exact Nat.zero_le _
  | cons t ts ih =>
      cases writes with
      | item _ others =>
          have := ih others
          simp only [Json.lead, List.length_cons, List.length_append]
          simp
          omega

/-- An entry does not begin as a list ends. -/
lemma exists_head_of_writes {t : Tree} {e : Entry} (stands : Stands t e) {tokens : List Token}
    (writes : Writes (.value t) tokens) :
    ∃ head tail, tokens = head :: tail ∧ head ≠ .listClose := by
  cases stands with
  | map _ _ _ =>
      cases writes with
      | map _ => exact ⟨_, _, rfl, nofun⟩
  | list _ =>
      cases writes with
      | list _ => exact ⟨_, _, rfl, nofun⟩

/-- A list of entries is read. -/
lemma readList_of_writes {first : Tree} {others : List Tree} {e : Entry} (stands : Stands first e)
    (stand : ∀ t ∈ others, ∃ e, Stands t e) {tokens : List Token}
    (writes : Writes (.value (.list (first :: others))) tokens) :
    ∃ es, readList tokens = .ok (e :: es, []) := by
  cases writes with
  | list writes =>
  cases writes with
  | @item _ _ _ own rest value items =>
  obtain ⟨head, tail, rfl, other⟩ := exists_head_of_writes stands value
  have enough : others.length < (rest ++ [Token.listClose]).length + 1 := by
    have := length_le_of_writes_items items
    rw [List.length_append]
    omega
  obtain ⟨es, left⟩ := more_of_writes items stand enough []
  refine ⟨es, ?_⟩
  have read := read_of_writes stands value (rest ++ [.listClose])
  simp only [Json.lead, if_pos, List.nil_append, List.cons_append, List.append_assoc] at read ⊢
  rw [readList.eq_def]
  split
  · rename_i same
    cases same
    exact absurd rfl other
  · rename_i same
    cases same
    rw [read]
    simp only [bind, Except.bind]
    rw [left]
  · rename_i none
    exact absurd rfl (none _)

/-- **A text of a list of entries is read**, and its first entry first. -/
theorem ofBody_of_text {first : Tree} {others : List Tree} {body : List UInt8} {e : Entry}
    (text : Json.Text (.list (first :: others)) body) (stands : Stands first e)
    (stand : ∀ t ∈ others, ∃ e, Stands t e) : ∃ es, ofBody body = .ok (e :: es) := by
  obtain ⟨es, read⟩ := readList_of_writes stands stand (Json.writes_of_text text)
  exact ⟨es, by rw [ofBody, read]; rfl⟩

end Entry

/-! ### Markers -/

/-- A body that sends bytes under an index: it is a text of a list of entries, and the first one has
the encoding of the bytes for its value, and the index, in any order and among any other fields. -/
def Sends (raw : List UInt8) (index : Nat) (body : List UInt8) : Prop :=
  ∃ fields others, Json.Text (.list (.map fields :: others)) body ∧
    named "Value" fields = [.text (Base64.text raw)] ∧
    named "ModifyIndex" fields = [.natural index] ∧ ∀ t ∈ others, ∃ e, Entry.Stands t e

/-- A body whose first entry has the encoding of some bytes holds the marker of these bytes. -/
lemma markerOfBody_of_text {raw : List UInt8} {index : Nat} {body : List UInt8} {es : List Entry}
    (read : Entry.ofBody body = .ok (⟨some (Base64.text raw), index⟩ :: es)) :
    markerOfBody body = .ok (some ⟨String.ofList (Text.Utf8.lenient raw), index⟩) := by
  have decoded := Base64.decode_utf8_eq_ok_iff.mpr (rfl : Base64.text raw = _)
  simp [markerOfBody, read, Entry.marker, decoded, bind, Except.bind]

/-- What is sent is received. -/
lemma markerOfBody_of_sends {raw : List UInt8} {index : Nat} {body : List UInt8}
    (bound : index < Digits.twoTo 64) (sends : Sends raw index body) :
    markerOfBody body = .ok (some ⟨String.ofList (Text.Utf8.lenient raw), index⟩) := by
  obtain ⟨fields, others, text, value, index, stand⟩ := sends
  obtain ⟨es, read⟩ := Entry.ofBody_of_text (e := ⟨some (Base64.text raw), _⟩) text
    (.map (.inr value) index bound) stand
  exact markerOfBody_of_text read

/-- The marker in a body is that of its first entry, whose value is the encoding of some bytes. -/
lemma exists_entry_of_markerOfBody {body : List UInt8} {m : Marker}
    (received : markerOfBody body = .ok (some m)) :
    ∃ e es, Entry.ofBody body = .ok (e :: es) ∧ m.version = e.index ∧ ∀ s, e.value = some s →
      ∃ raw, Base64.decode (Text.Utf8.encode s.toList) = .ok raw ∧ s = Base64.text raw ∧
        m.value = String.ofList (Text.Utf8.lenient raw) := by
  unfold markerOfBody at received
  split at received
  · cases received
  · cases received
  · rename_i e es read
    split at received
    · rename_i marker
      cases received
      unfold Entry.marker at marker
      split at marker
      · rename_i none
        cases marker
        refine ⟨e, es, read, rfl, fun s there => ?_⟩
        rw [none] at there
        cases there
      · rename_i s there
        obtain ⟨raw, decoded, same⟩ := bind_eq_ok.mp marker
        cases same
        refine ⟨e, es, read, rfl, fun t same => ⟨raw, ?_⟩⟩
        rw [there] at same
        cases same
        exact ⟨decoded, Base64.decode_utf8_eq_ok_iff.mp decoded, rfl⟩
    · cases received

/-- A string that is written between quotes, as it stands. -/
def quoted (bytes : List UInt8) : List UInt8 :=
  0x22 :: bytes ++ [0x22]

/-- A body that sends bytes under an index and nothing else. -/
def bodyOf (raw : List UInt8) (index : Nat) : List UInt8 :=
  [0x5B] ++ ([0x7B] ++ (quoted (Text.Utf8.encode "Value".toList) ++ ([0x3A] ++
    (quoted (Base64.encode raw) ++ ([0x2C] ++ (quoted (Text.Utf8.encode "ModifyIndex".toList) ++
      ([0x3A] ++ (Json.digitBytes (Json.decimalDigits index) ++ ([0x7D] ++ ([0x5D] ++ []))))))))))

/-- A string between quotes is written as it stands, if nothing in it needs an escape. -/
lemma spells_quoted (bytes : List UInt8)
    (plain : ∀ b ∈ bytes, 0x20 ≤ b.toNat ∧ b ≠ 0x22 ∧ b ≠ 0x5C) :
    Token.Spells (.string (bytes.map .byte)) (quoted bytes) :=
  .string (Json.spellsContent_plain plain)

/-- Whatever is to be sent, there is a body that sends it. -/
lemma sends_bodyOf (raw : List UInt8) (index : Nat) : Sends raw index (bodyOf raw index) := by
  refine ⟨[("Value", .text (Base64.text raw)), ("ModifyIndex", .natural index)], [], ?_, rfl, rfl,
    nofun⟩
  have value : Denotes ((Base64.encode raw).map .byte) (Base64.text raw).toList := by
    rw [← Base64.utf8_text]
    exact Json.denotes_encode _
  refine ⟨_, .list (.item (.map (.field (Json.denotes_encode _) (.text value)
    (.field (Json.denotes_encode _) (.number _) .noField))) .noItem), ?_⟩
  exact .next .listOpen <| .next .mapOpen <| .next (spells_quoted _ (by decide +kernel)) <|
    .next .colon <| .next (spells_quoted _ fun b mem => (Base64.plain_encode mem).2) <|
    .next .comma <| .next (spells_quoted _ (by decide +kernel)) <| .next .colon <|
    .next (.number (Json.spells_natural index)) <| .next .mapClose <| .next .listClose <|
    .done (List.forall_mem_nil _)

/-- **What is sent in a body is received, and nothing else.**

* A body that sends bytes under an index below 2^64 holds the marker with the text of these bytes,
  read leniently, and the index, whatever else is in it.
* So every marker is received as it was sent, and there is a body that sends it.
* The other way round, where a marker is received and the first entry has a text for its value, that
  text is the encoding of the bytes that it is decoded to.
* No two texts are decoded to the same bytes. -/
theorem received_iff_sent :
    (∀ raw index body, index < Digits.twoTo 64 → Sends raw index body →
      markerOfBody body = .ok (some ⟨String.ofList (Text.Utf8.lenient raw), index⟩)) ∧
    (∀ m : Marker, m.version < Digits.twoTo 64 →
      Sends (Text.Utf8.encode m.value.toList) m.version
        (bodyOf (Text.Utf8.encode m.value.toList) m.version) ∧
      ∀ body, Sends (Text.Utf8.encode m.value.toList) m.version body →
        markerOfBody body = .ok (some m)) ∧
    (∀ body m, markerOfBody body = .ok (some m) →
      ∃ e es, Entry.ofBody body = .ok (e :: es) ∧ m.version = e.index ∧
        ∀ text, e.value = some text → ∃ raw,
          Base64.decode (Text.Utf8.encode text.toList) = .ok raw ∧ text = Base64.text raw ∧
          m.value = String.ofList (Text.Utf8.lenient raw)) ∧
    ∀ (text other : String) raw, Base64.decode (Text.Utf8.encode text.toList) = .ok raw →
      Base64.decode (Text.Utf8.encode other.toList) = .ok raw → text = other := by
  refine ⟨fun raw index body => markerOfBody_of_sends, fun m bound => ⟨sends_bodyOf _ _, ?_⟩,
    fun body m => exists_entry_of_markerOfBody, ?_⟩
  · intro body sends
    rw [markerOfBody_of_sends bound sends, Text.Utf8.lenient_encode, String.ofList_toList]
  · intro text other raw first second
    rw [Base64.decode_utf8_eq_ok_iff.mp first, Base64.decode_utf8_eq_ok_iff.mp second]

/-- A body with its fields out of order, an escaped name, a field that nobody asks for, blanks, and
an entry given as a list. -/
def rearranged : List UInt8 :=
  Text.Utf8.encode
    " [\x7b\"ModifyIndex\":7 ,\"V\\u0061lue\":\"eA==\",\"Flags\":[-1.5e3]\x7d,[null,0]]".toList

/-- A single digit is written with its byte. -/
lemma spells_digit {d : Nat} (bound : d < 10) :
    Token.Spells (.number ⟨false, Json.decimalDigits d, [], none⟩) [UInt8.ofNat (d + 48)] := by
  have digits : Json.decimalDigits d = [d] := by
    rw [Json.decimalDigits, Digits.text_of_lt bound, List.map_singleton,
      Digits.value?_digit bound (by decide)]
    rfl
  have spells := Json.spells_natural d
  rw [digits] at spells ⊢
  exact .number spells

/-- This body sends one byte. -/
lemma sends_rearranged : Sends [120] 7 rearranged := by
  have name : Denotes [.byte 86, .unit 97, .byte 108, .byte 117, .byte 101] "Value".toList :=
    .char (c := 'V') <| .unit (.inl (by decide)) <| Json.denotes_encode ['l', 'u', 'e']
  have float : Json.Numeral.Spells ⟨true, [1], [5], some (false, [3])⟩ [45, 49, 46, 53, 101, 51] :=
    ⟨by decide, by decide, [101, 51], .some (.inl rfl) .bare (by decide) (by decide), rfl⟩
  have escaped : Token.Spells (.string [.byte 86, .unit 97, .byte 108, .byte 117, .byte 101])
      (quoted [86, 92, 117, 48, 48, 54, 49, 108, 117, 101]) :=
    .string <| .cons (.plain (by decide) (by decide) (by decide)) <|
      .cons (.unit (i := 0) (j := 0) (k := 6) (l := 1) rfl rfl rfl rfl) <|
      @Json.spellsContent_plain [108, 117, 101] (by decide +kernel)
  refine ⟨[("ModifyIndex", .natural 7), ("Value", .text "eA=="),
    ("Flags", .list [.number ⟨true, [1], [5], some (false, [3])⟩])],
    [.list [optional none, .natural 0]], ?_, ?_, rfl, ?_⟩
  · refine ⟨_, .list (.item (.map (.field (Json.denotes_encode _) (.number _)
      (.field name (.text (Json.denotes_encode _)) (.field (Json.denotes_encode _)
        (.list (.item (.number _) .noItem)) .noField))))
      (.item (.list (.item .null (.item (.number _) .noItem))) .noItem)), ?_⟩
    have blank : ∀ b ∈ [32], Token.isBlank b = true := by decide +kernel
    have index := spells_quoted (Text.Utf8.encode "ModifyIndex".toList) (by decide +kernel)
    have value := spells_quoted (Text.Utf8.encode "eA==".toList) (by decide +kernel)
    have flags := spells_quoted (Text.Utf8.encode "Flags".toList) (by decide +kernel)
    have laid := Json.Laid.token blank .listOpen <| .next .mapOpen <| .next index <|
      .next .colon <| .next (spells_digit (by decide : 7 < 10)) <| .token blank .comma <|
      .next escaped <| .next .colon <| .next value <| .next .comma <| .next flags <|
      .next .colon <| .next .listOpen <| .next (.number float) <| .next .listClose <|
      .next .mapClose <| .next .comma <| .next .listOpen <| .next .null <| .next .comma <|
      .next (spells_digit (by decide : 0 < 10)) <| .next .listClose <| .next .listClose <|
      .done (List.forall_mem_nil _)
    exact laid.of_eq (by decide)
  · exact congrArg (fun s => [Tree.text s]) (by decide : "eA==" = Base64.text [120])
  · rw [List.forall_mem_singleton]
    exact ⟨⟨none, 0⟩, @Entry.Stands.list ⟨none, 0⟩ (by decide)⟩

/-- It is received as the marker of a node of one letter. -/
theorem received_iff_sent_rearranged :
    Sends [120] 7 rearranged ∧ markerOfBody rearranged = .ok (some ⟨"x", 7⟩) :=
  ⟨sends_rearranged, received_iff_sent.1 _ _ _ (by decide) sends_rearranged⟩

end FloatingIp.Consul
