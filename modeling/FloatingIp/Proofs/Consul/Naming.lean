import FloatingIp.Proofs.Consul.Body

/-!
# Which node a body names

The bytes of a record pass through Base64 and are read as a text, leniently, before they are held
against the name of a node.  Reading leniently takes many byte strings to one text, but all of these
texts have a U+FFFD in them.  So a node whose own name has none is named by the bytes of its name and
by no others (`names_iff_bytes`): no overlong form, no part of a character and no byte too many makes
a node the leader.  An entry without a value names the node without a name, and so none that is there.
-/

namespace FloatingIp.Consul

/-- The first entry of a body: the body is a text of a list of entries in which it stands first. -/
def Heads (e : Entry) (body : List UInt8) : Prop :=
  ∃ first others, Json.Text (.list (first :: others)) body ∧ Entry.Stands first e ∧
    ∀ t ∈ others, ∃ other, Entry.Stands t other

/-- A marker names a node exactly if the bytes are those of the node's name, unless the name has a
U+FFFD. -/
def NamesBy (raw : List UInt8) (m : Marker) : Prop :=
  ∀ node : String, '\uFFFD' ∉ node.toList →
    (m.names node = true ↔ raw = Text.Utf8.encode node.toList)

/-- A marker names no node but the one without a name. -/
def NamesNone (m : Marker) : Prop :=
  ∀ node : String, m.names node = true ↔ node = ""

/-- A marker names the node whose name is its value. -/
lemma names_iff {m : Marker} {node : String} : m.names node = true ↔ m.value.toList = node.toList := by
  unfold Marker.names
  rw [beq_iff_eq, String.toList_inj]

/-- The text of some bytes names by these bytes. -/
lemma namesBy_lenient (raw : List UInt8) (index : Nat) :
    NamesBy raw ⟨String.ofList (Text.Utf8.lenient raw), index⟩ := by
  intro node clean
  rw [names_iff, String.toList_ofList]
  exact Text.Utf8.lenient_eq_iff clean

/-- An empty value names none. -/
lemma namesNone_empty (index : Nat) : NamesNone ⟨"", index⟩ := by
  intro node
  rw [names_iff, String.toList_inj]
  exact eq_comm

/-- The first entry of a body is read. -/
lemma ofBody_of_heads {e : Entry} {body : List UInt8} (heads : Heads e body) :
    ∃ es, Entry.ofBody body = .ok (e :: es) := by
  obtain ⟨first, others, text, stands, stand⟩ := heads
  exact Entry.ofBody_of_text text stands stand

/-- A body that sends bytes has an entry with their encoding in front. -/
lemma heads_of_sends {raw : List UInt8} {index : Nat} {body : List UInt8}
    (bound : index < Digits.twoTo 64) (sends : Sends raw index body) :
    Heads ⟨some (Base64.text raw), index⟩ body := by
  obtain ⟨fields, others, text, value, index', stand⟩ := sends
  exact ⟨_, others, text, .map (.inr value) index' bound, stand⟩

/-- A body whose first entry has no value holds the marker of the empty text. -/
lemma markerOfBody_of_none {index : Nat} {body : List UInt8} {es : List Entry}
    (read : Entry.ofBody body = .ok (⟨none, index⟩ :: es)) :
    markerOfBody body = .ok (some ⟨"", index⟩) := by
  simp [markerOfBody, read, Entry.marker]

/-- **A node is named by the bytes of its name only.**

* Whatever bytes are stored under an index below 2^64, there is a body whose first entry has their
  encoding, and every such body holds a marker with this index.  It names a node without U+FFFD in
  its name exactly if the bytes are the UTF-8 of the name.
* A body whose first entry has null or nothing for its value holds a marker that names no node but
  the one without a name.
* Every marker that a body holds comes from an entry of one of these kinds. -/
theorem names_iff_bytes :
    (∀ raw index, index < Digits.twoTo 64 →
      (∃ body, Heads ⟨some (Base64.text raw), index⟩ body) ∧
      ∀ body, Heads ⟨some (Base64.text raw), index⟩ body →
        ∃ m, markerOfBody body = .ok (some m) ∧ m.version = index ∧ NamesBy raw m) ∧
    (∀ index body, Heads ⟨none, index⟩ body →
      ∃ m, markerOfBody body = .ok (some m) ∧ m.version = index ∧ NamesNone m) ∧
    ∀ body m, markerOfBody body = .ok (some m) →
      ∃ e es, Entry.ofBody body = .ok (e :: es) ∧ m.version = e.index ∧
        ((∃ raw, e.value = some (Base64.text raw) ∧ NamesBy raw m) ∨
          e.value = none ∧ NamesNone m) := by
  refine ⟨fun raw index bound => ⟨?_, fun body heads => ?_⟩, fun index body heads => ?_,
    fun body m received => ?_⟩
  · exact ⟨_, heads_of_sends bound (sends_bodyOf raw index)⟩
  · obtain ⟨es, read⟩ := ofBody_of_heads heads
    exact ⟨_, markerOfBody_of_text read, rfl, namesBy_lenient raw index⟩
  · obtain ⟨es, read⟩ := ofBody_of_heads heads
    exact ⟨_, markerOfBody_of_none read, rfl, namesNone_empty index⟩
  · obtain ⟨e, es, read, version, texts⟩ := exists_entry_of_markerOfBody received
    refine ⟨e, es, read, version, ?_⟩
    obtain ⟨value, index⟩ := e
    cases value with
    | none =>
        rw [markerOfBody_of_none read] at received
        cases received
        exact .inr ⟨rfl, namesNone_empty index⟩
    | some text =>
        obtain ⟨raw, -, rfl, -⟩ := texts text rfl
        rw [markerOfBody_of_text read] at received
        cases received
        exact .inl ⟨raw, rfl, namesBy_lenient raw index⟩

/-- A body with one entry whose value is null. -/
def bodyOfNull : List UInt8 :=
  Text.Utf8.encode "[\x7b\"Value\":null,\"ModifyIndex\":7\x7d]".toList

/-- The entry has no value. -/
lemma heads_bodyOfNull : Heads ⟨none, 7⟩ bodyOfNull := by
  refine ⟨.map [("Value", .null), ("ModifyIndex", .natural 7)], [], ?_,
    .map (.inr rfl) rfl (by decide), nofun⟩
  refine ⟨_, .list (.item (.map (.field (Json.denotes_encode _) .null
    (.field (Json.denotes_encode _) (.number _) .noField))) .noItem), ?_⟩
  have value := spells_quoted (Text.Utf8.encode "Value".toList) (by decide +kernel)
  have index := spells_quoted (Text.Utf8.encode "ModifyIndex".toList) (by decide +kernel)
  have laid := Json.Laid.next .listOpen <| .next .mapOpen <| .next value <| .next .colon <|
    .next .null <| .next .comma <| .next index <| .next .colon <|
    .next (spells_digit (by decide : 7 < 10)) <| .next .mapClose <| .next .listClose <|
    .done (List.forall_mem_nil _)
  exact laid.of_eq (by decide)

/-- An overlong form does not name the node of its letter, a name beyond ASCII is named by its bytes,
and null names no node with a name. -/
theorem names_iff_bytes_overlong :
    (∃ m, markerOfBody (bodyOf [0xC1, 0xA1] 7) = .ok (some m) ∧ m.names "a" = false) ∧
    (∃ m, markerOfBody (bodyOf [0xC3, 0xA9] 7) = .ok (some m) ∧ m.names "é" = true) ∧
    ∃ m, markerOfBody bodyOfNull = .ok (some m) ∧ m.names "a" = false := by
  have small : 7 < Digits.twoTo 64 := by decide
  refine ⟨?_, ?_, ?_⟩
  · obtain ⟨m, received, -, names⟩ := (names_iff_bytes.1 [0xC1, 0xA1] 7 small).2 _
      (heads_of_sends small (sends_bodyOf _ _))
    refine ⟨m, received, ?_⟩
    rw [← Bool.not_eq_true, names "a" (by decide)]
    decide
  · obtain ⟨m, received, -, names⟩ := (names_iff_bytes.1 [0xC3, 0xA9] 7 small).2 _
      (heads_of_sends small (sends_bodyOf _ _))
    refine ⟨m, received, ?_⟩
    rw [names "é" (by decide)]
    decide
  · obtain ⟨m, received, -, names⟩ := names_iff_bytes.2.1 7 bodyOfNull heads_bodyOfNull
    refine ⟨m, received, ?_⟩
    rw [← Bool.not_eq_true, names "a"]
    decide

end FloatingIp.Consul
