import FloatingIp.Net.Address
import FloatingIp.Proofs.Digits
import FloatingIp.Proofs.Text.Blank

/-!
# Addresses read back from their canonical text

The canonical text of an address reads back as that address (`ofChars?_chars`), so two addresses with
one text are the same.  Three forms have to be told apart: four octets with dots, eight groups with
colons of which one run of zeros may be left out, and a dotted tail behind a fixed beginning.  The
reader tries octets first and groups then, and a text of groups is no text of octets because it has no
dot, or begins with a colon.
-/

namespace FloatingIp.Net.Address

open Digits

/-! ### Numbers off the front -/

/-- A rest that does not go on with a digit. -/
def Stops (base : Nat) (rest : List Char) : Prop :=
  ∀ c, rest.head? = some c → isDigit base c = false

/-- The end stops a number. -/
lemma stops_nil (base : Nat) : Stops base [] := nofun

/-- A character that is no digit stops a number. -/
lemma stops_cons {base : Nat} {c : Char} (other : isDigit base c = false) (rest : List Char) :
    Stops base (c :: rest) := by
  intro d head
  rwa [← Option.some.inj head]

/-- What stops a number in a base stops it in a smaller one. -/
lemma Stops.mono {base smaller : Nat} {rest : List Char} (stops : Stops base rest)
    (le : smaller ≤ base) : Stops smaller rest := fun c head =>
  Bool.eq_false_iff.2 fun digit =>
    Bool.eq_false_iff.1 (stops c head) (isDigit_mono le digit)

/-- No number is read off a rest that does not go on with a digit. -/
lemma readNumber_of_stops {base most : Nat} {zeros : Bool} {rest : List Char}
    (stops : Stops base rest) : readNumber base most zeros rest = none := by
  have none := (@Text.span_append _ [] rest (List.forall_mem_nil _) stops).1
  rw [List.nil_append] at none
  simp [readNumber, none]

/-- The digits of a number are read off the front, with the rest left. -/
lemma readNumber_text {base most n : Nat} (two : 2 ≤ base) (bound : base ≤ 16) (zeros : Bool)
    (short : (Digits.text base n).length ≤ most) {rest : List Char} (stops : Stops base rest) :
    readNumber base most zeros (Digits.text base n ++ rest) = some (n, rest) := by
  have all : ∀ c ∈ Digits.text base n, isDigit base c = true :=
    fun c => isDigit_of_mem_text two bound
  have front := Text.span_append all stops
  have needed : ¬((Digits.text base n).head? = some '0' ∧ 1 < (Digits.text base n).length) := by
    rintro ⟨zero, long⟩
    rw [eq_zero_of_head_text two bound zero, text_of_lt (by omega)] at long
    exact absurd long (by decide)
  have some : (Digits.text base n).isEmpty = false := by
    simpa using text_ne_nil n
  simp only [readNumber, front, value_text two bound]
  rw [if_neg]
  simp only [some, Bool.false_or, Bool.or_eq_true, decide_eq_true_eq, Bool.and_eq_true,
    beq_iff_eq, not_or]
  exact ⟨by omega, fun needless => needed needless.1⟩

/-- An octet is read off the front. -/
lemma readOctet_text (o : UInt8) {rest : List Char} (stops : Stops 10 rest) :
    readOctet (Digits.text 10 o.toNat ++ rest) = some (o, rest) := by
  have small : o.toNat < 10 ^ (2 + 1) := Nat.lt_trans o.toNat_lt (by decide)
  have short := length_text_le (by decide) small
  simp [readOctet, readNumber_text (by decide) (by decide) false short stops, o.toNat_lt]

/-- What is left after an octet is an end of the text. -/
lemma suffix_of_readOctet {s rest : List Char} {o : UInt8} (h : readOctet s = some (o, rest)) :
    rest <:+ s := by
  simp only [readOctet, readNumber, bind, Option.bind_eq_some_iff, Option.ite_none_left_eq_some,
    Option.ite_none_right_eq_some, Option.some.injEq, Prod.exists, Prod.mk.injEq] at h
  obtain ⟨n, left, ⟨-, -, rfl⟩, -, -, rfl⟩ := h
  exact List.dropWhile_suffix _

/-! ### Separated texts -/

/-- Pieces with a separator before each but the first, or before each. -/
def separated (sep : Char) : Bool → List (List Char) → List Char
  | _, [] => []
  | first, p :: ps => (if first then p else sep :: p) ++ separated sep false ps

/-- Pieces that are joined are separated. -/
lemma join_eq_separated (sep : Char) (ps : List (List Char)) :
    Text.join [sep] ps = separated sep true ps := by
  induction ps with
  | nil => rfl
  | cons p ps ih =>
      cases ps with
      | nil => simp [Text.join, separated]
      | cons q qs =>
          have step : Text.join [sep] (p :: q :: qs) = p ++ [sep] ++ Text.join [sep] (q :: qs) := rfl
          rw [step, ih]
          simp [separated]

/-- The separator, where it is due, is read off. -/
lemma readSeparator_separated (sep : Char) (first : Bool) (p : List Char) (ps : List (List Char))
    (rest : List Char) :
    readSeparator sep first (separated sep first (p :: ps) ++ rest) =
      some (p ++ (separated sep false ps ++ rest)) := by
  cases first <;> simp [readSeparator, separated]

/-- What is separated consists of the separator and of what the pieces consist of. -/
lemma mem_separated {sep : Char} {first : Bool} {ps : List (List Char)} {c : Char}
    (mem : c ∈ separated sep first ps) : c = sep ∨ ∃ p ∈ ps, c ∈ p := by
  induction ps generalizing first with
  | nil => cases mem
  | cons p ps ih =>
      rw [separated, List.mem_append] at mem
      rcases mem with here | later
      · cases first <;> simp at here ⊢ <;> tauto
      · rcases ih later with same | ⟨q, hq, inside⟩
        · exact .inl same
        · exact .inr ⟨q, List.mem_cons_of_mem _ hq, inside⟩

/-- Pieces that go on with their separator stop a number, if the separator is no digit. -/
lemma stops_separated {base : Nat} {sep : Char} (other : isDigit base sep = false)
    (ps : List (List Char)) {rest : List Char} (stops : Stops base rest) :
    Stops base (separated sep false ps ++ rest) := by
  cases ps with
  | nil => exact stops
  | cons p ps => exact stops_cons other _

/-! ### Octets -/

/-- Octets with dots between them are read off the front. -/
lemma readOctets_separated (first : Bool) (octets : List UInt8) {rest : List Char}
    (stops : Stops 10 rest) :
    readOctets octets.length first
        (separated '.' first (octets.map fun o => Digits.text 10 o.toNat) ++ rest) =
      some (octets, rest) := by
  induction octets generalizing first with
  | nil => rfl
  | cons o octets ih =>
      have after := stops_separated (by decide : isDigit 10 '.' = false)
        (octets.map fun o => Digits.text 10 o.toNat) stops
      simp only [List.length_cons, readOctets, List.map_cons]
      rw [readSeparator_separated]
      simp only [Option.bind_eq_bind, Option.bind_some, readOctet_text o after, ih false]

/-- Dotted octets read back. -/
lemma readOctets_dotted (octets : List UInt8) :
    readOctets octets.length true (dotted octets) = some (octets, []) := by
  have read := readOctets_separated true octets (stops_nil 10)
  rwa [List.append_nil, ← join_eq_separated] at read

/-- Octets are written with dots and digits. -/
lemma mem_dotted {octets : List UInt8} {c : Char} (mem : c ∈ dotted octets) :
    c = '.' ∨ isDigit 16 c = true := by
  rw [dotted, join_eq_separated] at mem
  rcases mem_separated mem with same | ⟨ds, hds, inside⟩
  · exact .inl same
  · obtain ⟨o, -, rfl⟩ := List.mem_map.1 hds
    exact .inr (isDigit_mono (by decide) (isDigit_of_mem_text (by decide) (by decide) inside))

/-- A text without a dot is no text of octets. -/
lemma readOctets_of_no_dot {s : List Char} (none : '.' ∉ s) (n : Nat) :
    readOctets (n + 2) true s = Option.none := by
  simp only [readOctets, readSeparator, if_true, Option.bind_eq_bind, Option.bind_some]
  cases first : readOctet s with
  | none => rfl
  | some read =>
      obtain ⟨o, rest⟩ := read
      have last : '.' ∉ rest := fun mem => none ((suffix_of_readOctet first).mem mem)
      cases rest with
      | nil => rfl
      | cons c rest =>
          have other : c ≠ '.' := fun same => last (same ▸ List.mem_cons_self)
          simp [other]

/-- A text that does not begin with a decimal digit is no text of octets. -/
lemma readOctets_of_stops {s : List Char} (stops : Stops 10 s) (n : Nat) :
    readOctets (n + 1) true s = none := by
  simp [readOctets, readSeparator, readOctet, readNumber_of_stops stops]

/-! ### Groups -/

/-- The digits of groups. -/
def groupDigits (groups : List UInt16) : List (List Char) :=
  groups.map fun g => Digits.text 16 g.toNat

/-- Groups are written with colons and digits. -/
lemma mem_groups {first : Bool} {groups : List UInt16} {c : Char}
    (mem : c ∈ separated ':' first (groupDigits groups)) : c = ':' ∨ isDigit 16 c = true := by
  rcases mem_separated mem with same | ⟨ds, hds, inside⟩
  · exact .inl same
  · obtain ⟨g, -, rfl⟩ := List.mem_map.1 hds
    exact .inr (isDigit_of_mem_text (by decide) (by decide) inside)

/-- The text of groups, without an end, is that of separated digits. -/
lemma groupsText_eq_separated (groups : List UInt16) :
    groupsText groups = separated ':' true (groupDigits groups) :=
  join_eq_separated ':' _

/-- Compressed groups are written with colons and digits. -/
lemma mem_compressed {groups : List UInt16} {c : Char} (mem : c ∈ compressed groups) :
    c = ':' ∨ isDigit 16 c = true := by
  simp only [compressed, groupsText_eq_separated] at mem
  split_ifs at mem
  · exact mem_groups mem
  · simp only [List.mem_append, List.mem_cons, List.not_mem_nil, or_false, or_self] at mem
    rcases mem with (front | mark) | back
    · exact mem_groups front
    · exact .inl mark
    · exact mem_groups back

/-- A dot is neither a colon nor a digit. -/
lemma not_dot {c : Char} (written : c = ':' ∨ isDigit 16 c = true) : '.' ≠ c := by
  rintro rfl
  exact absurd written (by decide)

/-- Where groups end: at the end of the text, or at the mark for left out zeros. -/
def Ended (rest : List Char) : Prop :=
  rest = [] ∨ ∃ after, rest = ':' :: ':' :: after

/-- An end stops a number. -/
lemma Ended.stops {rest : List Char} (ended : Ended rest) : Stops 16 rest := by
  rcases ended with rfl | ⟨after, rfl⟩
  · exact stops_nil 16
  · exact stops_cons (by decide) _

/-- What follows the separator that is due at an end stops a number too. -/
lemma Ended.stops_of_separator {first : Bool} {rest s : List Char} (ended : Ended rest)
    (separator : readSeparator ':' first rest = some s) : Stops 16 s := by
  cases first with
  | true =>
      obtain rfl : rest = s := by simpa [readSeparator] using separator
      exact ended.stops
  | false =>
      rcases ended with rfl | ⟨after, rfl⟩
      · exact absurd separator (by simp [readSeparator])
      · obtain rfl : ':' :: after = s := by simpa [readSeparator] using separator
        exact stops_cons (by decide) _

/-- No group is read at an end. -/
lemma readGroups_ended {rest : List Char} (ended : Ended rest) (limit : Nat) (first : Bool) :
    readGroups limit first rest = ([], false, rest) := by
  cases limit with
  | zero => rfl
  | succ limit =>
      have quad : (readSeparator ':' first rest).bind (readOctets 4 true) = none := by
        rw [Option.bind_eq_none_iff]
        intro s separator
        exact readOctets_of_stops ((ended.stops_of_separator separator).mono (by decide)) 3
      have number : (readSeparator ':' first rest).bind (readNumber 16 4 true) = none := by
        rw [Option.bind_eq_none_iff]
        intro s separator
        exact readNumber_of_stops (ended.stops_of_separator separator)
      simp [readGroups, quad, number]

/-- Groups with colons between them are read off the front, up to the end. -/
lemma readGroups_separated (groups : List UInt16) {limit : Nat} (room : groups.length ≤ limit)
    (first : Bool) {rest : List Char} (ended : Ended rest) (none : '.' ∉ rest) :
    readGroups limit first (separated ':' first (groupDigits groups) ++ rest) =
      (groups, false, rest) := by
  induction groups generalizing limit first with
  | nil => exact readGroups_ended ended limit first
  | cons g groups ih =>
      obtain ⟨limit, rfl⟩ := Nat.exists_eq_add_of_le' (Nat.le_trans (Nat.le_add_left 1 _) room)
      have digits : groupDigits (g :: groups) = Digits.text 16 g.toNat :: groupDigits groups := rfl
      have separator := readSeparator_separated ':' first (Digits.text 16 g.toNat)
        (groupDigits groups) rest
      -- where two places are left a dotted quad is tried first, and fails for want of a dot
      have quad : readOctets 4 true
          (Digits.text 16 g.toNat ++ (separated ':' false (groupDigits groups) ++ rest)) =
            Option.none := by
        refine readOctets_of_no_dot ?_ 2
        have noDot : '.' ∉ separated ':' true (groupDigits (g :: groups)) :=
          fun mem => not_dot (mem_groups mem) rfl
        simp only [digits, separated, if_true, List.mem_append, not_or] at noDot
        simp only [List.mem_append, not_or]
        exact ⟨noDot.1, noDot.2, none⟩
      have short : (Digits.text 16 g.toNat).length ≤ 3 + 1 := length_text_le (by decide) g.toNat_lt
      have number := readNumber_text (by decide) (by decide) true short
        (stops_separated (by decide : isDigit 16 ':' = false) (groupDigits groups) ended.stops)
      rw [digits, readGroups, separator]
      simp only [Option.bind_some, quad, number, ite_self,
        ih (Nat.le_of_succ_le_succ room) false, UInt16.ofNat_toNat]

/-! ### Left out zeros -/

/-- Leading zeros lead. -/
lemma eq_leadingZeros_append (groups : List UInt16) :
    groups =
      List.replicate (leadingZeros groups) 0 ++ groups.drop (leadingZeros groups) := by
  induction groups with
  | nil => rfl
  | cons g groups ih =>
      by_cases zero : g = 0
      · rw [leadingZeros, if_pos zero, List.replicate_succ, List.drop_succ_cons, zero,
          List.cons_append, ← ih]
      · rw [leadingZeros, if_neg zero]
        rfl

/-- The longest run of zeros stands where it is said to, and is as long. -/
lemma longestZeros_spec (start : Nat) (groups : List UInt16) :
    ∃ front back, groups = front ++ List.replicate (longestZeros start groups).2 0 ++ back ∧
      (longestZeros start groups).1 = start + front.length := by
  induction groups generalizing start with
  | nil => exact ⟨[], [], rfl, rfl⟩
  | cons g groups ih =>
      simp only [longestZeros]
      split_ifs
      · exact ⟨[], _, eq_leadingZeros_append (g :: groups), rfl⟩
      · obtain ⟨front, back, parts, place⟩ := ih (start + 1)
        refine ⟨g :: front, back, congrArg (List.cons g) parts, ?_⟩
        rw [place, List.length_cons]
        omega

/-- The compressed text of eight groups reads back as them. -/
lemma readV6_compressed {groups : List UInt16} (eight : groups.length = 8) :
    readV6 (compressed groups) = some (groups, []) := by
  simp only [compressed]
  split_ifs with few
  · -- nothing is left out: all eight groups are read in one go
    have read := readGroups_separated groups (Nat.le_of_eq eight) true (.inl rfl) nofun
    rw [List.append_nil, ← groupsText_eq_separated] at read
    simp [readV6, read, eight]
  · -- the groups before the mark and those after it leave just the zeros between them
    obtain ⟨front, back, parts, place⟩ := longestZeros_spec 0 groups
    set zeros := (longestZeros 0 groups).2 with many
    rw [Nat.zero_add] at place
    have total : front.length + zeros + back.length = 8 := by
      rw [← eight, parts]
      simp [Nat.add_assoc]
    have before : groups.take (longestZeros 0 groups).1 = front := by
      rw [place, parts, List.append_assoc, List.take_left]
    have after : groups.drop ((longestZeros 0 groups).1 + zeros) = back := by
      rw [place, parts]
      exact List.drop_left' (by simp)
    rw [before, after, groupsText_eq_separated, groupsText_eq_separated]
    have mark : Ended ([':', ':'] ++ separated ':' true (groupDigits back)) := .inr ⟨_, rfl⟩
    have readFront := readGroups_separated front (by omega : front.length ≤ 8) true mark
      (by simpa using fun mem => not_dot (mem_groups mem) rfl)
    have readBack := readGroups_separated back (by omega : back.length ≤ 7 - front.length) true
      (.inl rfl) nofun
    rw [List.append_nil] at readBack
    rw [List.append_assoc, readV6, readFront]
    have fewer : front.length ≠ 8 := by omega
    have left : 8 - front.length - back.length = zeros := by omega
    simp [fewer, readBack, left, ← parts]

/-! ### Dotted tails -/

/-- The groups that map four octets are fixed but for the last two. -/
lemma eq_of_mapped? {groups : List UInt16} {octets : List UInt8}
    (mapped : mapped? groups = some octets) :
    ∃ hi lo, groups = [0, 0, 0, 0, 0, 0xffff, hi, lo] ∧
      octets = [(hi >>> 8).toUInt8, hi.toUInt8, (lo >>> 8).toUInt8, lo.toUInt8] := by
  unfold mapped? at mapped
  split at mapped
  · exact ⟨_, _, rfl, (Option.some.inj mapped).symm⟩
  · cases mapped

/-- A group consists of its two octets. -/
lemma octets_of_group (g : UInt16) :
    (g >>> 8).toUInt8.toUInt16 <<< 8 ||| g.toUInt8.toUInt16 = g := by
  have small : g.toNat < 65536 := g.toNat_lt
  have high : g.toNat >>> 8 % 256 = g.toNat / 256 := by
    rw [Nat.shiftRight_eq_div_pow]
    omega
  have room : (g.toNat / 256) <<< 8 < 65536 := by
    rw [Nat.shiftLeft_eq]
    omega
  have parts : (g.toNat / 256) <<< 8 ||| g.toNat % 256 = g.toNat := by
    rw [← Nat.shiftLeft_add_eq_or_of_lt (b := g.toNat % 256) (i := 8) (by omega),
      Nat.shiftLeft_eq]
    omega
  refine UInt16.toNat_inj.1 ?_
  simpa [high, Nat.mod_eq_of_lt room] using parts

/-- A group and a dotted tail are read as three groups, where there is room for seven. -/
lemma readGroups_tail {octets : List UInt8} (four : octets.length = 4) :
    readGroups 7 true ("ffff:".toList ++ dotted octets) =
      (0xffff :: groupsOfOctets octets, true, []) := by
  have quad : readOctets 4 true (dotted octets) = some (octets, []) :=
    four ▸ readOctets_dotted octets
  have noQuad : readOctets 4 true ("ffff:".toList ++ dotted octets) = none :=
    readOctets_of_stops (stops_cons (by decide) _) 3
  have first : readNumber 16 4 true ("ffff:".toList ++ dotted octets) =
      some (0xffff, ':' :: dotted octets) := by
    have digits : Digits.text 16 0xffff = "ffff".toList := by decide +kernel
    have short : (Digits.text 16 0xffff).length ≤ 4 := by decide +kernel
    have read := readNumber_text (by decide) (by decide) true short
      (stops_cons (by decide) (dotted octets) : Stops 16 (':' :: dotted octets))
    rwa [digits] at read
  have tail : readGroups 6 false (':' :: dotted octets) =
      (groupsOfOctets octets, true, []) := by
    simp [readGroups, readSeparator, quad]
  have separator (rest : List Char) : readSeparator ':' true rest = some rest := rfl
  rw [readGroups, separator]
  simp only [Option.bind_some, noQuad, first, tail]
  rfl

/-- The text of eight groups that end in a dotted tail reads back as them. -/
lemma readV6_mapped {groups : List UInt16} {octets : List UInt8}
    (mapped : mapped? groups = some octets) :
    readV6 ("::ffff:".toList ++ dotted octets) = some (groups, []) := by
  obtain ⟨hi, lo, rfl, parts⟩ := eq_of_mapped? mapped
  have front : readGroups 8 true ("::ffff:".toList ++ dotted octets) =
      ([], false, ':' :: ':' :: ("ffff:".toList ++ dotted octets)) :=
    readGroups_ended (.inr ⟨"ffff:".toList ++ dotted octets, rfl⟩) 8 true
  have four : octets.length = 4 := by rw [parts]; rfl
  have back := readGroups_tail four
  have filled : groupsOfOctets octets = [hi, lo] := by
    rw [parts, groupsOfOctets, octets_of_group, octets_of_group]
  rw [readV6, front]
  simp only [List.length_nil, Nat.sub_zero, back, filled]
  rfl

/-! ### Addresses -/

/-- The canonical text consists of dots, colons and digits. -/
lemma mem_chars {a : Address} {c : Char} (mem : c ∈ a.chars) :
    c = '.' ∨ c = ':' ∨ isDigit 16 c = true := by
  cases a with
  | v4 octets => exact (mem_dotted mem).imp_right .inr
  | v6 groups =>
      simp only [chars] at mem
      split at mem
      · have fixed : ("::ffff:".toList.all fun c => c = ':' ∨ isDigit 16 c = true) = true := by decide
        rcases List.mem_append.1 mem with front | tail
        · exact .inr (of_decide_eq_true (List.all_eq_true.1 fixed c front))
        · exact (mem_dotted tail).imp_right .inr
      · exact .inr (mem_compressed mem)

/-- An address is read back from its canonical text. -/
theorem ofChars?_chars (a : Address) : ofChars? a.chars = some a := by
  cases a with
  | v4 octets =>
      have read := readOctets_dotted octets.toList
      rw [Vector.length_toList] at read
      have back : ofOctets? octets.toList = some (v4 octets) := by simp [ofOctets?, Vector.toList]
      simp [ofChars?, chars, read, back]
  | v6 groups =>
      have eight : groups.toList.length = 8 := Vector.length_toList
      have back : ofGroups? groups.toList = some (v6 groups) := by simp [ofGroups?, Vector.toList]
      cases mapped : mapped? groups.toList with
      | some octets =>
          have colon : Stops 10 ("::ffff:".toList ++ dotted octets) := stops_cons (by decide) _
          simp only [ofChars?, chars, mapped, readOctets_of_stops colon, readV6_mapped mapped, back]
      | none =>
          have noDot : '.' ∉ compressed groups.toList := fun mem => not_dot (mem_compressed mem) rfl
          simp only [ofChars?, chars, mapped, readOctets_of_no_dot noDot,
            readV6_compressed eight, back]

end FloatingIp.Net.Address
