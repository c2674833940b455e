import FloatingIp.Json.Token
import FloatingIp.Proofs.Text.Utf8
import Mathlib.Data.List.Chain
import Mathlib.Data.List.TakeWhile
import Mathlib.Tactic.IntervalCases

/-!
# How JSON tokens are written

A token can be written in more than one way: the characters of a string may be escaped, an exponent
may have either letter, and blanks may stand before and behind any token.  `Token.Spells` says how
single tokens are written and `Laid` how a list of them is laid out as a text.

However they are written, the tokens of a text are read (`list_of_laid`), if only no two numerals
stand next to each other.
-/

namespace FloatingIp.Json

/-! ### Numerals -/

/-- The bytes of decimal digits. -/
def digitBytes (ds : List Nat) : List UInt8 :=
  ds.map fun d => UInt8.ofNat (d + 48)

/-- How a fraction is written. -/
def fractionBytes (ds : List Nat) : List UInt8 :=
  if ds = [] then [] else 0x2E :: digitBytes ds

/-- How the sign of an exponent is written: a plus may be left out. -/
inductive SpellsSign : Bool → List UInt8 → Prop where
  | bare : SpellsSign false []
  | plus : SpellsSign false [0x2B]
  | minus : SpellsSign true [0x2D]

/-- How an exponent is written. -/
inductive SpellsExponent : Option (Bool × List Nat) → List UInt8 → Prop where
  | none : SpellsExponent none []
  | some {letter : UInt8} {down : Bool} {sign : List UInt8} {ds : List Nat}
      (either : letter = 0x65 ∨ letter = 0x45) (signed : SpellsSign down sign) (digit : ds ≠ [])
      (digits : ∀ d ∈ ds, d < 10) : SpellsExponent (some (down, ds)) (letter :: sign ++ digitBytes ds)

/-- How a numeral is written. -/
structure Numeral.Spells (n : Numeral) (bytes : List UInt8) : Prop where
  /-- There is a digit before the point, and a zero stands alone. -/
  whole : n.whole ≠ [] ∧ (n.whole.head? = some 0 → n.whole.length = 1)
  /-- Digits are decimal. -/
  digits : ∀ d ∈ n.whole ++ n.fraction, d < 10
  /-- The parts follow each other. -/
  parts : ∃ exponent, SpellsExponent n.exponent exponent ∧
    bytes = (if n.negative then [0x2D] else []) ++ digitBytes n.whole ++
      fractionBytes n.fraction ++ exponent

/-! ### Strings -/

/-- The letters that stand behind a backslash, and the bytes that they stand for. -/
def escapes : List (UInt8 × UInt8) :=
  [(0x22, 0x22), (0x5C, 0x5C), (0x2F, 0x2F), (0x62, 8), (0x66, 12), (0x6E, 10), (0x72, 13),
    (0x74, 9)]

/-- How a piece of a string is written. -/
inductive Piece.Spells : Piece → List UInt8 → Prop where
  | plain {b : UInt8} (visible : 0x20 ≤ b.toNat) (quote : b ≠ 0x22) (backslash : b ≠ 0x5C) :
      Spells (.byte b) [b]
  | escaped {letter b : UInt8} (escape : (letter, b) ∈ escapes) : Spells (.byte b) [0x5C, letter]
  | unit {a b c d : UInt8} {i j k l : Nat} (first : Token.hex? a = some i)
      (second : Token.hex? b = some j) (third : Token.hex? c = some k)
      (fourth : Token.hex? d = some l) :
      Spells (.unit (((i * 16 + j) * 16 + k) * 16 + l)) [0x5C, 0x75, a, b, c, d]

/-- How the content of a string is written. -/
inductive SpellsContent : List Piece → List UInt8 → Prop where
  | nil : SpellsContent [] []
  | cons {p : Piece} {ps : List Piece} {word bytes : List UInt8} (first : p.Spells word)
      (others : SpellsContent ps bytes) : SpellsContent (p :: ps) (word ++ bytes)

/-! ### Tokens -/

/-- How a token is written. -/
inductive Token.Spells : Token → List UInt8 → Prop where
  | listOpen : Spells .listOpen [0x5B]
  | listClose : Spells .listClose [0x5D]
  | mapOpen : Spells .mapOpen [0x7B]
  | mapClose : Spells .mapClose [0x7D]
  | comma : Spells .comma [0x2C]
  | colon : Spells .colon [0x3A]
  | null : Spells .null [0x6E, 0x75, 0x6C, 0x6C]
  | true : Spells (.flag true) [0x74, 0x72, 0x75, 0x65]
  | false : Spells (.flag false) [0x66, 0x61, 0x6C, 0x73, 0x65]
  | number {n : Numeral} {bytes : List UInt8} (spells : n.Spells bytes) : Spells (.number n) bytes
  | string {ps : List Piece} {bytes : List UInt8} (content : SpellsContent ps bytes) :
      Spells (.string ps) (0x22 :: bytes ++ [0x22])

/-- How tokens are laid out as a text: blanks may stand around them. -/
inductive Laid : List Token → List UInt8 → Prop where
  | done {blanks : List UInt8} (blank : ∀ b ∈ blanks, Token.isBlank b = true) : Laid [] blanks
  | token {blanks word bytes : List UInt8} {t : Token} {ts : List Token}
      (blank : ∀ b ∈ blanks, Token.isBlank b = true) (first : t.Spells word)
      (others : Laid ts bytes) : Laid (t :: ts) (blanks ++ word ++ bytes)

/-- A token stands right before others. -/
lemma Laid.next {word bytes : List UInt8} {t : Token} {ts : List Token} (first : t.Spells word)
    (others : Laid ts bytes) : Laid (t :: ts) (word ++ bytes) :=
  .token (List.forall_mem_nil _) first others

/-- A text may be given in parts. -/
lemma Laid.of_eq {ts : List Token} {bytes body : List UInt8} (laid : Laid ts bytes)
    (same : body = bytes) : Laid ts body :=
  same ▸ laid

/-- Bytes that need no escape may be written as they stand. -/
lemma spellsContent_plain {bytes : List UInt8}
    (plain : ∀ b ∈ bytes, 0x20 ≤ b.toNat ∧ b ≠ 0x22 ∧ b ≠ 0x5C) :
    SpellsContent (bytes.map .byte) bytes := by
  induction bytes with
  | nil => exact .nil
  | cons b bytes ih =>
      obtain ⟨⟨visible, quote, backslash⟩, others⟩ := List.forall_mem_cons.mp plain
      exact .cons (.plain visible quote backslash) (ih others)

/-! ### Reading numerals -/

namespace Token

/-- What follows cannot be taken for more digits. -/
def NoDigit (rest : List UInt8) : Prop :=
  ∀ b ∈ rest.head?, isDigit b = false

/-- What follows cannot be taken for more of a numeral. -/
def NoNumeral (rest : List UInt8) : Prop :=
  ∀ b ∈ rest.head?, isDigit b = false ∧ b ≠ 0x2E ∧ b ≠ 0x65 ∧ b ≠ 0x45

/-- The number of a decimal digit. -/
lemma toNat_digit {d : Nat} (bound : d < 10) : (UInt8.ofNat (d + 48)).toNat = d + 48 := by
  rw [UInt8.toNat_ofNat']
  omega

/-- The byte of a decimal digit is one. -/
lemma isDigit_digit {d : Nat} (bound : d < 10) : isDigit (UInt8.ofNat (d + 48)) = true := by
  rw [isDigit, toNat_digit bound]
  simp only [Bool.and_eq_true, decide_eq_true_eq]
  omega

/-- Digits are read up to what follows them. -/
lemma digits_append {ds : List Nat} (decimal : ∀ d ∈ ds, d < 10) {rest : List UInt8}
    (ends : NoDigit rest) :
    digits (digitBytes ds ++ rest) = ds ∧ afterDigits (digitBytes ds ++ rest) = rest := by
  have all : ∀ b ∈ digitBytes ds, isDigit b = true := by
    intro b mem
    obtain ⟨d, inside, rfl⟩ := List.mem_map.mp mem
    exact isDigit_digit (decimal d inside)
  have stops : rest.takeWhile isDigit = [] ∧ rest.dropWhile isDigit = rest := by
    cases rest with
    | nil => exact ⟨rfl, rfl⟩
    | cons b rest => simp [ends b rfl]
  constructor
  · rw [digits, List.takeWhile_append_of_pos all, stops.1, List.append_nil, digitBytes,
      List.map_map]
    refine (List.map_congr_left fun d inside => ?_).trans (List.map_id ds)
    rw [Function.comp_apply, toNat_digit (decimal d inside)]
    rfl
  · rw [afterDigits, List.dropWhile_append_of_pos all, stops.2]

/-- The digits before the point are read. -/
lemma wholeDigits?_append {ds : List Nat} (whole : ds ≠ [] ∧ (ds.head? = some 0 → ds.length = 1))
    (decimal : ∀ d ∈ ds, d < 10) {rest : List UInt8} (ends : NoDigit rest) :
    wholeDigits? (digitBytes ds ++ rest) = some (ds, rest) := by
  obtain ⟨read, left⟩ := digits_append decimal ends
  have fits : ¬(ds.isEmpty || (ds.head? == some 0 && ds.length > 1)) = true := by
    simp only [Bool.or_eq_true, List.isEmpty_iff, Bool.and_eq_true, beq_iff_eq, decide_eq_true_eq,
      not_or, not_and, gt_iff_lt, Nat.not_lt]
    exact ⟨whole.1, fun zero => Nat.le_of_eq (whole.2 zero)⟩
  rw [wholeDigits?, read, left]
  exact if_neg fits

/-- What is no more of a numeral begins with no digit. -/
lemma NoNumeral.noDigit {rest : List UInt8} (ends : NoNumeral rest) : NoDigit rest :=
  fun b head => (ends b head).1

/-- A byte in front that is no digit ends digits. -/
lemma noDigit_cons {b : UInt8} (other : isDigit b = false) (rest : List UInt8) :
    NoDigit (b :: rest) := by
  rintro _ ⟨⟩
  exact other

/-- A fraction is read, if what follows is not more of it. -/
lemma fractionDigits?_append {ds : List Nat} (decimal : ∀ d ∈ ds, d < 10) {rest : List UInt8}
    (ends : NoDigit rest) (noPoint : ∀ b ∈ rest.head?, b ≠ 0x2E) :
    fractionDigits? (fractionBytes ds ++ rest) = some (ds, rest) := by
  by_cases none : ds = []
  · rw [none, fractionBytes, if_pos rfl, List.nil_append]
    unfold fractionDigits?
    split
    · exact absurd rfl (noPoint _ rfl)
    · rfl
  · obtain ⟨read, left⟩ := digits_append decimal ends
    rw [fractionBytes, if_neg none, List.cons_append, fractionDigits?, read, left]
    exact if_neg (by simpa using none)

/-- The sign of an exponent is read. -/
lemma exponentSign_append {down : Bool} {sign : List UInt8} (signed : SpellsSign down sign)
    {ds : List Nat} (digit : ds ≠ []) (decimal : ∀ d ∈ ds, d < 10) (rest : List UInt8) :
    exponentSign (sign ++ (digitBytes ds ++ rest)) = (down, digitBytes ds ++ rest) := by
  cases signed with
  | bare =>
      cases ds with
      | nil => exact absurd rfl digit
      | cons d ds =>
          have number := toNat_digit (decimal d (.head ds))
          show exponentSign (UInt8.ofNat (d + 48) :: _) = _
          unfold exponentSign
          split
          · rename_i same
            rw [(List.cons.inj same).1] at number
            exact absurd number (by simp)
          · rename_i same
            rw [(List.cons.inj same).1] at number
            exact absurd number (by simp)
          · rfl
  | plus => rfl
  | minus => rfl

/-- An exponent is read, if what follows is not more of it. -/
lemma exponentDigits?_append {exponent : Option (Bool × List Nat)} {bytes : List UInt8}
    (spells : SpellsExponent exponent bytes) {rest : List UInt8} (ends : NoNumeral rest) :
    exponentDigits? (bytes ++ rest) = some (exponent, rest) := by
  cases spells with
  | none =>
      rw [List.nil_append]
      cases rest with
      | nil => rfl
      | cons b rest =>
          obtain ⟨-, -, small, capital⟩ := ends b rfl
          exact if_neg (not_or.mpr ⟨small, capital⟩)
  | some either signed digit decimal =>
      rename_i letter down sign ds
      obtain ⟨read, left⟩ := digits_append decimal ends.noDigit
      rw [List.cons_append, List.cons_append, List.append_assoc, exponentDigits?, if_pos either,
        exponentSign_append signed digit decimal]
      dsimp only
      rw [read, left]
      exact if_neg (by simpa using digit)

/-- An exponent is no more of a fraction. -/
lemma noDigit_of_spellsExponent {exponent : Option (Bool × List Nat)} {bytes : List UInt8}
    (spells : SpellsExponent exponent bytes) {rest : List UInt8} (ends : NoNumeral rest) :
    NoDigit (bytes ++ rest) ∧ ∀ b ∈ (bytes ++ rest).head?, b ≠ 0x2E := by
  cases spells with
  | none => exact ⟨ends.noDigit, fun b head => (ends b head).2.1⟩
  | some either _ _ _ =>
      rcases either with rfl | rfl
      · exact ⟨noDigit_cons (by decide) _, by rintro _ ⟨⟩; decide⟩
      · exact ⟨noDigit_cons (by decide) _, by rintro _ ⟨⟩; decide⟩

/-- A numeral is read behind its sign. -/
lemma unsigned?_append {n : Numeral} {exponent : List UInt8}
    (whole : n.whole ≠ [] ∧ (n.whole.head? = some 0 → n.whole.length = 1))
    (decimal : ∀ d ∈ n.whole ++ n.fraction, d < 10) (spells : SpellsExponent n.exponent exponent)
    {rest : List UInt8} (ends : NoNumeral rest) :
    unsigned? n.negative (digitBytes n.whole ++ (fractionBytes n.fraction ++ (exponent ++ rest))) =
      some (.number n, rest) := by
  rw [List.forall_mem_append] at decimal
  obtain ⟨noDigit, noPoint⟩ := noDigit_of_spellsExponent spells ends
  have noMore : NoDigit (fractionBytes n.fraction ++ (exponent ++ rest)) := by
    unfold fractionBytes
    split
    · exact noDigit
    · exact noDigit_cons (by decide) _
  simp only [unsigned?, wholeDigits?_append whole decimal.1 noMore, Option.bind_eq_bind,
    Option.bind_some, fractionDigits?_append decimal.2 noDigit noPoint,
    exponentDigits?_append spells ends]

/-! ### Reading strings -/

/-- A letter behind a backslash is read as what it stands for. -/
lemma escaped?_of_mem {letter b : UInt8} (escape : (letter, b) ∈ escapes) :
    letter ≠ 0x75 ∧ escaped? letter = some b := by
  have all : escapes.all (fun e => e.1 ≠ 0x75 ∧ escaped? e.1 = some e.2) = true := by
    decide
  exact of_decide_eq_true (List.all_eq_true.mp all _ escape)

/-- A piece of a string is read. -/
lemma pieces_append {p : Piece} {word : List UInt8} (spells : p.Spells word) (rest : List UInt8) :
    pieces (word ++ rest) = (pieces rest).map fun (ps, rest) => (p :: ps, rest) := by
  cases spells with
  | plain visible quote backslash =>
      rw [List.singleton_append, pieces.eq_def]
      dsimp only
      rw [if_neg quote, if_neg backslash, if_neg (Nat.not_lt.mpr visible)]
      cases pieces rest <;> rfl
  | escaped escape =>
      obtain ⟨other, stands⟩ := escaped?_of_mem escape
      simp only [List.cons_append, List.nil_append]
      rw [pieces.eq_def]
      dsimp only
      rw [if_neg (by decide), if_pos rfl]
      split
      · rename_i same
        exact absurd (List.cons.inj same).1 other
      · rename_i same
        obtain ⟨rfl, rfl⟩ := List.cons.inj same
        rw [stands]
        cases pieces rest <;> rfl
      · rename_i same
        cases same
  | unit first second third fourth =>
      simp only [List.cons_append, List.nil_append]
      rw [pieces.eq_def]
      dsimp only
      rw [if_neg (by decide), if_pos rfl]
      split
      · rename_i same
        cases same
        rw [first, second, third, fourth]
        cases pieces rest <;> rfl
      · rename_i short same
        obtain ⟨rfl, rfl⟩ := List.cons.inj same
        exact absurd rfl (short _ _ _ _ _ rfl)
      · rename_i same
        cases same

/-- The content of a string is read up to the closing quote. -/
lemma pieces_content {ps : List Piece} {bytes : List UInt8} (content : SpellsContent ps bytes)
    (rest : List UInt8) : pieces (bytes ++ 0x22 :: rest) = some (ps, rest) := by
  induction content with
  | nil =>
      rw [List.nil_append, pieces.eq_def]
      rfl
  | cons first others ih =>
      rw [List.append_assoc, pieces_append first, ih]
      rfl

/-! ### Reading tokens -/

/-- A numeral without a sign begins with a digit. -/
lemma first?_digit {d : Nat} (bound : d < 10) (rest : List UInt8) :
    first? (UInt8.ofNat (d + 48) :: rest) = unsigned? false (UInt8.ofNat (d + 48) :: rest) := by
  interval_cases d <;> rfl

/-- A token is read, if what follows a numeral is not more of it. -/
lemma first?_append {t : Token} {word : List UInt8} (spells : t.Spells word) {rest : List UInt8}
    (ends : ∀ n, t = .number n → NoNumeral rest) : first? (word ++ rest) = some (t, rest) := by
  cases spells with
  | number spells =>
      rename_i n
      obtain ⟨exponent, written, rfl⟩ := spells.parts
      have read := unsigned?_append spells.whole spells.digits written (ends n rfl)
      simp only [List.append_assoc]
      split
      · rename_i negative
        rw [negative] at read
        exact read
      · rename_i positive
        rw [Bool.not_eq_true] at positive
        rw [positive] at read
        rw [List.nil_append]
        cases whole : n.whole with
        | nil => exact absurd whole spells.whole.1
        | cons d ds =>
            have bound := spells.digits d (List.mem_append_left _ (whole ▸ .head ds))
            rw [whole] at read
            exact (first?_digit bound _).trans read
  | string content =>
      rw [List.cons_append, List.cons_append, List.append_assoc, List.singleton_append]
      show (pieces _).map _ = _
      rw [pieces_content content]
      rfl
  | _ => rfl

/-- A digit is no blank. -/
lemma isBlank_digit {d : Nat} (bound : d < 10) : isBlank (UInt8.ofNat (d + 48)) = false := by
  interval_cases d <;> rfl

/-- A token begins with no blank, and if it is no numeral, with nothing that could go on with one. -/
lemma exists_head_of_spells {t : Token} {word : List UInt8} (spells : t.Spells word) :
    ∃ b rest, word = b :: rest ∧ isBlank b = false ∧
      ((∀ n, t ≠ .number n) → NoNumeral (b :: rest)) := by
  cases spells with
  | number spells =>
      rename_i n
      obtain ⟨exponent, -, rfl⟩ := spells.parts
      by_cases negative : n.negative = true
      · rw [if_pos negative]
        exact ⟨_, _, rfl, by decide, fun other => absurd rfl (other n)⟩
      · rw [if_neg negative]
        cases whole : n.whole with
        | nil => exact absurd whole spells.whole.1
        | cons d ds =>
            have bound := spells.digits d (List.mem_append_left _ (whole ▸ .head ds))
            exact ⟨_, _, rfl, isBlank_digit bound, fun other => absurd rfl (other n)⟩
  | _ =>
      refine ⟨_, _, rfl, by decide, fun _ => ?_⟩
      rintro _ ⟨⟩
      decide

/-- Whether a token is a numeral. -/
def isNumber : Token → Bool
  | .number _ => true
  | _ => false

/-- What is laid out behind a numeral, if not another one, cannot go on with it. -/
lemma noNumeral_of_laid {ts : List Token} {bytes : List UInt8} (laid : Laid ts bytes)
    (other : ∀ t ∈ ts.head?, t.isNumber = false) : NoNumeral bytes := by
  have ofBlank {b : UInt8} (blank : isBlank b = true) (rest : List UInt8) :
      NoNumeral (b :: rest) := by
    rintro _ ⟨⟩
    simp only [isBlank, Bool.or_eq_true, decide_eq_true_eq] at blank
    rcases blank with ((rfl | rfl) | rfl) | rfl <;> decide
  cases laid with
  | done blank =>
      cases bytes with
      | nil => nofun
      | cons b rest => exact ofBlank (blank b (.head rest)) rest
  | token blank first others =>
      rename_i blanks word bytes t ts
      cases blanks with
      | cons b rest => exact ofBlank (blank b (.head rest)) _
      | nil =>
          obtain ⟨b, rest, rfl, -, starts⟩ := exists_head_of_spells first
          refine starts fun n same => ?_
          have := other t rfl
          rw [same] at this
          cases this

/-- Tokens that are laid out are read, where no two numerals stand next to each other. -/
lemma listUpTo_of_laid {ts : List Token} {bytes : List UInt8} (laid : Laid ts bytes)
    (apart : ts.IsChain fun s t => s.isNumber = false ∨ t.isNumber = false) {most : Nat}
    (enough : bytes.length ≤ most) : listUpTo most bytes = ts := by
  induction laid generalizing most with
  | done blank =>
      cases most with
      | zero => rfl
      | succ most =>
          simp only [listUpTo, List.dropWhile_eq_nil_iff.mpr blank]
  | token blank first others ih =>
      rename_i blanks word bytes t ts
      obtain ⟨b, rest, rfl, solid, -⟩ := exists_head_of_spells first
      cases most with
      | zero => simp at enough
      | succ most =>
          have front : (blanks ++ b :: rest ++ bytes).dropWhile isBlank = b :: (rest ++ bytes) := by
            rw [List.append_assoc, List.dropWhile_append_of_pos blank]
            simp [solid]
          have ends (n : Numeral) (number : t = .number n) : NoNumeral bytes := by
            refine noNumeral_of_laid others fun u head => ?_
            have apart := (List.isChain_cons.mp apart).1 u head
            rw [number] at apart
            exact apart.resolve_left nofun
          have read : first? (b :: (rest ++ bytes)) = some (t, bytes) := first?_append first ends
          simp only [listUpTo, front, read]
          rw [ih ((List.isChain_cons.mp apart).2)]
          simp only [List.length_append, List.length_cons] at enough
          omega

/-- **Tokens are read however they are laid out**, where no two numerals stand next to each other. -/
theorem list_of_laid {ts : List Token} {bytes : List UInt8} (laid : Laid ts bytes)
    (apart : ts.IsChain fun s t => s.isNumber = false ∨ t.isNumber = false) :
    list bytes = ts :=
  listUpTo_of_laid laid apart (Nat.le_refl _)

end Token

end FloatingIp.Json
