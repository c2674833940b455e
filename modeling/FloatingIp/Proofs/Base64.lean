import FloatingIp.Base64
import FloatingIp.Proofs.Except
import FloatingIp.Proofs.Text.Utf8
import Mathlib.Data.List.Basic
import Mathlib.Tactic.Lemma

/-!
# Base64 read back

Three bytes are four values of six bits, and a group that is not full has fewer of them, the last
with its spare bits zero.  Seen from the values, encoding and decoding a group are plain rewriting
in the two directions.  So a text is decoded to a byte string exactly if it is the encoding of that
byte string (`decode_eq_ok_iff`): each byte string has one text, and each text that is not refused
comes from one byte string.
-/

namespace FloatingIp.Base64

/-! ### Symbols -/

/-- A symbol has its value. -/
lemma value?_symbol {v : Nat} (bound : v < 64) : value? (symbol v) = some v := by
  revert v
  decide

/-- Padding is no symbol. -/
lemma value?_pad : value? pad = none := by
  decide

/-- A symbol is not padding. -/
lemma symbol_ne_pad {v : Nat} (bound : v < 64) : symbol v ≠ pad := by
  intro same
  have value := value?_symbol bound
  rw [same, value?_pad] at value
  cases value

/-- A byte that has a value is its symbol. -/
lemma eq_symbol_of_value? {b : UInt8} {v : Nat} (value : value? b = some v) :
    v < 64 ∧ b = symbol v := by
  have all : ∀ n < 256, ((value? (UInt8.ofNat n)).all fun v =>
      decide (v < 64 ∧ UInt8.ofNat n = symbol v)) = true := by
    decide +kernel
  have this := all b.toNat b.toNat_lt
  rw [UInt8.ofNat_toNat, value] at this
  exact of_decide_eq_true this

/-! ### Groups -/

/-- The three bytes of four values. -/
def triple (v w x y : Nat) : List UInt8 :=
  [UInt8.ofNat (v * 4 + w / 16), UInt8.ofNat (w % 16 * 16 + x / 4), UInt8.ofNat (x % 4 * 64 + y)]

/-- A byte is given by its number. -/
lemma eq_ofNat {a : UInt8} {n : Nat} (number : n = a.toNat) : a = UInt8.ofNat n := by
  rw [number, UInt8.ofNat_toNat]

section

variable {v w x y : Nat} (hv : v < 64) (hw : w < 64)
include hv hw

/-- Three bytes are encoded as the symbols of their values. -/
lemma encode_triple (hx : x < 64) (hy : y < 64) (rest : List UInt8) :
    encode (triple v w x y ++ rest) =
      symbol v :: symbol w :: symbol x :: symbol y :: encode rest := by
  simp only [triple, List.cons_append, List.nil_append, encode, UInt8.toNat_ofNat',
    List.cons.injEq, and_true]
  refine ⟨?_, ?_, ?_, ?_⟩ <;> congr 1 <;> omega

/-- Two bytes are encoded as the symbols of three values and padding. -/
lemma encode_pair (hx : x < 64) (whole : x % 4 = 0) :
    encode [UInt8.ofNat (v * 4 + w / 16), UInt8.ofNat (w % 16 * 16 + x / 4)] =
      [symbol v, symbol w, symbol x, pad] := by
  simp only [encode, UInt8.toNat_ofNat', List.cons.injEq, and_true]
  refine ⟨?_, ?_, ?_⟩ <;> congr 1 <;> omega

/-- One byte is encoded as the symbols of two values and padding. -/
lemma encode_single (whole : w % 16 = 0) :
    encode [UInt8.ofNat (v * 4 + w / 16)] = [symbol v, symbol w, pad, pad] := by
  simp only [encode, UInt8.toNat_ofNat', List.cons.injEq, and_true]
  refine ⟨?_, ?_⟩ <;> congr 1 <;> omega

end

/-- A byte string has a last group of at most two bytes, and groups of three before it. -/
lemma bytes_induction {P : List UInt8 → Prop} (nil : P [])
    (single : ∀ v < 64, ∀ w < 64, w % 16 = 0 → P [UInt8.ofNat (v * 4 + w / 16)])
    (pair : ∀ v < 64, ∀ w < 64, ∀ x < 64, x % 4 = 0 →
      P [UInt8.ofNat (v * 4 + w / 16), UInt8.ofNat (w % 16 * 16 + x / 4)])
    (triple : ∀ v < 64, ∀ w < 64, ∀ x < 64, ∀ y < 64, ∀ rest, P rest →
      P (triple v w x y ++ rest)) (bytes : List UInt8) : P bytes := by
  induction bytes using encode.induct with
  | case1 => exact nil
  | case2 a =>
      have ha := a.toNat_lt
      have group := single (a.toNat / 4) (by omega) (a.toNat % 4 * 16) (by omega) (by omega)
      rwa [← eq_ofNat (by omega : _ = a.toNat)] at group
  | case3 a b =>
      have ha := a.toNat_lt
      have hb := b.toNat_lt
      have group := pair (a.toNat / 4) (by omega) (a.toNat % 4 * 16 + b.toNat / 16) (by omega)
        (b.toNat % 16 * 4) (by omega) (by omega)
      rwa [← eq_ofNat (by omega : _ = a.toNat), ← eq_ofNat (by omega : _ = b.toNat)] at group
  | case4 a b c rest ih =>
      have ha := a.toNat_lt
      have hb := b.toNat_lt
      have hc := c.toNat_lt
      have group := triple (a.toNat / 4) (by omega) (a.toNat % 4 * 16 + b.toNat / 16) (by omega)
        (b.toNat % 16 * 4 + c.toNat / 64) (by omega) (c.toNat % 64) (by omega) rest ih
      rw [Base64.triple, ← eq_ofNat (by omega : _ = a.toNat), ← eq_ofNat (by omega : _ = b.toNat),
        ← eq_ofNat (by omega : _ = c.toNat)] at group
      exact group

/-! ### Decoding what was encoded -/

/-- A byte that is a symbol is expected. -/
lemma expect_symbol (offset : Nat) {v : Nat} (bound : v < 64) :
    expect offset (symbol v) = .ok v := by
  rw [expect, value?_symbol bound]

/-- A symbol in the last group is read, if no padding came before. -/
lemma lastSymbols_symbol (offset place : Nat) {v : Nat} (bound : v < 64) (rest : List UInt8) :
    lastSymbols offset place none (symbol v :: rest) =
      (lastSymbols offset (place + 1) none rest).map ((symbol v, v) :: ·) := by
  rw [lastSymbols.eq_def]
  dsimp only
  rw [if_neg (symbol_ne_pad bound), expect_symbol _ bound]
  rfl

/-- Padding is read from the third place on. -/
lemma lastSymbols_pad (offset : Nat) {place : Nat} (third : 2 ≤ place) (padAt : Option Nat)
    (rest : List UInt8) :
    lastSymbols offset place padAt (pad :: rest) =
      lastSymbols offset (place + 1) (padAt <|> some place) rest := by
  rw [lastSymbols.eq_def]
  dsimp only
  rw [if_pos rfl, if_neg (Nat.not_lt.mpr third)]

section

variable (offset : Nat) {v w x y : Nat} (hv : v < 64) (hw : w < 64)
include hv hw

/-- A last group of two symbols is one byte. -/
lemma decodeFrom_single (whole : w % 16 = 0) :
    decodeFrom offset [symbol v, symbol w, pad, pad] = .ok [UInt8.ofNat (v * 4 + w / 16)] := by
  have read : lastSymbols offset 0 none [symbol v, symbol w, pad, pad] =
      .ok [(symbol v, v), (symbol w, w)] := by
    rw [lastSymbols_symbol _ _ hv, lastSymbols_symbol _ _ hw, lastSymbols_pad _ (by omega),
      lastSymbols_pad _ (by omega)]
    rfl
  simp [decodeFrom, decodeLast, read, bind, Except.bind, whole]

/-- A last group of three symbols is two bytes. -/
lemma decodeFrom_pair (hx : x < 64) (whole : x % 4 = 0) :
    decodeFrom offset [symbol v, symbol w, symbol x, pad] =
      .ok [UInt8.ofNat (v * 4 + w / 16), UInt8.ofNat (w % 16 * 16 + x / 4)] := by
  have read : lastSymbols offset 0 none [symbol v, symbol w, symbol x, pad] =
      .ok [(symbol v, v), (symbol w, w), (symbol x, x)] := by
    rw [lastSymbols_symbol _ _ hv, lastSymbols_symbol _ _ hw, lastSymbols_symbol _ _ hx,
      lastSymbols_pad _ (by omega)]
    rfl
  simp [decodeFrom, decodeLast, read, bind, Except.bind, whole]

/-- A group of four symbols is three bytes, whether or not others follow. -/
lemma decodeFrom_triple (hx : x < 64) (hy : y < 64) (rest : List UInt8) :
    decodeFrom offset (symbol v :: symbol w :: symbol x :: symbol y :: rest) =
      (decodeFrom (offset + 4) rest).map (triple v w x y ++ ·) := by
  cases rest with
  | nil =>
      have read : lastSymbols offset 0 none [symbol v, symbol w, symbol x, symbol y] =
          .ok [(symbol v, v), (symbol w, w), (symbol x, x), (symbol y, y)] := by
        rw [lastSymbols_symbol _ _ hv, lastSymbols_symbol _ _ hw, lastSymbols_symbol _ _ hx,
          lastSymbols_symbol _ _ hy]
        rfl
      simp [decodeFrom, decodeLast, read, bind, Except.bind, Except.map, triple]
  | cons e rest =>
      rw [decodeFrom, expect_symbol _ hv, expect_symbol _ hw, expect_symbol _ hx,
        expect_symbol _ hy]
      rfl

end

/-- The symbols of a byte string are decoded to it. -/
lemma decodeFrom_encode (offset : Nat) (bytes : List UInt8) :
    decodeFrom offset (encode bytes) = .ok bytes := by
  induction bytes using bytes_induction generalizing offset with
  | nil => rfl
  | single v hv w hw whole => rw [encode_single hv hw whole, decodeFrom_single _ hv hw whole]
  | pair v hv w hw x hx whole =>
      rw [encode_pair hv hw hx whole, decodeFrom_pair _ hv hw hx whole]
  | triple v hv w hw x hx y hy rest ih =>
      rw [encode_triple hv hw hx hy, decodeFrom_triple _ hv hw hx hy, ih]
      rfl

/-- An encoding has full groups only. -/
lemma length_encode (bytes : List UInt8) : (encode bytes).length % 4 = 0 := by
  induction bytes using encode.induct with
  | case1 => rfl
  | case2 a => simp [encode]
  | case3 a b => simp [encode]
  | case4 a b c rest ih =>
      simp only [encode, List.length_cons]
      omega

/-- **What was encoded is decoded.** -/
theorem decode_encode (bytes : List UInt8) : decode (encode bytes) = .ok bytes := by
  have full : strayEnd? (encode bytes) = none := by
    unfold strayEnd?
    split
    · rw [length_encode]
      rfl
    · rfl
  rw [decode, full]
  exact decodeFrom_encode 0 bytes

/-! ### Encoding what was decoded -/

/-- A byte that was expected is the symbol of its value. -/
lemma eq_symbol_of_expect {offset : Nat} {b : UInt8} {v : Nat} (read : expect offset b = .ok v) :
    v < 64 ∧ b = symbol v := by
  unfold expect at read
  split at read
  · rename_i value
    cases read
    exact eq_symbol_of_value? value
  · cases read

/-- What the last group consists of: symbols, and then padding, which begins at the third place or
later and ends the symbols. -/
lemma eq_of_lastSymbols {offset place : Nat} {padAt : Option Nat} {group : List UInt8}
    {found : List (UInt8 × Nat)} (read : lastSymbols offset place padAt group = .ok found) :
    ∃ k, group = found.map (fun s => symbol s.2) ++ List.replicate k pad ∧
      (∀ s ∈ found, s.2 < 64) ∧ (padAt ≠ none → found = []) ∧
      (0 < k → 2 ≤ place + found.length) := by
  induction group generalizing place padAt found with
  | nil =>
      cases read
      exact ⟨0, rfl, nofun, fun _ => rfl, nofun⟩
  | cons b rest ih =>
      rw [lastSymbols.eq_def] at read
      dsimp only at read
      split_ifs at read with padding early
      · obtain ⟨k, split, bounds, ended, -⟩ := ih read
        cases ended (by cases padAt <;> nofun)
        refine ⟨k + 1, ?_, nofun, fun _ => rfl, fun _ => Nat.le_of_not_lt early⟩
        rw [padding, split]
        rfl
      · cases padAt with
        | some p => cases read
        | none =>
            obtain ⟨v, value, read⟩ := bind_eq_ok.mp read
            obtain ⟨vs, others, same⟩ := bind_eq_ok.mp read
            cases same
            obtain ⟨bound, rfl⟩ := eq_symbol_of_expect value
            obtain ⟨k, rfl, bounds, -, third⟩ := ih others
            refine ⟨k, rfl, List.forall_mem_cons.mpr ⟨bound, bounds⟩, fun h => absurd rfl h, ?_⟩
            intro positive
            rw [List.length_cons]
            have := third positive
            omega

/-- A last group that is decoded is the encoding of what it is decoded to. -/
lemma eq_encode_of_decodeLast {offset : Nat} {group bytes : List UInt8} (short : group.length ≤ 4)
    (read : decodeLast offset group = .ok bytes) : group = encode bytes := by
  unfold decodeLast at read
  split at read
  · rename_i none
    cases read
    rw [List.isEmpty_iff.mp none]
    rfl
  obtain ⟨found, symbols, read⟩ := bind_eq_ok.mp read
  obtain ⟨k, rfl, bounds, -, -⟩ := eq_of_lastSymbols symbols
  -- what is not full with symbols is full with padding
  split at read
  · simp only [List.map_cons, List.map_nil, List.length_append, List.length_cons,
      List.length_nil, List.length_replicate, List.forall_mem_cons] at read bounds
    split_ifs at read with full whole
    cases read
    obtain rfl : k = 2 := by omega
    exact (encode_single bounds.1 bounds.2.1 (by simpa using whole)).symm
  · simp only [List.map_cons, List.map_nil, List.length_append, List.length_cons,
      List.length_nil, List.length_replicate, List.forall_mem_cons] at read bounds
    split_ifs at read with full whole
    cases read
    obtain rfl : k = 1 := by omega
    exact (encode_pair bounds.1 bounds.2.1 bounds.2.2.1 (by simpa using whole)).symm
  · simp only [List.map_cons, List.map_nil, List.length_append, List.length_cons,
      List.length_nil, List.length_replicate, List.forall_mem_cons] at short bounds
    cases read
    obtain rfl : k = 0 := by omega
    exact (encode_triple bounds.1 bounds.2.1 bounds.2.2.1 bounds.2.2.2.1 []).symm
  · cases read

/-- A text that is decoded is the encoding of what it is decoded to. -/
lemma eq_encode_of_decodeFrom {offset : Nat} {text bytes : List UInt8}
    (read : decodeFrom offset text = .ok bytes) : text = encode bytes := by
  induction offset, text using decodeFrom.induct generalizing bytes with
  | case1 offset a b c d e rest ih =>
      rw [decodeFrom] at read
      obtain ⟨v, first, read⟩ := bind_eq_ok.mp read
      obtain ⟨w, second, read⟩ := bind_eq_ok.mp read
      obtain ⟨x, third, read⟩ := bind_eq_ok.mp read
      obtain ⟨y, fourth, read⟩ := bind_eq_ok.mp read
      obtain ⟨others, tail, same⟩ := bind_eq_ok.mp read
      cases same
      obtain ⟨hv, rfl⟩ := eq_symbol_of_expect first
      obtain ⟨hw, rfl⟩ := eq_symbol_of_expect second
      obtain ⟨hx, rfl⟩ := eq_symbol_of_expect third
      obtain ⟨hy, rfl⟩ := eq_symbol_of_expect fourth
      have group := encode_triple hv hw hx hy others
      rw [← ih tail] at group
      exact group.symm
  | case2 offset group short =>
      have few : group.length ≤ 4 := by
        rcases group with _ | ⟨a, _ | ⟨b, _ | ⟨c, _ | ⟨d, _ | ⟨e, rest⟩⟩⟩⟩⟩
        iterate 5 simp
        exact absurd rfl (short a b c d e rest)
      rw [decodeFrom.eq_2 _ _ short] at read
      exact eq_encode_of_decodeLast few read

/-- **A text that is decoded is the encoding of what it is decoded to.** -/
theorem eq_encode_of_decode {text bytes : List UInt8} (read : decode text = .ok bytes) :
    text = encode bytes := by
  unfold decode at read
  split at read
  · cases read
  · exact eq_encode_of_decodeFrom read

/-- **Exactly the encoding of a byte string is decoded to it.** -/
theorem decode_eq_ok_iff {text bytes : List UInt8} :
    decode text = .ok bytes ↔ text = encode bytes := by
  constructor
  · exact eq_encode_of_decode
  · rintro rfl
    exact decode_encode bytes

/-! ### Encodings as texts -/

/-- The encoding of a byte string, as a text. -/
def text (bytes : List UInt8) : String :=
  String.ofList ((encode bytes).map fun b => Char.ofNat b.toNat)

/-- An encoding consists of symbols and padding. -/
lemma of_mem_encode (bytes : List UInt8) :
    ∀ b ∈ encode bytes, b = pad ∨ ∃ v < 64, b = symbol v := by
  have isSymbol {v : Nat} (bound : v < 64) : symbol v = pad ∨ ∃ u < 64, symbol v = symbol u :=
    .inr ⟨v, bound, rfl⟩
  induction bytes using bytes_induction with
  | nil => nofun
  | single v hv w hw whole =>
      rw [encode_single hv hw whole]
      simp [isSymbol, hv, hw]
  | pair v hv w hw x hx whole =>
      rw [encode_pair hv hw hx whole]
      simp [isSymbol, hv, hw, hx]
  | triple v hv w hw x hx y hy rest ih =>
      rw [encode_triple hv hw hx hy]
      simpa [isSymbol, hv, hw, hx, hy] using ih

/-- An encoding is written in visible characters of ASCII, none of them a quote or a backslash. -/
lemma plain_encode {bytes : List UInt8} {b : UInt8} (mem : b ∈ encode bytes) :
    b.toNat < 0x80 ∧ 0x20 ≤ b.toNat ∧ b ≠ 0x22 ∧ b ≠ 0x5C := by
  rcases of_mem_encode bytes b mem with rfl | ⟨v, bound, rfl⟩
  · decide
  · clear mem
    revert v
    decide

/-- The bytes of the text are the encoding. -/
lemma utf8_text (bytes : List UInt8) : Text.Utf8.encode (text bytes).toList = encode bytes := by
  have ascii (b : UInt8) (mem : b ∈ encode bytes) : b.toNat < 0x80 := (plain_encode mem).1
  rw [text, String.toList_ofList]
  have number {b : UInt8} (mem : b ∈ encode bytes) : (Char.ofNat b.toNat).toNat = b.toNat := by
    have small := ascii b mem
    rw [Char.ofNat, dif_pos (.inl (by omega))]
    rfl
  rw [Text.Utf8.encode_of_ascii, List.map_map]
  · refine (List.map_congr_left fun b mem => ?_).trans (List.map_id _)
    rw [Function.comp_apply, number mem, UInt8.ofNat_toNat]
    rfl
  · intro c mem
    obtain ⟨b, inside, rfl⟩ := List.mem_map.mp mem
    rw [number inside]
    exact ascii b inside

/-- **A text is decoded exactly if it is the text of a byte string.** -/
theorem decode_utf8_eq_ok_iff {s : String} {bytes : List UInt8} :
    decode (Text.Utf8.encode s.toList) = .ok bytes ↔ s = text bytes := by
  rw [decode_eq_ok_iff, ← utf8_text]
  constructor
  · intro same
    exact String.toList_inj.mp (Text.Utf8.encode_injective same)
  · rintro rfl
    rfl

end FloatingIp.Base64
