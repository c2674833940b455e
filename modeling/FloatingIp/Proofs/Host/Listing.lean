import FloatingIp.Host.Listing
import FloatingIp.Proofs.Net.Address
import FloatingIp.Proofs.Text.Blank
import FloatingIp.Proofs.Text.Utf8
import FloatingIp.Vip
import Mathlib.Data.Finset.Basic

/-!
# Listings of a set of addresses

An interface carries a set of addresses, each with the prefix of its network.  A listing of the set
has a line for each member and no line for anything else; whether an address is in the set can be
read off any listing of it, because no two members have one text (`carries_iff`).

A text that names a list of addresses, a line for each, can be put together line by line, with
either kind of line ending.  It carries the text of a virtual IP exactly if the address with this
prefix is one of the list (`matches_exactly`): no other address is mistaken for it.
-/

namespace FloatingIp.Host

open Text (isBlank fields cut Parts)

/-! ### Addresses with their prefixes -/

/-- An address as an interface carries it, with the prefix of its network. -/
structure Assigned where
  /-- The address. -/
  address : Net.Address
  /-- Prefix length of the address's network. -/
  prefixLen : UInt8
  deriving DecidableEq

namespace Assigned

/-- The canonical text: the address, a slash and the prefix length. -/
def chars (p : Assigned) : List Char :=
  p.address.chars ++ '/' :: Digits.text 10 p.prefixLen.toNat

/-- The canonical text. -/
def cidr (p : Assigned) : String :=
  String.ofList p.chars

/-- Reads a text of an address, a slash and a prefix length. -/
def ofChars? (s : List Char) : Option Assigned :=
  match s.dropWhile (· ≠ '/') with
  | [] => none
  | _ :: digits => do
    let address ← Net.Address.ofChars? (s.takeWhile (· ≠ '/'))
    let n ← Digits.read? 10 digits
    if n < 256 then some ⟨address, UInt8.ofNat n⟩ else none

/-- No address is written with a slash. -/
lemma no_slash (a : Net.Address) : ∀ c ∈ a.chars, decide (c ≠ '/') = true := by
  intro c mem
  rw [decide_eq_true_eq]
  rintro rfl
  exact absurd (Net.Address.mem_chars mem) (by decide)

/-- The canonical text is read back. -/
theorem ofChars?_chars (p : Assigned) : ofChars? p.chars = some p := by
  have digits : Digits.read? 10 (Digits.text 10 p.prefixLen.toNat) = some p.prefixLen.toNat :=
    Digits.read?_text (by decide) (by decide) p.prefixLen.toNat
  have before : p.chars.takeWhile (· ≠ '/') = p.address.chars := by
    rw [chars, List.takeWhile_append_of_pos (no_slash p.address)]
    simp
  have after : p.chars.dropWhile (· ≠ '/') = '/' :: Digits.text 10 p.prefixLen.toNat := by
    rw [chars, List.dropWhile_append_of_pos (no_slash p.address)]
    simp
  rw [ofChars?, before, after]
  simp [digits, Net.Address.ofChars?_chars, p.prefixLen.toNat_lt]

/-- No two have one text. -/
lemma chars_injective : Function.Injective chars := fun p q same =>
  Option.some.inj (by rw [← ofChars?_chars p, same, ofChars?_chars])

/-- The text is written between the dot and the letter `z`. -/
lemma toNat_of_mem_chars {p : Assigned} {c : Char} (mem : c ∈ p.chars) :
    46 ≤ c.toNat ∧ c.toNat ≤ 122 := by
  have ofDigit {base : Nat} (digit : Digits.isDigit base c = true) :
      46 ≤ c.toNat ∧ c.toNat ≤ 122 := by
    have range := Digits.toNat_of_isDigit digit
    omega
  rcases List.mem_append.1 mem with address | rest
  · rcases Net.Address.mem_chars address with rfl | rfl | digit
    · decide
    · decide
    · exact ofDigit digit
  · rcases List.mem_cons.1 rest with rfl | digit
    · decide
    · exact ofDigit (Digits.isDigit_of_mem_text (by decide) (by decide) digit)

/-- The text holds no blank. -/
lemma dense (p : Assigned) : ∀ c ∈ p.chars, isBlank c = false := by
  intro c mem
  have range := toNat_of_mem_chars mem
  simp only [isBlank, Bool.or_eq_false_iff, Bool.and_eq_false_iff, decide_eq_false_iff_not,
    beq_eq_false_iff_ne]
  omega

/-- The text is not empty. -/
lemma chars_ne_nil (p : Assigned) : p.chars ≠ [] := by
  simp [chars]

end Assigned

namespace Listing

/-! ### Lines -/

/-- The words that a line of an address starts with. -/
def IsFamily (word : List Char) : Prop :=
  word = "inet".toList ∨ word = "inet6".toList

instance : DecidablePred IsFamily := fun word =>
  inferInstanceAs (Decidable (word = "inet".toList ∨ word = "inet6".toList))

/-- A family is a word. -/
lemma IsFamily.word {word : List Char} (known : IsFamily word) :
    word ≠ [] ∧ ∀ c ∈ word, isBlank c = false := by
  have dense : (word.all fun c => !isBlank c) = true := by
    rcases known with rfl | rfl <;> decide
  refine ⟨?_, fun c mem => by simpa using List.all_eq_true.1 dense c mem⟩
  rcases known with rfl | rfl <;> decide

/-- A line that names an address: indented or not, the word of a family, the text of the address,
and after it the end or anything behind a blank. -/
inductive Names (p : Assigned) : List Char → Prop where
  /-- The parts of the line. -/
  | of (indent family gap rest : List Char) (indented : ∀ c ∈ indent, isBlank c = true)
      (known : IsFamily family) (apart : gap ≠ []) (blank : ∀ c ∈ gap, isBlank c = true)
      (parts : Parts rest) : Names p (indent ++ (family ++ (gap ++ (p.chars ++ rest))))

/-- A line names an address if it consists of these parts. -/
lemma names_of_parts {p : Assigned} {line : List Char} (indent family gap rest : List Char)
    (made : line = indent ++ (family ++ (gap ++ (p.chars ++ rest)))) (known : IsFamily family)
    (blank : (indent ++ gap).all isBlank = true) (apart : gap ≠ [])
    (parted : rest.head?.all isBlank = true) : Names p line := by
  rw [List.all_append, Bool.and_eq_true, List.all_eq_true, List.all_eq_true] at blank
  rw [made]
  apply Names.of indent family gap rest blank.1 known apart blank.2
  intro c head
  rwa [head] at parted

/-- A line that names no address: it starts with another word, or has none. -/
def NamesNone (line : List Char) : Prop :=
  ∀ word, (fields line).head? = some word → ¬IsFamily word

/-- A line that starts with another word names no address. -/
lemma namesNone_of_first {line first : List Char} (head : (fields line).head? = some first)
    (other : ¬IsFamily first) : NamesNone line := by
  intro word same
  rw [head] at same
  rwa [← Option.some.inj same]

/-- Whatever starts with blanks goes on with a blank. -/
lemma parts_of_blanks {gap : List Char} (apart : gap ≠ []) (blank : ∀ c ∈ gap, isBlank c = true)
    (rest : List Char) : Parts (gap ++ rest) := by
  intro c head
  rw [List.head?_append_of_ne_nil _ apart] at head
  exact blank c (List.mem_of_mem_head? head)

/-- The address is read off a line that names it. -/
lemma addressOf?_of_names {p : Assigned} {line : List Char} (names : Names p line) :
    addressOf? line = some p.chars := by
  obtain ⟨indent, family, gap, rest, indented, known, apart, blank, parts⟩ := names
  have word := known.word
  have split : fields (indent ++ (family ++ (gap ++ (p.chars ++ rest)))) =
      family :: p.chars :: fields rest := by
    rw [Text.fields_blanks indented,
      Text.fields_word word.1 word.2 (parts_of_blanks apart blank _), Text.fields_blanks blank,
      Text.fields_word p.chars_ne_nil p.dense parts]
  rw [addressOf?, split]
  rcases known with rfl | rfl <;> rfl

/-- No address is read off a line that names none. -/
lemma addressOf?_of_namesNone {line : List Char} (none : NamesNone line) :
    addressOf? line = Option.none := by
  rw [addressOf?]
  split
  case h_1 family cidr rest split =>
    have other := none family (by rw [split]; rfl)
    rw [if_neg]
    simpa [IsFamily] using other
  case h_2 => rfl

/-- Only fields count. -/
lemma addressOf?_cut (line : List Char) : addressOf? (cut line) = addressOf? line := by
  rw [addressOf?, addressOf?, Text.fields_cut]

/-! ### Whole listings -/

/-- Lines that show a set of addresses: each line names a member or nothing, and each member is
named by a line. -/
structure Shows (S : Finset Assigned) (lines : List (List UInt8)) : Prop where
  /-- A line feed stands at the end of a line only. -/
  single : ∀ line ∈ lines, 10 ∉ line
  /-- Nothing but members is named. -/
  only : ∀ line ∈ lines, NamesNone (Text.Utf8.lenient line) ∨
    ∃ p ∈ S, Names p (Text.Utf8.lenient line)
  /-- Every member is named. -/
  all : ∀ p ∈ S, ∃ line ∈ lines, Names p (Text.Utf8.lenient line)

/-- A listing of a set of addresses: lines that show it, each ended by a line feed. -/
def Lists (S : Finset Assigned) (bytes : List UInt8) : Prop :=
  ∃ lines, Shows S lines ∧ bytes = lines.flatMap (· ++ [10])

/-- **A listing of a set carries the addresses in the set.** -/
theorem carries_iff {S : Finset Assigned} {bytes : List UInt8} (lists : Lists S bytes)
    (p : Assigned) :
    carries (String.ofList (Text.Utf8.lenient bytes)) p.cidr = true ↔ p ∈ S := by
  obtain ⟨lines, shows, rfl⟩ := lists
  have single : ∀ line ∈ lines.map Text.Utf8.lenient, '\n' ∉ line := by
    intro line mem
    obtain ⟨bytes, inside, rfl⟩ := List.mem_map.1 mem
    exact Text.Utf8.no_feed_of_lenient (shows.single bytes inside)
  have found : carries (String.ofList (Text.Utf8.lenient (lines.flatMap (· ++ [10])))) p.cidr =
      true ↔ ∃ line ∈ lines, addressOf? (Text.Utf8.lenient line) = some p.chars := by
    simp [carries, Assigned.cidr, Text.Utf8.lenient_flatMap_feed, Text.lines_flatMap_feed single,
      addressOf?_cut]
  rw [found]
  constructor
  · rintro ⟨line, mem, address⟩
    rcases shows.only line mem with none | ⟨q, member, names⟩
    · rw [addressOf?_of_namesNone none] at address
      cases address
    · -- the line names some member, and no other than `p` has its text
      rw [addressOf?_of_names names] at address
      rwa [← Assigned.chars_injective (Option.some.inj address)]
  · intro member
    obtain ⟨line, mem, names⟩ := shows.all p member
    exact ⟨line, mem, addressOf?_of_names names⟩

/-! ### Listings line by line -/

/-- What ends a line before the rest of a text: a line feed, a carriage return with a line feed, or,
where nothing comes after it, nothing. -/
inductive Ends : List Char → List Char → Prop where
  /-- A line feed. -/
  | feed (rest : List Char) : Ends ['\n'] rest
  /-- A carriage return and a line feed. -/
  | returnFeed (rest : List Char) : Ends ['\r', '\n'] rest
  /-- The end of the text. -/
  | last : Ends [] []

/-- A text in which addresses are named one after another, each by a line of its own, among lines
that name none. -/
inductive Rows : List Assigned → List Char → Prop where
  /-- A text without lines. -/
  | nil : Rows [] []
  /-- A line that names an address. -/
  | named {p : Assigned} {ps : List Assigned} {line ending rest : List Char} (names : Names p line)
      (single : '\n' ∉ line) (ends : Ends ending rest) (more : Rows ps rest) :
      Rows (p :: ps) (line ++ (ending ++ rest))
  /-- A line that names none. -/
  | other {ps : List Assigned} {line ending rest : List Char} (none : NamesNone line)
      (single : '\n' ∉ line) (ends : Ends ending rest) (more : Rows ps rest) :
      Rows ps (line ++ (ending ++ rest))

/-- A first line carries what it carries, whatever ends it. -/
lemma carries_append {line ending rest : List Char} (single : '\n' ∉ line)
    (ends : Ends ending rest) (p : Assigned) :
    carries (String.ofList (line ++ (ending ++ rest))) p.cidr = true ↔
      addressOf? line = some p.chars ∨ carries (String.ofList rest) p.cidr = true := by
  unfold carries
  rw [Assigned.cidr, String.toList_ofList, String.toList_ofList, String.toList_ofList]
  have front {shown : List Char}
      (split : Text.lines (line ++ (ending ++ rest)) = shown :: Text.lines rest)
      (same : addressOf? shown = addressOf? line) :
      (Text.lines (line ++ (ending ++ rest))).any (fun l => addressOf? l == some p.chars) = true ↔
        addressOf? line = some p.chars ∨
          (Text.lines rest).any (fun l => addressOf? l == some p.chars) = true := by
    rw [split, List.any_cons, Bool.or_eq_true, beq_iff_eq, same]
  cases ends with
  | feed => exact front (Text.lines_append_feed single rest) (addressOf?_cut line)
  | returnFeed => exact front (Text.lines_append_returnFeed single rest) rfl
  | last =>
      by_cases empty : line = []
      · -- nothing at all is no line, and carries nothing
        rw [empty]
        exact (or_iff_right nofun).symm
      · have whole := Text.lines_of_no_feed single
        rw [if_neg (by simpa using empty)] at whole
        apply front _ rfl
        rw [List.append_nil, List.append_nil, whole]
        rfl

/-- A text carries the addresses that are named in it. -/
lemma carries_iff_of_rows {ps : List Assigned} {s : List Char} (rows : Rows ps s) (p : Assigned) :
    carries (String.ofList s) p.cidr = true ↔ p ∈ ps := by
  induction rows with
  | nil => simp [carries, Text.lines, Text.linesFrom]
  | @named q ps line ending rest names single ends more ih =>
      rw [carries_append single ends, addressOf?_of_names names, ih, List.mem_cons]
      -- a line with the text of `p` names `p`, since no two addresses have one text
      have same : some q.chars = some p.chars ↔ p = q := by
        rw [Option.some.injEq, Assigned.chars_injective.eq_iff]
        exact eq_comm
      rw [same]
  | other none single ends more ih =>
      rw [carries_append single ends, addressOf?_of_namesNone none, ih]
      simp

end Listing
end FloatingIp.Host

namespace FloatingIp.Vip

/-- The address with its prefix that an interface is to carry. -/
def assigned (v : Vip) : Host.Assigned :=
  ⟨v.address, v.prefixLen⟩

/-- A virtual IP is known to the commands by the text of its address. -/
lemma cidr_assigned (v : Vip) : v.assigned.cidr = v.cidr :=
  rfl

/-- Virtual IPs with one text have one address and one prefix. -/
lemma cidr_eq_iff {v w : Vip} :
    v.cidr = w.cidr ↔ v.address = w.address ∧ v.prefixLen = w.prefixLen := by
  rw [← cidr_assigned, ← cidr_assigned, Host.Assigned.cidr, Host.Assigned.cidr,
    String.ofList_inj, Host.Assigned.chars_injective.eq_iff, assigned, assigned,
    Host.Assigned.mk.injEq]

end FloatingIp.Vip

namespace FloatingIp.Host.Listing

/-- **A listing is matched exactly.**  Where the given addresses are named in any order, a line for
each, the listing carries the text of a virtual IP exactly if its address with its prefix is one of
them; and no other address or prefix has that text. -/
theorem matches_exactly {addresses named : List Assigned} (order : named.Perm addresses)
    {listing : String} (rows : Rows named listing.toList) (v : Vip) :
    (carries listing v.cidr = true ↔ ⟨v.address, v.prefixLen⟩ ∈ addresses) ∧
      ∀ w : Vip, w.cidr = v.cidr ↔ w.address = v.address ∧ w.prefixLen = v.prefixLen := by
  refine ⟨?_, fun w => Vip.cidr_eq_iff⟩
  have found := carries_iff_of_rows rows v.assigned
  rw [String.ofList_toList, Vip.cidr_assigned] at found
  exact found.trans order.mem_iff

/-- Three addresses whose texts differ little from that of `172.16.0.1/24`. -/
def lookalikes : List Assigned :=
  [⟨.v4 #v[172, 16, 0, 1], 2⟩, ⟨.v6 #v[0, 0, 0, 0, 0, 0xffff, 0xac10, 1], 24⟩,
    ⟨.v4 #v[72, 16, 0, 1], 24⟩]

/-- A listing of them, with line endings of all kinds. -/
def lookalikeListing : String :=
  "2: eth0: <UP>\r\n    inet 172.16.0.1/2 scope global eth0\n\tinet6 ::ffff:172.16.0.1/24\r\n" ++
    "inet 72.16.0.1/24 "

/-- They are named in it. -/
lemma rows_lookalikes : Rows lookalikes lookalikeListing.toList := by
  have made : lookalikeListing.toList =
      "2: eth0: <UP>".toList ++ (['\r', '\n'] ++
        ("    inet 172.16.0.1/2 scope global eth0".toList ++ (['\n'] ++
          ("\tinet6 ::ffff:172.16.0.1/24".toList ++ (['\r', '\n'] ++
            ("inet 72.16.0.1/24 ".toList ++ ([] ++ []))))))) := by decide +kernel
  have first : (Text.fields "2: eth0: <UP>".toList).head? = some "2:".toList := by decide
  have banner : NamesNone "2: eth0: <UP>".toList := namesNone_of_first first (by decide)
  have narrow : Names ⟨.v4 #v[172, 16, 0, 1], 2⟩ "    inet 172.16.0.1/2 scope global eth0".toList :=
    names_of_parts "    ".toList "inet".toList " ".toList " scope global eth0".toList
      (by decide +kernel) (.inl rfl) (by decide) (by decide) (by decide)
  have mapped : Names ⟨.v6 #v[0, 0, 0, 0, 0, 0xffff, 0xac10, 1], 24⟩
      "\tinet6 ::ffff:172.16.0.1/24".toList :=
    names_of_parts "\t".toList "inet6".toList " ".toList [] (by decide +kernel) (.inr rfl)
      (by decide) (by decide) (by decide)
  have shortened : Names ⟨.v4 #v[72, 16, 0, 1], 24⟩ "inet 72.16.0.1/24 ".toList :=
    names_of_parts [] "inet".toList " ".toList " ".toList (by decide +kernel) (.inl rfl)
      (by decide) (by decide) (by decide)
  rw [made]
  apply Rows.other banner (by decide) (.returnFeed _)
  apply Rows.named narrow (by decide) (.feed _)
  apply Rows.named mapped (by decide) (.returnFeed _)
  exact Rows.named shortened (by decide) .last .nil

/-- In whatever order the three are given, they are found and `172.16.0.1/24` is not. -/
theorem matches_exactly_lookalikes :
    lookalikes.Perm lookalikes.reverse ∧ Rows lookalikes lookalikeListing.toList ∧
      carries lookalikeListing "172.16.0.1/24" = false ∧
      carries lookalikeListing "72.16.0.1/24" = true := by
  have order : lookalikes.Perm lookalikes.reverse := (List.reverse_perm _).symm
  have absent := (matches_exactly order rows_lookalikes
    ⟨.v4 #v[172, 16, 0, 1], 24, "eth0", "a", "leader"⟩).1
  have present := (matches_exactly order rows_lookalikes
    ⟨.v4 #v[72, 16, 0, 1], 24, "eth0", "a", "leader"⟩).1
  refine ⟨order, rows_lookalikes, ?_, ?_⟩
  · have text : Vip.cidr ⟨.v4 #v[172, 16, 0, 1], 24, "eth0", "a", "leader"⟩ = "172.16.0.1/24" := by
      decide +kernel
    rw [text] at absent
    rw [Bool.eq_false_iff, ne_eq, absent]
    decide
  · have text : Vip.cidr ⟨.v4 #v[72, 16, 0, 1], 24, "eth0", "a", "leader"⟩ = "72.16.0.1/24" := by
      decide +kernel
    rw [text] at present
    rw [present]
    decide

end FloatingIp.Host.Listing
