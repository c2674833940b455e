import FloatingIp.Convergence.Talk
import FloatingIp.Proofs.Host.IpTool
import FloatingIp.Proofs.Host.Listing

/-!
# The interface as a set of addresses

Led with a machine whose interface carries a set of addresses, the conversations about one address do
what the operations on the set do: asking is membership, adding is insertion, removing is erasure, and
no other member comes or goes (`calls_refine_set`).  A change that meets the wrong state finds out from
a listing that its state is there already.  Where the interface is missing, every call fails.

The machine is any machine that keeps to the manners of `ip`, whatever else it does or remembers: what
is assumed of it is the `Interface` below.
-/

namespace FloatingIp.Host

open Convergence (Call Answer)

variable {σ : Type}

/-! ### Machines with an interface -/

/-- The command that lists the addresses of an interface. -/
def listingOf (interface : String) : Command :=
  ⟨.ip, ["addr", "show", interface], none⟩

/-- The command that adds an address to an interface. -/
def adding (p : Assigned) (interface : String) : Command :=
  ⟨.ip, ["addr", "add", p.cidr, "dev", interface], none⟩

/-- The command that deletes an address from an interface. -/
def deleting (p : Assigned) (interface : String) : Command :=
  ⟨.ip, ["addr", "delete", p.cidr, "dev", interface], none⟩

/-- A command exits with a status, whatever it writes, and the interface is as given then. -/
def Exits (machine : σ → Command → Outcome × σ) (view : σ → Option (Finset Assigned)) (s : σ)
    (c : Command) (status : ExitStatus) (after : Option (Finset Assigned)) : Prop :=
  ∃ stdout stderr s', machine s c = (.ended status stdout stderr, s') ∧ view s' = after

/-- A machine with an interface that carries a set of addresses or is missing.  `view` tells which
from the machine's state. -/
structure Interface (machine : σ → Command → Outcome × σ) (view : σ → Option (Finset Assigned))
    (name : String) : Prop where
  /-- The set is listed. -/
  lists : ∀ {s S}, view s = some S → ∃ stdout stderr s',
    machine s (listingOf name) = (.ended (.code 0) stdout stderr, s') ∧
      Listing.Lists S stdout ∧ view s' = some S
  /-- An address that is not carried is added. -/
  adds : ∀ {s S p}, view s = some S → p ∉ S →
    Exits machine view s (adding p name) (.code 0) (some (insert p S))
  /-- One that is carried is not. -/
  keeps : ∀ {s S p}, view s = some S → p ∈ S →
    Exits machine view s (adding p name) (.code 2) (some S)
  /-- An address that is carried is deleted. -/
  deletes : ∀ {s S p}, view s = some S → p ∈ S →
    Exits machine view s (deleting p name) (.code 0) (some (S.erase p))
  /-- One that is not carried is not. -/
  lacks : ∀ {s S p}, view s = some S → p ∉ S →
    Exits machine view s (deleting p name) (.code 2) (some S)
  /-- A missing interface is not listed. -/
  unlisted : ∀ {s}, view s = none → ∃ status, status ≠ .code 0 ∧
    Exits machine view s (listingOf name) status none
  /-- Nothing is added to a missing interface. -/
  unadded : ∀ {s}, view s = none → ∀ p, ∃ n, (n = 1 ∨ n = 2) ∧
    Exits machine view s (adding p name) (.code n) none
  /-- Nothing is deleted from a missing interface. -/
  undeleted : ∀ {s}, view s = none → ∀ p, ∃ n, (n = 1 ∨ n = 2) ∧
    Exits machine view s (deleting p name) (.code n) none

/-! ### What calls come to -/

/-- What a call about `p` comes to on a set of addresses, or on a missing interface. -/
inductive Serves (p : Assigned) :
    Option (Finset Assigned) → Call → Answer → Option (Finset Assigned) → Prop where
  /-- Asking is membership. -/
  | query (S : Finset Assigned) : Serves p (some S) .query (.present (decide (p ∈ S))) (some S)
  /-- Adding is insertion. -/
  | configure (S : Finset Assigned) :
      Serves p (some S) .configure (.changed (if p ∈ S then .already else .applied))
        (some (insert p S))
  /-- Removing is erasure. -/
  | deconfigure (S : Finset Assigned) :
      Serves p (some S) .deconfigure (.changed (if p ∈ S then .applied else .already))
        (some (S.erase p))
  /-- A missing interface cannot be asked. -/
  | noQuery (what : String) (status : ExitStatus) (complaint : String) :
      Serves p none .query (.queryFailed (.failed what status complaint)) none
  /-- Nothing can be added to it. -/
  | noConfigure (what : String) (status : ExitStatus) (complaint : String) :
      Serves p none .configure (.changeFailed (.failed what status complaint)) none
  /-- Nothing can be removed from it. -/
  | noDeconfigure (what : String) (status : ExitStatus) (complaint : String) :
      Serves p none .deconfigure (.changeFailed (.failed what status complaint)) none

/-- What calls about `p` come to one after another. -/
inductive ServesAll (p : Assigned) :
    Option (Finset Assigned) → List Call → List Answer → Option (Finset Assigned) → Prop where
  /-- No calls. -/
  | nil (v : Option (Finset Assigned)) : ServesAll p v [] [] v
  /-- A call and the calls after it. -/
  | cons {v v' v'' : Option (Finset Assigned)} {c : Call} {cs : List Call} {a : Answer}
      {as : List Answer} (first : Serves p v c a v') (rest : ServesAll p v' cs as v'') :
      ServesAll p v (c :: cs) (a :: as) v''

/-- Whether an interface carries an address. -/
def carriedOn (v : Option (Finset Assigned)) (q : Assigned) : Prop :=
  ∃ S ∈ v, q ∈ S

/-- A call about one address leaves all others as they are. -/
lemma Serves.others {p q : Assigned} {v v' : Option (Finset Assigned)} {c : Call} {a : Answer}
    (serves : Serves p v c a v') (other : q ≠ p) : carriedOn v' q ↔ carriedOn v q := by
  cases serves <;> simp [carriedOn, other]

/-- Calls about one address leave all others as they are. -/
lemma ServesAll.others {p q : Assigned} {v v' : Option (Finset Assigned)} {cs : List Call}
    {as : List Answer} (serves : ServesAll p v cs as v') (other : q ≠ p) :
    carriedOn v' q ↔ carriedOn v q := by
  induction serves with
  | nil v => exact Iff.rfl
  | cons first rest ih => exact ih.trans (first.others other)

/-! ### Single calls -/

section
variable {machine : σ → Command → Outcome × σ} {view : σ → Option (Finset Assigned)} {s : σ}
  {t : IpTool} {S : Finset Assigned} {change : Change}

/-- The question is answered by membership. -/
lemma query_of_set (interface : Interface machine view t.vip.interface) (set : view s = some S) :
    t.query.Ends machine s fun a s' => a = .ok (decide (t.vip.assigned ∈ S)) ∧ view s' = some S := by
  obtain ⟨stdout, stderr, s', answer, lists, same⟩ := interface.lists set
  refine (t.query_does answer).ends ?_
  rintro - a after ⟨-, rfl, rfl⟩
  refine ⟨?_, same⟩
  rw [t.told_of_zero rfl, ← Vip.cidr_assigned]
  exact congrArg Except.ok (Bool.eq_iff_iff.2 (by simpa using Listing.carries_iff lists _))

/-- The question about a missing interface fails. -/
lemma query_of_missing (interface : Interface machine view t.vip.interface)
    (missing : view s = none) :
    t.query.Ends machine s fun a s' =>
      (∃ what status complaint, a = .error (.failed what status complaint)) ∧ view s' = none := by
  obtain ⟨status, failed, stdout, stderr, s', answer, same⟩ := interface.unlisted missing
  refine (t.query_does answer).ends ?_
  rintro - a after ⟨-, rfl, rfl⟩
  exact ⟨⟨_, _, _, if_neg failed⟩, same⟩

/-- A change that exits with zero is made. -/
lemma change_of_made {after : Option (Finset Assigned)}
    (exits : Exits machine view s (t.changing change) (.code 0) after) :
    (t.change change).Ends machine s fun a s' => a = .ok .applied ∧ view s' = after := by
  obtain ⟨stdout, stderr, s', answer, same⟩ := exits
  refine (t.change_does_of_zero answer rfl).ends ?_
  rintro - a after ⟨-, rfl, rfl⟩
  exact ⟨rfl, same⟩

/-- A change that met the state that was wanted is told so. -/
lemma change_of_wanted (interface : Interface machine view t.vip.interface)
    (exits : Exits machine view s (t.changing change) (.code 2) (some S))
    (wanted : decide (t.vip.assigned ∈ S) = change.leadsTo) :
    (t.change change).Ends machine s fun a s' => a = .ok .already ∧ view s' = some S := by
  obtain ⟨stdout, stderr, s', answer, same⟩ := exits
  refine (t.change_does_of_conflict answer rfl (query_of_set interface same).does).ends ?_
  rintro - a after ⟨-, told, ⟨rfl, kept⟩, -, rfl⟩
  exact ⟨if_pos wanted, kept⟩

/-- A change of a missing interface fails. -/
lemma change_of_missing (interface : Interface machine view t.vip.interface) {n : Nat}
    (code : n = 1 ∨ n = 2) (exits : Exits machine view s (t.changing change) (.code n) none) :
    (t.change change).Ends machine s fun a s' =>
      (∃ what status complaint, a = .error (.failed what status complaint)) ∧ view s' = none := by
  obtain ⟨stdout, stderr, s', answer, missing⟩ := exits
  rcases code with rfl | rfl
  · refine (t.change_does_of_failure answer (by simp) (by simp [stateConflict])).ends ?_
    rintro - a after ⟨-, rfl, rfl⟩
    exact ⟨⟨_, _, _, rfl⟩, missing⟩
  · -- the code is that of a wrong state, but no listing can confirm it
    refine (t.change_does_of_conflict answer rfl (query_of_missing interface missing).does).ends ?_
    rintro - a after ⟨-, told, ⟨⟨what, status, complaint, rfl⟩, kept⟩, -, rfl⟩
    exact ⟨⟨_, _, _, rfl⟩, kept⟩

/-- Asking does what membership does. -/
lemma query_serves (interface : Interface machine view t.vip.interface) :
    (Call.query.talk t).Ends machine s fun a s' =>
      Serves t.vip.assigned (view s) .query a (view s') := by
  refine Dialogue.Ends.map ?_
  cases before : view s with
  | some S =>
      refine (query_of_set interface before).mono ?_
      rintro a s' ⟨rfl, same⟩
      rw [same]
      exact .query S
  | none =>
      refine (query_of_missing interface before).mono ?_
      rintro a s' ⟨⟨what, status, complaint, rfl⟩, same⟩
      rw [same]
      exact .noQuery what status complaint

/-- Adding does what insertion does. -/
lemma configure_serves (interface : Interface machine view t.vip.interface) :
    (Call.configure.talk t).Ends machine s fun a s' =>
      Serves t.vip.assigned (view s) .configure a (view s') := by
  refine Dialogue.Ends.map ?_
  cases before : view s with
  | some S =>
      have serves := Serves.configure (p := t.vip.assigned) S
      by_cases mem : t.vip.assigned ∈ S
      · rw [if_pos mem, Finset.insert_eq_of_mem mem] at serves
        refine (change_of_wanted interface (interface.keeps before mem)
          (decide_eq_true mem)).mono ?_
        rintro a s' ⟨rfl, same⟩
        rwa [same]
      · rw [if_neg mem] at serves
        refine (change_of_made (interface.adds before mem)).mono ?_
        rintro a s' ⟨rfl, same⟩
        rwa [same]
  | none =>
      obtain ⟨n, code, exits⟩ := interface.unadded before t.vip.assigned
      refine (change_of_missing interface code exits).mono ?_
      rintro a s' ⟨⟨what, status, complaint, rfl⟩, same⟩
      rw [same]
      exact .noConfigure what status complaint

/-- Removing does what erasure does. -/
lemma deconfigure_serves (interface : Interface machine view t.vip.interface) :
    (Call.deconfigure.talk t).Ends machine s fun a s' =>
      Serves t.vip.assigned (view s) .deconfigure a (view s') := by
  refine Dialogue.Ends.map ?_
  cases before : view s with
  | some S =>
      have serves := Serves.deconfigure (p := t.vip.assigned) S
      by_cases mem : t.vip.assigned ∈ S
      · rw [if_pos mem] at serves
        refine (change_of_made (interface.deletes before mem)).mono ?_
        rintro a s' ⟨rfl, same⟩
        rwa [same]
      · rw [if_neg mem, Finset.erase_eq_of_notMem mem] at serves
        refine (change_of_wanted interface (interface.lacks before mem)
          (decide_eq_false mem)).mono ?_
        rintro a s' ⟨rfl, same⟩
        rwa [same]
  | none =>
      obtain ⟨n, code, exits⟩ := interface.undeleted before t.vip.assigned
      refine (change_of_missing interface code exits).mono ?_
      rintro a s' ⟨⟨what, status, complaint, rfl⟩, same⟩
      rw [same]
      exact .noDeconfigure what status complaint

/-- A call does what the operation on the set does. -/
lemma talk_serves (interface : Interface machine view t.vip.interface) {c : Call}
    (ask : c ≠ .probe) :
    (c.talk t).Ends machine s fun a s' => Serves t.vip.assigned (view s) c a (view s') := by
  cases c with
  | query => exact query_serves interface
  | configure => exact configure_serves interface
  | deconfigure => exact deconfigure_serves interface
  | probe => exact absurd rfl ask

end

/-! ### A machine with one interface -/

namespace Eth0

/-- The word for the family of an address. -/
def family : Net.Address → List Char
  | .v4 _ => "inet".toList
  | .v6 _ => "inet6".toList

/-- The line that names an address. -/
def naming (p : Assigned) : List Char :=
  "    ".toList ++ (family p.address ++ (" ".toList ++ (p.chars ++ " scope global eth0".toList)))

/-- The line about the interface. -/
def banner : List Char :=
  "2: eth0: <BROADCAST,UP> mtu 1500 state UP".toList

/-- The line that follows each address. -/
def validity : List Char :=
  "       valid_lft forever preferred_lft forever".toList

/-- The lines of a listing. -/
def lines (ps : List Assigned) : List (List Char) :=
  banner :: ps.flatMap fun p => [naming p, validity]

/-- The bytes of a listing. -/
def written (ps : List Assigned) : List UInt8 :=
  ((lines ps).map Text.Utf8.encode).flatMap (· ++ [10])

/-- A command exits with a code and a complaint. -/
def exits (n : Nat) (complaint : String) : Outcome :=
  .ended (.code n) [] (Text.Utf8.encode complaint.toList)

/-- A machine that keeps the addresses of its interface in a list, if it has the interface. -/
def answer (s : Option (List Assigned)) (c : Command) : Outcome × Option (List Assigned) :=
  match s, c.args with
  | none, _ => (exits 1 "Device does not exist.", none)
  | some ps, ["addr", "show", "eth0"] => (.ended (.code 0) (written ps) [], some ps)
  | some ps, ["addr", "add", cidr, "dev", "eth0"] =>
    match Assigned.ofChars? cidr.toList with
    | none => (exits 1 "any valid prefix is expected", some ps)
    | some p =>
      if p ∈ ps then (exits 2 "RTNETLINK answers: File exists", some ps)
      else (exits 0 "", some (p :: ps))
  | some ps, ["addr", "delete", cidr, "dev", "eth0"] =>
    match Assigned.ofChars? cidr.toList with
    | none => (exits 1 "any valid prefix is expected", some ps)
    | some p =>
      if p ∈ ps then (exits 0 "", some (ps.filter (· ≠ p)))
      else (exits 2 "RTNETLINK answers: Cannot assign requested address", some ps)
  | some ps, _ => (exits 1 "Object is unknown.", some ps)

/-- The set of the addresses that are kept. -/
def view (s : Option (List Assigned)) : Option (Finset Assigned) :=
  s.map List.toFinset

/-- A character of ASCII that ends no line. -/
def isPlain (c : Char) : Bool :=
  c.toNat < 0x80 && c != '\n'

/-- The line that names an address is plain. -/
lemma plain_naming (p : Assigned) : (naming p).all isPlain = true := by
  have word : (family p.address).all isPlain = true := by
    cases p.address
    · exact (by decide : "inet".toList.all isPlain = true)
    · exact (by decide : "inet6".toList.all isPlain = true)
  have address : p.chars.all isPlain = true := by
    refine List.all_eq_true.2 fun c mem => ?_
    have range := Assigned.toNat_of_mem_chars mem
    have other : c ≠ '\n' := by
      rintro rfl
      exact absurd range (by decide)
    simp only [isPlain, Bool.and_eq_true, decide_eq_true_eq, bne_iff_ne]
    exact ⟨by omega, other⟩
  have front : "    ".toList.all isPlain = true := by decide
  have gap : " ".toList.all isPlain = true := by decide
  have rest : " scope global eth0".toList.all isPlain = true := by decide
  simp only [naming, List.all_append, front, word, gap, address, rest, Bool.and_self]

/-- The line that names an address does. -/
lemma names_naming (p : Assigned) : Listing.Names p (naming p) := by
  have known : Listing.IsFamily (family p.address) := by
    cases p.address
    · exact .inl rfl
    · exact .inr rfl
  exact Listing.names_of_parts "    ".toList (family p.address) " ".toList
    " scope global eth0".toList rfl known (by decide) (by decide) (by decide)

/-- The line about the interface names no address. -/
lemma namesNone_banner : Listing.NamesNone banner :=
  have first : (Text.fields banner).head? = some "2:".toList := by decide
  Listing.namesNone_of_first first (by decide)

/-- The line that follows each address names none. -/
lemma namesNone_validity : Listing.NamesNone validity :=
  have first : (Text.fields validity).head? = some "valid_lft".toList := by decide
  Listing.namesNone_of_first first (by decide)

/-- A line of the listing is plain, and names a kept address or none. -/
lemma of_mem_lines {ps : List Assigned} {line : List Char} (mem : line ∈ lines ps) :
    line.all isPlain = true ∧ (Listing.NamesNone line ∨ ∃ p ∈ ps, Listing.Names p line) := by
  simp only [lines, List.mem_cons, List.mem_flatMap, List.not_mem_nil, or_false] at mem
  rcases mem with rfl | ⟨p, kept, rfl | rfl⟩
  · exact ⟨by decide, .inl namesNone_banner⟩
  · exact ⟨plain_naming p, .inr ⟨p, kept, names_naming p⟩⟩
  · exact ⟨by decide, .inl namesNone_validity⟩

/-- The listing shows the set. -/
lemma lists_written (ps : List Assigned) : Listing.Lists ps.toFinset (written ps) := by
  have plain {line : List Char} (mem : line ∈ lines ps) {c : Char} (inside : c ∈ line) :
      c.toNat < 0x80 ∧ c ≠ '\n' := by
    simpa [isPlain] using List.all_eq_true.1 (of_mem_lines mem).1 c inside
  refine ⟨_, ⟨?single, ?only, ?all⟩, rfl⟩
  case single =>
    intro bytes inside
    obtain ⟨line, mem, rfl⟩ := List.mem_map.1 inside
    exact Text.Utf8.no_feed_of_encode (fun c inside => (plain mem inside).1)
      fun inside => (plain mem inside).2 rfl
  case only =>
    intro bytes inside
    obtain ⟨line, mem, rfl⟩ := List.mem_map.1 inside
    rw [Text.Utf8.lenient_encode]
    simpa using (of_mem_lines mem).2
  case all =>
    intro p kept
    have mem : naming p ∈ lines ps := by
      simp only [lines, List.mem_cons, List.mem_flatMap]
      exact .inr ⟨p, List.mem_toFinset.1 kept, .inl rfl⟩
    refine ⟨_, List.mem_map_of_mem mem, ?_⟩
    rw [Text.Utf8.lenient_encode]
    exact names_naming p

/-- A listing is answered with the lines. -/
lemma answer_listing (ps : List Assigned) :
    answer (some ps) (listingOf "eth0") = (.ended (.code 0) (written ps) [], some ps) := by
  simp [answer, listingOf]

/-- An address is added unless it is kept. -/
lemma answer_adding (ps : List Assigned) (p : Assigned) :
    answer (some ps) (adding p "eth0") =
      if p ∈ ps then (exits 2 "RTNETLINK answers: File exists", some ps)
      else (exits 0 "", some (p :: ps)) := by
  simp [answer, adding, Assigned.cidr, Assigned.ofChars?_chars]

/-- An address is deleted if it is kept. -/
lemma answer_deleting (ps : List Assigned) (p : Assigned) :
    answer (some ps) (deleting p "eth0") =
      if p ∈ ps then (exits 0 "", some (ps.filter (· ≠ p)))
      else (exits 2 "RTNETLINK answers: Cannot assign requested address", some ps) := by
  simp [answer, deleting, Assigned.cidr, Assigned.ofChars?_chars]

/-- The machine has an interface. -/
lemma interface : Interface answer view "eth0" where
  lists := by
    rintro (_ | ps) S set
    · cases set
    · obtain rfl := Option.some.inj set
      exact ⟨_, _, _, answer_listing ps, lists_written ps, rfl⟩
  adds := by
    rintro (_ | ps) S p set mem
    · cases set
    · obtain rfl := Option.some.inj set
      have new : p ∉ ps := by simpa using mem
      refine ⟨_, _, _, (answer_adding ps p).trans (if_neg new), ?_⟩
      simp [view]
  keeps := by
    rintro (_ | ps) S p set mem
    · cases set
    · obtain rfl := Option.some.inj set
      have kept : p ∈ ps := by simpa using mem
      exact ⟨_, _, _, (answer_adding ps p).trans (if_pos kept), rfl⟩
  deletes := by
    rintro (_ | ps) S p set mem
    · cases set
    · obtain rfl := Option.some.inj set
      have kept : p ∈ ps := by simpa using mem
      refine ⟨_, _, _, (answer_deleting ps p).trans (if_pos kept), ?_⟩
      ext q
      simp [view, Finset.ext_iff, and_comm]
  lacks := by
    rintro (_ | ps) S p set mem
    · cases set
    · obtain rfl := Option.some.inj set
      have absent : p ∉ ps := by simpa using mem
      exact ⟨_, _, _, (answer_deleting ps p).trans (if_neg absent), rfl⟩
  unlisted := by
    rintro (_ | ps) missing
    · exact ⟨.code 1, by decide, _, _, _, rfl, rfl⟩
    · cases missing
  unadded := by
    rintro (_ | ps) missing p
    · exact ⟨1, .inl rfl, _, _, _, rfl, rfl⟩
    · cases missing
  undeleted := by
    rintro (_ | ps) missing p
    · exact ⟨1, .inl rfl, _, _, _, rfl, rfl⟩
    · cases missing

end Eth0

/-! ### Calls one after another -/

/-- Calls one after another, as one conversation. -/
def IpTool.talks (t : IpTool) : List Call → IpTool.Talk (List Answer)
  | [] => .done []
  | c :: cs => (c.talk t).bind fun a => (t.talks cs).map (a :: ·)

/-- Calls do what the operations on the set do, one after another. -/
lemma talks_serve {machine : σ → Command → Outcome × σ} {view : σ → Option (Finset Assigned)}
    {t : IpTool} (interface : Interface machine view t.vip.interface) {calls : List Call}
    (only : Call.probe ∉ calls) {s : σ} :
    (t.talks calls).Ends machine s fun answers s' =>
      ServesAll t.vip.assigned (view s) calls answers (view s') := by
  induction calls generalizing s with
  | nil => exact .nil (view s)
  | cons c cs ih =>
      have ask : c ≠ .probe := fun same => only (same ▸ .head cs)
      refine (talk_serves interface ask).bind fun a s' first => .map ?_
      refine (ih fun mem => only (.tail c mem)).mono fun as s'' rest => ?_
      exact .cons first rest

/-- **The calls refine a set of addresses.** -/
theorem calls_refine_set {machine : σ → Command → Outcome × σ}
    {view : σ → Option (Finset Assigned)} {t : IpTool}
    (interface : Interface machine view t.vip.interface) {calls : List Call}
    (only : Call.probe ∉ calls) (s : σ) :
    (t.talks calls).Ends machine s fun answers s' =>
      ServesAll t.vip.assigned (view s) calls answers (view s') ∧
        ∀ q, q ≠ t.vip.assigned → (carriedOn (view s') q ↔ carriedOn (view s) q) := by
  refine (talks_serve interface only).mono fun answers s' serves => ?_
  exact ⟨serves, fun q other => serves.others other⟩

/-- Addresses whose texts differ little from that of the one looked after below. -/
def neighbours : List Assigned :=
  [⟨.v4 #v[10, 0, 0, 1], 2⟩, ⟨.v4 #v[10, 0, 0, 10], 24⟩, ⟨.v4 #v[110, 0, 0, 1], 24⟩,
    ⟨.v6 #v[0, 0, 0, 0, 0, 0xffff, 0x0a00, 1], 24⟩]

/-- The tool for `10.0.0.1/24`. -/
def crowdedTool : IpTool :=
  ⟨⟨.v4 #v[10, 0, 0, 1], 24, "eth0", "a", "leader"⟩, .standard, .standard⟩

/-- Between its neighbours the address is added once and removed once, and the second attempts find
that out; without the interface nothing can be asked or added. -/
theorem calls_refine_set_neighbours :
    Interface Eth0.answer Eth0.view "eth0" ∧
      (crowdedTool.talks [.query, .configure, .configure, .query, .deconfigure, .deconfigure]).Ends
        Eth0.answer (some neighbours) (fun answers s =>
          answers = [.present false, .changed .applied, .changed .already, .present true,
            .changed .applied, .changed .already] ∧ Eth0.view s = some neighbours.toFinset) ∧
      (crowdedTool.talks [.query, .configure]).Ends Eth0.answer none (fun answers s =>
        (∃ f g, answers = [.queryFailed f, .changeFailed g]) ∧ Eth0.view s = none) := by
  refine ⟨Eth0.interface, ?_, ?_⟩
  · refine (calls_refine_set (t := crowdedTool) Eth0.interface (by decide) (some neighbours)).mono ?_
    rintro answers s ⟨serves, -⟩
    generalize Eth0.view s = v at serves ⊢
    obtain - | ⟨⟨⟩, rest⟩ := serves
    obtain - | ⟨⟨⟩, rest⟩ := rest
    obtain - | ⟨⟨⟩, rest⟩ := rest
    obtain - | ⟨⟨⟩, rest⟩ := rest
    obtain - | ⟨⟨⟩, rest⟩ := rest
    obtain - | ⟨⟨⟩, rest⟩ := rest
    cases rest
    exact ⟨by decide, by decide⟩
  · refine (calls_refine_set (t := crowdedTool) Eth0.interface (by decide) none).mono ?_
    rintro answers s ⟨serves, -⟩
    generalize Eth0.view s = v at serves ⊢
    obtain - | ⟨⟨⟩, rest⟩ := serves
    obtain - | ⟨⟨⟩, rest⟩ := rest
    cases rest
    exact ⟨⟨_, _, rfl⟩, rfl⟩

end FloatingIp.Host
