import Mathlib.Data.List.TakeWhile

/-! # URLs with an authority

The parts of a hierarchical URL (userinfo, host, port, path, query and fragment), each of them free
of the characters that end it, and the text the parts are written as. Readers of URLs can be
compared with the parts of every text they are given. -/

namespace AgenticKVM.Lib

/-! ## Parts -/

/-- The characters that end an authority. -/
def authorityEnds : List Char := ['/', '?', '#']

/-- **A host**: a name, or an IPv6 address that is written in brackets. -/
inductive UrlHost
  | name (text : List Char) (plain : ∀ c ∈ text, c ∉ authorityEnds ∧ c ∉ ['@', ':', '[', ']'])
  | ipv6 (address : List Char) (plain : ∀ c ∈ address, c ∉ authorityEnds ∧ c ∉ ['@', '[', ']'])
      (colon : ':' ∈ address)

/-- The name or address of a host. -/
def UrlHost.text : UrlHost → List Char
  | name text _ => text
  | ipv6 address _ _ => address

/-- A host as it is written. -/
def UrlHost.render : UrlHost → List Char
  | name text _ => text
  | ipv6 address _ _ => '[' :: address ++ [']']

/-- **A URL**, without its scheme. The port may be empty, and the path starts with a slash if there
is one. -/
structure Url where
  userinfo : Option (List Char)
  host : UrlHost
  port : Option (List Char)
  path : List Char
  query : Option (List Char)
  fragment : Option (List Char)
  userinfoPlain : ∀ user ∈ userinfo, ∀ c ∈ user, c ∉ authorityEnds ∧ c ≠ '@'
  portDigits : ∀ digits ∈ port, ∀ c ∈ digits, c.isDigit = true
  rooted : path = [] ∨ ∃ rest, path = '/' :: rest
  pathPlain : ∀ c ∈ path, c ≠ '?' ∧ c ≠ '#'
  queryPlain : ∀ text ∈ query, ∀ c ∈ text, c ≠ '#'

/-- The value of decimal digits. -/
def decimalValue (digits : List Char) : Nat :=
  digits.foldl (fun value c => 10 * value + (c.toNat - '0'.toNat)) 0

namespace Url

variable (url : Url)

/-- The port a URL names: an empty one is none. -/
def portNumber : Option Nat :=
  url.port.bind fun digits => if digits = [] then none else some (decimalValue digits)

/-- The userinfo with the sign that ends it. -/
def renderUserinfo : List Char := url.userinfo.elim [] (· ++ ['@'])

/-- The port with the sign that starts it. -/
def renderPort : List Char := url.port.elim [] (':' :: ·)

/-- The authority as it is written. -/
def authority : List Char := url.renderUserinfo ++ url.host.render ++ url.renderPort

/-- What follows the authority. -/
def tail : List Char :=
  url.path ++ url.query.elim [] ('?' :: ·) ++ url.fragment.elim [] ('#' :: ·)

/-- A URL as it is written, without its scheme. -/
def render : List Char := url.authority ++ url.tail

/-- Nothing but a path follows the authority. -/
def EndsAtPath : Prop := url.path ≠ [] ∨ (url.query = none ∧ url.fragment = none)

end Url

/-! ## Reading up to a separator -/

/-- What stands before the first occurrence of a character. -/
def before (separator : Char) (text : List Char) : List Char := text.takeWhile (· ≠ separator)

/-- What stands after the first occurrence of a character. -/
def after (separator : Char) (text : List Char) : List Char :=
  (text.dropWhile (· ≠ separator)).drop 1

section Separators

variable {separator : Char} {front rest : List Char}

/-- Text without the separator stands before whatever follows it. -/
theorem before_append (free : ∀ c ∈ front, c ≠ separator) :
    before separator (front ++ rest) = front ++ before separator rest :=
  List.takeWhile_append_of_pos fun c member => decide_eq_true (free c member)

/-- Text without the separator ends at it. -/
theorem before_separator (free : ∀ c ∈ front, c ≠ separator) :
    before separator (front ++ separator :: rest) = front := by
  rw [before_append free, before, List.takeWhile_cons_of_neg (by simp), List.append_nil]

theorem after_separator (free : ∀ c ∈ front, c ≠ separator) :
    after separator (front ++ separator :: rest) = rest := by
  have passed : ∀ c ∈ front, decide (c ≠ separator) = true :=
    fun c member => decide_eq_true (free c member)
  rw [after, List.dropWhile_append_of_pos passed, List.dropWhile_cons_of_neg (by simp)]
  rfl

/-- The first separator is in the front if there is one. -/
theorem before_append_of_mem (member : separator ∈ front) :
    before separator (front ++ rest) = before separator front
      ∧ after separator (front ++ rest) = after separator front ++ rest := by
  obtain ⟨first, second, rfl, free⟩ := List.eq_append_cons_of_mem member
  have free : ∀ c ∈ first, c ≠ separator := fun c inside same => free (same ▸ inside)
  rw [List.append_assoc, List.cons_append, before_separator free, before_separator free,
    after_separator free, after_separator free]
  exact ⟨rfl, rfl⟩

/-- Nothing before the separator is the separator. -/
theorem notMem_before (text : List Char) : separator ∉ before separator text := by
  intro member
  have other := List.mem_takeWhile_imp member
  simp at other

end Separators

/-! ## The written parts -/

/-- Nothing in a host ends the authority or its userinfo. -/
theorem UrlHost.render_plain (host : UrlHost) :
    ∀ c ∈ host.render, c ∉ authorityEnds ∧ c ≠ '@' := by
  intro c member
  cases host with
  | name text plain =>
      obtain ⟨inside, others⟩ := plain c member
      exact ⟨inside, fun same => others (by simp [same])⟩
  | ipv6 address plain colon =>
      rw [UrlHost.render, List.cons_append, List.mem_cons, List.mem_append,
        List.mem_singleton] at member
      rcases member with rfl | member | rfl
      · exact ⟨by decide, by decide⟩
      · obtain ⟨inside, others⟩ := plain c member
        exact ⟨inside, fun same => others (by simp [same])⟩
      · exact ⟨by decide, by decide⟩

/-- Neither the sign of the userinfo nor a bracket is part of a host. -/
theorem UrlHost.text_plain (host : UrlHost) : ∀ c ∈ host.text, c ≠ '@' ∧ c ≠ '[' := by
  intro c member
  cases host with
  | name text plain =>
      have others := (plain c member).2
      exact ⟨fun same => others (by simp [same]), fun same => others (by simp [same])⟩
  | ipv6 address plain colon =>
      have others := (plain c member).2
      exact ⟨fun same => others (by simp [same]), fun same => others (by simp [same])⟩

namespace Url

variable {url : Url}

/-- The port holds digits and its sign only. -/
theorem renderPort_plain : ∀ c ∈ url.renderPort, c ∉ authorityEnds ∧ c ≠ '@' := by
  intro c member
  unfold renderPort at member
  cases port : url.port with
  | none =>
      rw [port] at member
      cases member
  | some digits =>
      rw [port, Option.elim_some, List.mem_cons] at member
      rcases member with rfl | member
      · exact ⟨by decide, by decide⟩
      · have digit := url.portDigits digits port c member
        have signs : (('@' :: authorityEnds).all fun c => !c.isDigit) = true := by decide
        have others : ∀ c ∈ '@' :: authorityEnds, c.isDigit = false := fun c member =>
          (Bool.not_eq_true' _).mp (List.all_eq_true.mp signs c member)
        refine ⟨fun ends => ?_, fun same => ?_⟩
        · exact absurd (others c (List.mem_cons_of_mem _ ends)) (by simp [digit])
        · exact absurd (others c (by simp [same])) (by simp [digit])

/-- **Nothing in an authority ends it.** -/
theorem authority_plain : ∀ c ∈ url.authority, c ∉ authorityEnds := by
  intro c member
  unfold authority at member
  rw [List.mem_append, List.mem_append] at member
  rcases member with (member | member) | member
  · unfold renderUserinfo at member
    cases userinfo : url.userinfo with
    | none =>
        rw [userinfo] at member
        cases member
    | some user =>
        rw [userinfo, Option.elim_some, List.mem_append, List.mem_singleton] at member
        rcases member with member | rfl
        · exact (url.userinfoPlain user userinfo c member).1
        · decide
  · exact (url.host.render_plain c member).1
  · exact (renderPort_plain c member).1

/-- What stands before the first slash is the authority and what follows it up to a slash. -/
theorem before_slash_render : before '/' url.render = url.authority ++ before '/' url.tail :=
  before_append fun c member same => authority_plain c member (by simp [same, authorityEnds])

/-- A path starts with a slash, so nothing stands before one. -/
theorem before_slash_tail_of_path (ends : url.EndsAtPath) : before '/' url.tail = [] := by
  unfold tail
  rcases ends with isPath | ⟨query, fragment⟩
  · obtain ⟨rest, path⟩ := url.rooted.resolve_left isPath
    rw [path, List.cons_append, List.cons_append, before, List.takeWhile_cons_of_neg (by simp)]
  · rw [query, fragment, Option.elim_none, Option.elim_none, List.append_nil, List.append_nil]
    rcases url.rooted with path | ⟨rest, path⟩
    · rw [path]
      rfl
    · rw [path, before, List.takeWhile_cons_of_neg (by simp)]

/-- **A query or fragment that follows the authority at once** stands before the first slash. -/
theorem before_slash_tail_of_query (others : ¬ url.EndsAtPath) :
    ∃ c rest, before '/' url.tail = c :: rest ∧ (c = '?' ∨ c = '#') := by
  unfold EndsAtPath at others
  rw [not_or, not_not, not_and_or] at others
  obtain ⟨path, present⟩ := others
  unfold tail
  rw [path, List.nil_append]
  cases query : url.query with
  | some text =>
      rw [Option.elim_some, List.cons_append, before, List.takeWhile_cons_of_pos (by decide)]
      exact ⟨_, _, rfl, .inl rfl⟩
  | none =>
      cases fragment : url.fragment with
      | some text =>
          rw [Option.elim_none, List.nil_append, Option.elim_some, before,
            List.takeWhile_cons_of_pos (by decide)]
          exact ⟨_, _, rfl, .inr rfl⟩
      | none => exact absurd present (by simp [query, fragment])

end Url

end AgenticKVM.Lib
