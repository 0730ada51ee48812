/-
# DialSelect.Policy.Basic -- selection policies and their names

A policy is what configuration can name: a pick or the shuffle.  Its canonical
name is `Policy.name`; `Policy.read` accepts every name in any case, with `_` for
`-` and with blanks around it, and refuses a limit of zero.

Reading works on the normal form of a text (`Policy.normalize`).  What starts with
`max` is meant as a limit, and if it is none the refusal says why, quoting the
limit in normal form and the whole text as it was given.
-/
import DialSelect.Pick
import DialSelect.Numeral
import DialSelect.Text.Fields
import DialSelect.Text.Lowercase

namespace DialSelect

set_option autoImplicit false

inductive Policy where
  | pick (rule : Pick)
  | shuffle
  deriving DecidableEq, Repr

inductive LimitFault where
  /-- No colon stands between the name and the limit. -/
  | noColon
  /-- The limit is not a count. -/
  | notACount (limit : String) (fault : Numeral.CountFault)
  /-- The limit is zero. -/
  | zero
  deriving DecidableEq, Repr

inductive PolicyError where
  | unknown (text : String)
  | badLimit (text : String) (fault : LimitFault)
  deriving DecidableEq, Repr

def LimitFault.message : LimitFault → String
  | .noColon => "expected 'max:<N>'"
  | .notACount limit fault => "'" ++ limit ++ "' is not a count: " ++ fault.message
  | .zero => "must be greater than 0"

def PolicyError.message : PolicyError → String
  | .unknown text =>
      "Unknown filter '" ++ text ++ "': expected default, all, first, first-each, first-ipv4, " ++
        "first-ipv6, ipv4, ipv6, max:<N>, reverse, or shuffle"
  | .badLimit text fault => "Invalid limit in '" ++ text ++ "': " ++ fault.message

namespace Policy

/-- Only the shuffle draws on randomness. -/
def isRandom (policy : Policy) : Bool :=
  policy = .shuffle

def plainName? : Policy → Option String
  | .pick .default => some "default"
  | .pick .all => some "all"
  | .pick .first => some "first"
  | .pick .firstEach => some "first-each"
  | .pick (.firstOf .v4) => some "first-ipv4"
  | .pick (.firstOf .v6) => some "first-ipv6"
  | .pick (.only .v4) => some "ipv4"
  | .pick (.only .v6) => some "ipv6"
  | .pick .reverse => some "reverse"
  | .shuffle => some "shuffle"
  | .pick (.atMost _) => none

def plain : List Policy :=
  [.pick .default, .pick .all, .pick .first, .pick .firstEach, .pick (.firstOf .v4),
    .pick (.firstOf .v6), .pick (.only .v4), .pick (.only .v6), .pick .reverse, .shuffle]

/-- The name of the policy with a limit. -/
def limitWord : List Char := ['m', 'a', 'x']

def name (policy : Policy) : String :=
  match policy with
  | .pick (.atMost max) => String.ofList (limitWord ++ ':' :: Numeral.decimal max)
  | _ => (plainName? policy).getD ""

/-- The form in which names are compared: trimmed, in lower case and with hyphens
for underscores. -/
def normalize (text : String) : List Char :=
  (Text.lowercase (Text.trim text.toList)).map fun c => if c = '_' then '-' else c

/-- The policy without a limit that has a name in normal form. -/
def ofPlainName? (name : String) : Option Policy :=
  plain.find? fun policy => plainName? policy = some name

/-- Read what follows the limit's name, up to the reason of a refusal. -/
def readLimit : List Char → Except LimitFault Nat
  | ':' :: rest =>
      let limit := Text.trim rest
      match Numeral.readCount limit with
      | .error fault => .error (.notACount (String.ofList limit) fault)
      | .ok max => if max = 0 then .error .zero else .ok max
  | _ => .error .noColon

def read (text : String) : Except PolicyError Policy :=
  let form := normalize text
  match Text.stripLead? limitWord form with
  | some rest =>
      match readLimit rest with
      | .ok max => .ok (.pick (.atMost max))
      | .error fault => .error (.badLimit text fault)
  | none =>
      match ofPlainName? (String.ofList form) with
      | some policy => .ok policy
      | none => .error (.unknown text)

theorem ofPlainName?_of_mem {policy : Policy} (member : policy ∈ plain) :
    ofPlainName? policy.name = some policy := by
  simp only [plain, List.mem_cons, List.not_mem_nil, or_false] at member
  rcases member with rfl | rfl | rfl | rfl | rfl | rfl | rfl | rfl | rfl | rfl <;> rfl

/-- A limit that is read is in range and not zero. -/
theorem pos_of_readLimit {text : List Char} {max : Nat} (read : readLimit text = .ok max) :
    0 < max := by
  unfold readLimit at read
  split at read
  · dsimp only at read
    split at read
    · simp at read
    · split at read
      · simp at read
      · simp only [Except.ok.injEq] at read
        omega
  · simp at read

end Policy

end DialSelect
