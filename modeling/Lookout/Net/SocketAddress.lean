/-!
# Socket addresses

A socket address is an address of the fourth or sixth generation and a port. Its text is
`a.b.c.d:port` or `[groups]:port`, the latter with `%scope` behind the groups when there is a scope.
Reading takes the whole text or nothing; writing uses the canonical form, in which the first longest
run of zero groups is left out.

* `SocketAddress.ofText?` — reading;
* `SocketAddress.text` — writing.
-/

namespace Lookout

/-- The address and port of a socket. -/
inductive SocketAddress where
  | v4 (octets : List Nat) (port : Nat)
  /-- Eight groups of sixteen bits, a scope and a port. -/
  | v6 (groups : List Nat) (scope : Nat) (port : Nat)
  deriving DecidableEq

namespace SocketAddress

/-- Takes something from the front of a text. -/
abbrev Take (α : Type) := List Char → Option (α × List Char)

/-- The value of a digit in a base, in either case. -/
def digitIn (base : Nat) (c : Char) : Option Nat :=
  let d :=
    if '0' ≤ c ∧ c ≤ '9' then c.toNat - '0'.toNat
    else if 'a' ≤ c ∧ c ≤ 'z' then c.toNat - 'a'.toNat + 10
    else if 'A' ≤ c ∧ c ≤ 'Z' then c.toNat - 'A'.toNat + 10
    else base
  if d < base then some d else none

/-- What a number may look like. -/
structure NumberForm where
  base : Nat
  /-- The most digits, if there is a bound. -/
  digits : Option Nat
  /-- Whether zeros may stand in front. -/
  padded : Bool
  /-- The first number that is too great. -/
  bound : Nat

/-- A number of an address of the fourth generation. No zero may stand in front. -/
def octetForm : NumberForm := ⟨10, some 3, false, 0x100⟩

/-- A group of an address of the sixth generation, at most four hexadecimal digits. -/
def groupForm : NumberForm := ⟨16, some 4, true, 0x10000⟩

/-- A port, with any number of zeros in front. -/
def portForm : NumberForm := ⟨10, none, true, 0x10000⟩

/-- A scope, in the same way. -/
def scopeForm : NumberForm := ⟨10, none, true, 0x100000000⟩

/-- Takes a number: all digits that there are, which must then have the form. -/
def takeNumber (form : NumberForm) : Take Nat := fun text =>
  let (digits, rest) := text.span fun c => (digitIn form.base c).isSome
  let value := digits.foldl (fun n c => n * form.base + (digitIn form.base c).getD 0) 0
  if digits.isEmpty then none
  else if form.digits.any (· < digits.length) then none
  else if !form.padded && digits.head? == some '0' && 1 < digits.length then none
  else if value < form.bound then some (value, rest)
  else none

/-- Takes one character. -/
def takeChar (c : Char) : Take Unit
  | d :: rest => if d = c then some ((), rest) else none
  | [] => none

/-- Takes four octets with points between them. -/
def takeOctets : Take (List Nat) := fun text => do
  let (a, text) ← takeNumber octetForm text
  let (_, text) ← takeChar '.' text
  let (b, text) ← takeNumber octetForm text
  let (_, text) ← takeChar '.' text
  let (c, text) ← takeNumber octetForm text
  let (_, text) ← takeChar '.' text
  let (d, text) ← takeNumber octetForm text
  some ([a, b, c, d], text)

/-- Takes at most `limit` groups with colons between them; `first` tells that no colon stands before
the next one. Two groups may be written as four octets, and nothing follows these. The flag tells
whether they were. -/
def takeGroups (first : Bool) : Nat → List Char → (List Nat × Bool) × List Char
  | 0, text => (([], false), text)
  | limit + 1, text =>
    let begun := if first then some text else (takeChar ':' text).map (·.2)
    -- Four octets take the place of two groups, so that there must be room for two.
    let octets := if limit = 0 then none else begun.bind takeOctets
    match octets with
    | some ([a, b, c, d], rest) => (([a * 256 + b, c * 256 + d], true), rest)
    | _ =>
      match begun.bind (takeNumber groupForm) with
      | none => (([], false), text)
      | some (g, rest) =>
        let ((gs, embedded), rest) := takeGroups false limit rest
        ((g :: gs, embedded), rest)

/-- Takes the groups of an address. Two colons stand for at least one zero group. -/
def takeAddress : Take (List Nat) := fun text =>
  let ((front, embedded), text) := takeGroups true 8 text
  -- Without two colons all eight groups must be there.
  if front.length = 8 then some (front, text)
  else if embedded then none
  else do
    let (_, text) ← takeChar ':' text
    let (_, text) ← takeChar ':' text
    let ((back, _), text) := takeGroups true (7 - front.length) text
    some (front ++ List.replicate (8 - front.length - back.length) 0 ++ back, text)

/-- Takes a port behind a colon. -/
def takePort : Take Nat := fun text => do
  let (_, text) ← takeChar ':' text
  takeNumber portForm text

/-- Takes a scope behind a percent sign, if there is one. Without a number there is none. -/
def takeScope (text : List Char) : Nat × List Char :=
  match (takeChar '%' text).bind fun (_, text) => takeNumber scopeForm text with
  | some found => found
  | none => (0, text)

/-- Takes a socket address of the fourth generation. -/
def takeV4 : Take SocketAddress := fun text => do
  let (octets, text) ← takeOctets text
  let (port, text) ← takePort text
  some (v4 octets port, text)

/-- Takes a socket address of the sixth generation. -/
def takeV6 : Take SocketAddress := fun text => do
  let (_, text) ← takeChar '[' text
  let (groups, text) ← takeAddress text
  let (scope, text) := takeScope text
  let (_, text) ← takeChar ']' text
  let (port, text) ← takePort text
  some (v6 groups scope port, text)

/-- The address of a text, if all of the text is one. -/
def ofText? (text : String) : Option SocketAddress :=
  match (takeV4 text.toList).or (takeV6 text.toList) with
  | some (a, []) => some a
  | _ => none

/-! ### Writing -/

/-- Numbers in a base with a separator between them. -/
def joined (base : Nat) (separator : Char) (ns : List Nat) : List Char :=
  [separator].intercalate (ns.map (Nat.toDigits base))

/-- The length of the run of zeros at the front. -/
def zeroRun (groups : List Nat) : Nat :=
  (groups.takeWhile (· == 0)).length

/-- Where the first longest run of zeros starts, and its length. -/
def longestZeroRun (groups : List Nat) : Nat × Nat :=
  (List.range groups.length).foldl
    (fun best i =>
      let n := zeroRun (groups.drop i)
      if best.2 < n then (i, n) else best)
    (0, 0)

/-- The canonical text of eight groups: an address that stands for one of the fourth generation
shows that one, any other leaves out its longest run of two or more zero groups. -/
def groupsText (groups : List Nat) : List Char :=
  match groups with
  | [0, 0, 0, 0, 0, 0xFFFF, high, low] =>
    "::ffff:".toList ++ joined 10 '.' [high / 256, high % 256, low / 256, low % 256]
  | groups =>
    let (start, length) := longestZeroRun groups
    -- A single group of zeros is written out.
    if 1 < length then
      joined 16 ':' (groups.take start) ++ [':', ':'] ++
        joined 16 ':' (groups.drop (start + length))
    else joined 16 ':' groups

/-- The text of an address. -/
def text : SocketAddress → String
  | v4 octets port => String.ofList (joined 10 '.' octets ++ ':' :: Nat.toDigits 10 port)
  | v6 groups scope port =>
    let zone := if scope = 0 then [] else '%' :: Nat.toDigits 10 scope
    String.ofList ('[' :: groupsText groups ++ zone ++ ']' :: ':' :: Nat.toDigits 10 port)

end SocketAddress

end Lookout
