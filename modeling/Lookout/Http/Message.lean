/-!
# HTTP messages

Requests and responses, as far as the agent looks at them. Header names are compared without regard
to case, and of several headers with one name the first counts.
-/

namespace Lookout

/-- A header: its name and the bytes of its value. -/
structure Header where
  name : String
  value : List UInt8

/-- Headers in the order of the message. -/
abbrev Headers := List Header

/-- A text with the capitals of ASCII made small. -/
def lowerCase (text : List Char) : List Char := text.map Char.toLower

/-- Whether two texts are equal up to the case of ASCII letters. -/
def sameUpToCase (a b : List Char) : Bool := lowerCase a == lowerCase b

/-- The value of the first header with a name. -/
def Headers.value? (hs : Headers) (name : String) : Option (List UInt8) :=
  (hs.find? fun h => sameUpToCase h.name.toList name.toList).map (·.value)

/-- Whether a byte of a header value is text: visible ASCII, the space and the tab. -/
def isHeaderText (b : UInt8) : Bool :=
  (0x20 ≤ b && b ≤ 0x7E) || b == 0x09

/-- The text of a header value, if it is one. -/
def headerText? (value : List UInt8) : Option (List Char) :=
  if value.all isHeaderText then some (value.map fun b => Char.ofNat b.toNat) else none

/-- A request. -/
structure HttpRequest where
  method : String := "GET"
  path : String
  headers : Headers := []

/-- A response. -/
structure HttpResponse where
  status : Nat
  /-- The type of the body, if there is one. -/
  contentType : Option String := none
  /-- The methods that are allowed, if the method was not. -/
  allow : Option String := none
  body : String := ""
  deriving DecidableEq

/-- Whether a character may stand in the scheme of a target. -/
def isSchemeChar (c : Char) : Bool :=
  c.isAlphanum || c == '+' || c == '-' || c == '.'

/-- What follows the scheme of a target, if the target begins with one. -/
def afterScheme? : List Char → Option (List Char)
  | ':' :: '/' :: '/' :: rest => some rest
  | c :: rest => if isSchemeChar c then afterScheme? rest else none
  | [] => none

/-- What stands before a query or a fragment. -/
def beforeQuery (target : List Char) : List Char :=
  target.takeWhile fun c => c != '?' && c != '#'

/-- The path of a request target. A target with a scheme names a host before the path, which is the
root if nothing else is there. A host alone has no path. -/
def pathOf (target : String) : String :=
  let path := match afterScheme? target.toList with
    | some rest =>
      -- A host without a path means the root.
      match beforeQuery (rest.dropWhile fun c => c != '/' && c != '?' && c != '#') with
      | [] => ['/']
      | path => path
    | none =>
      if target.startsWith "/" || target == "*" then beforeQuery target.toList else []
  String.ofList path

end Lookout
