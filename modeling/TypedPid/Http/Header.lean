/-!
Headers of a message: pairs of a name, in lower case, and a value. A name may be given more than
once.
-/
namespace TypedPid.Http

abbrev Headers := List (String × String)

namespace Header

def isTokenChar (c : Char) : Bool := c.isAlphanum || "!#$%&'*+-.^_`|~".toList.contains c

def isToken (s : String) : Bool := !s.isEmpty && s.toList.all isTokenChar

/-- Whether a text can be the value of a header: of the control characters only the tab can stand
there. -/
def isValue (s : String) : Bool :=
  s.toList.all fun c => c = '\t' || (0x20 ≤ c.toNat && c.toNat ≠ 0x7F)

/-- Whether a value is visible ASCII but for blanks and tabs. -/
def isVisible (s : String) : Bool :=
  s.toList.all fun c => c = '\t' || (0x20 ≤ c.toNat && c.toNat < 0x7F)

def isBlank (c : Char) : Bool := c = ' ' || c = '\t'

def trim (s : String) : String :=
  String.ofList ((s.toList.dropWhile isBlank).reverse.dropWhile isBlank).reverse

/-- A header as it is kept, if name and value are such. -/
def of? (name value : String) : Option (String × String) :=
  if isToken name ∧ isValue value then some (name.toLower, value) else none

end Header

namespace Headers

def first? (h : Headers) (name : String) : Option String := h.lookup name

def visible? (h : Headers) (name : String) : Option String :=
  (h.first? name).filter Header.isVisible

end Headers
end TypedPid.Http
