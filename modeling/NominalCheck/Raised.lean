import NominalCheck.Text.Quoted

/-!
# Exceptions of users

What a user's own code raises, a classifier or a sequence that is read, comes out as it is. Of such
an exception its kind shows, and the text it was built with.

## Main definitions

* `Raised` — an exception by its kind and its text.
* `Raised.message e` — its message.
-/

namespace NominalCheck

/-- An exception that user code raises, by its kind and the text it was built with. -/
structure Raised where
  /-- The name of its class. -/
  kind : String
  /-- The text it was built with. -/
  argument : String
  deriving DecidableEq, Repr, Inhabited

/-- The message of an exception: a failed look-up quotes the key, any other shows its text. -/
def Raised.message (e : Raised) : String :=
  if e.kind = "KeyError" then Text.quoted e.argument else e.argument

end NominalCheck
