/-!
# Excerpts

A long text is shown by its two ends. Lengths are counted in bytes of the UTF-8 form, and neither
end splits a character.

## Main definitions

* `takeBytes limit s` — the longest initial part of `s` within `limit` bytes.
* `excerpt s` — `s` itself up to fifty bytes, else its two ends around three points.
* `clipped limit s` — the first `limit` bytes of `s`.
-/

namespace NominalCheck.Text

/-- The longest initial part of `s` that takes at most `limit` bytes. -/
def takeBytes : Nat → List Char → List Char
  | _, [] => []
  | limit, c :: s => if c.utf8Size ≤ limit then c :: takeBytes (limit - c.utf8Size) s else []

/-- The longest final part of `s` that takes at most `limit` bytes. -/
def takeBytesRight (limit : Nat) (s : List Char) : List Char :=
  (takeBytes limit s.reverse).reverse

/-- A text of more than fifty bytes is cut to its first twenty-five and last twenty-four. -/
def excerpt (s : String) : String :=
  if s.utf8ByteSize ≤ 50 then s
  else String.ofList (takeBytes 25 s.toList ++ "...".toList ++ takeBytesRight 24 s.toList)

/-- The first `limit` bytes of a text; a character that is cut in two is replaced by U+FFFD. -/
def clipped (limit : Nat) (s : String) : String :=
  let kept := takeBytes limit s.toList
  if s.utf8ByteSize ≤ limit then s
  else if (String.ofList kept).utf8ByteSize = limit then String.ofList kept
  else String.ofList (kept ++ ['\ufffd'])

@[simp] theorem takeBytes_nil (limit : Nat) : takeBytes limit [] = [] := rfl

end NominalCheck.Text
