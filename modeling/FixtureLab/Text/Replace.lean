/-!
This module contains the replacement of all occurrences of a pattern in a text.
-/

namespace FixtureLab
namespace Text

/--
Replace every occurrence of a non-empty pattern, from left to right, so that occurrences do not
overlap and replacements are not searched again.
-/
def replaceAll (pattern replacement cs : List Char) : List Char := go 0 cs
where
  -- The first `skip` characters belong to an occurrence that was replaced already.
  go : Nat → List Char → List Char
    | _, [] => []
    | skip + 1, _ :: rest => go skip rest
    | 0, c :: rest =>
      if pattern.isPrefixOf (c :: rest) then replacement ++ go (pattern.length - 1) rest
      else c :: go 0 rest

end Text
end FixtureLab
