import EntitySearch.Text.HiddenTable

/-! Texts and characters in quotes, with escapes for what does not show. -/

set_option autoImplicit false

namespace EntitySearch.Text

def isHidden (c : Char) : Bool :=
  let n := c.toNat
  if n < 0x80 then n < 0x20 || n == 0x7F
  else hiddenRanges.any fun range => range.1 ≤ n && n ≤ range.2

def codeEscape (c : Char) : List Char :=
  ['\\', 'u', '\x7b'] ++ Nat.toDigits 16 c.toNat ++ ['\x7d']

def quotedLetter (quote : Char) (c : Char) : List Char :=
  if c = quote ∨ c = '\\' then ['\\', c]
  else if c = '\n' then ['\\', 'n']
  else if c = '\r' then ['\\', 'r']
  else if c = '\t' then ['\\', 't']
  else if c.toNat = 0 then ['\\', '0']
  else if isHidden c then codeEscape c
  else [c]

def inQuotes (quote : Char) (cs : List Char) : String :=
  String.ofList (quote :: cs.flatMap (quotedLetter quote) ++ [quote])

def quoted (s : String) : String := inQuotes '"' s.toList

def quotedChar (c : Char) : String := inQuotes '\'' [c]

end EntitySearch.Text
