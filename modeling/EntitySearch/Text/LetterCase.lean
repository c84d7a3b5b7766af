import EntitySearch.Text.CaseTable

/-! Full Unicode upper and lower case, and case-blind comparison of ASCII words.

Upper-casing works letter by letter. Lower-casing does too, but for a capital
sigma, which takes its final form after a letter when no letter follows.
-/

set_option autoImplicit false

namespace EntitySearch.Text

def shiftLetter (runs : List CaseRun) (c : Char) : Char :=
  match runs.find? (·.holds c.toNat) with
  | some run => Char.ofNat (Int.toNat (c.toNat + run.distance))
  | none => c

def mapLetter (expansions : List (Nat × List Nat)) (runs : List CaseRun) (c : Char) : List Char :=
  match expansions.lookup c.toNat with
  | some codes => codes.map Char.ofNat
  | none => [shiftLetter runs c]

def upperLetter (c : Char) : List Char :=
  if c.toNat < 0x80 then [c.toUpper] else mapLetter upperExpansions upperRuns c

def lowerLetter (c : Char) : List Char :=
  if c.toNat < 0x80 then [c.toLower] else mapLetter lowerExpansions lowerRuns c

def upperChars (cs : List Char) : List Char :=
  cs.flatMap upperLetter

def upper (s : String) : String :=
  String.ofList (upperChars s.toList)

def inRanges (ranges : List (Nat × Nat)) (c : Char) : Bool :=
  ranges.any fun range => range.1 ≤ c.toNat && c.toNat ≤ range.2

/-- Whether the nearest character that counts is a letter with case. -/
def meetsCased (cs : List Char) : Bool :=
  match cs.find? fun c => !inRanges caseIgnorableRanges c with
  | some c => inRanges casedRanges c
  | none => false

/-- Lower-case the second list; the first holds what stands before it, nearest first. -/
def lowerAfter : List Char → List Char → List Char
  | _, [] => []
  | before, c :: rest =>
    let letters :=
      if c = 'Σ' then
        [if meetsCased before && !meetsCased rest then 'ς' else 'σ']
      else
        lowerLetter c
    letters ++ lowerAfter (c :: before) rest

def lowerChars (cs : List Char) : List Char :=
  lowerAfter [] cs

def lower (s : String) : String :=
  String.ofList (lowerChars s.toList)

def asciiLower (s : String) : String :=
  String.ofList (s.toList.map Char.toLower)

def sameWord (a b : String) : Bool :=
  asciiLower a == asciiLower b

end EntitySearch.Text
