import Runbook.Unicode.Basic

/-! Cutting, trimming and searching text, and the end of a long one. Positions and lengths count characters. -/

namespace Runbook.Text

open Unicode

def trimStart (cs : List Char) : List Char := cs.dropWhile isBlank

def trimEnd (cs : List Char) : List Char := (cs.reverse.dropWhile isBlank).reverse

/-- The text without the white space at both of its ends. -/
def trim (s : String) : String := String.ofList (trimEnd (trimStart s.toList))

def isBlankText (s : String) : Bool := s.toList.all isBlank

/-- The parts before and after the first occurrence of `sep`. -/
def cut? (sep : List Char) : List Char → Option (List Char × List Char)
  | [] => if sep.isEmpty then some ([], []) else none
  | c :: cs =>
    match sep.isPrefixOf? (c :: cs) with
    | some rest => some ([], rest)
    | none => (cut? sep cs).map fun (before, after) => (c :: before, after)

def split? (s sep : String) : Option (String × String) :=
  (cut? sep.toList s.toList).map fun (a, b) => (String.ofList a, String.ofList b)

/-- The parts before and after the last occurrence of the character. -/
def splitLast? (s : String) (c : Char) : Option (String × String) :=
  (cut? [c] s.toList.reverse).map fun (a, b) =>
    (String.ofList b.reverse, String.ofList a.reverse)

def hasPart (s part : String) : Bool := (cut? part.toList s.toList).isSome

/-- Whether a text has the character that no path has. -/
def hasNull (s : String) : Bool := s.toList.contains '\x00'

def startsWith (s start : String) : Bool := start.toList.isPrefixOf s.toList

def endsWith (s ending : String) : Bool := ending.toList.isSuffixOf s.toList

/-- The pieces between the occurrences of a character; one piece more than there are occurrences. -/
def splitChars (c : Char) : List Char → List (List Char)
  | [] => [[]]
  | d :: rest =>
    if d = c then [] :: splitChars c rest
    else
      match splitChars c rest with
      | piece :: pieces => (d :: piece) :: pieces
      | [] => [[d]]

def splitOn (s : String) (c : Char) : List String := (splitChars c s.toList).map String.ofList

/-- Every occurrence of one character, written as a text. -/
def replaceChar (c : Char) (by_ : String) (s : String) : String :=
  String.ofList (s.toList.flatMap fun d => if d = c then by_.toList else [d])

def isAscii (s : String) : Bool := s.toList.all (·.toNat < 128)

def joinWith (sep : String) (xs : List String) : String := String.intercalate sep xs

/-- The text with its first character in upper case, for names of the ASCII alphabet. -/
def capitalize (s : String) : String :=
  match s.toList with
  | c :: cs => String.ofList (c.toUpper :: cs)
  | [] => s

/-- Left-padded with a character to a width. -/
def padLeft (width : Nat) (c : Char) (cs : List Char) : List Char :=
  List.replicate (width - cs.length) c ++ cs

def natText (n : Nat) : List Char := Nat.toDigits 10 n

def hexText (width n : Nat) : List Char := padLeft width '0' (Nat.toDigits 16 n)

def intText (n : Int) : String :=
  match n with
  | .ofNat k => String.ofList (natText k)
  | .negSucc k => String.ofList ('-' :: natText (k + 1))

/-! ## Excerpts -/

/-- The last characters of the text, or all but the first ones for a count below zero; a count of zero
takes everything. -/
def lastChars (limit : Int) (cs : List Char) : List Char :=
  if 0 < limit then cs.drop (cs.length - limit.toNat)
  else cs.drop (-limit).toNat

/-- The trimmed text, with dots in place of its start if it is longer than the limit. -/
def excerpt (s : String) (limit : Int) : String :=
  let cs := trimEnd (trimStart s.toList)
  if (cs.length : Int) ≤ limit then String.ofList cs
  else String.ofList ('.' :: '.' :: '.' :: lastChars limit cs)

/-- How much of the output of a failed command an error quotes. -/
def outputLimit : Int := 2000

end Runbook.Text
