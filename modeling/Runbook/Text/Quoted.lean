import Runbook.Unicode.Printable
import Runbook.Text.Basic

/-! Text in quotes, as messages show it: single quotes unless the text has one and no double quote;
what is not printable is written as an escape. -/

namespace Runbook.Text

open Unicode

def quoteFor (cs : List Char) : Char :=
  if cs.contains '\'' && !cs.contains '"' then '"' else '\''

/-- An escape by code point, as short as the code point allows. -/
def codeEscape (c : Char) : List Char :=
  let n := c.toNat
  if n < 256 then '\\' :: 'x' :: hexText 2 n
  else if n < 65536 then '\\' :: 'u' :: hexText 4 n
  else '\\' :: 'U' :: hexText 8 n

def quotedChar (quote c : Char) : List Char :=
  if c = quote || c = '\\' then ['\\', c]
  else if c = '\n' then ['\\', 'n']
  else if c = '\r' then ['\\', 'r']
  else if c = '\t' then ['\\', 't']
  else if isPrintable c then [c]
  else codeEscape c

def quoted (s : String) : String :=
  let cs := s.toList
  let quote := quoteFor cs
  String.ofList (quote :: cs.flatMap (quotedChar quote) ++ [quote])

/-- Bytes in quotes: printable ASCII as itself, all else as an escape. -/
def quotedBytes (bs : List UInt8) : String :=
  let cs := bs.map fun b => Char.ofNat b.toNat
  let quote := quoteFor cs
  let one (c : Char) : List Char :=
    if c.toNat < 128 then quotedChar quote c else '\\' :: 'x' :: hexText 2 c.toNat
  String.ofList ('b' :: quote :: cs.flatMap one ++ [quote])

end Runbook.Text
