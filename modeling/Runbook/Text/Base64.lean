import Runbook.Text.Basic

/-! Bytes written in sixty-four characters. Characters outside the alphabet are passed over, and
what stands after the padding is not read. -/

namespace Runbook.Text.Base64

def alphabet : List Char :=
  "ABCDEFGHIJKLMNOPQRSTUVWXYZabcdefghijklmnopqrstuvwxyz0123456789+/".toList

def sextet? (c : Char) : Option Nat := alphabet.findIdx? (· == c)

inductive Error where
  | badPadding
  | loneCharacter (count : Nat)
deriving DecidableEq, Repr

def Error.message : Error → String
  | .badPadding => "Incorrect padding"
  | .loneCharacter count =>
    s!"Invalid base64-encoded string: number of data characters ({count}) cannot be 1 more than a multiple of 4"

/-- The bytes of a group of two, three or four sextets; the bits left over are dropped. -/
def groupBytes : List Nat → List UInt8
  | [a, b] => [(a * 4 + b / 16).toUInt8]
  | [a, b, c] => [(a * 4 + b / 16).toUInt8, (b * 16 + c / 4).toUInt8]
  | [a, b, c, d] => [(a * 4 + b / 16).toUInt8, (b * 16 + c / 4).toUInt8, (c * 64 + d).toUInt8]
  | _ => []

/-- `groups` counts the finished groups, `group` is the one begun and `pads` the padding in a row
after it. -/
def readGroups (groups : Nat) (group : List Nat) (pads : Nat) : List Char → Except Error (List UInt8)
  | [] =>
    match group with
    | [] => .ok []
    | [_] => .error (.loneCharacter (groups * 4 + 1))
    | _ => .error .badPadding
  | c :: rest =>
    if c = '=' then
      if 2 ≤ group.length then
        if 4 ≤ group.length + pads + 1 then .ok (groupBytes group)
        else readGroups groups group (pads + 1) rest
      else readGroups groups group pads rest
    else
      match sextet? c with
      | none => readGroups groups group pads rest
      | some v =>
        let group := group ++ [v]
        if group.length = 4 then (readGroups (groups + 1) [] 0 rest).map (groupBytes group ++ ·)
        else readGroups groups group 0 rest

def decode (s : String) : Except Error (List UInt8) := readGroups 0 [] 0 s.toList

end Runbook.Text.Base64
