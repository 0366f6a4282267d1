import Toolpath.Dxf.Source

/-!
# Extension groups and extended data

Two kinds of pairs carry data that belongs to an application rather than to the object they
stand in, and both can stand in tables, blocks and entities:

* an extension group opens with `102/{name}` and holds every pair up to the matching `102/}`,
  groups inside it included, whatever their codes (a `0` pair among them too). Any other `102`
  pair inside is a fault, and so is an opening pair without its brace;
* extended data opens with `1001/<application>` and holds the pairs after it with codes from
  1000 on, up to the next application or a pair with a smaller code, which is left in place.
  Each item has its own code: text, binary data in hex digits, handles, reals, shorts, integers,
  a point as three pairs `10xx`, `10xx + 10`, `10xx + 20` in a row, and control groups
  `1002/{` … `1002/}`. Any other code is a fault.

Only whether these pairs are well formed matters to a drawing here: their content is not kept.
-/

namespace Toolpath.Dxf

/-- Reads the rest of an extension group after its opening pair, `depth` groups deep inside it:
pairs up to the matching `102/}`. -/
def skipGroupBody : Nat → Nat → Reader Unit
  | 0, _ => throw .unexpectedEnd
  | fuel + 1, depth => do
    let pair ← requirePair
    if pair.code != 102 then skipGroupBody fuel depth
    else if pair.text == "\x7d" then
      match depth with
      | 0 => pure ()
      | outer + 1 => skipGroupBody fuel outer
    else if pair.text.startsWith "\x7b" then skipGroupBody fuel (depth + 1)
    else throw (.unexpectedPair pair "expected an extension start or end pair")

/-- Reads an extension group after its opening pair. -/
def skipGroup (opening : Pair) : Reader Unit := do
  if !opening.text.startsWith "\x7b" then throw (.malformed opening.offset)
  skipGroupBody (← rounds) 0

/-- Reads the real that must follow the first coordinate of a point of extended data, with the
given code. -/
def followingReal (code : Int) : Reader Unit := do
  let pair ← requirePair
  if pair.code != code then throw (.unexpectedCode pair.code pair.offset)

mutual

/-- Reads one item of extended data from its first pair. -/
def skipDataItem : Nat → Pair → Reader Unit
  | 0, _ => throw .unexpectedEnd
  | fuel + 1, pair =>
    let code := pair.code
    if code == 1000 || code == 1003 || (1040 ≤ code && code ≤ 1042) ||
        code == 1070 || code == 1071 then pure ()
    else if code == 1004 then liftExcept pair.hexData
    else if code == 1005 then liftExcept pair.handle
    else if 1010 ≤ code && code ≤ 1013 then do
      followingReal (code + 10)
      followingReal (code + 20)
    else if code == 1002 then skipControlGroup fuel
    else throw (.unexpectedCode code pair.offset)

/-- Reads the items of a control group of extended data up to its `1002/}`. -/
def skipControlGroup : Nat → Reader Unit
  | 0 => throw .unexpectedEnd
  | fuel + 1 => do
    let pair ← requirePair
    if pair.code == 1002 && pair.text == "\x7d" then pure ()
    else
      skipDataItem fuel pair
      skipControlGroup fuel

end

/-- Reads the items of extended data after its `1001` pair, up to a pair with a code below 1000
or the next `1001`, which is put back. -/
def skipExtendedDataItems : Nat → Reader Unit
  | 0 => throw .unexpectedEnd
  | fuel + 1 => do
    match ← nextPair with
    | none => pure ()
    | some pair =>
      if pair.code ≤ 999 || pair.code == 1001 then putBack pair
      else
        skipDataItem (← rounds) pair
        skipExtendedDataItems fuel

/-- Reads extended data after its `1001` pair. -/
def skipExtendedData : Reader Unit := do
  skipExtendedDataItems (← rounds)

end Toolpath.Dxf
