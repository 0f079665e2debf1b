import TypeSchema.Text.Quoted
import TypeSchema.Text.Table
import TypeSchema.Text.Words
/-!
# Addresses in a network

Reading addresses of four octets, `1.2.3.4`, and of eight groups of four digits in base sixteen, of
which a run of zeros may be left out: `1::2`. An `AddressFault` says what keeps a text from being an
address.
-/

namespace TypeSchema.Text

/-- Why something is no address. -/
inductive AddressFault where
  | empty
  /-- A text with a slash. -/
  | slash (text : String)
  | octetCount (text : String)
  /-- A part with something wrong in it, in the text of an address. -/
  | part (what text : String)
  /-- A number outside the range of addresses of some bits. -/
  | number (value : Int) (version : Nat)
  | tooFewParts (text : String)
  | tooManyColons (text : String)
  | severalGaps (text : String)
  | looseColon (isLeading : Bool) (text : String)
  | fullWithGap (text : String)
  | partCount (text : String)
  | scope (text : String)
  deriving DecidableEq, Repr

/-- The number of bits in an address of a version. -/
def addressBits (version : Nat) : Nat := if version = 4 then 32 else 128

/-- The text of an address fault. -/
def AddressFault.message : AddressFault → String
  | empty => "Address cannot be empty"
  | slash text => "Unexpected '/' in " ++ quoted text
  | octetCount text => "Expected 4 octets in " ++ quoted text
  | part what text => what ++ " in " ++ quoted text
  | number value version =>
    toString value ++ (if value < 0 then " (< 0)" else
      " (>= 2**" ++ toString (addressBits version) ++ ")") ++
      " is not permitted as an IPv" ++ toString version ++ " address"
  | tooFewParts text => "At least 3 parts expected in " ++ quoted text
  | tooManyColons text => "At most 8 colons permitted in " ++ quoted text
  | severalGaps text => "At most one '::' permitted in " ++ quoted text
  | looseColon isLeading text =>
    (if isLeading then "Leading" else "Trailing") ++ " ':' only permitted as part of '::' in " ++
      quoted text
  | fullWithGap text => "Expected at most 7 other parts with '::' in " ++ quoted text
  | partCount text => "Exactly 8 parts expected without '::' in " ++ quoted text
  | scope text => "Invalid IPv6 address: \"" ++ quoted text ++ "\""

namespace Address

/-- A number as an address of a version. -/
def ofNumber (version : Nat) (n : Int) : Except AddressFault Nat :=
  if n < 0 ∨ Nat.pow 2 (addressBits version) ≤ n then .error (.number n version) else .ok n.toNat

/-- The number that some digits in base ten spell. -/
def decimal (cs : List Char) : Nat := cs.foldl (fun n c => 10 * n + Table.digit c) 0

/-- What is wrong with an octet, if anything is. -/
def octetFault? (cs : List Char) : Option String :=
  let shown := quoted (String.ofList cs)
  if cs = [] then some "Empty octet not permitted"
  else if !cs.all Char.isDigit then some ("Only decimal digits permitted in " ++ shown)
  else if 3 < cs.length then some ("At most 3 characters permitted in " ++ shown)
  else if cs ≠ ['0'] ∧ cs.head? = some '0' then
    some ("Leading zeros are not permitted in " ++ shown)
  else if 255 < decimal cs then
    some ("Octet " ++ toString (decimal cs) ++ " (> 255) not permitted")
  else none

/-- The address of four octets that a text spells. -/
def ofOctets (text : List Char) : Except AddressFault Nat := do
  let whole := String.ofList text
  if text.contains '/' then throw (.slash whole)
  if text = [] then throw .empty
  let octets := splitAt (· == '.') text
  if octets.length ≠ 4 then throw (.octetCount whole)
  match octets.findSome? octetFault? with
  | some what => throw (.part what whole)
  | none => return octets.foldl (fun n cs => 256 * n + decimal cs) 0

/-- A digit in base sixteen. -/
def isHex (c : Char) : Bool := c.isDigit || ('a' ≤ c.toLower && c.toLower ≤ 'f')

/-- What is wrong with a group of digits, if anything is. -/
def groupFault? (cs : List Char) : Option String :=
  let shown := quoted (String.ofList cs)
  if !cs.all isHex then some ("Only hex digits permitted in " ++ shown)
  else if 4 < cs.length then some ("At most 4 characters permitted in " ++ shown)
  else if cs = [] then some "invalid literal for int() with base 16: ''"
  else none

/-- The groups of a text, where an address of four octets at the end stands for two groups. -/
def groupsOf (text : List Char) : Except AddressFault (List (List Char)) := do
  let groups := splitAt (· == ':') text
  if groups.length < 3 then throw (.tooFewParts (String.ofList text))
  let last := groups.getLastD []
  if !last.contains '.' then return groups
  match ofOctets last with
  | .ok n =>
    let digits (n : Nat) : List Char := Nat.toDigits 16 n
    return groups.dropLast ++ [digits (n / 0x10000), digits (n % 0x10000)]
  | .error fault => throw (.part fault.message (String.ofList text))

/-- The groups with zeros in place of those that are left out. -/
def filled (whole : String) (groups : List (List Char)) :
    Except AddressFault (List (List Char)) := do
  let inner := (groups.drop 1).dropLast
  let startsLoose := groups.head? = some []
  let endsLoose := groups.getLast? = some []
  match (inner.zipIdx.filter fun (g, _) => g = []).map Prod.snd with
  | [] =>
    if groups.length ≠ 8 then throw (.partCount whole)
    if startsLoose then throw (.looseColon true whole)
    if endsLoose then throw (.looseColon false whole)
    return groups
  | [gap] =>
    let before := groups.take (gap + 1)
    let after := groups.drop (gap + 2)
    if startsLoose && 1 < before.length then throw (.looseColon true whole)
    if endsLoose && 1 < after.length then throw (.looseColon false whole)
    let before := if startsLoose then [] else before
    let after := if endsLoose then [] else after
    let size := before.length + after.length
    if 8 ≤ size then throw (.fullWithGap whole)
    return before ++ List.replicate (8 - size) ['0'] ++ after
  | _ => throw (.severalGaps whole)

/-- The address of eight groups that a text spells. What follows a percent sign is left out. -/
def ofGroups (text : List Char) : Except AddressFault Nat := do
  let whole := String.ofList text
  if text.contains '/' then throw (.slash whole)
  let (text, scope) := (text.takeWhile (· ≠ '%'), (text.dropWhile (· ≠ '%')).drop 1)
  if whole.contains '%' && (scope = [] || scope.contains '%') then throw (.scope whole)
  let whole := String.ofList text
  if text = [] then throw .empty
  let groups ← groupsOf text
  if 9 < groups.length then throw (.tooManyColons whole)
  let groups ← filled whole groups
  match groups.findSome? groupFault? with
  | some what => throw (.part what whole)
  | none =>
    return groups.foldl (fun n cs => 0x10000 * n + Table.number cs) 0

/-- An address of four octets as a text. -/
def displayOctets (n : Nat) : String :=
  ".".intercalate ([0x1000000, 0x10000, 0x100, 1].map fun place => toString (n / place % 256))

end Address

end TypeSchema.Text
